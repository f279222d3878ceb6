import Crowdlending.Platform.Start
import Crowdlending.Proofs.Platform.Identity
import Crowdlending.Proofs.Settings.Accepted
import Crowdlending.Proofs.Token.Genuine
import Crowdlending.Proofs.Token.Rotation

/-!
# Whether a pair that is given out is taken back

A platform that is set up by accepted settings, with a first key whose halves belong together,
takes back the tokens that it issues as long as they count: the access token for the user's own, and
the refresh token for another pair. There is one exception, and it is exact: a token of more than
8192 bytes is refused, though it was issued. Nothing bounds the size of what is issued, for a
token holds the name, the email and the phone number that somebody registered with, and these may
be as long as they like; so an account can be made that nobody can use.
-/
namespace Crowdlending.Platform
open Token Account Settings

/-! ## Platforms with their keys in order -/

/-- The platform signs with a key that it also publishes, and expects the issuers that it names. -/
structure Keyed (s : Setup) : Prop where
  named : s.issuer.kid ≠ ""
  key : ∃ key, s.keys.find s.issuer.kid = .ok key ∧ key.Matches s.scheme s.issuer.key
  issuers : s.issuers = s.issuer.issuers

/-- The halves of the first key belong together. -/
def FirstPaired (scheme : Crypto.SignatureScheme) (t : TokenSettings) : Prop :=
  ∀ k ∈ t.keys.head?, IsPaired scheme k

section Settings
variable {scheme : Crypto.SignatureScheme} {core : Crypto.Bcrypt.Core} {vars : Variables}
  {b : Basic} {s : Setup}

theorem ofSettings_eq_ok (h : Setup.ofSettings scheme core b = .ok s) :
    s.scheme = scheme ∧ KeySet.ofKeys b.tokens.keys = .ok s.keys ∧
      Issuer.ofSettings b.tokens = .ok s.issuer ∧
      s.issuers = ⟨b.tokens.accessIssuer, b.tokens.refreshIssuer⟩ := by
  obtain ⟨keys, hkeys, h⟩ := Result.bind_eq_ok.mp h
  obtain ⟨issuer, hissuer, h⟩ := Result.bind_eq_ok.mp h
  cases h
  exact ⟨rfl, hkeys, hissuer, rfl⟩

theorem ofSettings_of_keys {keys : KeySet} {issuer : Issuer}
    (hkeys : KeySet.ofKeys b.tokens.keys = .ok keys)
    (hissuer : Issuer.ofSettings b.tokens = .ok issuer) :
    Setup.ofSettings scheme core b = .ok {
      scheme, keys, issuer
      hashCore := core
      hashCost := b.hashCost
      issuers := ⟨b.tokens.accessIssuer, b.tokens.refreshIssuer⟩
      countryCode := b.countryCode
      sender := b.sender } := by
  simp only [Setup.ofSettings, hkeys, hissuer, bind, Except.bind]
  rfl

/-- Accepted settings give a platform whose keys are in order, and their lifetimes are its. -/
theorem keyed_of_settings (hread : read vars = .ok b) (hpaired : FirstPaired scheme b.tokens)
    (h : Setup.ofSettings scheme core b = .ok s) :
    Keyed s ∧ s.issuer.accessTtl = b.tokens.accessTtl ∧
      s.issuer.refreshTtl = b.tokens.refreshTtl ∧ s.issuer.extendedTtl = b.tokens.extendedTtl := by
  obtain ⟨rfl, hkeys, hissuer, hissuers⟩ := ofSettings_eq_ok h
  obtain ⟨hsome, hnamed, hdistinct⟩ := (tokensInOrder_of_read hread).keys
  obtain ⟨k, others, hlist⟩ := List.exists_cons_of_ne_nil hsome
  have hfirst : k ∈ b.tokens.keys := hlist ▸ List.mem_cons_self ..
  obtain ⟨hkid, hprivate, hnames, hlifetimes⟩ := Issuer.ofSettings_eq_ok hlist hissuer
  obtain ⟨key, hfind, hmatches⟩ := matches_of_ofKeys hkeys hfirst hdistinct
    (hpaired k (by rw [hlist]; rfl)) hprivate
  rw [KeySet.find?_eq_some_iff, ← hkid] at hfind
  exact ⟨⟨hkid ▸ hnamed k hfirst, ⟨key, hfind, hmatches⟩, hissuers.trans hnames.symm⟩, hlifetimes⟩

end Settings

/-! ## Issuing -/

section Keyed
variable {s : Setup} {now later : Moment} {u : Subject} {kind : Kind} {extended remember : Bool}
  {ttl : ℕ} {token : String}

/-- The clock shows a date, and every lifetime that begins now ends on one. -/
structure InDates (s : Setup) (now : Moment) : Prop where
  nonneg : 0 ≤ now.seconds
  ends : ∀ kind extended, now.seconds + s.issuer.ttlFor kind extended ≤ lastSecond

/-- With its keys in order, the platform issues any token. -/
theorem exists_token_of_keyed (hkeyed : Keyed s) (hlifetimes : LifetimesCount s.issuer)
    (hdates : InDates s now) (u : Subject) (kind : Kind) (extended : Bool) (p : Platform) :
    ∃ token, (p.issue s now u kind extended).result = .ok token := by
  obtain ⟨key, -, hmatches⟩ := hkeyed.key
  obtain ⟨c, hc⟩ : ∃ c, s.issuer.claimsFor? now.seconds u kind extended = some c := by
    simp only [Issuer.claimsFor?, Issuer.expiry?, if_pos (hlifetimes.ttlFor kind extended),
      if_pos (hdates.ends kind extended)]
    exact ⟨_, rfl⟩
  obtain ⟨token, hsign⟩ := hmatches.exists_token c
  refine ⟨token, ?_⟩
  simp only [issue, hc, sign, hsign]
  rfl

theorem exists_pair_of_keyed (hkeyed : Keyed s) (hlifetimes : LifetimesCount s.issuer)
    (hdates : InDates s now) (u : Subject) (remember : Bool) (p : Platform) :
    ∃ pair, (p.issuePair s now u remember).result = .ok pair := by
  obtain ⟨access, haccess⟩ := exists_token_of_keyed hkeyed hlifetimes hdates u .access false p
  obtain ⟨refresh, hrefresh⟩ := exists_token_of_keyed hkeyed hlifetimes hdates u .refresh remember
    (p.issue s now u .access false).platform
  refine ⟨⟨access, refresh⟩, ?_⟩
  simp only [issuePair, Outcome.andThen, haccess, Outcome.map, hrefresh]
  rfl

/-- A token that speaks of a user is accepted until it expires, unless it is too large. -/
theorem Speaks.issued (hspeaks : Speaks s now u kind extended ttl token) (hkeyed : Keyed s)
    (huserId : IsInt64 u.userId) (hnow : 0 ≤ now.seconds) (hrange : now.seconds + ttl ≤ lastSecond)
    (hsize : token.utf8ByteSize ≤ mostTokenBytes) (hlater : 60 ≤ later.seconds)
    (hcounts : later.seconds ≤ now.seconds + ttl) :
    ∃ c, Issued s later c token ∧ c.toSubject = u ∧ c.kind = kind ∧ c.extended = extended := by
  obtain ⟨c, hsign, rfl, -, rfl, rfl, hissuer, hexpiry⟩ := hspeaks
  obtain ⟨key, hfind, hmatches⟩ := hkeyed.key
  refine ⟨c, ?_, rfl, rfl, rfl⟩
  exact {
    signed := hsign
    named := hkeyed.named
    size := hsize
    key := ⟨key, hfind, hmatches.signsFor⟩
    userId := huserId
    expiry := by
      unfold IsInt64 Number.maxI64
      unfold lastSecond at hrange
      omega
    nonneg := by omega
    counts := by unfold Counts leeway; omega
    issuer := by rw [hissuer, hkeyed.issuers] }

end Keyed

/-! ## Tokens that are too large -/

theorem verify_of_large {scheme : Crypto.SignatureScheme} {find : String → Except Failure PublicKey}
    {issuers : Issuers} {now : Int} {expected : Kind} {token : String}
    (h : mostTokenBytes < token.utf8ByteSize) :
    Token.verify scheme find issuers now expected token = .error (.token .malformed) := by
  have hpeek : Header.peek token = .error .tooLarge := by rw [Header.peek, if_pos h]
  have hrequested : requestedKey token = .error .malformed := by rw [requestedKey, hpeek]
  simp only [Token.verify, hrequested]

/-- A refresh token that is too large is not exchanged, even if it was issued here. -/
theorem refresh_of_large {s : Setup} {i : Issuer} {c : Claims} {token : String}
    (hsign : i.sign s.scheme c = .ok token) (h : mostTokenBytes < token.utf8ByteSize) (p : Platform)
    (call : Call) :
    (p.refresh s call ⟨token⟩).result = .error (.failure (.token .malformed)) := by
  obtain ⟨htrim, hne⟩ := trim_of_sign hsign
  obtain ⟨source, -, hverify⟩ := p.verify_eq s call.now .refresh token
  rw [verify_of_large h] at hverify
  simp only [refresh, htrim, String.isEmpty_iff, hne, if_false, hverify]
  rfl

/-! ## Pairs -/

/-- What becomes of a pair that was issued for a user: until a token expires, it is accepted for
him if it is short enough to be looked at, and refused as malformed if it is not. A key that is not
found where keys are looked up is the one thing that may be in the way. -/
structure TakenBackIfShort (s : Setup) (issued : Moment) (u : Subject) (remember : Bool)
    (pair : Pair) : Prop where
  access : ∀ (p : Platform) (now : Moment), 60 ≤ now.seconds →
    now.seconds ≤ issued.seconds + s.issuer.accessTtl →
    if pair.access.utf8ByteSize ≤ 8192 then
      p.KnowsOwnKey s now →
        ∃ c, Token.verify s.scheme (p.findKey s now) s.issuers now.seconds .access pair.access =
            .ok c ∧
          c.toSubject = u ∧ c.kind = .access
    else
      Token.verify s.scheme (p.findKey s now) s.issuers now.seconds .access pair.access =
        .error (.token .malformed)
  refresh : ∀ (p : Platform) (call : Call), InDates s call.now → 60 ≤ call.now.seconds →
    call.now.seconds ≤ issued.seconds + s.issuer.ttlFor .refresh remember →
    if pair.refresh.utf8ByteSize ≤ 8192 then
      p.KnowsOwnKey s call.now →
        ∃ renewed, (p.refresh s call ⟨pair.refresh⟩).result = .ok renewed ∧
          PairFor s call.now u remember renewed
    else (p.refresh s call ⟨pair.refresh⟩).result = .error (.failure (.token .malformed))

section Pair
variable {s : Setup} {now : Moment} {u : Subject} {remember : Bool} {pair : Pair}

theorem ttlFor_refresh (i : Issuer) (remember : Bool) :
    i.ttlFor .refresh remember = if remember then i.extendedTtl else i.refreshTtl := by
  cases remember <;> rfl

theorem PairFor.takenBack (hpair : PairFor s now u remember pair) (hkeyed : Keyed s)
    (hlifetimes : LifetimesCount s.issuer) (huserId : IsInt64 u.userId) (hdates : InDates s now) :
    TakenBackIfShort s now u remember pair := by
  have hrefresh := hpair.refresh
  rw [← ttlFor_refresh] at hrefresh
  constructor
  case access =>
    intro p now hlater hcounts
    split
    · next hsize =>
        intro hknown
        obtain ⟨c, hissued, huser, hkind, -⟩ := hpair.access.issued hkeyed huserId hdates.nonneg
          (hdates.ends .access false) hsize hlater hcounts
        exact ⟨c, hkind ▸ hissued.verify_find hknown, huser, hkind⟩
    · next hsize => exact verify_of_large (Nat.not_le.mp hsize)
  case refresh =>
    intro p call hcall hlater hcounts
    split
    · next hsize =>
        intro hknown
        obtain ⟨c, hissued, rfl, hkind, rfl⟩ := hrefresh.issued hkeyed huserId hdates.nonneg
          (hdates.ends .refresh remember) hsize hlater hcounts
        obtain ⟨q, hq⟩ := refresh_of_issued hissued hkind hknown
        obtain ⟨renewed, hrenewed⟩ := exists_pair_of_keyed hkeyed hlifetimes hcall c.toSubject
          c.extended q
        exact ⟨renewed, hq.trans hrenewed, pairFor_of_issuePair hlifetimes hrenewed⟩
    · next hsize =>
        obtain ⟨c, hsign, -⟩ := hrefresh
        exact refresh_of_large hsign (Nat.not_le.mp hsize) p call

end Pair

theorem isInt64_of_asInt64 {d : Json.Doc} {n : Int} (h : d.asInt64 = .ok n) : IsInt64 n := by
  unfold Json.Doc.asInt64 Json.Doc.asInt at h
  split at h
  · split at h
    · split at h
      · next hrange =>
          cases h
          exact hrange
      · cases h
    · cases h
  · cases h

/-- Whatever token is accepted, its user has an id of 64 bits. -/
theorem isInt64_of_verify {scheme : Crypto.SignatureScheme}
    {find : String → Except Failure PublicKey} {issuers : Issuers} {now : Int} {expected : Kind}
    {token : String} {c : Claims}
    (h : Token.verify scheme find issuers now expected token = .ok c) : IsInt64 c.userId := by
  obtain ⟨parts, key, hgenuine⟩ := genuine_of_accepted h
  obtain ⟨bytes, -, hclaims⟩ := hgenuine.claims
  obtain ⟨members, v, -, -, hread⟩ := hclaims.userId
  exact isInt64_of_asInt64 hread

section Main
variable {scheme : Crypto.SignatureScheme} {core : Crypto.Bcrypt.Core} {vars : Variables}
  {b : Basic} {s : Setup}

theorem lifetimesCount_of_default {i : Issuer} (haccess : i.accessTtl = 900)
    (hrefresh : i.refreshTtl = 86400) (hextended : i.extendedTtl = 2592000) :
    LifetimesCount i ∧ ∀ kind extended, i.ttlFor kind extended ≤ 2592000 := by
  refine ⟨⟨?_, ?_, ?_⟩, fun kind extended => ?_⟩
  · rw [haccess]; decide
  · rw [hrefresh]; decide
  · rw [hextended]; decide
  · cases kind <;> cases extended <;> simp only [Issuer.ttlFor] <;> omega

/-- With accepted settings, default lifetimes and a first key whose halves belong together: each
pair that a login gives out is for a user of the directory, each pair that an exchange gives out is
for the user of the token presented, and of each pair the platform takes back just the tokens that
are short enough to be looked at. -/
theorem takenBack_of_issued (hread : read vars = .ok b) (hdefault : DefaultLifetimes b.tokens)
    (hpaired : FirstPaired scheme b.tokens) (hsetup : Setup.ofSettings scheme core b = .ok s)
    {p : Platform} (hids : ∀ e ∈ p.users.entries, IsInt64 e.user.id) {call : Call}
    (hnow : 0 ≤ call.now.seconds) (hlast : call.now.seconds + 2592000 ≤ lastSecond) :
    (∀ r pair, (p.login s call r).result = .ok pair →
      ∃ e ∈ p.users.entries, e.user.status = .active ∧
        e.holds (loginIdentifier s.countryCode (Text.trim r.identifier)) = true ∧
        TakenBackIfShort s call.now (.ofUser e.user) r.rememberMe pair) ∧
    ∀ r pair, (p.refresh s call r).result = .ok pair →
      ∃ c, Token.verify s.scheme (p.findKey s call.now) s.issuers call.now.seconds .refresh
          (Text.trim r.token) = .ok c ∧
        TakenBackIfShort s call.now c.toSubject c.extended pair := by
  obtain ⟨hkeyed, haccess, hrefresh, hextended⟩ := keyed_of_settings hread hpaired hsetup
  obtain ⟨hlifetimes, hshort⟩ := lifetimesCount_of_default (haccess.trans hdefault.access)
    (hrefresh.trans hdefault.refresh) (hextended.trans hdefault.extended)
  have hdates : InDates s call.now := by
    refine ⟨hnow, fun kind extended => ?_⟩
    have := hshort kind extended
    omega
  constructor
  · intro r pair h
    obtain ⟨e, he, hactive, hholds, -, hpair⟩ := pairFor_of_login hlifetimes h
    exact ⟨e, he, hactive, hholds, hpair.takenBack hkeyed hlifetimes (hids e he) hdates⟩
  · intro r pair h
    obtain ⟨c, hverify, hpair⟩ := pairFor_of_refresh hlifetimes h
    exact ⟨c, hverify, hpair.takenBack hkeyed hlifetimes (isInt64_of_verify hverify) hdates⟩

end Main

/-! ## An account that nobody can use -/

/-- A token is larger than the name of its user, by a third and more. -/
theorem utf8ByteSize_name_le_token {scheme : Crypto.SignatureScheme} {i : Issuer} {c : Claims}
    {token : String} (h : i.sign scheme c = .ok token) :
    4 * c.name.utf8ByteSize ≤ 3 * token.utf8ByteSize := by
  obtain ⟨signature, -, rfl⟩ := Issuer.sign_eq_ok h
  have hname : ("name", Json.Doc.ofText c.name) ∈
      [("user_id", .int c.userId), ("name", .ofText c.name), ("email", .ofText c.email),
        ("phone_number", .ofText c.phoneNumber), ("role_id", .int c.role.number),
        ("token_type", .int c.kind.number), ("extended", .bool c.extended),
        ("iss", .ofText c.issuer), ("sub", .ofText c.subject), ("exp", .int c.expiry)] :=
    List.mem_cons_of_mem _ (List.mem_cons_self ..)
  have hmember : (Json.Doc.ofText c.name).print.utf8ByteSize ≤ c.toDoc.print.utf8ByteSize :=
    Json.utf8ByteSize_le_ofMembers hname
  have htext : c.name.utf8ByteSize ≤ (Json.Doc.ofText c.name).print.utf8ByteSize :=
    Json.utf8ByteSize_le_printText c.name
  rw [utf8ByteSize_token]
  omega

/-! Settings with nothing but what is required, and one key. -/

section Least
open Crypto Settings.Sample Codec.Base64

/-- A list with one key in it. -/
def writtenKeys (kid privatePem publicPem : String) : Json.Doc :=
  .list [.ofMembers [("kid", .ofText kid), ("private_key", .ofText (encodedText privatePem)),
    ("public_key", .ofText (encodedText publicPem))]]

theorem isPlain_writtenKeys (kid privatePem publicPem : String) :
    (writtenKeys kid privatePem publicPem).IsPlain := by
  refine .list fun d hd => ?_
  rw [List.mem_singleton.mp hd]
  refine .record fun m hm => ?_
  simp only [List.mem_cons, List.not_mem_nil, or_false] at hm
  rcases hm with rfl | rfl | rfl <;> exact .text _

theorem readKeys_written {kid : String} (hkid : kid ≠ "") (privatePem publicPem : String) :
    readKeys (writtenKeys kid privatePem publicPem).print = .ok [⟨kid, privatePem, publicPem⟩] := by
  refine readKeys_eq_ok_iff.mpr ⟨[⟨kid, encodedText privatePem, encodedText publicPem⟩], ?_, ?_, ?_⟩
  · rw [Json.readText_print (isPlain_writtenKeys ..)]
    rfl
  · exact ⟨List.cons_ne_nil _ _, fun k hk => by rw [List.mem_singleton.mp hk]; exact hkid,
      List.nodup_singleton _⟩
  · exact .cons ⟨rfl, encodesText_encodedText _, encodesText_encodedText _⟩ .nil

def leastKeys : Json.Doc := writtenKeys thirdKey.kid thirdPrivate thirdPublic

def leastVariables : Variables := fun name =>
  [("DATABASE_URL", "postgres://localhost/lending"), ("JWT_KEYS", leastKeys.print),
    ("JWT_ACCESS_TOKEN_ISSUER", "lending-access-test"),
    ("JWT_REFRESH_TOKEN_ISSUER", "lending-refresh-test")].lookup name

def leastTokens : TokenSettings where
  keys := [thirdKey]
  accessIssuer := "lending-access-test"
  accessTtl := 900
  refreshIssuer := "lending-refresh-test"
  refreshTtl := 86400
  extendedTtl := 2592000

def leastBasic : Basic where
  databaseUrl := "postgres://localhost/lending"
  rpcAddress := "0.0.0.0:50051"
  httpAddress := "0.0.0.0:8080"
  maxConnections := 5
  hashCost := 12
  tokens := leastTokens
  keySetUrl := none
  keySetTtl := 300
  openMethods := ["Register", "Login", "RefreshToken", "IsUserExist"]
  countryCode := "+62"
  mail := ⟨false, "", 1025⟩
  queueCapacity := 256
  sender := "loan@service.com"
  logJson := false

theorem required_keys : required leastVariables "JWT_KEYS" = .ok leastKeys.print := by
  have hsome : leastKeys.print.isEmpty = false := by
    simp [leastKeys, writtenKeys, Json.Doc.print]
  have hvariable : leastVariables "JWT_KEYS" = some leastKeys.print := rfl
  have hgiven : leastVariables.given? "JWT_KEYS" = some leastKeys.print := by
    simp [Variables.given?, hvariable, hsome]
  rw [required, hgiven]

theorem readTokens_least : readTokens leastVariables = .ok leastTokens :=
  readTokens_eq_ok_iff.mpr {
    keys := ⟨_, required_keys, readKeys_written (by decide) thirdPrivate thirdPublic⟩
    accessIssuer := by decide +kernel
    accessTtl := by decide +kernel
    refreshIssuer := by decide +kernel
    refreshTtl := by decide +kernel
    extendedTtl := by decide +kernel
    issuers := by decide }

theorem read_leastVariables : read leastVariables = .ok leastBasic := by
  unfold Settings.read
  rw [readTokens_least]
  rfl

def leastIssuer : Issuer := { sealedIssuer with refreshTtl := 86400, extendedTtl := 2592000 }

def leastSetup : Setup where
  scheme := Rsa.scheme
  hashCore := hashedSetup.hashCore
  hashCost := 12
  issuer := leastIssuer
  keys := ⟨[sealedKey]⟩
  issuers := sampleIssuers
  countryCode := "+62"
  sender := "loan@service.com"

theorem ofSettings_leastTokens : Issuer.ofSettings leastTokens = .ok leastIssuer := by
  have hkeys : leastTokens.keys = [thirdKey] := rfl
  have hkey : Rsa.signingKey thirdKey.privatePem = .ok thirdDer := signingKey_third
  exact Issuer.ofSettings_of_signingKey hkeys hkey

theorem ofSettings_leastBasic :
    Setup.ofSettings Rsa.scheme hashedSetup.hashCore leastBasic = .ok leastSetup := by
  have hnone : KeySet.ofKeys [] = .ok ⟨[]⟩ := rfl
  have hkeys : KeySet.ofKeys leastBasic.tokens.keys = .ok ⟨[sealedKey]⟩ := ofKeys_third hnone
  have hissuer : Issuer.ofSettings leastBasic.tokens = .ok leastIssuer := ofSettings_leastTokens
  exact ofSettings_of_keys hkeys hissuer

theorem firstPaired_leastBasic : FirstPaired Rsa.scheme leastBasic.tokens := by
  intro k hk
  cases hk
  exact isPaired_thirdKey

end Least

/-! Somebody registers under a name of his choice, and logs in. -/

def namedRequest (name : String) : RegisterRequest :=
  ⟨name, "first@example.com", "0811000001", "Secret-123", 0⟩

def namedHash : String := "$2b$12$...........................................DLjW1HjbAy"

def namedUser (name : String) : User where
  id := 1
  name := name
  email := "first@example.com"
  phoneNumber := "+62811000001"
  passwordHash := namedHash
  status := .active
  role := .borrower
  emailVerified := false

/-- A platform with one account, which has this name. -/
def namedPlatform (name : String) : Platform :=
  { start 256 with users := ⟨[⟨namedUser name, none, none⟩], 1⟩ }

theorem register_named {name : String} (htrim : Text.trim name = name)
    (hname : (Text.trimChars name.toList).isEmpty = false) :
    (start 256).register leastSetup ⟨clock 4, List.replicate 16 0⟩ none (namedRequest name) =
      .done (namedPlatform name) ⟨true, []⟩ := by
  have hcheck : checkRegister leastSetup.countryCode none (namedRequest name) =
      .ok ⟨name, "first@example.com", "+62811000001", .borrower⟩ := by
    have hpresent : checkPresent "name" name = .ok () := by
      rw [checkPresent, hname]
      rfl
    have hemail : Text.trim "first@example.com" = "first@example.com" := by decide +kernel
    have hshape : isEmailText "first@example.com" = true := by decide +kernel
    have hphone : checkPresent "phone_number" "0811000001" = .ok () := by decide +kernel
    have hpassword : checkPassword "Secret-123" = .ok () := by decide +kernel
    have hnumber : Phone.international "+62" (Text.trim "0811000001") = "+62811000001" := by
      decide +kernel
    simp only [checkRegister, namedRequest, leastSetup, hpresent, hemail, hshape, hphone, hpassword,
      hnumber, htrim]
    rfl
  have hreasons : existenceReasons (start 256).users "first@example.com" "+62811000001" = .ok [] :=
    rfl
  have hhash : Crypto.Bcrypt.hash leastSetup.hashCore (List.replicate 16 0)
      (namedRequest name).password leastSetup.hashCost = .ok namedHash := by
    have : Crypto.Bcrypt.hash leastSetup.hashCore (List.replicate 16 0) "Secret-123" 12 =
      .ok namedHash := by decide +kernel
    exact this
  simp only [register, hcheck, hreasons, hhash]
  rfl

theorem keyed_leastSetup : Keyed leastSetup ∧ LifetimesCount leastSetup.issuer :=
  ⟨(keyed_of_settings read_leastVariables firstPaired_leastBasic ofSettings_leastBasic).1,
    by decide, by decide, by decide⟩

theorem inDates_leastSetup : InDates leastSetup (clock 5) := by
  refine ⟨by decide, fun kind extended => ?_⟩
  cases kind <;> cases extended <;> decide

/-- Whatever name the account has, its holder can log in. -/
theorem login_named (name : String) :
    ∃ pair, ((namedPlatform name).login leastSetup ⟨clock 5, []⟩
      ⟨"first@example.com", "Secret-123", false⟩).result = .ok pair := by
  have hauthentic : authenticate leastSetup (namedPlatform name).users
      ⟨"first@example.com", "Secret-123", false⟩ = .ok (namedUser name) := by
    have hcheck : checkLogin ⟨"first@example.com", "Secret-123", false⟩ =
        .ok "first@example.com" := by decide +kernel
    have hidentifier : loginIdentifier leastSetup.countryCode "first@example.com" =
        "first@example.com" := by decide +kernel
    have hfound : (namedPlatform name).users.byIdentifier "first@example.com" =
        .ok (namedUser name) := rfl
    have hverify : Crypto.Bcrypt.verify leastSetup.hashCore "Secret-123" namedHash = .ok true := by
      decide +kernel
    simp only [authenticate, hcheck, hidentifier, hfound]
    simp only [namedUser, hverify]
    rfl
  obtain ⟨pair, hpair⟩ := exists_pair_of_keyed keyed_leastSetup.1 keyed_leastSetup.2
    inDates_leastSetup (.ofUser (namedUser name)) false (namedPlatform name)
  refine ⟨pair, ?_⟩
  simp only [login, hauthentic]
  exact hpair

/-- Who logs in there is the one who has the account. -/
theorem pairFor_named {name : String} {pair : Pair}
    (h : ((namedPlatform name).login leastSetup ⟨clock 5, []⟩
      ⟨"first@example.com", "Secret-123", false⟩).result = .ok pair) :
    PairFor leastSetup (clock 5) (.ofUser (namedUser name)) false pair := by
  obtain ⟨e, he, -, -, -, hpair⟩ := pairFor_of_login keyed_leastSetup.2 h
  rw [List.mem_singleton.mp he] at hpair
  exact hpair

/-- A token for an account with a short name is short. -/
theorem short_of_speaks {kind : Kind} {extended : Bool} {ttl : ℕ} {token : String}
    (h : Speaks leastSetup (clock 5) (.ofUser (namedUser "First")) kind extended ttl token)
    (hlifetime : ttl = 900 ∨ ttl = 86400) : token.utf8ByteSize ≤ 8192 := by
  obtain ⟨c, hsign, huser, hsubject, rfl, rfl, hissuer, hexpiry⟩ := h
  have hclaims : c.toDoc.print.utf8ByteSize ≤ 400 := by
    obtain ⟨userId, name, email, phoneNumber, role, kind, extended, issuer, subject, expiry⟩ := c
    cases huser
    cases hsubject
    cases hexpiry
    cases kind <;> cases hissuer <;> rcases hlifetime with rfl | rfl <;> cases extended <;>
      decide +kernel
  have hsame : leastIssuer.sign Crypto.Rsa.scheme c = sealedIssuer.sign Crypto.Rsa.scheme c :=
    Issuer.sign_congr rfl rfl
  obtain rfl : token = sealedText c :=
    Except.ok.inj (hsign.symm.trans (hsame.trans (sign_sealedText c)))
  exact utf8ByteSize_sealedText_le hclaims

/-- Who has a short name logs in, gets in with the access token, exchanges the refresh token, and
gets in with the new access token. -/
theorem takenBack_of_named :
    read leastVariables = .ok leastBasic ∧ DefaultLifetimes leastBasic.tokens ∧
      ∃ pair renewed, ((namedPlatform "First").login leastSetup ⟨clock 5, []⟩
          ⟨"first@example.com", "Secret-123", false⟩).result = .ok pair ∧
        (∃ c, Token.verify leastSetup.scheme leastSetup.keys.find leastSetup.issuers
          (clock 5).seconds .access pair.access = .ok c ∧ c.userId = 1) ∧
        ((namedPlatform "First").refresh leastSetup ⟨clock 5, []⟩ ⟨pair.refresh⟩).result =
          .ok renewed ∧
        ∃ c, Token.verify leastSetup.scheme leastSetup.keys.find leastSetup.issuers
          (clock 5).seconds .access renewed.access = .ok c ∧ c.userId = 1 := by
  have hdefault : DefaultLifetimes leastBasic.tokens :=
    defaultLifetimes_of_read read_leastVariables (by decide +kernel) (by decide +kernel)
      (by decide +kernel)
  have hids : ∀ e ∈ (namedPlatform "First").users.entries, IsInt64 e.user.id := by
    intro e he
    rw [List.mem_singleton.mp he]
    unfold IsInt64
    decide
  have hcall : 0 ≤ (Call.mk (clock 5) []).now.seconds ∧
      (Call.mk (clock 5) []).now.seconds + 2592000 ≤ lastSecond := by decide
  obtain ⟨hlogins, hexchanges⟩ := takenBack_of_issued read_leastVariables hdefault
    firstPaired_leastBasic ofSettings_leastBasic hids hcall.1 hcall.2
  obtain ⟨pair, hlogin⟩ := login_named "First"
  have hpair := pairFor_named hlogin
  obtain ⟨e, he, -, -, htaken⟩ := hlogins _ _ hlogin
  rw [List.mem_singleton.mp he] at htaken
  have hknown : (namedPlatform "First").KnowsOwnKey leastSetup (clock 5) := rfl
  have haccess := htaken.access (namedPlatform "First") (clock 5) (by decide) (by decide)
  rw [if_pos (short_of_speaks hpair.access (.inl rfl))] at haccess
  have hrefresh := htaken.refresh (namedPlatform "First") ⟨clock 5, []⟩ inDates_leastSetup
    (by decide) (by decide)
  rw [if_pos (short_of_speaks hpair.refresh (.inr rfl))] at hrefresh
  obtain ⟨c, hverify, huser, -⟩ := haccess hknown
  obtain ⟨renewed, hrenewed, hpair'⟩ := hrefresh hknown
  obtain ⟨presented, hpresented, htaken'⟩ := hexchanges _ _ hrenewed
  have haccess' := htaken'.access (namedPlatform "First") (clock 5) (by decide) (by decide)
  rw [if_pos (short_of_speaks hpair'.access (.inl rfl))] at haccess'
  obtain ⟨c', hverify', -, -⟩ := haccess' hknown
  obtain ⟨huser', -, -⟩ := hpair'.access.of_verify hverify'
  exact ⟨read_leastVariables, hdefault, pair, renewed, hlogin,
    ⟨c, hverify, congrArg Subject.userId huser⟩, hrenewed,
    ⟨c', hverify', congrArg Subject.userId huser'⟩⟩

/-- A name of so many letters. -/
def longName (n : ℕ) : String := String.ofList (List.replicate n 'N')

theorem shown_of_mem_longName {n : ℕ} {c : Char} (h : c ∈ List.replicate n 'N') :
    Text.isBlank c = false ∧ c.toNat < 128 := by
  rw [List.eq_of_mem_replicate h]
  decide

theorem trimChars_longName (n : ℕ) :
    Text.trimChars (longName n).toList = List.replicate n 'N' := by
  rw [longName, String.toList_ofList]
  exact Text.trimChars_of_not_blank fun c hc => (shown_of_mem_longName hc).1

theorem utf8ByteSize_longName (n : ℕ) : (longName n).utf8ByteSize = n := by
  have hascii := Text.utf8ByteSize_of_ascii fun c (hc : c ∈ List.replicate n 'N') =>
    (shown_of_mem_longName hc).2
  rw [List.length_replicate] at hascii
  exact hascii

theorem large_of_longName {n : ℕ} (hn : 6144 < n) {kind : Kind} {extended : Bool} {ttl : ℕ}
    {token : String}
    (h : Speaks leastSetup (clock 5) (.ofUser (namedUser (longName n))) kind extended ttl token) :
    (∃ c, leastSetup.issuer.sign leastSetup.scheme c = .ok token) ∧
      mostTokenBytes < token.utf8ByteSize := by
  obtain ⟨c, hsign, huser, -⟩ := h
  have hsize := utf8ByteSize_name_le_token hsign
  have hname : c.name = longName n := congrArg Subject.name huser
  rw [hname, utf8ByteSize_longName] at hsize
  refine ⟨⟨c, hsign⟩, ?_⟩
  unfold mostTokenBytes
  omega

/-- An account under a name of 6200 letters is made like any other, and its holder gets a pair of
tokens, of which the platform takes neither back. -/
theorem refused_of_long_name :
    (start 256).register leastSetup ⟨clock 4, List.replicate 16 0⟩ none
          (namedRequest (longName 6200)) =
        .done (namedPlatform (longName 6200)) ⟨true, []⟩ ∧
      ∃ pair, ((namedPlatform (longName 6200)).login leastSetup ⟨clock 5, []⟩
          ⟨"first@example.com", "Secret-123", false⟩).result = .ok pair ∧
        Token.verify leastSetup.scheme leastSetup.keys.find leastSetup.issuers
          (clock 5).seconds .access pair.access = .error (.token .malformed) ∧
        ((namedPlatform (longName 6200)).refresh leastSetup ⟨clock 5, []⟩ ⟨pair.refresh⟩).result =
          .error (.failure (.token .malformed)) := by
  have htrim := trimChars_longName 6200
  have hname : (Text.trimChars (longName 6200).toList).isEmpty = false := by
    rw [htrim, List.isEmpty_replicate]
    rfl
  obtain ⟨pair, hlogin⟩ := login_named (longName 6200)
  have hpair := pairFor_named hlogin
  have haccess := large_of_longName (by decide) hpair.access
  obtain ⟨⟨c, hsign⟩, hrefresh⟩ := large_of_longName (by decide) hpair.refresh
  refine ⟨register_named ?_ hname, pair, hlogin, verify_of_large haccess.2,
    refresh_of_large hsign hrefresh _ _⟩
  rw [Text.trim, htrim, longName]

end Crowdlending.Platform
