import Crowdlending.Proofs.Platform.Roles
import Crowdlending.Proofs.Platform.Turns

/-!
# Whom tokens speak of

A login puts the user into two tokens, and an exchange of the refresh token puts what
it reads there into two new ones; the directory is not asked again. So all tokens that
come from one login speak of the user who logged in, as he was then and as he is
stored ever after, and the refresh tokens remember what the login asked for. This
holds at any depth, as long as what is presented for an exchange was issued here; what
others may present is not said.
-/
namespace Crowdlending.Platform
open Token Account

/-! ## One pair -/

/-- The token is signed for claims that speak of this user and count from now for so many
seconds. -/
def Speaks (s : Setup) (now : Moment) (u : Subject) (kind : Kind) (extended : Bool) (ttl : ℕ)
    (token : String) : Prop :=
  ∃ c, s.issuer.sign s.scheme c = .ok token ∧ c.toSubject = u ∧ c.subject = u.email ∧
    c.kind = kind ∧ c.extended = extended ∧ c.issuer = s.issuer.issuers.of kind ∧
    c.expiry = now.seconds + ttl

/-- An access token that is never extended, and a refresh token that is if this was asked for. -/
structure PairFor (s : Setup) (now : Moment) (u : Subject) (remember : Bool) (pair : Pair) :
    Prop where
  access : Speaks s now u .access false s.issuer.accessTtl pair.access
  refresh : Speaks s now u .refresh remember
    (if remember then s.issuer.extendedTtl else s.issuer.refreshTtl) pair.refresh

/-- The lifetimes are short enough to count. -/
structure LifetimesCount (i : Issuer) : Prop where
  access : i.accessTtl ≤ longestTtl
  refresh : i.refreshTtl ≤ longestTtl
  extended : i.extendedTtl ≤ longestTtl

section Pair
variable {s : Setup} {p : Platform} {now : Moment} {u : Subject}

theorem LifetimesCount.ttlFor {i : Issuer} (h : LifetimesCount i) (kind : Kind) (extended : Bool) :
    i.ttlFor kind extended ≤ longestTtl := by
  cases kind with
  | access => exact h.access
  | refresh =>
      cases extended with
      | false => exact h.refresh
      | true => exact h.extended

theorem speaks_of_issue (hlifetimes : LifetimesCount s.issuer) {kind : Kind} {extended : Bool}
    {token : String} (h : (p.issue s now u kind extended).result = .ok token) :
    Speaks s now u kind extended (s.issuer.ttlFor kind extended) token := by
  obtain ⟨c, hclaims, hsign⟩ := issue_eq_ok h
  obtain ⟨expiry, hexpiry, rfl⟩ := Option.map_eq_some_iff.mp hclaims
  refine ⟨_, hsign, rfl, rfl, rfl, rfl, rfl, ?_⟩
  simp only [Issuer.expiry?, if_pos (hlifetimes.ttlFor kind extended)] at hexpiry
  split at hexpiry
  · exact (Option.some.inj hexpiry).symm
  · cases hexpiry

theorem pairFor_of_issuePair (hlifetimes : LifetimesCount s.issuer) {remember : Bool} {pair : Pair}
    (h : (p.issuePair s now u remember).result = .ok pair) : PairFor s now u remember pair := by
  obtain ⟨access, haccess, h⟩ := andThen_eq_ok h
  obtain ⟨refresh, hrefresh, rfl⟩ := Result.map_eq_ok.mp h
  have hspeaks := speaks_of_issue hlifetimes hrefresh
  refine ⟨speaks_of_issue hlifetimes haccess, ?_⟩
  cases remember with
  | false => exact hspeaks
  | true => exact hspeaks

/-- Who logs in is in the directory, is active, holds the identifier and knows the password. -/
theorem pairFor_of_login (hlifetimes : LifetimesCount s.issuer) {call : Call} {r : LoginRequest}
    {pair : Pair} (h : (p.login s call r).result = .ok pair) :
    ∃ e ∈ p.users.entries, e.user.status = .active ∧
      e.holds (loginIdentifier s.countryCode (Text.trim r.identifier)) = true ∧
      Crypto.Bcrypt.verify s.hashCore r.password e.user.passwordHash = .ok true ∧
      PairFor s call.now (.ofUser e.user) r.rememberMe pair := by
  unfold login at h
  split at h
  · cases h
  · next u hu =>
      obtain ⟨hactive, hpassword, e, he, rfl, hholds⟩ := authenticate_eq_ok hu
      exact ⟨e, he, hactive, hholds, hpassword, pairFor_of_issuePair hlifetimes h⟩

/-- An exchange passes on what the presented refresh token states. -/
theorem pairFor_of_refresh (hlifetimes : LifetimesCount s.issuer) {call : Call}
    {r : RefreshRequest} {pair : Pair} (h : (p.refresh s call r).result = .ok pair) :
    ∃ c, Token.verify s.scheme (p.findKey s call.now) s.issuers call.now.seconds .refresh
        (Text.trim r.token) = .ok c ∧ PairFor s call.now c.toSubject c.extended pair := by
  simp only [refresh] at h
  split at h
  · cases h
  · obtain ⟨c, hc, h⟩ := andThen_eq_ok h
    exact ⟨c, verify_of_result hc, pairFor_of_issuePair hlifetimes h⟩

/-- A refresh token that was issued here is exchanged as long as it counts. -/
theorem refresh_of_issued {p : Platform} {call : Call} {c : Claims} {token : String}
    (h : Issued s call.now c token) (hkind : c.kind = .refresh)
    (hknown : p.KnowsOwnKey s call.now) :
    ∃ q : Platform, (p.refresh s call ⟨token⟩).result =
      (q.issuePair s call.now c.toSubject c.extended).result := by
  obtain ⟨htrim, hne⟩ := trim_of_sign h.signed
  have hverify : (p.verify s call.now .refresh token).result = .ok c := by
    obtain ⟨source, -, hverify⟩ := p.verify_eq s call.now .refresh token
    rw [hverify, ← hkind, h.verify_find hknown]
    rfl
  refine ⟨(p.verify s call.now .refresh token).platform, ?_⟩
  simp only [refresh, htrim, String.isEmpty_iff, hne, if_false, Outcome.andThen, hverify]

/-- What is read from a token is what was signed. -/
theorem Speaks.of_verify {kind : Kind} {extended : Bool} {ttl : ℕ} {token : String}
    (h : Speaks s now u kind extended ttl token) {later : Int} {expected : Kind} {c : Claims}
    {find : String → Except Failure PublicKey}
    (hverify : Token.verify s.scheme find s.issuers later expected token = .ok c) :
    c.toSubject = u ∧ c.extended = extended ∧ expected = kind := by
  obtain ⟨signed, hsign, huser, -, hkind, hextended, -⟩ := h
  obtain rfl : c = signed := eq_of_stated?_sign hsign (stated?_of_verify hverify)
  exact ⟨huser, hextended, (kind_of_verify hverify).symm.trans hkind⟩

end Pair

/-! ## Chains -/

/-- The second pair comes from the login that the first one was issued for, by exchanges of refresh
tokens. -/
inductive Chain (log : List Issue) : Issue → Issue → Prop
  | login {i : Issue} {r : LoginRequest} : i ∈ log → i.request = .login r → Chain log i i
  | refresh {root i j : Issue} {r : RefreshRequest} : Chain log root i → j ∈ log →
      j.request = .refresh r → Text.trim r.token = i.pair.refresh → Chain log root j

theorem Chain.append {log : List Issue} {root i : Issue} (h : Chain log root i)
    (new : List Issue) : Chain (log ++ new) root i := by
  induction h with
  | login hi hr => exact .login (List.mem_append_left _ hi) hr
  | refresh _ hj hr htoken ih => exact .refresh ih (List.mem_append_left _ hj) hr htoken

theorem Chain.root {log : List Issue} {root i : Issue} (h : Chain log root i) :
    root ∈ log ∧ ∃ r, root.request = .login r := by
  induction h with
  | login hi hr => exact ⟨hi, _, hr⟩
  | refresh _ _ _ _ ih => exact ih

/-- The pair was the answer to the call. -/
def Issue.Answers (s : Setup) (i : Issue) : Prop :=
  ∃ caller, (i.request.perform s i.found i.call caller).result = .ok (.issued i.pair)

/-- The user who logged in at the root was in order, the pair speaks of him, and he is still
stored. -/
structure Identifies (s : Setup) (now : Platform) (root i : Issue) (r : LoginRequest) (e : Entry) :
    Prop where
  request : root.request = .login r
  stored : e ∈ root.found.users.entries
  active : e.user.status = .active
  identifier : e.holds (loginIdentifier s.countryCode (Text.trim r.identifier)) = true
  password : Crypto.Bcrypt.verify s.hashCore r.password e.user.passwordHash = .ok true
  pair : PairFor s i.call.now (.ofUser e.user) r.rememberMe i.pair
  later : ∃ e' ∈ now.users.entries, e.Continues e'

section Chain
variable {s : Setup} {log : List Issue} {root i : Issue}

theorem result_of_issued {o : Outcome Pair} {pair : Pair}
    (h : (o.map AccountReply.issued).result = .ok (.issued pair)) : o.result = .ok pair := by
  obtain ⟨found, hfound, hsame⟩ := Result.map_eq_ok.mp h
  rw [hfound, AccountReply.issued.inj hsame]

theorem Issue.Answers.login {r : LoginRequest} (h : i.Answers s) (hr : i.request = .login r) :
    (i.found.login s i.call r).result = .ok i.pair := by
  obtain ⟨caller, hresult⟩ := h
  rw [hr] at hresult
  exact result_of_issued hresult

theorem Issue.Answers.refresh {r : RefreshRequest} (h : i.Answers s)
    (hr : i.request = .refresh r) : (i.found.refresh s i.call r).result = .ok i.pair := by
  obtain ⟨caller, hresult⟩ := h
  rw [hr] at hresult
  exact result_of_issued hresult

/-- Pairs are issued by logins and by exchanges only. -/
theorem Issue.Answers.cases (h : i.Answers s) :
    (∃ r, i.request = .login r) ∨ ∃ r, i.request = .refresh r := by
  obtain ⟨caller, hresult⟩ := h
  cases hrequest : i.request with
  | login r => exact .inl ⟨r, rfl⟩
  | refresh r => exact .inr ⟨r, rfl⟩
  | _ =>
      rw [hrequest, AccountRequest.perform] at hresult
      obtain ⟨_, -, hsame⟩ := Result.map_eq_ok.mp hresult
      cases hsame

/-- Along a chain the user and the length of life stay those of its root. -/
theorem Chain.pairFor (hlifetimes : LifetimesCount s.issuer) (hlog : ∀ i ∈ log, i.Answers s)
    (h : Chain log root i) {u : Subject} {remember : Bool}
    (hroot : PairFor s root.call.now u remember root.pair) :
    PairFor s i.call.now u remember i.pair := by
  induction h with
  | login _ _ => exact hroot
  | refresh _ hj hr htoken ih =>
      obtain ⟨c, hverify, hpair⟩ := pairFor_of_refresh hlifetimes ((hlog _ hj).refresh hr)
      rw [htoken] at hverify
      obtain ⟨huser, hextended, -⟩ := ih.refresh.of_verify hverify
      rw [huser, hextended] at hpair
      exact hpair

end Chain

/-! ## Runs -/

/-- Nobody presents a foreign token for an exchange: one that verifies was issued before. -/
def Turn.IsHonest (s : Setup) (j : Journal) (t : Turn) : Prop :=
  ∀ call caller r c, t = .account call caller (.refresh r) →
    Token.verify s.scheme (j.platform.findKey s call.now) s.issuers call.now.seconds .refresh
      (Text.trim r.token) = .ok c →
    ∃ i ∈ j.issued, Text.trim r.token = i.pair.access ∨ Text.trim r.token = i.pair.refresh

namespace Journal

def IsHonest (s : Setup) : Journal → List Turn → Prop
  | _, [] => True
  | j, t :: turns => t.IsHonest s j ∧ (j.turn s t).IsHonest s turns

/-- What holds of the pairs in a journal: they are answers, found an earlier platform, and stem from
logins. -/
structure Traced (s : Setup) (j : Journal) : Prop where
  answers : ∀ i ∈ j.issued, i.Answers s
  found : ∀ i ∈ j.issued, i.found.Later j.platform
  rooted : ∀ i ∈ j.issued, ∃ root, Chain j.issued root i

section Traced
variable {s : Setup} {j : Journal}

theorem issued_cases {t : Turn} {i : Issue} (h : i ∈ t.issued s j.platform) :
    i.found = j.platform ∧ ∃ caller, t = .account i.call caller i.request ∧
      (i.request.perform s i.found i.call caller).result = .ok (.issued i.pair) := by
  cases t with
  | account call caller r =>
      rw [Turn.issued] at h
      split at h
      · next pair hpair =>
          rw [List.mem_singleton.mp h]
          exact ⟨rfl, caller, rfl, hpair⟩
      · cases h
  | _ => cases h

/-- Every pair that a call is answered with is noted. -/
theorem mem_issued_turn (j : Journal) {call : Call} (caller : Option Claims) (r : AccountRequest)
    {pair : Pair} (h : (r.perform s j.platform call caller).result = .ok (.issued pair)) :
    ⟨j.platform, call, r, pair⟩ ∈ (j.turn s (.account call caller r)).issued := by
  refine List.mem_append_right _ ?_
  simp only [Turn.issued, h, List.mem_singleton]

theorem Traced.identifies (hlifetimes : LifetimesCount s.issuer) (h : j.Traced s) {root i : Issue}
    (hchain : Chain j.issued root i) : ∃ r e, Identifies s j.platform root i r e := by
  obtain ⟨hroot, r, hr⟩ := hchain.root
  obtain ⟨e, he, hactive, hholds, hpassword, hpair⟩ :=
    pairFor_of_login hlifetimes ((h.answers root hroot).login hr)
  exact ⟨r, e, hr, he, hactive, hholds, hpassword,
    hchain.pairFor hlifetimes h.answers hpair, (h.found root hroot).users.exists_mem he⟩

/-- A pair issued honestly is a login's, or continues the chain of the token presented. -/
theorem Traced.rooted_turn (hlifetimes : LifetimesCount s.issuer) (h : j.Traced s) {t : Turn}
    (hhonest : t.IsHonest s j) {i : Issue} (hi : i ∈ t.issued s j.platform) :
    ∃ root, Chain (j.issued ++ t.issued s j.platform) root i := by
  obtain ⟨hfound, caller, hturn, hresult⟩ := issued_cases hi
  have hmem : i ∈ j.issued ++ t.issued s j.platform := List.mem_append_right _ hi
  have hanswers : i.Answers s := ⟨caller, hresult⟩
  rcases hanswers.cases with ⟨r, hr⟩ | ⟨r, hr⟩
  · exact ⟨i, .login hmem hr⟩
  · obtain ⟨c, hverify, -⟩ := pairFor_of_refresh hlifetimes (hanswers.refresh hr)
    rw [hr] at hturn
    rw [hfound] at hverify
    obtain ⟨before, hbefore, htoken⟩ := hhonest _ _ _ _ hturn hverify
    obtain ⟨root, hchain⟩ := h.rooted before hbefore
    rcases htoken with haccess | hrefresh
    · -- An access token would not have been accepted.
      obtain ⟨login, e, hidentifies⟩ := h.identifies hlifetimes hchain
      rw [haccess] at hverify
      obtain ⟨-, -, hkind⟩ := hidentifies.pair.access.of_verify hverify
      cases hkind
    · exact ⟨root, .refresh (hchain.append _) hmem hr hrefresh⟩

theorem Traced.turn (hlifetimes : LifetimesCount s.issuer) (h : j.Traced s)
    (hsound : j.platform.Sound) {t : Turn} (hhonest : t.IsHonest s j) : (j.turn s t).Traced s := by
  have hlater := hsound.later_turn (s := s) t
  constructor
  case answers =>
    intro i hi
    rcases List.mem_append.mp hi with hold | hnew
    · exact h.answers i hold
    · obtain ⟨-, caller, -, hresult⟩ := issued_cases hnew
      exact ⟨caller, hresult⟩
  case found =>
    intro i hi
    rcases List.mem_append.mp hi with hold | hnew
    · exact (h.found i hold).trans hlater
    · rw [(issued_cases hnew).1]
      exact hlater
  case rooted =>
    intro i hi
    rcases List.mem_append.mp hi with hold | hnew
    · obtain ⟨root, hchain⟩ := h.rooted i hold
      exact ⟨root, hchain.append _⟩
    · exact h.rooted_turn hlifetimes hhonest hnew

theorem Traced.play (hlifetimes : LifetimesCount s.issuer) (h : j.Traced s)
    (hsound : j.platform.Sound) {turns : List Turn} (hhonest : j.IsHonest s turns) :
    (j.play s turns).Traced s := by
  induction turns generalizing j with
  | nil => exact h
  | cons t turns ih =>
      exact ih (h.turn hlifetimes hsound hhonest.1) (hsound.turn t) hhonest.2

end Traced

end Journal

/-- In every run in which only tokens that were issued are exchanged, wherever keys are looked up,
each pair stems from a login, and whichever login it stems from, it speaks of the user who was
logged in there. -/
theorem identity_of_play (s : Setup) (capacity : ℕ) (source : KeySource) (turns : List Turn)
    (hlifetimes : LifetimesCount s.issuer)
    (hhonest : (Journal.start capacity source).IsHonest s turns) :
    let j := (Journal.start capacity source).play s turns
    ∀ i ∈ j.issued, (∃ root, Chain j.issued root i) ∧
      ∀ root, Chain j.issued root i → ∃ r e, Identifies s j.platform root i r e := by
  intro j i hi
  have hstart : (Journal.start capacity source).Traced s :=
    ⟨fun _ h => (by cases h), fun _ h => (by cases h), fun _ h => (by cases h)⟩
  have htraced : j.Traced s := hstart.play hlifetimes (sound_start capacity source) hhonest
  exact ⟨htraced.rooted i hi, fun root hchain => htraced.identifies hlifetimes hchain⟩

/-! ## A sample run -/

/-- A password digest is the salt and the password. -/
def hashedSetup : Setup := { sealedSetup with hashCore := fun _ salt key => salt ++ key }

/-- What tokens say of the user who registers. -/
def firstClaims (kind : Kind) (extended : Bool) (expiry : Int) : Claims where
  userId := 1
  name := "First"
  email := "first@example.com"
  phoneNumber := "62811000001"
  role := .borrower
  kind := kind
  extended := extended
  issuer := hashedSetup.issuer.issuers.of kind
  subject := "first@example.com"
  expiry := expiry

def rememberedLogin : LoginRequest := ⟨"first@example.com", "Secret-123", true⟩

/-- The refresh token of that login. -/
def rememberedToken : String := sealedText (firstClaims .refresh true 1700604805)

/-- Somebody registers, logs in to be remembered, and exchanges the refresh token. -/
def exchanged : List Turn :=
  [registration, .account ⟨clock 5, []⟩ none (.login rememberedLogin),
    .account ⟨clock 6, []⟩ none (.refresh ⟨rememberedToken⟩)]

theorem issued_rememberedToken :
    Issued hashedSetup (clock 6) (firstClaims .refresh true 1700604805) rememberedToken := by
  have hclaims : (firstClaims .refresh true 1700604805).toDoc.print.utf8ByteSize ≤ 400 := by
    decide +kernel
  have huserId : IsInt64 (firstClaims .refresh true 1700604805).userId := by unfold IsInt64; decide
  have hexpiry : IsInt64 (firstClaims .refresh true 1700604805).expiry := by unfold IsInt64; decide
  exact issued_sealedText _ hclaims huserId hexpiry (by decide) (by decide) rfl

theorem login_of_registration :
    (((Journal.start 4).play hashedSetup [registration]).platform.login hashedSetup ⟨clock 5, []⟩
      rememberedLogin).result =
      .ok ⟨sealedText (firstClaims .access false 1700000905), rememberedToken⟩ := by
  have hauthentic : (authenticate hashedSetup
      ((Journal.start 4).play hashedSetup [registration]).platform.users
      rememberedLogin).toOption.map Subject.ofUser =
        some (firstClaims .refresh true 1700604805).toSubject := by
    decide +kernel
  unfold login
  split
  · next f hf => rw [hf] at hauthentic; cases hauthentic
  · next u hu =>
      rw [hu] at hauthentic
      rw [Option.some.inj hauthentic]
      have haccess : hashedSetup.issuer.claimsFor? (clock 5).seconds
          (firstClaims .refresh true 1700604805).toSubject .access false =
            some (firstClaims .access false 1700000905) := rfl
      exact issuePair_of_sign haccess rfl (sign_sealedText _) (sign_sealedText _)

/-- The pair of the login is in the journal when the exchange is asked for. -/
theorem issued_of_login :
    ∃ i ∈ ((Journal.start 4).play hashedSetup (exchanged.take 2)).issued,
      i.pair.refresh = rememberedToken := by
  have hresult := congrArg (Except.map AccountReply.issued) login_of_registration
  exact ⟨_, Journal.mem_issued_turn ((Journal.start 4).play hashedSetup [registration]) none
    (.login rememberedLogin) hresult, rfl⟩

/-- The exchange leads to a second pair, which speaks of the user who logged in. -/
theorem identity_of_exchanged :
    LifetimesCount hashedSetup.issuer ∧ (Journal.start 4).IsHonest hashedSetup exchanged ∧
      ∃ root i r e, i.request = .refresh ⟨rememberedToken⟩ ∧
        Chain ((Journal.start 4).play hashedSetup exchanged).issued root i ∧
        Identifies hashedSetup ((Journal.start 4).play hashedSetup exchanged).platform root i r
          e := by
  have hlifetimes : LifetimesCount hashedSetup.issuer := ⟨by decide, by decide, by decide⟩
  have htrim : Text.trim rememberedToken = rememberedToken :=
    (trim_of_sign issued_rememberedToken.signed).1
  have hhonest : (Journal.start 4).IsHonest hashedSetup exchanged := by
    refine ⟨fun _ _ _ _ h => (by cases h), fun _ _ _ _ h => (by cases h), ?_, trivial⟩
    intro _ _ _ _ h _
    cases h
    obtain ⟨i, hi, htoken⟩ := issued_of_login
    exact ⟨i, hi, .inr (htrim.trans htoken.symm)⟩
  have hmem : ∃ i ∈ ((Journal.start 4).play hashedSetup exchanged).issued,
      i.request = .refresh ⟨rememberedToken⟩ := by
    have hcounts : Issued hashedSetup (Call.mk (clock 6) []).now _ _ := issued_rememberedToken
    have hpublished : ((Journal.start 4).play hashedSetup (exchanged.take 2)).platform.source =
        .published := Journal.published_play rfl _
    obtain ⟨q, hq⟩ := refresh_of_issued hcounts rfl
      (knowsOwnKey_of_published hpublished (clock 6))
    have hrenewed : (q.issuePair hashedSetup (clock 6)
        (firstClaims .refresh true 1700604805).toSubject true).result =
          .ok ⟨sealedText (firstClaims .access false 1700000906),
            sealedText (firstClaims .refresh true 1700604806)⟩ :=
      issuePair_of_sign rfl rfl (sign_sealedText _) (sign_sealedText _)
    have hresult := congrArg (Except.map AccountReply.issued) (hq.trans hrenewed)
    exact ⟨_, Journal.mem_issued_turn ((Journal.start 4).play hashedSetup (exchanged.take 2)) none
      (.refresh ⟨rememberedToken⟩) hresult, rfl⟩
  obtain ⟨i, hi, hrequest⟩ := hmem
  obtain ⟨⟨root, hchain⟩, hidentifies⟩ :=
    identity_of_play hashedSetup 4 .published exchanged hlifetimes hhonest i hi
  obtain ⟨r, e, hsame⟩ := hidentifies root hchain
  exact ⟨hlifetimes, hhonest, root, i, r, e, hrequest, hchain, hsame⟩

end Crowdlending.Platform
