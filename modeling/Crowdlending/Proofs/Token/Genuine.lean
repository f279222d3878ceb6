import Crowdlending.Proofs.Json.Fields
import Crowdlending.Proofs.Platform.Credential
import Crowdlending.Proofs.Text.Cut
import Crowdlending.Token.KeyCache

/-!
# Genuine tokens

What a token is that is accepted, said without the verifier: three parts with points between
them, a header that declares the algorithm and the key, a key from the source that was asked
for that very key, a signature of the first two parts under it, and claims that are the second
part and name the issuer and the kind that were expected.

The header is read twice, once for the key and once by the rules of the format, and both times
it is a record with one member for the algorithm: so neither reading can see another algorithm
or another key than the other one does. Which kind a token is of is written in its second part
alone. That is why no text counts as a token of both kinds.
-/
namespace Crowdlending.Token
open Json Codec Crypto Text

/-- The text is these three parts, with a point between two of them and no others. -/
structure Parts.Divides (p : Parts) (token : String) : Prop where
  joined : token.toList = p.header ++ '.' :: (p.claims ++ '.' :: p.signature)
  header : '.' ∉ p.header
  claims : '.' ∉ p.claims
  signature : '.' ∉ p.signature

theorem Parts.divides_of_ofText? {token : String} {p : Parts} (h : Parts.ofText? token = some p) :
    p.Divides token := by
  unfold Parts.ofText? at h
  split at h
  · next a b c hcut =>
      cases h
      obtain ⟨ha, ⟨hnil, -⟩ | ⟨r, htoken, hr⟩⟩ := cut_eq_cons hcut
      · cases hnil
      · obtain ⟨hb, ⟨hnil, -⟩ | ⟨q, rfl, hq⟩⟩ := cut_eq_cons hr
        · cases hnil
        · obtain ⟨hc, ⟨-, rfl⟩ | ⟨_, -, hmore⟩⟩ := cut_eq_cons hq
          · exact ⟨htoken, ha, hb, hc⟩
          · exact absurd hmore (cut_ne_nil _ _)
  · cases h

/-! ## Headers -/

namespace Header

/-- Algorithm and key stand in the header, each in one member. -/
structure Declares (d : Doc) (kid : String) : Prop where
  algorithm : d.Holds "alg" Doc.asText "RS256"
  kid : d.Holds "kid" Doc.asText kid

theorem asText_of_asOption {d : Doc} {s : String} (h : Doc.asOption Doc.asText d = .ok (some s)) :
    d.asText = .ok s := by
  unfold Doc.asOption at h
  split at h
  · cases h
  · obtain ⟨s', hs, hsame⟩ := Result.map_eq_ok.mp h
    cases hsame
    exact hs

theorem isWellTyped_eq_true {d : Doc} (h : isWellTyped d = true) :
    ∃ members, d = .record members := by
  cases d with
  | record members => exact ⟨members, rfl⟩
  | _ => cases h

theorem declares_of_ofDoc {members : List (Option String × Doc)} {kid : String}
    (h : ofDoc (.record members) = .ok (some kid, Token.algorithm)) :
    Declares (.record members) kid := by
  obtain ⟨found, hfound, h⟩ := Result.bind_eq_ok.mp h
  obtain ⟨kid?, hkid, h⟩ := Result.bind_eq_ok.mp h
  obtain ⟨alg, halg, h⟩ := Result.bind_eq_ok.mp h
  cases h
  obtain ⟨k, hk, hread⟩ := Found.valueD_eq_ok hkid (by simp)
  obtain ⟨a, ha, hreada⟩ := Found.valueD_eq_ok halg (by decide)
  exact ⟨holds_of_lookup hfound ⟨_, List.mem_cons_of_mem _ (List.mem_cons_self ..), rfl⟩ ha hreada,
    holds_of_lookup hfound ⟨_, List.mem_cons_self .., rfl⟩ hk (asText_of_asOption hread)⟩

theorem peek_eq_ok {token : String} {h : Header} (hpeek : peek token = .ok h) :
    token.utf8ByteSize ≤ mostTokenBytes ∧ h.kid ≠ "" ∧ ∃ parts bytes,
      Parts.ofText? token = some parts ∧ Base64.decode .urlSafe parts.header = some bytes ∧
      ofDoc (readWhole bytes) = .ok (some h.kid, h.algorithm) := by
  unfold peek at hpeek
  split at hpeek
  · cases hpeek
  · next hsize =>
      split at hpeek
      · cases hpeek
      · next parts hparts =>
          split at hpeek
          · cases hpeek
          · next bytes hbytes =>
              split at hpeek
              · cases hpeek
              · cases hpeek
              · next kid alg hdoc =>
                  split at hpeek
                  · cases hpeek
                  · next hkid =>
                      cases hpeek
                      exact ⟨Nat.not_lt.mp hsize, by simpa using hkid, parts, bytes, hparts, hbytes,
                        hdoc⟩

end Header

theorem requestedKey_eq_ok {token kid : String} (h : requestedKey token = .ok kid) :
    Header.peek token = .ok ⟨kid, algorithm⟩ := by
  unfold requestedKey at h
  split at h
  · cases h
  · next header hpeek =>
      split at h
      · next halgorithm =>
          cases h
          rw [hpeek, ← halgorithm]
      · cases h

/-! ## Claims -/

/-- The document is a record in which each claim stands once. -/
structure Claims.WrittenIn (c : Claims) (d : Doc) : Prop where
  userId : d.Holds "user_id" Doc.asInt64 c.userId
  name : d.Holds "name" Doc.asText c.name
  email : d.Holds "email" Doc.asText c.email
  phoneNumber : d.Holds "phone_number" Doc.asText c.phoneNumber
  role : d.Holds "role_id" asRole c.role
  kind : d.Holds "token_type" asKind c.kind
  extended : d.Holds "extended" Doc.asBool c.extended
  issuer : d.Holds "iss" Doc.asText c.issuer
  subject : d.Holds "sub" Doc.asText c.subject
  expiry : d.Holds "exp" Doc.asInt64 c.expiry

theorem Claims.writtenIn_of_ofDoc {members : List (Option String × Doc)} {c : Claims}
    (h : Claims.ofDoc (.record members) = .ok c) : c.WrittenIn (.record members) := by
  obtain ⟨found, hfound, h⟩ := Result.bind_eq_ok.mp h
  obtain ⟨userId, huserId, h⟩ := Result.bind_eq_ok.mp h
  obtain ⟨name, hname, h⟩ := Result.bind_eq_ok.mp h
  obtain ⟨email, hemail, h⟩ := Result.bind_eq_ok.mp h
  obtain ⟨phoneNumber, hphoneNumber, h⟩ := Result.bind_eq_ok.mp h
  obtain ⟨role, hrole, h⟩ := Result.bind_eq_ok.mp h
  obtain ⟨kind, hkind, h⟩ := Result.bind_eq_ok.mp h
  obtain ⟨extended, hextended, h⟩ := Result.bind_eq_ok.mp h
  obtain ⟨issuer, hissuer, h⟩ := Result.bind_eq_ok.mp h
  obtain ⟨subject, hsubject, h⟩ := Result.bind_eq_ok.mp h
  obtain ⟨expiry, hexpiry, h⟩ := Result.bind_eq_ok.mp h
  cases h
  have hknown : ∀ name ∈ fields.map Field.name, ∃ f ∈ fields, f.name = name :=
    fun name hname => List.mem_map.mp hname
  exact {
    userId := holds_of_value hfound (hknown _ (by decide)) huserId
    name := holds_of_value hfound (hknown _ (by decide)) hname
    email := holds_of_value hfound (hknown _ (by decide)) hemail
    phoneNumber := holds_of_value hfound (hknown _ (by decide)) hphoneNumber
    role := holds_of_value hfound (hknown _ (by decide)) hrole
    kind := holds_of_value hfound (hknown _ (by decide)) hkind
    extended := holds_of_value hfound (hknown _ (by decide)) hextended
    issuer := holds_of_value hfound (hknown _ (by decide)) hissuer
    subject := holds_of_value hfound (hknown _ (by decide)) hsubject
    expiry := holds_of_value hfound (hknown _ (by decide)) hexpiry }

theorem readAudience_eq_ok {d : Doc} {named : Bool} (h : readAudience d = .ok named) :
    ∃ members, d = .record members := by
  cases d with
  | record members => exact ⟨members, rfl⟩
  | _ => cases h

/-! ## Accepted tokens -/

/-- The token was made by the owner of the key, for this purpose: its size and its form, what its
header declares, whose key it is signed under, and what it claims. -/
structure Genuine (scheme : SignatureScheme) (find : String → Except Failure PublicKey)
    (issuers : Issuers) (now : Int) (expected : Kind) (token : String) (c : Claims)
    (parts : Parts) (key : PublicKey) : Prop where
  size : token.utf8ByteSize ≤ 8192
  divided : parts.Divides token
  header : ∃ bytes kid, Base64.decode .urlSafe parts.header = some bytes ∧
    Header.Declares (readWhole bytes) kid ∧ kid ≠ "" ∧ find kid = .ok key
  keyType : key.keyType = "RSA"
  keyAlgorithm : key.algorithm = "RS256"
  signature : ∃ modulus exponent bytes,
    Base64.decodeText .urlSafe key.modulus = some modulus ∧
    Base64.decodeText .urlSafe key.exponent = some exponent ∧
    Base64.decode .urlSafe parts.signature = some bytes ∧
    scheme.check modulus exponent (utf8 (String.ofList (parts.header ++ '.' :: parts.claims)))
      bytes = true
  claims : ∃ bytes, Base64.decode .urlSafe parts.claims = some bytes ∧
    c.WrittenIn (readWhole bytes)
  issuer : c.issuer = issuers.of expected
  kind : c.kind = expected
  counts : now - 60 ≤ c.expiry

section Accepted
variable {scheme : SignatureScheme} {issuers : Issuers} {now : Int} {expected : Kind}
  {token : String} {c : Claims}

theorem decodeComponents_eq_ok {modulus exponent : String} {n e : List UInt8}
    (h : Rsa.decodeComponents modulus exponent = .ok (n, e)) :
    Base64.decodeText .urlSafe modulus = some n ∧ Base64.decodeText .urlSafe exponent = some e := by
  unfold Rsa.decodeComponents at h
  split at h
  · next hn he =>
      cases h
      exact ⟨hn, he⟩
  · cases h

theorem genuine_of_accepted {find : String → Except Failure PublicKey}
    (h : verify scheme find issuers now expected token = .ok c) :
    ∃ parts key, Genuine scheme find issuers now expected token c parts key := by
  obtain ⟨kid, key, hrequested, hfind, hbyKey⟩ := verify_eq_ok h
  obtain ⟨hsize, hkid, parts, bytes, hparts, hbytes, hdoc⟩ :=
    Header.peek_eq_ok (requestedKey_eq_ok hrequested)
  obtain ⟨parts', payload, hsigned, hjudge⟩ := verifyByKey_eq_ok hbyKey
  -- Both readings take the same text apart, so they see the same header.
  obtain rfl : parts = parts' := Option.some.inj (hparts.symm.trans hsigned.threeParts)
  obtain ⟨bytes', hbytes', htyped⟩ := hsigned.header
  obtain rfl : bytes = bytes' := Option.some.inj (hbytes.symm.trans hbytes')
  obtain ⟨headerMembers, hheader⟩ := Header.isWellTyped_eq_true htyped
  obtain ⟨hclaims, haudience, -, hcounts, hissuer, hkind⟩ := judge_eq_ok hjudge
  obtain ⟨payloadMembers, hpayload⟩ := readAudience_eq_ok haudience
  obtain ⟨modulus, exponent, signature, hcomponents, hsignature, hcheck⟩ := hsigned.signature
  obtain ⟨hmodulus, hexponent⟩ := decodeComponents_eq_ok hcomponents
  rw [hheader] at hdoc
  rw [hpayload] at hclaims
  refine ⟨parts, key, hsize, Parts.divides_of_ofText? hparts, ⟨bytes, kid, hbytes, ?_, hkid, hfind⟩,
    hsigned.keyType, hsigned.keyAlgorithm,
    ⟨modulus, exponent, signature, hmodulus, hexponent, hsignature, hcheck⟩,
    ⟨payload, hsigned.payload, ?_⟩, hissuer, hkind, hcounts.2⟩
  · rw [hheader]
    exact Header.declares_of_ofDoc hdoc
  · rw [hpayload]
    exact Claims.writtenIn_of_ofDoc hclaims

/-- The kind of a token is written in the token, so it cannot be of another kind elsewhere or at
another time. -/
theorem kind_eq_of_accepted {find find' : String → Except Failure PublicKey}
    {scheme' : SignatureScheme} {issuers' : Issuers} {now' : Int} {expected' : Kind} {c' : Claims}
    (h : verify scheme find issuers now expected token = .ok c)
    (h' : verify scheme' find' issuers' now' expected' token = .ok c') : expected = expected' := by
  obtain rfl : c = c' := Option.some.inj ((stated?_of_verify h).symm.trans (stated?_of_verify h'))
  rw [← kind_of_verify h, kind_of_verify h']

end Accepted

/-- Whatever source the keys come from, only a genuine token is accepted. Its text tells which kind
it is of, so no verifier accepts it as both, not even with other keys or at another time. With a
fixed set of keys, whatever is refused is refused as an invalid token; and a cached set is one of
the sources, as is whatever a platform looks keys up in. -/
theorem genuine_of_verify (scheme : SignatureScheme) (find : String → Except Failure PublicKey)
    (issuers : Issuers) (now : Int) (expected : Kind) (token : String) :
    (∀ c, verify scheme find issuers now expected token = .ok c →
      ∃ parts key, Genuine scheme find issuers now expected token c parts key) ∧
    (∀ (find' : String → Except Failure PublicKey) (now' : Int) (c c' : Claims),
      verify scheme find issuers now .access token = .ok c →
        verify scheme find' issuers now' .refresh token ≠ .ok c') ∧
    (∀ (keys : KeySet) (f : Failure),
      verify scheme keys.find issuers now expected token = .error f → ∃ fault, f = .token fault) ∧
    (∀ (cache : KeyCache) (ms : Nat) (reply : Reply),
      (cache.verify scheme issuers ms reply now expected token).result =
        verify scheme (fun kid => (cache.find ms reply kid).result) issuers now expected token) ∧
    ∀ (source : KeySource) (keys : KeySet) (moment : Moment),
      (source.verify scheme issuers keys moment expected token).2 =
        verify scheme (source.find keys moment) issuers moment.seconds expected token := by
  refine ⟨fun c h => genuine_of_accepted h, fun find' now' c c' h h' => ?_,
    fun keys f h => token_of_refused (fun _ _ h => ⟨_, token_of_find_error h⟩) h,
    fun cache ms reply => cache.verify_result scheme issuers expected token ms reply now,
    fun source keys moment => source.verify_result scheme issuers expected token keys moment⟩
  cases kind_eq_of_accepted h h'

section Sealed
open Platform

/-- The access token of user 1 is accepted, so it is genuine and no refresh token. A text in two
parts is an invalid token. -/
theorem genuine_of_sealedToken :
    verify sealedSetup.scheme sealedSetup.keys.find sealedSetup.issuers (clock 1).seconds .access
        sealedToken = .ok (sampleUser 1 .borrower) ∧
      (∃ parts key, Genuine sealedSetup.scheme sealedSetup.keys.find sealedSetup.issuers
        (clock 1).seconds .access sealedToken (sampleUser 1 .borrower) parts key) ∧
      (∀ c, verify sealedSetup.scheme sealedSetup.keys.find sealedSetup.issuers (clock 1).seconds
        .refresh sealedToken ≠ .ok c) ∧
      verify sealedSetup.scheme sealedSetup.keys.find sealedSetup.issuers (clock 1).seconds .access
        "header.claims" = .error (.token .malformed) ∧
      ∃ fault, Failure.token .malformed = .token fault := by
  have haccess := issued_sealedToken.verify
  have hrefused : verify sealedSetup.scheme sealedSetup.keys.find sealedSetup.issuers
      (clock 1).seconds .access "header.claims" = .error (.token .malformed) := rfl
  obtain ⟨hgenuine, hkinds, -⟩ := genuine_of_verify sealedSetup.scheme sealedSetup.keys.find
    sealedSetup.issuers (clock 1).seconds .access sealedToken
  obtain ⟨-, -, hinvalid, -⟩ := genuine_of_verify sealedSetup.scheme sealedSetup.keys.find
    sealedSetup.issuers (clock 1).seconds .access "header.claims"
  exact ⟨haccess, hgenuine _ haccess, fun c => hkinds _ _ _ c haccess, hrefused,
    hinvalid sealedSetup.keys _ hrefused⟩

end Sealed

end Crowdlending.Token
