import Crowdlending.Proofs.Platform.Atomicity
import Crowdlending.Proofs.Settings.Sample
import Crowdlending.Proofs.Token.Signed

/-!
# Whom an authorization value stands for

A caller is known by the value that he sends along and by the time alone: it names the
bearer scheme, and its token verifies as an access token. Conversely, an access token
that the platform issued stands for its user, as long as it counts and is not too large
to be looked at. That nobody else has such a token is not said here.
-/
namespace Crowdlending.Platform
open Token Account

/-- The caller that an authorization value stands for: the claims of the access token that it
presents, if it presents a valid one. -/
def credential? (s : Setup) (p : Platform) (now : Moment) (authorization : Option String) :
    Option Claims :=
  authorization.bind fun value =>
    match presented value with
    | .error _ => none
    | .ok token =>
        (Token.verify s.scheme (p.findKey s now) s.issuers now.seconds .access token).toOption

theorem credential?_of_presented {s : Setup} {p : Platform} {now : Moment} {value token : String}
    (h : presented value = .ok token) :
    credential? s p now (some value) =
      (Token.verify s.scheme (p.findKey s now) s.issuers now.seconds .access token).toOption := by
  simp only [credential?, Option.bind_some, h]

/-- The value is `Bearer <token>`, and the token verifies as an access token with these claims. -/
def PresentsAccess (s : Setup) (p : Platform) (now : Moment) (c : Claims) (value : String) :
    Prop :=
  ∃ scheme rest, value.toList = scheme ++ ' ' :: rest ∧
    Text.lowerAscii (String.ofList scheme) = "bearer" ∧ Text.trimChars rest ≠ [] ∧
    Token.verify s.scheme (p.findKey s now) s.issuers now.seconds .access
      (String.ofList (Text.trimChars rest)) = .ok c ∧ c.kind = .access

theorem presentsAccess_of_credential? {s : Setup} {p : Platform} {now : Moment}
    {authorization : Option String} {c : Claims} (h : credential? s p now authorization = some c) :
    ∃ value, authorization = some value ∧ PresentsAccess s p now c value := by
  obtain ⟨value, hvalue, h⟩ := Option.bind_eq_some_iff.mp h
  split at h
  · cases h
  · next token htoken =>
      obtain ⟨-, scheme, rest, hform, hscheme, rfl, hrest⟩ := presented_eq_ok htoken
      have hverify := Result.toOption_eq_some.mp h
      exact ⟨value, hvalue, scheme, rest, hform, hscheme, hrest, hverify, kind_of_verify hverify⟩

/-- Verifying the presented token tells whom the authorization value stands for. -/
theorem credential?_of_verify {s : Setup} {p : Platform} {now : Moment} {value token : String}
    {c : Claims} (htoken : presented value = .ok token)
    (h : (p.verify s now .access token).result = .ok c) :
    credential? s p now (some value) = some c := by
  rw [credential?_of_presented htoken, verify_of_result h]
  rfl

/-- Whichever keys two platforms have: if both let a value in, they take it for the same caller. -/
theorem credential?_unique {s : Setup} {p q : Platform} {now : Moment}
    {authorization : Option String} {c c' : Claims} (h : credential? s p now authorization = some c)
    (h' : credential? s q now authorization = some c') : c = c' := by
  obtain ⟨value, rfl, hc⟩ := Option.bind_eq_some_iff.mp h
  obtain ⟨_, hsame, hc'⟩ := Option.bind_eq_some_iff.mp h'
  cases hsame
  split at hc
  · cases hc
  · next token htoken =>
      rw [htoken] at hc'
      have hfirst := stated?_of_verify (Result.toOption_eq_some.mp hc)
      have hsecond := stated?_of_verify (Result.toOption_eq_some.mp hc')
      exact Option.some.inj (hfirst.symm.trans hsecond)

/-- Nothing is said of a caller, or an access token is presented. -/
def IsLetIn (s : Setup) (p : Platform) (now : Moment) (authorization : Option String) : Prop :=
  authorization = none ∨ (credential? s p now authorization).isSome = true

/-- If the presented token is refused, then for a fault of its own and not for want of keys. -/
def IsDecided (s : Setup) (p : Platform) (now : Moment) (authorization : Option String) : Prop :=
  ∀ value token f, authorization = some value → presented value = .ok token →
    Token.verify s.scheme (p.findKey s now) s.issuers now.seconds .access token = .error f →
      ∃ fault, f = .token fault

theorem isDecided_of_isLetIn {s : Setup} {p : Platform} {now : Moment}
    {authorization : Option String} (h : IsLetIn s p now authorization) :
    IsDecided s p now authorization := by
  rintro value token f rfl htoken hverify
  have hnobody : credential? s p now (some value) = none := by
    rw [credential?_of_presented htoken, hverify]
    rfl
  rcases h with h | h
  · cases h
  · rw [hnobody] at h
    cases h

theorem isDecided_of_isAvailable {s : Setup} {p : Platform} {now : Moment}
    (h : p.IsAvailable s now) (authorization : Option String) :
    IsDecided s p now authorization := fun _ _ _ _ _ hverify => token_of_refused h hverify

theorem isDecided_of_published {s : Setup} {p : Platform} (h : p.source = .published)
    (now : Moment) (authorization : Option String) : IsDecided s p now authorization :=
  isDecided_of_isAvailable (isAvailable_of_published h now) authorization

/-- What the platform signs with is found as it is published, as it always is where keys are looked
up among the published ones. -/
def KnowsOwnKey (s : Setup) (p : Platform) (now : Moment) : Prop :=
  p.findKey s now s.issuer.kid = s.keys.find s.issuer.kid

theorem knowsOwnKey_of_published {s : Setup} {p : Platform} (h : p.source = .published)
    (now : Moment) : p.KnowsOwnKey s now := by
  rw [KnowsOwnKey, findKey, h]
  rfl

/-- The platform signed these claims and accepts the token now, if it finds its own key. -/
structure Issued (s : Setup) (now : Moment) (c : Claims) (token : String) : Prop where
  signed : s.issuer.sign s.scheme c = .ok token
  named : s.issuer.kid ≠ ""
  size : token.utf8ByteSize ≤ mostTokenBytes
  key : ∃ key, s.keys.find s.issuer.kid = .ok key ∧ s.issuer.SignsFor s.scheme key
  userId : IsInt64 c.userId
  expiry : IsInt64 c.expiry
  nonneg : 0 ≤ c.expiry
  counts : Counts now.seconds c.expiry
  issuer : c.issuer = s.issuers.of c.kind

namespace Issued
variable {s : Setup} {now : Moment} {c : Claims} {token : String}

theorem presented (h : Issued s now c token) : presented ("Bearer " ++ token) = .ok token :=
  presented_of_sign h.signed h.size

theorem verify_find (h : Issued s now c token) {find : String → Except Failure PublicKey}
    (hknown : find s.issuer.kid = s.keys.find s.issuer.kid) :
    Token.verify s.scheme find s.issuers now.seconds c.kind token = .ok c := by
  obtain ⟨key, hfind, hkey⟩ := h.key
  exact verify_of_sign h.signed h.named h.size (hknown.trans hfind) hkey h.userId h.expiry h.nonneg
    h.counts h.issuer

theorem verify (h : Issued s now c token) :
    Token.verify s.scheme s.keys.find s.issuers now.seconds c.kind token = .ok c :=
  h.verify_find rfl

theorem credential? (h : Issued s now c token) (hkind : c.kind = .access) {p : Platform}
    (hknown : p.KnowsOwnKey s now) :
    credential? s p now (some ("Bearer " ++ token)) = some c := by
  have hverify := h.verify_find hknown
  rw [hkind] at hverify
  rw [credential?_of_presented h.presented, hverify]
  rfl

end Issued

/-! ## A platform with the third of the sample keys -/

section Sealed
open Crypto Settings.Sample

def sealedIssuer : Issuer := ⟨"test-key-03", thirdDer, sampleIssuers, 900, 3600, 604800⟩

/-- The third key as it is published. -/
def sealedKey : PublicKey where
  keyType := "RSA"
  kid := "test-key-03"
  purpose := "sig"
  algorithm := "RS256"
  modulus := Rsa.encodeComponent (Rsa.bytes thirdPair.modulus)
  exponent := Rsa.encodeComponent (Rsa.bytes thirdPair.publicExponent)

def sealedSetup : Setup where
  __ := bareSetup
  scheme := Rsa.scheme
  issuer := sealedIssuer
  keys := ⟨[sealedKey]⟩

theorem signsFor_sealedKey : sealedIssuer.SignsFor Rsa.scheme sealedKey where
  keyType := rfl
  keyAlgorithm := rfl
  accepts := by
    refine ⟨_, _, decodeComponents_encode _ _, fun message signature hsign => ?_⟩
    obtain ⟨signature', hsign', hcheck⟩ := signs_and_checks_third message
    obtain rfl : signature = signature' := Option.some.inj (hsign.symm.trans hsign')
    exact hcheck

/-- The token that the platform signs for some claims. -/
@[irreducible]
def sealedText (c : Claims) : String := ((sealedIssuer.sign Rsa.scheme c).toOption).getD ""

theorem sign_sealedText (c : Claims) : sealedIssuer.sign Rsa.scheme c = .ok (sealedText c) := by
  obtain ⟨signature, hsign, -⟩ := signs_and_checks_third (Text.utf8 (sealedIssuer.signingInput c))
  rw [sealedText, Issuer.sign_of_signature hsign]
  rfl

theorem utf8ByteSize_sealedText_le {c : Claims} (h : c.toDoc.print.utf8ByteSize ≤ 400) :
    (sealedText c).utf8ByteSize ≤ mostTokenBytes := by
  obtain ⟨signature, hsign, htoken⟩ := Issuer.sign_eq_ok (sign_sealedText c)
  have hheader : (Header.toDoc ⟨sealedIssuer.kid, algorithm⟩).print.utf8ByteSize ≤ 100 := by
    decide +kernel
  have hlength : signature.length = Rsa.byteLength thirdPair.modulus :=
    Rsa.length_of_sign read_thirdPrivate.2 hsign
  have hbytes : Rsa.byteLength thirdPair.modulus = 256 := by decide +kernel
  have hsize := utf8ByteSize_token sealedIssuer c signature
  rw [htoken, hsize, hlength, hbytes, mostTokenBytes]
  omega

/-- However passwords are hashed, the platform accepts what it sealed, if it is not too long. -/
theorem issued_sealedText (core : Crypto.Bcrypt.Core) {now : Moment} {c : Claims}
    (hclaims : c.toDoc.print.utf8ByteSize ≤ 400) (huserId : IsInt64 c.userId)
    (hexpiry : IsInt64 c.expiry) (hnonneg : 0 ≤ c.expiry) (hcounts : Counts now.seconds c.expiry)
    (hissuer : c.issuer = sampleIssuers.of c.kind) :
    Issued { sealedSetup with hashCore := core } now c (sealedText c) where
  signed := sign_sealedText c
  named := (by decide : "test-key-03" ≠ "")
  size := utf8ByteSize_sealedText_le hclaims
  key := ⟨sealedKey, rfl, signsFor_sealedKey⟩
  userId := huserId
  expiry := hexpiry
  nonneg := hnonneg
  counts := hcounts
  issuer := hissuer

/-- An access token of user 1, a borrower. -/
def sealedToken : String := sealedText (sampleUser 1 .borrower)

theorem issued_sealedToken :
    Issued sealedSetup (clock 1) (sampleUser 1 .borrower) sealedToken := by
  have hclaims : (sampleUser 1 .borrower).toDoc.print.utf8ByteSize ≤ 400 := by decide +kernel
  have huserId : IsInt64 (sampleUser 1 .borrower).userId := by unfold IsInt64; decide
  have hexpiry : IsInt64 (sampleUser 1 .borrower).expiry := by unfold IsInt64; decide
  exact issued_sealedText sealedSetup.hashCore hclaims huserId hexpiry (by decide) (by decide) rfl

end Sealed

end Crowdlending.Platform
