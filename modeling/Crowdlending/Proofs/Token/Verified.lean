import Crowdlending.Proofs.Result
import Crowdlending.Token.Bearer
import Crowdlending.Token.Verifier

/-!
# What a verified token is

A token that is accepted passed every check on the way: its header asks for a key,
the key is found and is an RSA key, the signature over the first two parts is valid
under it, and the second part holds the claims that are given out. Those name the
issuer and the kind that were expected and have not expired.
-/
namespace Crowdlending.Token
open Json Codec Crypto Text

/-- The claims that a token states in its second part, whether or not they are signed for. -/
def stated? (token : String) : Option Claims :=
  (Parts.ofText? token).bind fun parts =>
    (Base64.decode .urlSafe parts.claims).bind fun payload =>
      (Claims.ofDoc (readWhole payload)).toOption

/-- A token in three parts that is signed under the key, with the bytes of its claims. -/
structure SignedUnder (scheme : SignatureScheme) (key : PublicKey) (token : String)
    (parts : Parts) (payload : List UInt8) : Prop where
  keyType : key.keyType = "RSA"
  keyAlgorithm : key.algorithm = algorithm
  threeParts : Parts.ofText? token = some parts
  header : ∃ bytes, Base64.decode .urlSafe parts.header = some bytes ∧
    Header.isWellTyped (readWhole bytes) = true
  signature : ∃ modulus exponent bytes,
    Rsa.decodeComponents key.modulus key.exponent = .ok (modulus, exponent) ∧
      Base64.decode .urlSafe parts.signature = some bytes ∧
      scheme.check modulus exponent parts.signedBytes bytes = true
  payload : Base64.decode .urlSafe parts.claims = some payload

section Verified
variable {scheme : SignatureScheme} {issuers : Issuers} {now : Int} {expected : Kind}
  {token : String} {c : Claims}

theorem judge_eq_ok {payload : Doc} (h : judge issuers now expected payload = .ok c) :
    Claims.ofDoc payload = .ok c ∧ readAudience payload = .ok false ∧ ¬c.expiry < 0 ∧
      Counts now c.expiry ∧ c.issuer = issuers.of expected ∧ c.kind = expected := by
  unfold judge at h
  cases hc : Claims.ofDoc payload with
  | error e => rw [hc] at h; cases h
  | ok c' =>
      rw [hc] at h
      obtain ⟨_, hc, h⟩ := Result.bind_eq_ok.mp h
      cases hc
      obtain ⟨audience, haudience, h⟩ := Result.bind_eq_ok.mp h
      simp only [Result.throw_if_eq_ok] at h
      obtain ⟨hexpiry, hnow, hissuer, hnone, hkind, h⟩ := h
      cases h
      have hfalse : audience = false := by simpa using hnone
      exact ⟨rfl, by rw [haudience, hfalse], hexpiry, Decidable.not_not.mp hnow,
        Decidable.not_not.mp hissuer, Decidable.not_not.mp hkind⟩

theorem verifyByKey_eq_ok {key : PublicKey}
    (h : verifyByKey scheme issuers now expected token key = .ok c) :
    ∃ parts payload, SignedUnder scheme key token parts payload ∧
      judge issuers now expected (readWhole payload) = .ok c := by
  unfold verifyByKey at h
  -- Each split is one check, in the order in which they are made; its other side is an error.
  simp only [Result.throw_if_eq_ok, not_or, Decidable.not_not] at h
  obtain ⟨⟨htype, halgorithm⟩, h⟩ := h
  split at h
  · next bytes hbytes =>
      obtain ⟨_, hsame, h⟩ := Result.bind_eq_ok.mp h
      cases hsame
      split at h
      · next parts hparts =>
          split at h
          · next header hheader =>
              simp only [Result.throw_if_eq_ok, Decidable.not_not] at h
              obtain ⟨htyped, h⟩ := h
              split at h
              · next signature hsignature =>
                  simp only [Result.throw_if_eq_ok, Decidable.not_not] at h
                  obtain ⟨hcheck, h⟩ := h
                  split at h
                  · next payload hpayload =>
                      exact ⟨parts, payload, ⟨htype, halgorithm, hparts, ⟨header, hheader, htyped⟩,
                        ⟨_, _, signature, hbytes, hsignature, hcheck⟩, hpayload⟩, h⟩
                  · cases h
              · cases h
          · cases h
      · cases h
  · obtain ⟨_, hsame, -⟩ := Result.bind_eq_ok.mp h
    cases hsame

/-- What is signed under a key verifies by it as it is judged. -/
theorem verifyByKey_of_signedUnder {key : PublicKey} {parts : Parts} {payload : List UInt8}
    (h : SignedUnder scheme key token parts payload) (issuers : Issuers) (now : Int)
    (expected : Kind) :
    verifyByKey scheme issuers now expected token key =
      judge issuers now expected (readWhole payload) := by
  obtain ⟨bytes, hheader, htyped⟩ := h.header
  obtain ⟨modulus, exponent, signature, hcomponents, hsignature, hcheck⟩ := h.signature
  simp [verifyByKey, h.keyType, h.keyAlgorithm, hcomponents, h.threeParts, hheader, htyped,
    hsignature, hcheck, h.payload, bind, Except.bind]

theorem verify_eq_ok {find : String → Except Failure PublicKey}
    (h : verify scheme find issuers now expected token = .ok c) :
    ∃ kid key, requestedKey token = .ok kid ∧ find kid = .ok key ∧
      verifyByKey scheme issuers now expected token key = .ok c := by
  unfold verify at h
  split at h
  · cases h
  · next kid hkid =>
      split at h
      · cases h
      · next key hkey =>
          split at h
          · cases h
          · next c' hc =>
              cases h
              exact ⟨kid, key, hkid, hkey, hc⟩

theorem kind_of_verify {find : String → Except Failure PublicKey}
    (h : verify scheme find issuers now expected token = .ok c) : c.kind = expected := by
  obtain ⟨kid, key, -, -, h⟩ := verify_eq_ok h
  obtain ⟨parts, payload, -, h⟩ := verifyByKey_eq_ok h
  exact (judge_eq_ok h).2.2.2.2.2

/-- A token verifies with the claims that it states. -/
theorem stated?_of_verify {find : String → Except Failure PublicKey}
    (h : verify scheme find issuers now expected token = .ok c) : stated? token = some c := by
  obtain ⟨kid, key, -, -, h⟩ := verify_eq_ok h
  obtain ⟨parts, payload, hsigned, h⟩ := verifyByKey_eq_ok h
  rw [stated?, hsigned.threeParts, Option.bind_some, hsigned.payload, Option.bind_some,
    (judge_eq_ok h).1]
  rfl

end Verified

/-! ## Presented tokens -/

theorem bearer?_eq_some {value token : String} (h : bearer? value = some token) :
    ∃ scheme rest, value.toList = scheme ++ ' ' :: rest ∧
      lowerAscii (String.ofList scheme) = "bearer" ∧ token = String.ofList (trimChars rest) ∧
      trimChars rest ≠ [] := by
  simp only [bearer?] at h
  split at h
  · cases h
  · next scheme rest hcut =>
      split at h
      · next hscheme =>
          split at h
          · cases h
          · next hempty =>
              cases h
              exact ⟨scheme, rest, (cutFirst_eq_some hcut).1, hscheme, rfl, by simpa using hempty⟩
      · cases h

/-- A value presents a token by naming the bearer scheme, in letters of either case, and after a
space the token, with or without white space around it. -/
theorem presented_eq_ok {value token : String} (h : presented value = .ok token) :
    token.utf8ByteSize ≤ mostTokenBytes ∧ ∃ scheme rest,
      value.toList = scheme ++ ' ' :: rest ∧ lowerAscii (String.ofList scheme) = "bearer" ∧
      token = String.ofList (trimChars rest) ∧ trimChars rest ≠ [] := by
  unfold presented at h
  split at h
  · cases h
  · next t ht =>
      split at h
      · cases h
      · next hsize =>
          cases h
          split at ht
          · exact ⟨Nat.not_lt.mp hsize, bearer?_eq_some ht⟩
          · cases ht

end Crowdlending.Token
