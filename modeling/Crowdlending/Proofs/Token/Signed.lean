import Crowdlending.Proofs.Codec.Base64
import Crowdlending.Proofs.Decimal.Written
import Crowdlending.Proofs.Json.Written
import Crowdlending.Proofs.Text.Cut
import Crowdlending.Proofs.Token.Verified
import Crowdlending.Token.Issuer

/-!
# What a signed token is

A token that is issued has three parts, for no symbol of base 64 is a point, and its
second part states just the claims that were signed, whatever characters their texts
hold. So it verifies with these claims, wherever its key is found and its signature
is accepted.
-/
namespace Crowdlending.Token
open Json Codec Crypto Text Account

/-! ## Claims in their written form -/

def IsInt64 (n : Int) : Prop := -(Number.maxI64 : Int) - 1 ≤ n ∧ n ≤ Number.maxI64

theorem toInt?_ofInt (n : Int) : (Numeral.ofInt n).toInt? = some n := by
  have hminus : ¬(n < 0 ∧ n.natAbs = 0) := by omega
  simp only [Numeral.toInt?, Numeral.ofInt, decide_eq_true_eq, true_and, hminus, not_false_eq_true,
    if_true, Option.some.injEq]
  split <;> omega

theorem asInt64_int {n : Int} (h : IsInt64 n) : Doc.asInt64 (.int n) = .ok n := by
  simp only [Doc.asInt64, Doc.asInt, Doc.int, toInt?_ofInt]
  exact if_pos h

theorem asInt64_eq_error {n : Int} (h : ¬IsInt64 n) :
    ∃ f, Doc.asInt64 (.int n) = .error f := by
  simp only [Doc.asInt64, Doc.asInt, Doc.int, toInt?_ofInt]
  exact ⟨_, if_neg h⟩

theorem asRole_number (r : Role) : asRole (.int r.number) = .ok r := by
  cases r <;> rfl

theorem asKind_number (k : Kind) : asKind (.int k.number) = .ok k := by
  cases k <;> rfl

namespace Claims
variable {c : Claims}

theorem isPlain_toDoc (c : Claims) : c.toDoc.IsPlain := by
  refine .record fun m hm => ?_
  simp only [List.mem_cons, List.not_mem_nil, or_false] at hm
  rcases hm with rfl | rfl | rfl | rfl | rfl | rfl | rfl | rfl | rfl | rfl
  · exact .int _
  · exact .text _
  · exact .text _
  · exact .text _
  · exact .int _
  · exact .int _
  · exact .bool _
  · exact .text _
  · exact .text _
  · exact .int _

theorem ofDoc_toDoc (hid : IsInt64 c.userId) (hexpiry : IsInt64 c.expiry) :
    ofDoc c.toDoc = .ok c := by
  simp [ofDoc, toDoc, fields, Doc.ofMembers, Field.collect, Field.byName, Field.required,
    Found.value, asInt64_int hid, asInt64_int hexpiry, asRole_number, asKind_number, Doc.ofText,
    Doc.asText, Doc.asBool, List.lookup, Except.map, bind, Except.bind]

/-- Claims with a number out of range are not read at all. -/
theorem isInt64_of_ofDoc {c' : Claims} (h : ofDoc c.toDoc = .ok c') :
    IsInt64 c.userId ∧ IsInt64 c.expiry := by
  by_cases hid : IsInt64 c.userId
  · by_cases hexpiry : IsInt64 c.expiry
    · exact ⟨hid, hexpiry⟩
    · obtain ⟨f, hf⟩ := asInt64_eq_error hexpiry
      simp [ofDoc, toDoc, fields, Doc.ofMembers, Field.collect, Field.byName, Field.required,
        asInt64_int hid, hf, asRole_number, asKind_number, Doc.ofText, Doc.asText, Doc.asBool,
        List.lookup, Except.map, bind, Except.bind] at h
  · obtain ⟨f, hf⟩ := asInt64_eq_error hid
    simp [ofDoc, toDoc, fields, Doc.ofMembers, Field.collect, Field.byName, Field.required, hf,
      Except.map, bind, Except.bind] at h

theorem eq_of_ofDoc {c' : Claims} (h : ofDoc c.toDoc = .ok c') : c' = c := by
  obtain ⟨hid, hexpiry⟩ := isInt64_of_ofDoc h
  rw [ofDoc_toDoc hid hexpiry] at h
  cases h
  rfl

theorem readAudience_toDoc (c : Claims) : readAudience c.toDoc = .ok false := by
  simp [readAudience, toDoc, Doc.ofMembers]

end Claims

namespace Header

theorem isPlain_toDoc (h : Header) : h.toDoc.IsPlain := by
  refine .record fun m hm => ?_
  simp only [List.mem_cons, List.not_mem_nil, or_false] at hm
  rcases hm with rfl | rfl | rfl <;> exact .text _

theorem ofDoc_toDoc (h : Header) : ofDoc h.toDoc = .ok (some h.kid, h.algorithm) := by
  simp [ofDoc, toDoc, peekFields, Doc.ofMembers, Field.collect, Field.byName, Field.defaulted,
    Found.valueD, Doc.ofText, Doc.asText, Doc.asOption, List.lookup, Except.map, bind, Except.bind,
    Doc.isWhole]

theorem isWellTyped_toDoc (kid : String) : isWellTyped (toDoc ⟨kid, Token.algorithm⟩) = true := by
  have halgorithm :
      oneOf signatureAlgorithms (.text (some Token.algorithm)) = .ok Token.algorithm := rfl
  simp [isWellTyped, toDoc, fullFields, optionalText, Doc.ofMembers, Field.collect, Field.byName,
    Field.required, Field.defaulted, Doc.ofText, Doc.asText, Doc.asOption, List.lookup, Except.map,
    halgorithm, Except.isOk, Except.toBool]

end Header

/-! ## Signed tokens -/

namespace Issuer

/-- The parts of the token that this signature completes. -/
def parts (i : Issuer) (c : Claims) (signature : List UInt8) : Parts where
  header := Base64.encode .urlSafe (utf8 (Header.toDoc ⟨i.kid, algorithm⟩).print)
  claims := Base64.encode .urlSafe (utf8 c.toDoc.print)
  signature := Base64.encode .urlSafe signature

theorem toList_signingInput (i : Issuer) (c : Claims) (signature : List UInt8) :
    (i.signingInput c).toList =
      (i.parts c signature).header ++ '.' :: (i.parts c signature).claims := by
  have hpoint : ".".toList = ['.'] := by decide +kernel
  simp only [signingInput, Base64.encodeText, String.toList_append, String.toList_ofList, hpoint,
    List.append_assoc, List.singleton_append]
  rfl

theorem sign_of_signature {scheme : SignatureScheme} {i : Issuer} {c : Claims}
    {signature : List UInt8} (h : scheme.sign i.key (utf8 (i.signingInput c)) = some signature) :
    i.sign scheme c =
      .ok (i.signingInput c ++ "." ++ Base64.encodeText .urlSafe signature) := by
  simp only [sign, show (i.signingInput c).toUTF8.toList = utf8 (i.signingInput c) from rfl, h]

/-- The claims are signed alike whatever lifetimes and names go with the key. -/
theorem sign_congr {scheme : SignatureScheme} {i j : Issuer} {c : Claims} (hkid : i.kid = j.kid)
    (hkey : i.key = j.key) : i.sign scheme c = j.sign scheme c := by
  simp only [sign, signingInput, hkid, hkey]

/-- A token that is issued is what is signed, and the signature of it. -/
theorem sign_eq_ok {scheme : SignatureScheme} {i : Issuer} {c : Claims} {token : String}
    (h : i.sign scheme c = .ok token) :
    ∃ signature, scheme.sign i.key (utf8 (i.signingInput c)) = some signature ∧
      token = i.signingInput c ++ "." ++ Base64.encodeText .urlSafe signature := by
  simp only [sign] at h
  split at h
  · next signature hsignature => cases h; exact ⟨signature, hsignature, rfl⟩
  · cases h

theorem ofText?_token (i : Issuer) (c : Claims) (signature : List UInt8) :
    Parts.ofText? (i.signingInput c ++ "." ++ Base64.encodeText .urlSafe signature) =
      some (i.parts c signature) := by
  have hpoint : ".".toList = ['.'] := by decide +kernel
  have hfree : ∀ bytes, '.' ∉ Base64.encode .urlSafe bytes := fun bytes hmem =>
    absurd (Base64.mem_symbols_of_mem_encode hmem) (by decide +kernel)
  have hheader : '.' ∉ (i.parts c signature).header := hfree _
  have hclaims : '.' ∉ (i.parts c signature).claims := hfree _
  rw [Parts.ofText?, String.toList_append, String.toList_append,
    toList_signingInput i c signature, hpoint, Base64.encodeText, String.toList_ofList,
    List.append_assoc, List.append_assoc, List.singleton_append, List.cons_append,
    cut_append hheader, cut_append hclaims, cut_of_not_mem (hfree _)]
  rfl

theorem signedBytes_parts (i : Issuer) (c : Claims) (signature : List UInt8) :
    (i.parts c signature).signedBytes = utf8 (i.signingInput c) := by
  rw [Parts.signedBytes, ← toList_signingInput, String.ofList_toList]
  rfl

end Issuer

section Signed
variable {scheme : SignatureScheme} {i : Issuer} {c : Claims} {token : String}

/-- An issued token states the claims that were signed, if they can be read at all. -/
theorem stated?_of_sign (h : i.sign scheme c = .ok token) :
    stated? token = (Claims.ofDoc c.toDoc).toOption := by
  obtain ⟨signature, -, rfl⟩ := Issuer.sign_eq_ok h
  rw [stated?, Issuer.ofText?_token, Option.bind_some, Issuer.parts, Base64.decode_encode,
    Option.bind_some, readWhole_print c.isPlain_toDoc]

theorem eq_of_stated?_sign (h : i.sign scheme c = .ok token) {c' : Claims}
    (hstated : stated? token = some c') : c' = c := by
  rw [stated?_of_sign h] at hstated
  cases hread : Claims.ofDoc c.toDoc with
  | error f => rw [hread] at hstated; cases hstated
  | ok read =>
      rw [hread] at hstated
      cases hstated
      exact Claims.eq_of_ofDoc hread

/-- An issued token can be looked at, unless it is too large: it names the issuer's key and the
algorithm. -/
theorem peek_of_sign (h : i.sign scheme c = .ok token) (hkid : i.kid ≠ "")
    (hsize : token.utf8ByteSize ≤ mostTokenBytes) : Header.peek token = .ok ⟨i.kid, algorithm⟩ := by
  obtain ⟨signature, -, rfl⟩ := Issuer.sign_eq_ok h
  rw [Header.peek, if_neg (Nat.not_lt.mpr hsize), Issuer.ofText?_token]
  simp only [Issuer.parts, Base64.decode_encode, readWhole_print (Header.isPlain_toDoc _),
    Header.ofDoc_toDoc]
  rw [if_neg (by simpa using hkid)]

theorem requestedKey_of_sign (h : i.sign scheme c = .ok token) (hkid : i.kid ≠ "")
    (hsize : token.utf8ByteSize ≤ mostTokenBytes) : requestedKey token = .ok i.kid := by
  rw [requestedKey, peek_of_sign h hkid hsize]
  exact if_pos rfl

theorem decodeComponents_encode (modulus exponent : List UInt8) :
    Rsa.decodeComponents (Rsa.encodeComponent modulus) (Rsa.encodeComponent exponent) =
      .ok (modulus, exponent) := by
  simp only [Rsa.decodeComponents, Rsa.decodeComponent, Rsa.encodeComponent,
    Base64.decodeText_encodeText]

/-- The key accepts whatever the issuer signs. -/
structure Issuer.SignsFor (scheme : SignatureScheme) (i : Issuer) (key : PublicKey) : Prop where
  keyType : key.keyType = "RSA"
  keyAlgorithm : key.algorithm = algorithm
  accepts : ∃ modulus exponent,
    Rsa.decodeComponents key.modulus key.exponent = .ok (modulus, exponent) ∧
      ∀ message signature, scheme.sign i.key message = some signature →
        scheme.check modulus exponent message signature = true

/-- An issued token is signed under every key that accepts what its issuer signs. -/
theorem signedUnder_of_sign (h : i.sign scheme c = .ok token) {key : PublicKey}
    (hkey : i.SignsFor scheme key) :
    ∃ parts, SignedUnder scheme key token parts (utf8 c.toDoc.print) := by
  obtain ⟨signature, hsignature, rfl⟩ := Issuer.sign_eq_ok h
  obtain ⟨modulus, exponent, hcomponents, hcheck⟩ := hkey.accepts
  refine ⟨i.parts c signature, hkey.keyType, hkey.keyAlgorithm, Issuer.ofText?_token ..,
    ⟨_, Base64.decode_encode .., ?_⟩,
    ⟨modulus, exponent, signature, hcomponents, Base64.decode_encode .., ?_⟩,
    Base64.decode_encode ..⟩
  · rw [readWhole_print (Header.isPlain_toDoc _), Header.isWellTyped_toDoc]
  · rw [Issuer.signedBytes_parts]
    exact hcheck _ _ hsignature

/-- A token whose key is found and accepts it is judged by the claims that were signed. -/
theorem verify_eq_judge (h : i.sign scheme c = .ok token) (hkid : i.kid ≠ "")
    (hsize : token.utf8ByteSize ≤ mostTokenBytes) {find : String → Except Failure PublicKey}
    {key : PublicKey} (hfind : find i.kid = .ok key) (hkey : i.SignsFor scheme key)
    (issuers : Issuers) (now : Int) (expected : Kind) :
    verify scheme find issuers now expected token =
      (judge issuers now expected c.toDoc).mapError .token := by
  obtain ⟨parts, hsigned⟩ := signedUnder_of_sign h hkey
  have hbyKey := verifyByKey_of_signedUnder hsigned issuers now expected
  rw [readWhole_print c.isPlain_toDoc] at hbyKey
  simp only [verify, requestedKey_of_sign h hkid hsize, hfind, hbyKey]
  cases judge issuers now expected c.toDoc <;> rfl

/-- Claims that count are judged by their issuer and their kind alone: they pass as they were
written, for what is written is read back as itself. -/
theorem judge_toDoc (hid : IsInt64 c.userId) (hexpiry : IsInt64 c.expiry) {issuers : Issuers}
    {now : Int} (hnonneg : 0 ≤ c.expiry) (hnow : Counts now c.expiry) (expected : Kind) :
    judge issuers now expected c.toDoc =
      if c.issuer ≠ issuers.of expected then .error .issuer
      else if c.kind ≠ expected then .error .kind
      else .ok c := by
  unfold judge
  rw [Claims.ofDoc_toDoc hid hexpiry, Claims.readAudience_toDoc]
  simp only [bind, Except.bind, Int.not_lt.mpr hnonneg, not_true_eq_false, hnow, if_false,
    Bool.false_eq_true]
  split
  · rfl
  · split <;> rfl

/-- A token whose key is found and accepts it verifies with the claims that were signed, while
they count. -/
theorem verify_of_sign (h : i.sign scheme c = .ok token) (hkid : i.kid ≠ "")
    (hsize : token.utf8ByteSize ≤ mostTokenBytes) {find : String → Except Failure PublicKey}
    {key : PublicKey} (hfind : find i.kid = .ok key) (hkey : i.SignsFor scheme key)
    (hid : IsInt64 c.userId) (hexpiry : IsInt64 c.expiry) {issuers : Issuers} {now : Int}
    (hnonneg : 0 ≤ c.expiry) (hnow : Counts now c.expiry)
    (hissuer : c.issuer = issuers.of c.kind) :
    verify scheme find issuers now c.kind token = .ok c := by
  rw [verify_eq_judge h hkid hsize hfind hkey, judge_toDoc hid hexpiry hnonneg hnow,
    if_neg (not_not.mpr hissuer), if_neg (not_not.mpr rfl)]
  rfl

theorem shown_of_mem_symbols {a : Char} (h : a ∈ Base64.Alphabet.urlSafe.symbols) :
    a.toNat < 128 ∧ isShown a = true ∧ isBlank a = false := by
  have hall : (Base64.Alphabet.urlSafe.symbols.all fun a =>
      decide (a.toNat < 128) && isShown a && !isBlank a) = true := by decide +kernel
  simpa [and_assoc] using List.all_eq_true.mp hall a h

/-- Every character of an issued token may stand in a header. -/
theorem shown_of_mem_token (i : Issuer) (c : Claims) (signature : List UInt8) {a : Char}
    (h : a ∈ (i.signingInput c ++ "." ++ Base64.encodeText .urlSafe signature).toList) :
    a.toNat < 128 ∧ isShown a = true ∧ isBlank a = false := by
  have hpoint : ".".toList = ['.'] := by decide +kernel
  have hsymbol : ∀ {bytes}, a ∈ Base64.encode .urlSafe bytes →
      a.toNat < 128 ∧ isShown a = true ∧ isBlank a = false :=
    fun ha => shown_of_mem_symbols (Base64.mem_symbols_of_mem_encode ha)
  rw [String.toList_append, String.toList_append, Issuer.toList_signingInput i c signature, hpoint,
    Base64.encodeText, String.toList_ofList] at h
  simp only [List.mem_append, List.mem_cons, List.not_mem_nil, or_false] at h
  rcases h with ((h | rfl | h) | rfl) | h
  · exact hsymbol h
  · decide
  · exact hsymbol h
  · decide
  · exact hsymbol h

/-- How large an issued token is: a third more than what is written in its parts. -/
theorem utf8ByteSize_token (i : Issuer) (c : Claims) (signature : List UInt8) :
    (i.signingInput c ++ "." ++ Base64.encodeText .urlSafe signature).utf8ByteSize =
      (4 * (Header.toDoc ⟨i.kid, algorithm⟩).print.utf8ByteSize + 2) / 3 +
        (4 * c.toDoc.print.utf8ByteSize + 2) / 3 + (4 * signature.length + 2) / 3 + 2 := by
  have hpoint : ".".toList = ['.'] := by decide +kernel
  have hascii := utf8ByteSize_of_ascii fun a ha =>
    (shown_of_mem_token i c signature ha).1
  rw [String.ofList_toList] at hascii
  rw [hascii, String.toList_append, String.toList_append, Issuer.toList_signingInput i c signature,
    hpoint, Base64.encodeText, String.toList_ofList, utf8ByteSize_eq, utf8ByteSize_eq]
  simp only [List.length_append, List.length_cons, List.length_nil, Issuer.parts,
    Base64.length_encode]
  omega

/-- There is no white space around an issued token. -/
theorem trim_of_sign (h : i.sign scheme c = .ok token) : trim token = token ∧ token ≠ "" := by
  obtain ⟨signature, -, rfl⟩ := Issuer.sign_eq_ok h
  have htrim := trimChars_of_not_blank fun a ha => (shown_of_mem_token i c signature ha).2.2
  refine ⟨?_, by simp⟩
  rw [trim, htrim, String.ofList_toList]

/-- An issued token can be presented, unless it is too large. -/
theorem presented_of_sign (h : i.sign scheme c = .ok token)
    (hsize : token.utf8ByteSize ≤ mostTokenBytes) : presented ("Bearer " ++ token) = .ok token := by
  obtain ⟨signature, -, rfl⟩ := Issuer.sign_eq_ok h
  have hshown := @shown_of_mem_token i c signature
  have hbearer : "Bearer ".toList = ['B', 'e', 'a', 'r', 'e', 'r', ' '] := by decide +kernel
  have hpoint : ".".toList = ['.'] := by decide +kernel
  have hsome : (i.signingInput c ++ "." ++ Base64.encodeText .urlSafe signature).toList ≠ [] := by
    simp [String.toList_append, hpoint]
  generalize i.signingInput c ++ "." ++ Base64.encodeText .urlSafe signature = token at *
  have hall : ("Bearer " ++ token).toList.all isShown = true := by
    rw [String.toList_append, hbearer, List.all_append, Bool.and_eq_true]
    exact ⟨by decide, List.all_eq_true.mpr fun a ha => (hshown ha).2.1⟩
  have hcut : cutFirst ' ' ("Bearer " ++ token).toList =
      some (['B', 'e', 'a', 'r', 'e', 'r'], token.toList) := by
    rw [String.toList_append, hbearer]
    rfl
  have hscheme : lowerAscii (String.ofList ['B', 'e', 'a', 'r', 'e', 'r']) = "bearer" := by
    decide +kernel
  have htrim : trimChars token.toList = token.toList :=
    trimChars_of_not_blank fun a ha => (hshown ha).2.2
  rw [presented, if_pos hall]
  simp only [bearer?, hcut, if_pos hscheme, htrim]
  rw [if_neg (by simpa using hsome), String.ofList_toList]
  exact if_neg (Nat.not_lt.mpr hsize)

end Signed

end Crowdlending.Token
