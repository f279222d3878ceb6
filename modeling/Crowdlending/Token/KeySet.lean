import Crowdlending.Json.Printer
import Crowdlending.Json.Reader
import Crowdlending.Json.Shape

/-!
# Key sets

The public keys by which tokens are verified, as a JSON document. Where two
keys of a set have one kid, the later one counts.
-/
namespace Crowdlending.Token
open Json

/-- An RSA public key; modulus and exponent are base64url texts. -/
structure PublicKey where
  keyType : String
  kid : String
  purpose : String
  algorithm : String
  modulus : String
  exponent : String
deriving Repr, DecidableEq

structure KeySet where
  keys : List PublicKey
deriving Repr, DecidableEq

namespace PublicKey

def fields : List Field :=
  [.required "kty" Doc.asText, .required "kid" Doc.asText, .required "use" Doc.asText,
    .required "alg" Doc.asText, .required "n" Doc.asText, .required "e" Doc.asText]

def ofDoc (d : Doc) : Except Fault PublicKey := do
  let found : Found ← Field.collect fields d
  .ok {
    keyType := ← found.value "kty" Doc.asText
    kid := ← found.value "kid" Doc.asText
    purpose := ← found.value "use" Doc.asText
    algorithm := ← found.value "alg" Doc.asText
    modulus := ← found.value "n" Doc.asText
    exponent := ← found.value "e" Doc.asText }

def toDoc (k : PublicKey) : Doc :=
  .ofMembers
    [("kty", .ofText k.keyType), ("kid", .ofText k.kid), ("use", .ofText k.purpose),
      ("alg", .ofText k.algorithm), ("n", .ofText k.modulus), ("e", .ofText k.exponent)]

end PublicKey

namespace KeySet

def ofDoc (d : Doc) : Except Fault KeySet := do
  let found : Found ← Field.collect [.required "keys" (Doc.asList PublicKey.ofDoc)] d
  .ok ⟨← found.value "keys" (Doc.asList PublicKey.ofDoc)⟩

def toDoc (s : KeySet) : Doc := .ofMembers [("keys", .list (s.keys.map PublicKey.toDoc))]

def find? (s : KeySet) (kid : String) : Option PublicKey :=
  s.keys.reverse.find? fun k => k.kid == kid

theorem kid_of_find? {s : KeySet} {kid : String} {k : PublicKey} (h : s.find? kid = some k) :
    k.kid = kid ∧ k ∈ s.keys := by
  refine ⟨by simpa using List.find?_some h, ?_⟩
  simpa using List.mem_of_find?_eq_some h

end KeySet

end Crowdlending.Token
