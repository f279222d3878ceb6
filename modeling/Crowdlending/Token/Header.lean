import Crowdlending.Codec.Base64
import Crowdlending.Json.Printer
import Crowdlending.Json.Reader
import Crowdlending.Json.Shape
import Crowdlending.Text.Blank

/-!
# Token headers

A token is three base64url parts with points between them: a header, claims
and a signature. The header is first looked at for the algorithm and the key;
before the signature is checked, every field that it may have must be well
typed.
-/
namespace Crowdlending.Token
open Text Json Codec

def mostTokenBytes : Nat := 8192
def algorithm : String := "RS256"

inductive HeaderFault where
  | tooLarge
  | malformed
  | missingKid
deriving Repr, DecidableEq

structure Header where
  kid : String
  algorithm : String
deriving Repr, DecidableEq

/-- The three parts of a token. -/
structure Parts where
  header : List Char
  claims : List Char
  signature : List Char
deriving Repr, DecidableEq

def Parts.ofText? (token : String) : Option Parts :=
  match cut '.' token.toList with
  | [h, c, s] => some ⟨h, c, s⟩
  | _ => none

/-- The bytes that are signed. -/
def Parts.signedBytes (p : Parts) : List UInt8 :=
  (String.ofList (p.header ++ '.' :: p.claims)).toUTF8.toList

namespace Header

def peekFields : List Field :=
  [.defaulted "kid" (Doc.asOption Doc.asText), .defaulted "alg" Doc.asText]

def ofDoc (d : Doc) : Except Fault (Option String × String) := do
  let found : Found ← Field.collect peekFields d
  .ok (← found.valueD "kid" (Doc.asOption Doc.asText) none, ← found.valueD "alg" Doc.asText "")

/-- Key and algorithm as the token states them, before anything is verified. -/
def peek (token : String) : Except HeaderFault Header :=
  if mostTokenBytes < token.utf8ByteSize then .error .tooLarge
  else match Parts.ofText? token with
    | none => .error .malformed
    | some p => match Base64.decode .urlSafe p.header with
      | none => .error .malformed
      | some bytes => match ofDoc (readWhole bytes) with
        | .error _ => .error .malformed
        | .ok (none, _) => .error .missingKid
        | .ok (some kid, alg) => if kid.isEmpty then .error .missingKid else .ok ⟨kid, alg⟩

def signatureAlgorithms : List String :=
  ["HS256", "HS384", "HS512", "ES256", "ES384", "RS256", "RS384", "RS512", "PS256", "PS384",
    "PS512", "EdDSA"]

def keyAlgorithms : List String := signatureAlgorithms ++ ["RSA1_5", "RSA-OAEP", "RSA-OAEP-256"]
def curves : List String := ["P-256", "P-384", "P-521", "Ed25519"]

def oneOf (names : List String) : Doc → Except Fault String :=
  Doc.asName fun s => if names.contains s then some s else none

/-- The combinations of members that make up a key of some type. -/
def keyShapes : List (List Field) :=
  [[.required "kty" (oneOf ["EC"]), .required "crv" (oneOf curves), .required "x" Doc.asText,
      .required "y" Doc.asText],
    [.required "kty" (oneOf ["RSA"]), .required "n" Doc.asText, .required "e" Doc.asText],
    [.required "kty" (oneOf ["oct"]), .required "k" Doc.asText],
    [.required "kty" (oneOf ["OKP"]), .required "crv" (oneOf curves), .required "x" Doc.asText]]

def keyCommon : List Field :=
  [.defaulted "use" (Doc.asOption Doc.asText),
    .defaulted "key_ops" (Doc.asOption (Doc.asList Doc.asText)),
    .defaulted "alg" (Doc.asOption (oneOf keyAlgorithms)),
    .defaulted "kid" (Doc.asOption Doc.asText), .defaulted "x5u" (Doc.asOption Doc.asText),
    .defaulted "x5c" (Doc.asOption (Doc.asList Doc.asText)),
    .defaulted "x5t" (Doc.asOption Doc.asText), .defaulted "x5t#S256" (Doc.asOption Doc.asText)]

/-- A key inside a header: a record with the members of some type of key. -/
def asKey : Doc → Except Fault Unit
  | .record members =>
      match Field.collect keyCommon (.record members) with
      | .error e => .error e
      | .ok _ =>
          if keyShapes.any fun s => (Field.collect s (.record members)).isOk then .ok ()
          else .error .shape
  | d => .error d.mismatch

def optionalText (name : String) : Field := .defaulted name (Doc.asOption Doc.asText)

def fullFields : List Field :=
  [optionalText "typ", .required "alg" (oneOf signatureAlgorithms), optionalText "cty",
    optionalText "jku", .defaulted "jwk" (Doc.asOption asKey), optionalText "kid",
    optionalText "x5u", .defaulted "x5c" (Doc.asOption (Doc.asList Doc.asText)),
    optionalText "x5t", optionalText "x5t#S256"]

/-- Every field that the header has is well typed, and it is written as a record. -/
def isWellTyped : Doc → Bool
  | .record members => (Field.collect fullFields (.record members)).isOk
  | _ => false

def toDoc (h : Header) : Doc :=
  .ofMembers [("typ", .ofText "JWT"), ("alg", .ofText h.algorithm), ("kid", .ofText h.kid)]

end Header

end Crowdlending.Token
