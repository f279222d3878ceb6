import Crowdlending.Crypto.Rsa
import Crowdlending.Failure
import Crowdlending.Token.Claims
import Crowdlending.Token.Header
import Crowdlending.Token.KeySet

/-!
# Verifying tokens

A token is taken apart, its algorithm and key are looked at, its signature is
checked, and only then are its claims read and judged. How keys are found and
how signatures are checked are parameters.
-/
namespace Crowdlending.Token
open Json Codec Crypto

/-- The issuers that tokens of each kind must name. -/
structure Issuers where
  access : String
  refresh : String
deriving Repr, DecidableEq

def Issuers.of (i : Issuers) : Kind → String
  | .access => i.access
  | .refresh => i.refresh

/-- Seconds for which a token still counts after its expiry. -/
def leeway : Int := 60

/-- Claims count until they expire and the leeway is over. Both times are numbers without a sign, so
none count while the clock has not passed the leeway itself. -/
def Counts (now expiry : Int) : Prop := leeway ≤ now ∧ now - leeway ≤ expiry

instance (now expiry : Int) : Decidable (Counts now expiry) :=
  inferInstanceAs (Decidable (leeway ≤ now ∧ now - leeway ≤ expiry))

/-- The key a token asks for, if it declares the one algorithm in use. -/
def requestedKey (token : String) : Except TokenFault String :=
  match Header.peek token with
  | .error _ => .error .malformed
  | .ok h => if h.algorithm = algorithm then .ok h.kid else .error .algorithm

mutual

/-- All texts are texts and all numbers are in range, to a depth that is still read. -/
def isSound : Nat → Doc → Bool
  | _, .text s => s.isSome
  | _, .number n => !n.isHuge
  | depth + 1, .list items => areSound depth items
  | depth + 1, .record members => membersSound depth members
  | 0, .list _ | 0, .record _ | _, .broken => false
  | _, _ => true

def areSound : Nat → List Doc → Bool
  | _, [] => true
  | depth, d :: r => isSound depth d && areSound depth r

def membersSound : Nat → List (Option String × Doc) → Bool
  | _, [] => true
  | depth, (k, d) :: r => k.isSome && isSound depth d && membersSound depth r

end

/-- A number that is not wanted is left at its end, unless its exponent is out of range before. -/
def isReadThrough (n : Numeral) : Bool := n.digits == 0 || n.exponent / 10 ≤ Number.maxI32

/-- The audience is named as one text or as a list of texts. -/
def namesAudience : Doc → Bool
  | .text _ => true
  | .list items => items.all fun d => match d with
    | .text _ => true
    | _ => false
  | _ => false

/-- A time claim is given up where it turns out to be no number, so a list or a record with anything
in it is not read to its end. -/
def isPlain : Doc → Bool
  | .list items => items.isEmpty
  | .record members => members.isEmpty
  | .text s => s.isSome
  | .number n => isReadThrough n
  | _ => true

/-- An audience is a value of any kind, and a number by itself may be out of range. -/
def isTaken : Doc → Bool
  | .number n => isReadThrough n
  | d => isSound 126 d

/-- The payload read once more for the claims that are judged: whether it names an audience. -/
def readAudience : Doc → Except TokenFault Bool
  | .record members =>
      let values := fun name => (members.filter fun m => m.1 == some name).map fun m => m.2
      let notBefore := values "nbf"
      let audience := values "aud"
      if 1 < notBefore.length ∨ 1 < audience.length then .error .unreadableJson
      else if ¬notBefore.all isPlain ∨ ¬audience.all isTaken then .error .unreadableJson
      else .ok (audience.any namesAudience)
  | _ => .error .unreadableJson

/-- Judges claims that a valid signature stands behind. -/
def judge (issuers : Issuers) (now : Int) (expected : Kind) (payload : Doc) :
    Except TokenFault Claims := do
  let c ← match Claims.ofDoc payload with
    | .ok c => .ok c
    | .error _ => .error .unreadableJson
  let audience ← readAudience payload
  if c.expiry < 0 then throw .missingExpiry
  if ¬Counts now c.expiry then throw .expired
  if c.issuer ≠ issuers.of expected then throw .issuer
  if audience then throw .audience
  if c.kind ≠ expected then throw .kind
  return c

/-- Verifies a token by the key that was found for it. -/
def verifyByKey (scheme : SignatureScheme) (issuers : Issuers) (now : Int) (expected : Kind)
    (token : String) (key : PublicKey) : Except TokenFault Claims := do
  if key.keyType ≠ "RSA" ∨ key.algorithm ≠ algorithm then throw .unsupportedKey
  let (modulus, exponent) ← match Rsa.decodeComponents key.modulus key.exponent with
    | .ok bytes => .ok bytes
    | .error _ => .error .unsupportedKey
  let some parts := Parts.ofText? token | throw .malformed
  let some header := Base64.decode .urlSafe parts.header | throw .unreadableBase64
  if ¬Header.isWellTyped (readWhole header) then throw .unreadableJson
  let some signature := Base64.decode .urlSafe parts.signature | throw .unreadableBase64
  if ¬scheme.check modulus exponent parts.signedBytes signature then throw .signature
  let some payload := Base64.decode .urlSafe parts.claims | throw .unreadableBase64
  judge issuers now expected (readWhole payload)

/-- Verifies a token; `find` looks up the key that it asks for. -/
def verify (scheme : SignatureScheme) (find : String → Except Failure PublicKey)
    (issuers : Issuers) (now : Int) (expected : Kind) (token : String) : Except Failure Claims :=
  match requestedKey token with
  | .error e => .error (.token e)
  | .ok kid => match find kid with
    | .error e => .error e
    | .ok key => match verifyByKey scheme issuers now expected token key with
      | .error e => .error (.token e)
      | .ok c => .ok c

/-- The keys of a fixed set. -/
def KeySet.find (s : KeySet) (kid : String) : Except Failure PublicKey :=
  match s.find? kid with
  | some k => .ok k
  | none => .error (.token .unknownKey)

end Crowdlending.Token
