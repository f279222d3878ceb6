import Crowdlending.Settings.Basic
import Crowdlending.Token.Verifier

/-!
# Issuing tokens

Tokens are signed with the first key of the settings. A lifetime that no date
arithmetic can hold counts as none at all; an expiry beyond the last date that
can be represented stops the operation.
-/
namespace Crowdlending.Token
open Json Codec Crypto Settings

/-- An operation ends without a result: it failed, or it met a date out of range. -/
inductive Abort where
  | failure (f : Failure)
  | dateOverflow
deriving Repr, DecidableEq

structure Issuer where
  kid : String
  /-- The private key in DER. -/
  key : List UInt8
  issuers : Issuers
  accessTtl : Nat
  refreshTtl : Nat
  extendedTtl : Nat
deriving Repr, DecidableEq

structure Pair where
  access : String
  refresh : String
deriving Repr, DecidableEq

/-- The last second of the last year that dates reach, since 1970. -/
def lastSecond : Int := 8210266876799

/-- The longest lifetime, in seconds, that counts. -/
def longestTtl : Nat := 9223372036854775

namespace Issuer

def ofSettings (s : TokenSettings) : Except Failure Issuer :=
  match s.keys with
  | [] => .error (.crypto .noSigningKey)
  | k :: _ => do
      let key ← Rsa.signingKey k.privatePem
      return ⟨k.kid, key, ⟨s.accessIssuer, s.refreshIssuer⟩, s.accessTtl, s.refreshTtl,
        s.extendedTtl⟩

def ttlFor (i : Issuer) : Kind → Bool → Nat
  | .access, _ => i.accessTtl
  | .refresh, false => i.refreshTtl
  | .refresh, true => i.extendedTtl

/-- When a token of this kind issued now expires; `none` beyond the last date. -/
def expiry? (i : Issuer) (now : Int) (kind : Kind) (extended : Bool) : Option Int :=
  let ttl := i.ttlFor kind extended
  let until_ := now + (if ttl ≤ longestTtl then ttl else 0)
  if until_ ≤ lastSecond then some until_ else none

def claimsFor? (i : Issuer) (now : Int) (s : Subject) (kind : Kind) (extended : Bool) :
    Option Claims :=
  (i.expiry? now kind extended).map fun expiry =>
    { userId := s.userId, name := s.name, email := s.email, phoneNumber := s.phoneNumber
      role := s.role, kind, extended, issuer := i.issuers.of kind, subject := s.email, expiry }

/-- The header and the claims, encoded, with a point between them. -/
def signingInput (i : Issuer) (c : Claims) : String :=
  let part := fun (d : Doc) => Base64.encodeText .urlSafe d.print.toUTF8.toList
  part (Header.toDoc ⟨i.kid, algorithm⟩) ++ "." ++ part c.toDoc

def sign (scheme : SignatureScheme) (i : Issuer) (c : Claims) : Except Failure String :=
  let input := i.signingInput c
  match scheme.sign i.key input.toUTF8.toList with
  | some s => .ok (input ++ "." ++ Base64.encodeText .urlSafe s)
  | none => .error (.crypto .signing)

end Issuer

/-- The key set that is published for the settings' keys, in their order. -/
def KeySet.ofKeys : List SigningKey → Except Failure KeySet
  | [] => .ok ⟨[]⟩
  | k :: r => do
      let c ← Rsa.components k.publicPem
      let rest ← KeySet.ofKeys r
      return ⟨⟨"RSA", k.kid, "sig", algorithm, c.modulus, c.exponent⟩ :: rest.keys⟩

end Crowdlending.Token
