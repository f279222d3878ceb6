import Crowdlending.Codec.Base64
import Crowdlending.Crypto.Der
import Crowdlending.Crypto.Pem
import Crowdlending.Crypto.Sha256
import Crowdlending.Failure

/-!
# RSA keys and signatures

Signatures are RSA PKCS #1 v1.5 over SHA-256. What a signature scheme has to
offer is a structure of its own, so that tokens can be reasoned about with any
scheme in place.
-/
namespace Crowdlending.Crypto

/-- How messages are signed, and how signatures are checked by a public modulus and exponent. -/
structure SignatureScheme where
  /-- A signature under a private key in DER, if the key can sign. -/
  sign : (key message : List UInt8) → Option (List UInt8)
  check : (modulus exponent message signature : List UInt8) → Bool

namespace Rsa

def natOfBytes : List UInt8 → Nat := Der.natOfBytes

/-- The last `length` bytes of a number, highest first. -/
def bytesOfNat (length n : Nat) : List UInt8 :=
  (List.range length).map fun i => (n >>> (8 * (length - 1 - i))).toUInt8

def bitLength (n : Nat) : Nat := if n = 0 then 0 else n.log2 + 1

def byteLength (n : Nat) : Nat := (bitLength n + 7) / 8

/-- The shortest bytes of a number. -/
def bytes (n : Nat) : List UInt8 := bytesOfNat (byteLength n) n

/-- `base ^ exponent` modulo `n`, by squaring. -/
def powMod (n base exponent : Nat) : Nat :=
  if exponent = 0 then 1 % n
  else
    let half := powMod n (base * base % n) (exponent / 2)
    if exponent % 2 = 1 then half * base % n else half
termination_by exponent

/-- The DER of a SHA-256 digest up to the digest itself. -/
def digestHeader : List UInt8 :=
  [0x30, 0x31, 0x30, 0x0d, 0x06, 0x09, 0x60, 0x86, 0x48, 0x01, 0x65, 0x03, 0x04, 0x02, 0x01, 0x05,
    0x00, 0x04, 0x20]

/-- The block that is signed: the digest, filled up to the length of the modulus. -/
def encodeDigest (length : Nat) (message : List UInt8) : List UInt8 :=
  let digest := digestHeader ++ Sha256.hash message
  0 :: 1 :: List.replicate (length - digest.length - 3) 0xff ++ 0 :: digest

structure PublicKey where
  modulus : Nat
  exponent : Nat
deriving Repr, DecidableEq

/-- A key by which signatures may be checked: 2048 to 8192 bits, both numbers odd and written
without leading zeros, and an exponent from 3 to 2^33 - 1. -/
def PublicKey.forChecking? (modulus exponent : List UInt8) : Option PublicKey :=
  let n := natOfBytes modulus
  let e := natOfBytes exponent
  if modulus.head? ≠ some 0 ∧ exponent.head? ≠ some 0 ∧ n % 2 = 1 ∧ e % 2 = 1 ∧
      2048 ≤ bitLength n ∧ bitLength n ≤ 8192 ∧ 3 ≤ e ∧ e < 1 <<< 33 then
    some ⟨n, e⟩
  else none

def check (modulus exponent message signature : List UInt8) : Bool :=
  match PublicKey.forChecking? modulus exponent with
  | none => false
  | some k =>
      let length := byteLength k.modulus
      let s := natOfBytes signature
      signature.length == length && s < k.modulus &&
        bytesOfNat length (powMod k.modulus s k.exponent) == encodeDigest length message

structure PrivateKey where
  modulus : Nat
  publicExponent : Nat
  privateExponent : Nat
deriving Repr, DecidableEq

/-- A private key that may sign: 2048 to 4096 bits, an exponent of at least 65537, and factors
that belong together. -/
def PrivateKey.forSigning? (der : List UInt8) : Option PrivateKey :=
  match Der.read? der with
  | some (.sequence [version, n, e, d, p, q, dp, dq, qInverse]) => do
      let version ← version.toNat?
      let n ← n.toNat?
      let e ← e.toNat?
      let d ← d.toNat?
      let p ← p.toNat?
      let q ← q.toNat?
      let dp ← dp.toNat?
      let dq ← dq.toNat?
      let qInverse ← qInverse.toNat?
      if version = 0 ∧ 2048 ≤ bitLength n ∧ bitLength n ≤ 4096 ∧ 65537 ≤ e ∧ e < 1 <<< 33 ∧
          e % 2 = 1 ∧ n = p * q ∧ d < n ∧ dp < p ∧ dq < q ∧ qInverse < p ∧
          qInverse * q % p = 1 then
        some ⟨n, e, d⟩
      else none
  | _ => none

def sign (der message : List UInt8) : Option (List UInt8) := do
  let k ← PrivateKey.forSigning? der
  let length := byteLength k.modulus
  let block := natOfBytes (encodeDigest length message)
  let s := powMod k.modulus block k.privateExponent
  if powMod k.modulus s k.publicExponent = block then some (bytesOfNat length s) else none

/-- RSA PKCS #1 v1.5 with SHA-256. -/
def scheme : SignatureScheme := ⟨sign, check⟩

def ofNumbers? (n e : Nat) : Option PublicKey :=
  if bitLength n ≤ 4096 ∧ e < n ∧ n % 2 = 1 ∧ e % 2 = 1 ∧ 2 ≤ e ∧ e < 1 <<< 33 then some ⟨n, e⟩
  else none

def ofSequence? : Der → Option PublicKey
  | .sequence [n, e] => do ofNumbers? (← n.toNat?) (← e.toNat?)
  | _ => none

/-- The public key of a PEM text, bare or with the name of its algorithm around it. -/
def PublicKey.ofPem? (text : String) : Option PublicKey := do
  let block ← Pem.readStrict text
  let der ← Der.read? block.bytes
  if block.label = "RSA PUBLIC KEY" then ofSequence? der
  else if block.label = "PUBLIC KEY" then
    match der with
    | .sequence [.sequence [.objectId id, .null], .bitString inner] =>
        if id = Der.rsaId then ofSequence? (← Der.read? inner) else none
    | _ => none
  else none

/-- The parts of a public key as they are published. -/
structure Components where
  modulus : String
  exponent : String
  bits : Nat
deriving Repr, DecidableEq

def leastStrongBits : Nat := 2048

def Components.isWeak (c : Components) : Bool := c.bits < leastStrongBits

def encodeComponent (bs : List UInt8) : String := Codec.Base64.encodeText .urlSafe bs
def decodeComponent (s : String) : Option (List UInt8) := Codec.Base64.decodeText .urlSafe s

/-- Modulus and exponent of a published key as bytes. -/
def decodeComponents (modulus exponent : String) : Except Failure (List UInt8 × List UInt8) :=
  match decodeComponent modulus, decodeComponent exponent with
  | some n, some e => .ok (n, e)
  | _, _ => .error (.crypto .components)

def components (pem : String) : Except Failure Components :=
  match PublicKey.ofPem? pem with
  | none => .error (.crypto .publicKey)
  | some k => .ok ⟨encodeComponent (bytes k.modulus), encodeComponent (bytes k.exponent),
      bitLength k.modulus⟩

/-- The key material of a PEM text, as DER. Whether it can sign shows when it is used. -/
def loadPem? (text : String) : Option (List UInt8) := do
  let block ← Pem.readLoose text
  let items ← Der.readAll (block.bytes.length + 1) block.bytes
  if block.label = "RSA PRIVATE KEY" ∨ block.label = "RSA PUBLIC KEY" then some block.bytes
  else if block.label = "PRIVATE KEY" ∨ block.label = "PUBLIC KEY"
      ∨ block.label = "CERTIFICATE" then
    if Der.anyNamesRsa items then Der.firstStringOf items else none
  else none

def signingKey (pem : String) : Except Failure (List UInt8) :=
  match loadPem? pem with
  | some der => .ok der
  | none => .error (.crypto .privateKey)

end Rsa

end Crowdlending.Crypto
