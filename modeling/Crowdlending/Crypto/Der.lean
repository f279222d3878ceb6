/-!
# DER

The tagged values in which keys are written: a tag, a length and as many bytes.
Sequences hold values again.
-/
namespace Crowdlending.Crypto

inductive Der where
  | sequence (items : List Der)
  | integer (bytes : List UInt8)
  | bitString (bytes : List UInt8)
  | octetString (bytes : List UInt8)
  | objectId (bytes : List UInt8)
  | null
  | other (tag : UInt8) (bytes : List UInt8)

namespace Der

/-- The number written in the bytes, highest first. -/
def natOfBytes (bytes : List UInt8) : Nat := bytes.foldl (fun n b => n * 256 + b.toNat) 0

/-- A length and what follows it; the longer forms may only be used where needed. -/
def readLength : List UInt8 → Option (Nat × List UInt8)
  | [] => none
  | b :: r =>
      if b < 0x80 then some (b.toNat, r)
      else
        let count := b.toNat - 0x80
        if count = 0 ∨ 4 < count ∨ r.length < count then none
        else
          let n := natOfBytes (r.take count)
          if n < 128 ∨ n < 1 <<< (8 * (count - 1)) then none else some (n, r.drop count)

/-- The values that the bytes consist of; `fuel` bounds their number and depth. -/
def readAll : Nat → List UInt8 → Option (List Der)
  | 0, _ => none
  | _ + 1, [] => some []
  | fuel + 1, tag :: r => do
      let (n, r) ← readLength r
      if r.length < n then none
      let content := r.take n
      let value ←
        if tag = 0x30 then (readAll fuel content).map sequence
        else if tag = 0x02 then some (integer content)
        else if tag = 0x03 then match content with
          | 0 :: bytes => some (bitString bytes)
          | _ => none
        else if tag = 0x04 then some (octetString content)
        else if tag = 0x06 then some (objectId content)
        else if tag = 0x05 then if content.isEmpty then some null else none
        else some (other tag content)
      let rest ← readAll fuel (r.drop n)
      some (value :: rest)

/-- The one value that the bytes are. -/
def read? (bytes : List UInt8) : Option Der :=
  match readAll (bytes.length + 1) bytes with
  | some [d] => some d
  | _ => none

/-- A number that is not negative, in its shortest form. -/
def toNat? : Der → Option Nat
  | integer [] => none
  | integer [b] => if b < 0x80 then some b.toNat else none
  | integer (0 :: b :: r) => if b < 0x80 then none else some (natOfBytes (b :: r))
  | integer (b :: r) => if b < 0x80 then some (natOfBytes (b :: r)) else none
  | _ => none

/-- The object identifier of RSA keys, 1.2.840.113549.1.1.1. -/
def rsaId : List UInt8 := [0x2a, 0x86, 0x48, 0x86, 0xf7, 0x0d, 0x01, 0x01, 0x01]

mutual

/-- The identifier of RSA keys stands in the value. -/
def namesRsa : Der → Bool
  | objectId bytes => bytes == rsaId
  | sequence items => anyNamesRsa items
  | _ => false

def anyNamesRsa : List Der → Bool
  | [] => false
  | d :: r => namesRsa d || anyNamesRsa r

end

mutual

/-- The first string of bits or bytes in the value. -/
def firstString : Der → Option (List UInt8)
  | bitString bytes | octetString bytes => some bytes
  | sequence items => firstStringOf items
  | _ => none

def firstStringOf : List Der → Option (List UInt8)
  | [] => none
  | d :: r => match firstString d with
    | some s => some s
    | none => firstStringOf r

end

end Der

end Crowdlending.Crypto
