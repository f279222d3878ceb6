import Crowdlending.Codec.Base64
import Crowdlending.Crypto.Blowfish
import Crowdlending.Failure
import Crowdlending.Number.Numeral
import Crowdlending.Text.Blank

/-!
# Password hashes

A hash is written `$2b$`, the cost, `$`, the salt in 22 symbols and the digest
in 31. The password is used with a zero byte after it, and only its first 72
bytes count. The function that turns cost, salt and key into a digest is a
parameter of writing and checking.
-/
namespace Crowdlending.Crypto.Bcrypt
open Text Number

/-- Cost, salt and key to a digest of 24 bytes. -/
abbrev Core := Nat → List UInt8 → List UInt8 → List UInt8

def leastCost : Nat := 4
def mostCost : Nat := 31
def keyLength : Nat := 72
def saltLength : Nat := 16
def digestLength : Nat := 23

/-- The alternating expansions with the key and with the salt. -/
def stretch (saltWords keyWords zeros : Array UInt32) : Nat → Blowfish → Blowfish
  | 0, c => c
  | n + 1, c =>
      stretch saltWords keyWords zeros n ((c.expand zeros keyWords).expand zeros saltWords)

def encryptTimes (c : Blowfish) : Nat → UInt32 → UInt32 → UInt32 × UInt32
  | 0, l, r => (l, r)
  | n + 1, l, r =>
      let (l, r) := c.encrypt l r
      encryptTimes c n l r

def wordBytes (w : UInt32) : List UInt8 :=
  [(w >>> 24).toUInt8, (w >>> 16).toUInt8, (w >>> 8).toUInt8, w.toUInt8]

/-- The text that is enciphered, as pairs of words. -/
def magic : List (UInt32 × UInt32) :=
  [(0x4f727068, 0x65616e42), (0x65686f6c, 0x64657253), (0x63727944, 0x6f756274)]

def core : Core := fun cost salt key =>
  let saltArray := salt.toArray
  let saltBlock := ((List.range 4).map (Blowfish.cyclicWord saltArray)).toArray
  let keyWords := Blowfish.keyWords key.toArray
  let c := Blowfish.initial.expand saltBlock keyWords
  let c := stretch (Blowfish.keyWords saltArray) keyWords #[0, 0, 0, 0] (1 <<< cost) c
  magic.flatMap fun p =>
    let (l, r) := encryptTimes c 64 p.1 p.2
    wordBytes l ++ wordBytes r

/-- The bytes of a password that count. -/
def keyOf (password : String) : List UInt8 := (password.toUTF8.toList ++ [0]).take keyLength

def digest (f : Core) (cost : Nat) (salt : List UInt8) (password : String) : List UInt8 :=
  (f cost salt (keyOf password)).take digestLength

def twoDigits (n : Nat) : String := (if n < 10 then "0" else "") ++ toString n

/-- The written hash of a password. -/
def hash (f : Core) (salt : List UInt8) (password : String) (cost : Nat) : Except Failure String :=
  if leastCost ≤ cost ∧ cost ≤ mostCost then
    .ok ("$2b$" ++ twoDigits cost ++ "$" ++ Codec.Base64.encodeText .crypt salt ++
      Codec.Base64.encodeText .crypt (digest f cost salt password))
  else .error (.crypto (.hashCost cost))

structure Parts where
  cost : Nat
  salt : List Char
  digest : List Char
deriving Repr, DecidableEq

def versions : List String := ["2y", "2b", "2a", "2x"]

/-- Cuts after 22 bytes, if a character ends there and 53 bytes are there in all. -/
def splitSalt (s : List Char) : Option (List Char × List Char) :=
  if byteLength s = 53 then
    ((List.range (s.length + 1)).find? fun n => byteLength (s.take n) == 22).map fun n =>
      (s.take n, s.drop n)
  else none

/-- The parts of a written hash. -/
def readParts (hash : String) : Except HashFault Parts :=
  match (cut '$' hash.toList).filter fun p => !p.isEmpty with
  | [version, cost, rest] =>
      if ¬versions.contains (String.ofList version) then .error (.version (String.ofList version))
      else match readNat maxU32 cost with
        | .error _ => .error (.costText (String.ofList cost))
        | .ok cost => match splitSalt rest with
          | none => .error (.shape hash)
          | some (salt, digest) => .ok ⟨cost, salt, digest⟩
  | _ => .error (.shape hash)

def check (f : Core) (password hash : String) : Except HashFault Bool := do
  let parts ← readParts hash
  let salt ← match Codec.Base64.decode .crypt parts.salt with
    | some s => .ok s
    | none => .error .base64
  if parts.cost < leastCost ∨ mostCost < parts.cost then throw (.costRange parts.cost)
  match Codec.Base64.decode .crypt parts.digest with
  | some d => return digest f parts.cost salt password == d
  | none => throw .base64

/-- The password is the one that was hashed. -/
def verify (f : Core) (password hash : String) : Except Failure Bool :=
  match check f password hash with
  | .ok b => .ok b
  | .error e => .error (.crypto (.verification e))

end Crowdlending.Crypto.Bcrypt
