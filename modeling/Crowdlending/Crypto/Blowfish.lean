import Crowdlending.Crypto.Circle

/-!
# Blowfish

The cipher with its keyed tables, and the ways to mix a key and a salt into
them. The tables begin as the binary digits of the circle number.
-/
namespace Crowdlending.Crypto

/-- Eighteen round keys and four tables of 256 words, one after another. -/
structure Blowfish where
  keys : Array UInt32
  boxes : Array UInt32

namespace Blowfish

def rounds : Nat := 16
def keyCount : Nat := 18
def boxWords : Nat := 1024

def digits : Array UInt32 := Circle.words (keyCount + boxWords)

def initial : Blowfish := ⟨digits.extract 0 keyCount, digits.extract keyCount (keyCount + boxWords)⟩

def mix (boxes : Array UInt32) (x : UInt32) : UInt32 :=
  let a := boxes.getD (x >>> 24).toNat 0
  let b := boxes.getD (256 + ((x >>> 16) &&& 0xff).toNat) 0
  let c := boxes.getD (512 + ((x >>> 8) &&& 0xff).toNat) 0
  let d := boxes.getD (768 + (x &&& 0xff).toNat) 0
  ((a + b) ^^^ c) + d

/-- Two rounds at a time, so that the halves change places without being swapped. -/
def runRounds (keys boxes : Array UInt32) : Nat → Nat → UInt32 → UInt32 → UInt32 × UInt32
  | 0, _, l, r => (l, r)
  | pairs + 1, i, l, r =>
      let l := l ^^^ keys.getD i 0
      let r := r ^^^ mix boxes l
      let r := r ^^^ keys.getD (i + 1) 0
      let l := l ^^^ mix boxes r
      runRounds keys boxes pairs (i + 2) l r

def encrypt (c : Blowfish) (l r : UInt32) : UInt32 × UInt32 :=
  let (l, r) := runRounds c.keys c.boxes (rounds / 2) 0 l r
  (r ^^^ c.keys.getD 17 0, l ^^^ c.keys.getD 16 0)

/-- The `i`-th word of the bytes repeated without end. -/
def cyclicWord (bytes : Array UInt8) (i : Nat) : UInt32 :=
  let byte := fun j => (bytes.getD ((4 * i + j) % bytes.size) 0).toUInt32
  (byte 0 <<< 24) ||| (byte 1 <<< 16) ||| (byte 2 <<< 8) ||| byte 3

/-- The first eighteen words of a key. -/
def keyWords (key : Array UInt8) : Array UInt32 :=
  ((List.range keyCount).map (cyclicWord key)).toArray

def mixKeys (c : Blowfish) (words : Array UInt32) : Blowfish :=
  { c with keys := c.keys.mapIdx fun i k => k ^^^ words.getD i 0 }

/-- Replaces the round keys two by two by the cipher's own output; the salt flows in. -/
def refillKeys (salt : Array UInt32) : Nat → Nat → Blowfish → UInt32 → UInt32 →
    Blowfish × UInt32 × UInt32
  | 0, _, c, l, r => (c, l, r)
  | n + 1, i, c, l, r =>
      let (l, r) := c.encrypt (l ^^^ salt.getD (2 * i % 4) 0) (r ^^^ salt.getD ((2 * i + 1) % 4) 0)
      let keys := (c.keys.setIfInBounds (2 * i) l).setIfInBounds (2 * i + 1) r
      refillKeys salt n (i + 1) { c with keys } l r

/-- Replaces the words of the tables likewise; `offset` is the place in the salt. -/
def refillBoxes (salt : Array UInt32) (offset : Nat) : Nat → Nat → Blowfish → UInt32 → UInt32 →
    Blowfish
  | 0, _, c, _, _ => c
  | n + 1, i, c, l, r =>
      let (l, r) := c.encrypt (l ^^^ salt.getD ((offset + 2 * i) % 4) 0)
        (r ^^^ salt.getD ((offset + 2 * i + 1) % 4) 0)
      let boxes := c.boxes
      let c := { c with boxes := #[] }
      let boxes := (boxes.setIfInBounds (2 * i) l).setIfInBounds (2 * i + 1) r
      refillBoxes salt offset n (i + 1) { c with boxes } l r

/-- Mixes in the key words, then refills all tables with the four words of the salt. -/
def expand (c : Blowfish) (salt words : Array UInt32) : Blowfish :=
  let (c, l, r) := refillKeys salt (keyCount / 2) 0 (c.mixKeys words) 0 0
  refillBoxes salt keyCount (boxWords / 2) 0 c l r

end Blowfish

end Crowdlending.Crypto
