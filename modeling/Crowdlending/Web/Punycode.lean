import Crowdlending.Text.Blank

/-!
# Punycode

A label with characters beyond ASCII, written in ASCII: its ASCII characters, a hyphen, and then
the others as numbers to base 36 with digits of adapting weight. Each number says how far the
next character lies behind the last one, counting code points and, for each, all places in the
label.
-/
namespace Crowdlending.Web.Punycode
open Text

def digit? (c : Char) : Option Nat :=
  if 'a' ≤ c ∧ c ≤ 'z' then some (c.toNat - 97)
  else if 'A' ≤ c ∧ c ≤ 'Z' then some (c.toNat - 65)
  else if '0' ≤ c ∧ c ≤ '9' then some (c.toNat - 22)
  else none

/-- A digit below the threshold of its place is the last one of its number. -/
def threshold (place bias : Nat) : Nat := if place ≤ bias then 1 else min 26 (place - bias)

def settle (delta places : Nat) : Nat :=
  if 455 < delta then settle (delta / 35) (places + 36)
  else places + 36 * delta / (delta + 38)
termination_by delta

/-- The bias after a number, when there are `count` characters. -/
def adapt (delta count : Nat) (first : Bool) : Nat :=
  let delta := if first then delta / 700 else delta / 2
  settle (delta + delta / count) 0

/-- The characters so far, and where the last one was put in. -/
structure Decoded where
  chars : List Char
  point : Nat
  index : Nat
  bias : Nat
deriving Repr, DecidableEq

namespace Decoded

def start (basic : List Char) : Decoded := ⟨basic, 128, 0, 72⟩

/-- Puts in the character that lies `delta` further on. -/
def insert? (d : Decoded) (delta : Nat) : Option Decoded :=
  let count := d.chars.length + 1
  let index := d.index + delta
  let point := d.point + index / count
  if point < 0xD800 ∨ (0xDFFF < point ∧ point < 0x110000) then
    some ⟨d.chars.insertIdx (index % count) (Char.ofNat point), point, index % count + 1,
      adapt delta count (d.index == 0)⟩
  else none

end Decoded

/-- A number of which some digits have been read. -/
structure Partial where
  value : Nat
  weight : Nat
  place : Nat
deriving Repr, DecidableEq

def Partial.none : Partial := ⟨0, 1, 36⟩

/-- Reads numbers to the end of the text, which must be the end of a number. -/
def readNumbers (d : Decoded) (n : Partial) : List Char → Option (List Char)
  | [] => if n = .none then some d.chars else Option.none
  | c :: r => do
      let digit ← digit? c
      let least := threshold n.place d.bias
      let value := n.value + digit * n.weight
      if digit < least then readNumbers (← d.insert? value) .none r
      else readNumbers d ⟨value, n.weight * (36 - least), n.place + 36⟩ r

/-- The label that a text stands for; ASCII characters stand before its last hyphen. -/
def decode (s : List Char) : Option (List Char) :=
  match cutLast '-' s with
  | some (c :: basic, numbers) => readNumbers (.start (c :: basic)) .none numbers
  | _ => readNumbers (.start []) .none s

/-! ## Writing -/

theorem threshold_pos (place bias : Nat) : 0 < threshold place bias := by
  unfold threshold
  split <;> omega

def digitChar (n : Nat) : Char := Char.ofNat (if n < 26 then n + 97 else n + 22)

/-- The digits of a number, from the one at the place on. -/
def numberText (bias place value : Nat) : List Char :=
  let least := threshold place bias
  if value < least then [digitChar value]
  else
    digitChar (least + (value - least) % (36 - least)) ::
      numberText bias (place + 36) ((value - least) / (36 - least))
termination_by value
decreasing_by
  have hpos := threshold_pos place bias
  have hdiv := Nat.div_le_self (value - threshold place bias) (36 - threshold place bias)
  omega

/-- What is written so far, and how far the next character lies behind the last one. -/
structure Encoded where
  text : List Char
  delta : Nat
  count : Nat
  bias : Nat
deriving Repr, DecidableEq

namespace Encoded

/-- Passes a character while those of one code point are written; `basic` of the label's
characters are in ASCII. -/
def pass (point basic : Nat) (e : Encoded) (c : Char) : Encoded :=
  if c.toNat < point then { e with delta := e.delta + 1 }
  else if c.toNat = point then
    { text := e.text ++ numberText e.bias 36 e.delta
      delta := 0
      count := e.count + 1
      bias := adapt e.delta (e.count + 1) (e.count == basic) }
  else e

/-- Passes the whole label once for each code point, in their order. -/
def passAll (label : List Char) (basic : Nat) : Nat → Encoded → List Nat → List Char
  | _, e, [] => e.text
  | next, e, point :: r =>
      let here := { e with delta := e.delta + (point - next) * (e.count + 1) }
      let after := label.foldl (pass point basic) here
      passAll label basic (point + 1) { after with delta := after.delta + 1 } r

end Encoded

/-- A label with characters beyond ASCII, written in ASCII. -/
def encode (label : List Char) : List Char :=
  let basic := label.filter fun c => c.toNat < 128
  let points := ((label.map Char.toNat).filter (128 ≤ ·)).mergeSort.eraseReps
  Encoded.passAll label basic.length 128
    ⟨if basic.isEmpty then [] else basic ++ ['-'], 0, basic.length, 72⟩ points

end Crowdlending.Web.Punycode
