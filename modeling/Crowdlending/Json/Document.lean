/-!
# JSON documents

A document may be the reading of a text that stops being JSON somewhere: the
leaf `broken` stands where it stops, and nothing follows it. So one tree tells
in which order a reader that goes from left to right meets what is wrong with
the shape and what is wrong with the text.
-/
namespace Crowdlending.Json

/-- A number as written: all its digits, how many of them are places, and the exponent. -/
structure Numeral where
  negative : Bool
  digits : Nat
  places : Nat
  /-- Written with neither a point nor an exponent. -/
  plain : Bool
  exponent : Int
deriving Repr, DecidableEq

namespace Numeral

def ofInt (n : Int) : Numeral := ⟨n < 0, n.natAbs, 0, true, 0⟩

/-- A number written without point and exponent; minus zero is none. -/
def toInt? (n : Numeral) : Option Int :=
  if n.plain ∧ ¬(n.negative ∧ n.digits = 0) then
    some (if n.negative then -(n.digits : Int) else n.digits)
  else none

/-- How many digits the number has. -/
def length (n : Nat) : Nat := (Nat.toDigits 10 n).length

/-- Too large for a float of 64 bits. -/
def isHuge (n : Numeral) : Bool :=
  if n.digits = 0 then false
  else
    let shift := n.exponent - n.places
    if (length n.digits : Int) + shift < 308 then false
    else if 310 < (length n.digits : Int) + shift then true
    else
      let limit := Nat.pow 2 1024 - Nat.pow 2 970
      if 0 ≤ shift then limit ≤ n.digits * Nat.pow 10 shift.toNat
      else limit * Nat.pow 10 (-shift).toNat ≤ n.digits

end Numeral

inductive Doc where
  | null
  | bool (value : Bool)
  | number (value : Numeral)
  /-- `none` when the escapes or the bytes denote no text. -/
  | text (value : Option String)
  | list (items : List Doc)
  | record (members : List (Option String × Doc))
  | broken

namespace Doc

def int (n : Int) : Doc := number (.ofInt n)
def ofText (s : String) : Doc := text (some s)
def ofMembers (ms : List (String × Doc)) : Doc := record (ms.map fun m => (some m.1, m.2))

mutual

/-- The text did not stop inside the document. -/
def isWhole : Doc → Bool
  | broken => false
  | list items => areWhole items
  | record members => membersWhole members
  | _ => true

def areWhole : List Doc → Bool
  | [] => true
  | d :: r => isWhole d && areWhole r

def membersWhole : List (Option String × Doc) → Bool
  | [] => true
  | (_, d) :: r => isWhole d && membersWhole r

end

end Doc

end Crowdlending.Json
