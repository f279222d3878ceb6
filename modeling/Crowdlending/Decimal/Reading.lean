import Crowdlending.Decimal.Basic
import Crowdlending.Number.Numeral

/-!
# Reading decimals

A numeral is an optional sign, digits and at most one point; underscores may
stand anywhere after the first digit. Places that do not fit are rounded half
up at the first digit that does not fit, and what follows it must still be
digits or underscores. A whole part that does not fit is refused. A text that
is no numeral may be one with an exponent.
-/
namespace Crowdlending.Decimal

open Number

def isFiller (c : Char) : Bool := (digit? c).isSome || c == '_'

/-- Rounds at the character that no longer fits; an underscore there counts as zero. -/
def roundAt (coefficient scale : Nat) (c : Char) (rest : List Char) : Option (Nat × Nat) :=
  if ¬(isFiller c && rest.all isFiller) then none
  else if (digit? c).getD 0 < 5 then some (coefficient, scale)
  else if coefficient + 1 < limit then some (coefficient + 1, scale)
  else if scale = 0 then none
  else some ((coefficient + 5) / 10, scale - 1)

/-- The coefficient and the scale of the characters left, after those read so far. -/
def readPlain (coefficient scale : Nat) (point seen : Bool) : List Char → Option (Nat × Nat)
  | [] => if seen then some (coefficient, scale) else none
  | c :: r =>
      if point && scale = maxScale && seen then roundAt coefficient scale c r
      else match digit? c with
        | some d =>
            if coefficient * 10 + d < limit then
              readPlain (coefficient * 10 + d) (if point then scale + 1 else scale) point true r
            else if point then roundAt coefficient scale c r
            else none
        | none =>
            if c = '.' ∧ ¬point then readPlain coefficient scale true seen r
            else if c = '_' ∧ seen then readPlain coefficient scale point seen r
            else none

def ofSigned (negative : Bool) (parts : Option (Nat × Nat)) : Option Decimal :=
  parts.bind fun p => ofParts? (if negative then -(p.1 : Int) else p.1) p.2

/-- A numeral without an exponent. -/
def readNumeral : List Char → Option Decimal
  | '-' :: r => ofSigned true (readPlain 0 0 false false r)
  | '+' :: r => ofSigned false (readPlain 0 0 false false r)
  | s => ofSigned false (readPlain 0 0 false false s)

/-- The number divided by a power of ten: places are added, and dropped before where they would
pass the largest scale. -/
def shiftDown (d : Decimal) (exponent : Nat) : Option Decimal :=
  if d.scale + exponent ≤ maxScale then ofParts? d.coefficient (d.scale + exponent)
  else ofParts? (dropAway d.coefficient (d.scale + exponent - maxScale)) maxScale

/-- The number multiplied by a power of ten: places are taken away while there are any. -/
def shiftUp (d : Decimal) (exponent : Nat) : Option Decimal :=
  if exponent ≤ d.scale then ofParts? d.coefficient (d.scale - exponent)
  else ofParts? (d.coefficient * unit (exponent - d.scale)) 0

/-- The parts before and after the first `e` or `E`. -/
def cutExponent : List Char → Option (List Char × List Char)
  | [] => none
  | c :: r =>
      if c = 'e' ∨ c = 'E' then some ([], r)
      else (cutExponent r).map fun p => (c :: p.1, p.2)

def exponentOf? (s : List Char) : Option Nat :=
  match readNat maxU32 s with
  | .ok n => if n ≤ maxScale then some n else none
  | .error _ => none

/-- A numeral, `e` or `E`, and an exponent of at most 28 in either direction. -/
def readScientific (s : List Char) : Option Decimal := do
  let (base, exponent) ← cutExponent s
  let d ← readNumeral base
  match exponent with
  | '-' :: r => shiftDown d (← exponentOf? r)
  | r => shiftUp d (← exponentOf? r)

def read? (s : List Char) : Option Decimal :=
  match readNumeral s with
  | some d => some d
  | none => readScientific s

def ofString? (s : String) : Option Decimal := read? s.toList

end Crowdlending.Decimal
