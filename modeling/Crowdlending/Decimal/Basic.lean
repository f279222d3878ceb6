/-!
# Decimal numbers

A decimal is a coefficient of at most 96 bits and a scale, the number of its
places, of at most 28. The scale is kept as written: `1000.500` has three
places. Sums have the larger scale; where the digits of a sum do not fit,
places are dropped and a tie goes to the even neighbour.
-/
namespace Crowdlending

/-- The first number of more than 96 bits. -/
def Decimal.limit : Nat := 79228162514264337593543950336

structure Decimal where
  coefficient : Int
  scale : Nat
  coefficient_lt : coefficient.natAbs < Decimal.limit
  scale_le : scale ≤ 28
deriving DecidableEq

namespace Decimal

def maxScale : Nat := 28

/-- How many units of the last place make one. -/
def unit (places : Nat) : Nat := Nat.pow 10 places

theorem unit_succ (n : Nat) : unit (n + 1) = 10 * unit n := Nat.mul_comm (unit n) 10

theorem unit_add (m n : Nat) : unit (m + n) = unit m * unit n := Nat.pow_add 10 m n

theorem unit_pos (n : Nat) : 0 < unit n := by
  induction n with
  | zero => decide
  | succ n ih => rw [unit_succ]; omega

def ofParts? (coefficient : Int) (scale : Nat) : Option Decimal :=
  if h : coefficient.natAbs < limit ∧ scale ≤ 28 then some ⟨coefficient, scale, h.1, h.2⟩
  else none

def ofNat32 (n : UInt32) : Decimal :=
  ⟨n.toNat, 0, by have := n.toNat_lt; unfold limit; omega, by omega⟩

def zero : Decimal := ofNat32 0

instance : Inhabited Decimal := ⟨zero⟩

/-- The number itself. -/
def value (d : Decimal) : Rat := mkRat d.coefficient (unit d.scale)

def isZero (d : Decimal) : Bool := d.coefficient == 0

instance : LE Decimal := ⟨fun a b => a.coefficient * unit b.scale ≤ b.coefficient * unit a.scale⟩
instance : LT Decimal := ⟨fun a b => a.coefficient * unit b.scale < b.coefficient * unit a.scale⟩

instance (a b : Decimal) : Decidable (a ≤ b) :=
  inferInstanceAs (Decidable (a.coefficient * unit b.scale ≤ b.coefficient * unit a.scale))

instance (a b : Decimal) : Decidable (a < b) :=
  inferInstanceAs (Decidable (a.coefficient * unit b.scale < b.coefficient * unit a.scale))

/-- The two write the same number, with the same or another scale. -/
def sameValue (a b : Decimal) : Bool :=
  a.coefficient * unit b.scale == b.coefficient * unit a.scale

/-- How many of the given places are left when trailing zeros are dropped. -/
def neededPlaces (coefficient : Int) : Nat → Nat
  | 0 => 0
  | s + 1 => if coefficient % 10 = 0 then neededPlaces (coefficient / 10) s else s + 1

/-- The places up to the last digit that is not zero. -/
def significantPlaces (d : Decimal) : Nat := neededPlaces d.coefficient d.scale

/-- The quotient by a power of ten, rounded to the nearest; a tie goes to the even neighbour. -/
def dropEven (coefficient : Int) (places : Nat) : Int :=
  let q := coefficient.natAbs / unit places
  let r := coefficient.natAbs % unit places
  let n := if 2 * r > unit places ∨ (2 * r = unit places ∧ q % 2 = 1) then q + 1 else q
  coefficient.sign * n

/-- The quotient by a power of ten, rounded to the nearest; a tie goes away from zero. -/
def dropAway (coefficient : Int) (places : Nat) : Int :=
  coefficient.sign * ((2 * coefficient.natAbs + unit places) / (2 * unit places) : Nat)

/-- Drops as many places as the coefficient needs to fit; the first argument is the number of
places that may still be dropped beyond the given ones. -/
def fitFrom (coefficient : Int) (scale : Nat) : Nat → Nat → Option Decimal
  | 0, dropped => ofParts? (dropEven coefficient dropped) (scale - dropped)
  | more + 1, dropped =>
      match ofParts? (dropEven coefficient dropped) (scale - dropped) with
      | some d => some d
      | none => fitFrom coefficient scale more (dropped + 1)

def fit? (coefficient : Int) (scale : Nat) : Option Decimal := fitFrom coefficient scale scale 0

/-- The sum; a zero leaves the other number as it is written. `none` when even the whole part
does not fit. -/
def add? (a b : Decimal) : Option Decimal :=
  if a.isZero then some b
  else if b.isZero then some a
  else
    let scale := max a.scale b.scale
    fit? (a.coefficient * unit (scale - a.scale) + b.coefficient * unit (scale - b.scale)) scale

def neg (d : Decimal) : Decimal :=
  ⟨-d.coefficient, d.scale, by have := d.coefficient_lt; omega, d.scale_le⟩

def sub? (a b : Decimal) : Option Decimal := add? a b.neg

/-- The number written with exactly `scale` places. -/
def text (d : Decimal) : String :=
  let whole := toString (d.coefficient.natAbs / unit d.scale)
  let digits := toString (d.coefficient.natAbs % unit d.scale)
  let sign := if d.coefficient < 0 then "-" else ""
  if d.scale = 0 then sign ++ whole
  else
    let zeros := String.ofList (List.replicate (d.scale - digits.length) '0')
    sign ++ whole ++ "." ++ zeros ++ digits

end Decimal

end Crowdlending
