/-!
# Integers written in decimal

A numeral is an optional sign and ASCII digits. Reading stops at the first
character that is no digit or that makes the number leave its range, so the
cause it reports depends only on the characters up to there.
-/
namespace Crowdlending.Number

/-- Why a text is not a number of its type. -/
inductive NumeralFault where
  | empty
  | invalidDigit
  | tooLarge
  | tooSmall
deriving Repr, DecidableEq

def NumeralFault.message : NumeralFault → String
  | .empty => "cannot parse integer from empty string"
  | .invalidDigit => "invalid digit found in string"
  | .tooLarge => "number too large to fit in target type"
  | .tooSmall => "number too small to fit in target type"

def digit? (c : Char) : Option Nat :=
  if '0' ≤ c ∧ c ≤ '9' then some (c.toNat - 48) else none

/-- The value of the digits so far, read on while it stays within the limit. -/
def readDigits (limit : Nat) (beyond : NumeralFault) : Nat → List Char → Except NumeralFault Nat
  | acc, [] => .ok acc
  | acc, c :: r =>
      match digit? c with
      | none => .error .invalidDigit
      | some d =>
          if acc * 10 + d ≤ limit then readDigits limit beyond (acc * 10 + d) r
          else .error beyond

/-- One digit at least. -/
def readMagnitude (limit : Nat) (beyond : NumeralFault) : List Char → Except NumeralFault Nat
  | [] => .error .invalidDigit
  | s => readDigits limit beyond 0 s

/-- A number from 0 to the limit; a plus sign may stand before it. -/
def readNat (limit : Nat) : List Char → Except NumeralFault Nat
  | [] => .error .empty
  | '+' :: r => readMagnitude limit .tooLarge r
  | s => readMagnitude limit .tooLarge s

def maxU8 : Nat := 255
def maxU16 : Nat := 65535
def maxU32 : Nat := 4294967295
def maxU64 : Nat := 18446744073709551615
def maxI32 : Nat := 2147483647
def maxI64 : Nat := 9223372036854775807

/-- A number of 64 bits with a sign; there is one more below zero than above. -/
def readInt64 : List Char → Except NumeralFault Int
  | [] => .error .empty
  | '-' :: r => (readMagnitude (maxI64 + 1) .tooSmall r).map fun n => -(n : Int)
  | '+' :: r => (readMagnitude maxI64 .tooLarge r).map Int.ofNat
  | s => (readMagnitude maxI64 .tooLarge s).map Int.ofNat

theorem readDigits_le {limit : Nat} {beyond : NumeralFault} {acc n : Nat} {s : List Char}
    (hacc : acc ≤ limit) (h : readDigits limit beyond acc s = .ok n) : n ≤ limit := by
  induction s generalizing acc with
  | nil => simp [readDigits] at h; omega
  | cons c r ih =>
      simp only [readDigits] at h
      split at h
      · simp at h
      · split at h
        · next hle => exact ih hle h
        · simp at h

end Crowdlending.Number
