import Crowdlending.Text.Blank

/-!
# Numeric host addresses

An address of 32 bits is written in up to four parts, each decimal, octal after a zero or to base
sixteen after `0x`; the last part fills all the bytes that are left. An address of 128 bits is
written in eight pieces to base sixteen, where `::` stands for one or more zeros and the last two
pieces may be written as four bytes.
-/
namespace Crowdlending.Web.Ip
open Text

/-- The value of a digit to some base up to sixteen. -/
def digit? (base : Nat) (c : Char) : Option Nat :=
  let n :=
    if '0' ≤ c ∧ c ≤ '9' then c.toNat - 48
    else if 'a' ≤ c ∧ c ≤ 'f' then c.toNat - 87
    else if 'A' ≤ c ∧ c ≤ 'F' then c.toNat - 55
    else base
  if n < base then some n else none

def digits? (base : Nat) : Nat → List Char → Option Nat
  | acc, [] => some acc
  | acc, c :: r => do digits? base (acc * base + (← digit? base c)) r

/-- One part of an address of 32 bits; the base alone is zero. -/
def part? : List Char → Option Nat
  | [] => none
  | '0' :: 'x' :: r | '0' :: 'X' :: r => digits? 16 0 r
  | '0' :: d :: r => digits? 8 0 (d :: r)
  | s => digits? 10 0 s

def isDecimal (s : List Char) : Bool := !s.isEmpty && s.all Char.isDigit

/-- The parts of a name without the point that may end it. -/
def parts (labels : List (List Char)) : List (List Char) :=
  match labels.reverse with
  | [] :: p :: ps => (p :: ps).reverse
  | _ => labels

/-- A name that ends in a number has to be an address. -/
def endsInNumber (labels : List (List Char)) : Bool :=
  match (parts labels).getLast? with
  | some l => isDecimal l || (part? l).isSome
  | none => false

def parts? : List (List Char) → Option (List Nat)
  | [] => some []
  | p :: r => do
      let n ← part? p
      let ns ← parts? r
      some (n :: ns)

/-- The address of bytes and a last part that fills what is left. -/
def join? : Nat → Nat → List Nat → Option Nat
  | _, _, [] => none
  | acc, left, [n] => if n < 1 <<< (8 * left) then some ((acc <<< (8 * left)) + n) else none
  | acc, left, n :: r => if n < 256 ∧ 1 < left then join? (acc * 256 + n) (left - 1) r else none

def v4? (labels : List (List Char)) : Option Nat := do
  let ns ← parts? (parts labels)
  if 4 < ns.length then none else join? 0 4 ns

/-- A byte in decimal without leading zeros. -/
def byte? (s : List Char) : Option Nat := do
  let n ← digits? 10 0 s
  if s.isEmpty ∨ (1 < s.length ∧ s.head? = some '0') ∨ 255 < n then none else some n

def piece? (s : List Char) : Option Nat :=
  if s.isEmpty ∨ 4 < s.length then none else digits? 16 0 s

/-- Pieces with colons between; only at the end of the address may bytes stand for the last two. -/
def pieces? (ending : Bool) : List (List Char) → Option (List Nat)
  | [] => some []
  | [p] => match piece? p with
    | some n => some [n]
    | none => match ending, cut '.' p with
      | true, [a, b, c, d] => do
          some [(← byte? a) * 256 + (← byte? b), (← byte? c) * 256 + (← byte? d)]
      | _, _ => none
  | p :: r => do
      let n ← piece? p
      let ns ← pieces? ending r
      some (n :: ns)

/-- The parts before and after the first `::`. -/
def cutZeros : List Char → Option (List Char × List Char)
  | ':' :: ':' :: r => some ([], r)
  | c :: r => (cutZeros r).map fun p => (c :: p.1, p.2)
  | [] => none

def side? (ending : Bool) (s : List Char) : Option (List Nat) :=
  if s.isEmpty then some [] else pieces? ending (cut ':' s)

/-- The eight pieces of an address of 128 bits. -/
def v6? (s : List Char) : Option (List Nat) :=
  match cutZeros s with
  | none => do
      let ns ← side? true s
      if ns.length = 8 then some ns else none
  | some (a, b) => do
      let before ← side? false a
      let after ← side? true b
      let zeros := 8 - (before.length + after.length)
      if 0 < zeros then some (before ++ List.replicate zeros 0 ++ after) else none

end Crowdlending.Web.Ip
