/-!
# Sets of code points by runs

A set is written as the lengths of the runs outside and inside it, in turn,
from code point 0 on. It is kept as the sorted boundaries of these runs: a code
point is inside when an odd number of boundaries lie at or before it.
-/
namespace Crowdlending.Text

structure RunSet where
  bounds : Array Nat
deriving Repr, DecidableEq

namespace RunSet

/-- The numbers written in a text, in decimal with white space between. -/
def numbers (s : String) : List Nat :=
  let step := fun (acc : List Nat × Option Nat) (c : Char) =>
    if c.isDigit then (acc.1, some (acc.2.getD 0 * 10 + (c.toNat - 48)))
    else match acc.2 with
      | some n => (n :: acc.1, none)
      | none => acc
  let r := s.foldl step ([], none)
  (match r.2 with
    | some n => n :: r.1
    | none => r.1).reverse

def ofLengths (s : String) : RunSet :=
  ⟨((numbers s).foldl (fun (acc : Array Nat × Nat) n => (acc.1.push (acc.2 + n), acc.2 + n))
    (#[], 0)).1⟩

/-- How many of the boundaries from `lo` to `hi` lie at or before `n`, given that those before
`lo` do and those from `hi` on do not. -/
def countFrom (bounds : Array Nat) (n lo hi : Nat) : Nat :=
  if h : lo < hi then
    let mid := (lo + hi) / 2
    if bounds.getD mid 0 ≤ n then countFrom bounds n (mid + 1) hi else countFrom bounds n lo mid
  else lo
termination_by hi - lo
decreasing_by all_goals omega

def contains (s : RunSet) (n : Nat) : Bool := countFrom s.bounds n 0 s.bounds.size % 2 == 1

end RunSet

end Crowdlending.Text
