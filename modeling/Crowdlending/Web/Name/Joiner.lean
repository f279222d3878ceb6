import Crowdlending.Web.Name.Composition

/-!
# Joiners

The invisible joiner and non-joiner may stand in a label only where they show: after a sign that
silences a vowel, and the non-joiner also between letters that would be joined without it.
-/
namespace Crowdlending.Web.Name
open Property Text

def nonJoiner : Char := Char.ofNat 0x200C
def joiner : Char := Char.ofNat 0x200D

/-- The first character that counts for joining is in the set. -/
def reaches (s : RunSet) (cs : List Char) : Bool :=
  match cs.find? fun c => s.contains c.toNat || !transparent.contains c.toNat with
  | some c => s.contains c.toNat
  | none => false

/-- Whether a character may stand where it does; `before` is what comes before it, last first. -/
def isJoinedWell (before : List Char) (c : Char) (after : List Char) : Bool :=
  if c ≠ joiner ∧ c ≠ nonJoiner then true
  else if (before.head?).any fun b => virama.contains b.toNat then true
  else c = nonJoiner && reaches joinsNext before && reaches joinsPrevious after

def areJoinedWellAfter (before : List Char) : List Char → Bool
  | [] => true
  | c :: r => isJoinedWell before c r && areJoinedWellAfter (c :: before) r

def areJoinedWell (s : List Char) : Bool := areJoinedWellAfter [] s

end Crowdlending.Web.Name
