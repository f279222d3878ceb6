import Crowdlending.Web.Name.Direction
import Crowdlending.Web.Name.Joiner
import Crowdlending.Web.Punycode

/-!
# Host names

A name is brought to its final form, in which letters are small and characters that are only
variants are replaced, and is then taken apart at its points. Labels that come in ASCII disguise
must be in that form already. A name is judged here and not stored: of the replacements only
those are carried out in which ASCII characters take part, and all others leave the character
as it is, with the properties of what it stands for.
-/
namespace Crowdlending.Web.Name
open Text

/-- ASCII characters that no host has. -/
def isForbidden (c : Char) : Bool :=
  c.toNat ≤ 0x20 || c.toNat = 0x7F || "%#/:<>?@[\\]^|".toList.contains c

def isAscii (c : Char) : Bool := c.toNat < 128

/-- What a character that folds becomes. -/
def folded (c : Char) : List Char :=
  match Property.folds.find? fun r => r.has c.toNat with
  | some r => match r.value with
    | [n] => [Char.ofNat (n + (c.toNat - r.first))]
    | ns => ns.map Char.ofNat
  | none => [c]

/-- The final form of one character; `none` if no name has it. -/
def finalForm? (c : Char) : Option (List Char) :=
  if isAscii c then some [c.toLower]
  else if Property.unusable.contains c.toNat then none
  else if Property.ignored.contains c.toNat then some []
  else if Property.folding.contains c.toNat then some (folded c)
  else some [c]

def finalForms? : List Char → Option (List Char)
  | [] => some []
  | c :: r => do
      let a ← finalForm? c
      let b ← finalForms? r
      some (a ++ b)

/-- A comparison sign that is struck out is a character of its own. -/
def strike : List Char → List Char
  | [] => []
  | [c] => [c]
  | c :: d :: r =>
      if (c = '<' ∨ c = '>') ∧ d.toNat = 0x338 then
        (if c = '<' then Char.ofNat 0x226E else Char.ofNat 0x226F) :: strike r
      else c :: strike (d :: r)

/-- A character that is its own final form. -/
def isFinal (c : Char) : Bool :=
  isAscii c ||
    !(Property.unusable.contains c.toNat || Property.ignored.contains c.toNat ||
      Property.folding.contains c.toNat)

def disguise : List Char := "xn--".toList

/-- The longest label in ASCII disguise, and the longest one that could be put into it. -/
def mostDisguised : Nat := 2000
def mostPlain : Nat := 1000

/-- The label behind an ASCII disguise; it must need the disguise. -/
def unmask? (s : List Char) : Option (List Char) :=
  if mostDisguised < s.length ∨ ¬s.all isAscii then none
  else match Punycode.decode s with
    | none => none
    | some l => if l.all isAscii ∨ ¬l.all isFinal ∨ ¬isComposed l then none else some l

/-- What is wanted of a label beyond ASCII. -/
def isSound (l : List Char) : Bool :=
  l.length ≤ mostPlain && !(l.head?).any (fun c => Property.mark.contains c.toNat) &&
    areJoinedWell l

/-- The label that a piece of a name in its final form stands for. -/
def label? (s : List Char) : Option (List Char) := do
  let l ← match after? disguise s with
    | some r => unmask? r
    | none => some s
  if l.all isAscii ∨ isSound l then some l else none

def labelsOf? : List (List Char) → Option (List (List Char))
  | [] => some []
  | s :: r => do
      let l ← label? s
      let ls ← labelsOf? r
      some (l :: ls)

/-- The labels of a host name, or `none` if it is none. -/
def labels? (s : List Char) : Option (List (List Char)) := do
  let final := strike (← finalForms? s)
  if final.any isForbidden then none
  let labels ← labelsOf? (cut '.' final)
  if areSteady labels then some labels else none

end Crowdlending.Web.Name
