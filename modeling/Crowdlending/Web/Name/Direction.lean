import Crowdlending.Web.Name.Property

/-!
# Direction of labels

A name with a character written from right to left is shown in an order of its own. Its labels
must then be such that each is shown as one piece: a label starts with a letter, holds to that
letter's direction, and ends with a letter or a digit.
-/
namespace Crowdlending.Web.Name

inductive Direction where
  | left
  | right
  | arabicDigit
  | europeanDigit
  | neutral
  | nonspacing
deriving Repr, DecidableEq

namespace Direction

def ofChar (c : Char) : Direction :=
  let n := c.toNat
  if Property.rightToLeft.contains n then right
  else if Property.arabicDigit.contains n then arabicDigit
  else if Property.europeanDigit.contains n then europeanDigit
  else if Property.neutral.contains n then neutral
  else if Property.nonspacing.contains n then nonspacing
  else left

/-- A character with this direction makes its whole name bidirectional. -/
def reverses : Direction → Bool
  | right | arabicDigit => true
  | _ => false

/-- The last direction that is not that of a mark. -/
def final (ds : List Direction) : Option Direction :=
  ds.reverse.find? fun d => d != nonspacing

/-- The directions of a label that is shown as one piece. -/
def areSteady : List Direction → Bool
  | [] => true
  | right :: r =>
      let ds := right :: r
      !ds.contains left && !(ds.contains europeanDigit && ds.contains arabicDigit) &&
        [some right, some europeanDigit, some arabicDigit].contains (final ds)
  | left :: r =>
      let ds := left :: r
      !ds.any reverses && [some left, some europeanDigit].contains (final ds)
  | _ => false

end Direction

/-- The labels of a name can be shown together. -/
def areSteady (labels : List (List Char)) : Bool :=
  let directions := labels.map fun l => l.map Direction.ofChar
  !(directions.any fun ds => ds.any Direction.reverses) || directions.all Direction.areSteady

end Crowdlending.Web.Name
