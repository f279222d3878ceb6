import Crowdlending.Web.Name.Property

/-!
# Composed text

Text is composed when its combining marks stand in their order and no character could be written
as one with a mark that follows it.
-/
namespace Crowdlending.Web.Name
open Property

/-- Zero for characters that are no combining marks. -/
def combiningClass (c : Char) : Nat :=
  match combiningClasses.find? fun r => r.has c.toNat with
  | some r => r.value.headD 0
  | none => 0

/-- The sums of the beginnings of a list. -/
def sumsFrom : Nat → List Nat → List Nat
  | _, [] => []
  | total, n :: r => (total + n) :: sumsFrom (total + n) r

/-- Syllables are composed by arithmetic: a leading consonant and a vowel, or a syllable without
a final consonant and one. -/
def composesSyllable (a b : Nat) : Bool :=
  (0x1100 ≤ a && a < 0x1113 && 0x1161 ≤ b && b < 0x1176) ||
    (0xAC00 ≤ a && a < 0xD7A4 && (a - 0xAC00) % 28 == 0 && 0x11A7 < b && b < 0x11C3)

/-- The two can be written as one character. -/
def composes (a b : Char) : Bool :=
  composesSyllable a.toNat b.toNat ||
    compositions.any fun g => match g with
      | mark :: firsts => mark == b.toNat && (sumsFrom 0 firsts).contains a.toNat
      | [] => false

/-- `base` is the last character that is no mark, and `before` the class of the character just
before the rest. -/
def isComposedAfter (base : Option Char) (before : Nat) : List Char → Bool
  | [] => true
  | c :: r =>
      let class_ := combiningClass c
      let ordered := class_ = 0 ∨ before ≤ class_
      let open_ := before = 0 ∨ before < class_
      let joined := match base with
        | some b => composes b c
        | none => false
      decide ordered && !(joined && (if class_ = 0 then before = 0 else open_)) &&
        isComposedAfter (if class_ = 0 then some c else base) class_ r

def isComposed (s : List Char) : Bool := isComposedAfter none 0 s

end Crowdlending.Web.Name
