import Crowdlending.Failure
import Crowdlending.Text.Blank
import Crowdlending.Text.CharClass

/-!
# The password policy

A password has at least eight characters, one of them a digit, one an
uppercase letter and one a punctuation mark or symbol.
-/
namespace Crowdlending.Account
open Text

def leastPasswordLength : Nat := 8

/-- A punctuation mark or symbol that is neither a digit nor an uppercase letter. -/
def isSpecial (c : Char) : Bool :=
  !isNumeric c && !isUppercase c &&
    (isAsciiPunctuation c || (!isAlphanumeric c && !isBlank c))

/-- An uppercase letter that is no digit. -/
def isCapital (c : Char) : Bool := !isNumeric c && isUppercase c

def isStrong (s : List Char) : Bool :=
  leastPasswordLength ≤ s.length && s.any isNumeric && s.any isCapital && s.any isSpecial

def checkPassword (s : String) : Except Failure Unit :=
  if isStrong s.toList then .ok () else .error .weakPassword

end Crowdlending.Account
