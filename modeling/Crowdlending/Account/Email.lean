import Crowdlending.Text.Blank

/-!
# The shape of email addresses

An address is a local part, one `@` and a domain of two or more labels, none
of them empty, and holds no white space.
-/
namespace Crowdlending.Account
open Text

def isEmail (s : List Char) : Bool :=
  match cutFirst '@' s with
  | none => false
  | some (localPart, domain) =>
      !(localPart.isEmpty || domain.contains '@' || s.any isBlank) &&
        domain.contains '.' && (cut '.' domain).all fun l => !l.isEmpty

def isEmailText (s : String) : Bool := isEmail s.toList

end Crowdlending.Account
