/-!
# Phone numbers

Numbers are kept in international form: without the separators people type,
and with a plus sign in front.
-/
namespace Crowdlending.Account.Phone

def isSeparator (c : Char) : Bool := c == ' ' || c == '-' || c == '.' || c == '_'

def strip (s : List Char) : List Char := s.filter fun c => !isSeparator c

/-- A leading zero stands for the country; a leading plus sign is kept; any other number gets
one. Nothing stays nothing. -/
def internationalChars (country s : List Char) : List Char :=
  match strip s with
  | '0' :: r => country ++ r
  | [] => []
  | '+' :: r => '+' :: r
  | r => '+' :: r

def removeSeparators (s : String) : String := String.ofList (strip s.toList)

def international (country s : String) : String :=
  String.ofList (internationalChars country.toList s.toList)

/-- Fewer than four characters are no number at all. -/
def meaningful? (s : String) : Option String :=
  if 4 ≤ s.toList.length then some s else none

end Crowdlending.Account.Phone
