import Crowdlending.Text.CharClass

/-!
# Quoted texts

A text in double quotes in which every character shows: quotes, backslashes
and control characters are escaped, and so is whatever has no shape of its own.
-/
namespace Crowdlending.Text

/-- The digits of a number to base sixteen. -/
def hexText (n : Nat) : String := String.ofList (Nat.toDigits 16 n)

def escapeChar (c : Char) : String :=
  if c = '"' then "\\\""
  else if c = '\\' then "\\\\"
  else if c = '\n' then "\\n"
  else if c = '\r' then "\\r"
  else if c = '\t' then "\\t"
  else if c.toNat = 0 then "\\0"
  else if isExtending c || !isPrintable c then "\\u\x7b" ++ hexText c.toNat ++ "\x7d"
  else c.toString

def quoted (s : String) : String := "\"" ++ String.join (s.toList.map escapeChar) ++ "\""

end Crowdlending.Text
