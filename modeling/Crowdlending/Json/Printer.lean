import Crowdlending.Json.Document
import Crowdlending.Text.Quoted

/-!
# Writing JSON

Documents are written without white space; of the characters in a text only
quotes, backslashes and control characters are escaped.
-/
namespace Crowdlending.Json

def hexDigit (n : Nat) : Char := (Nat.digitChar n)

def printChar (c : Char) : String :=
  if c = '"' then "\\\""
  else if c = '\\' then "\\\\"
  else if c = '\n' then "\\n"
  else if c = '\r' then "\\r"
  else if c = '\t' then "\\t"
  else if c.toNat = 8 then "\\b"
  else if c.toNat = 12 then "\\f"
  else if c.toNat < 32 then
    "\\u00" ++ (hexDigit (c.toNat / 16)).toString ++ (hexDigit (c.toNat % 16)).toString
  else c.toString

def printText (s : String) : String := "\"" ++ String.join (s.toList.map printChar) ++ "\""

def Numeral.print (n : Numeral) : String :=
  let sign := if n.negative then "-" else ""
  let shift := n.exponent - n.places
  sign ++ toString n.digits ++ (if n.plain then "" else "e" ++ toString shift)

namespace Doc

mutual

def print : Doc → String
  | null | broken => "null"
  | bool b => if b then "true" else "false"
  | number n => n.print
  | text s => printText (s.getD "")
  | list items => "[" ++ ",".intercalate (printItems items) ++ "]"
  | record members => "\x7b" ++ ",".intercalate (printMembers members) ++ "\x7d"

def printItems : List Doc → List String
  | [] => []
  | d :: r => print d :: printItems r

def printMembers : List (Option String × Doc) → List String
  | [] => []
  | (k, d) :: r => (printText (k.getD "") ++ ":" ++ print d) :: printMembers r

end

end Doc

end Crowdlending.Json
