import Crowdlending.Text.Property

/-!
# Classes of characters

The classes by which passwords are judged and texts are quoted. ASCII is told
apart by direct comparison, the rest by the tables.
-/
namespace Crowdlending.Text

def isNumeric (c : Char) : Bool :=
  if c.toNat < 128 then c.isDigit else Property.numeric.contains c.toNat

def isUppercase (c : Char) : Bool :=
  if c.toNat < 128 then c.isUpper else Property.uppercase.contains c.toNat

def isAlphabetic (c : Char) : Bool :=
  if c.toNat < 128 then c.isAlpha else Property.alphabetic.contains c.toNat

def isAlphanumeric (c : Char) : Bool := isAlphabetic c || isNumeric c

/-- Has a shape of its own: no control, format, private, unassigned or separator character but
the plain space. -/
def isPrintable (c : Char) : Bool :=
  if c.toNat < 128 then 32 ≤ c.toNat && c.toNat < 127
  else !Property.unprintable.contains c.toNat

/-- Joins the character before it. -/
def isExtending (c : Char) : Bool := 128 ≤ c.toNat && Property.extending.contains c.toNat

def isAsciiPunctuation (c : Char) : Bool :=
  let n := c.toNat
  (33 ≤ n && n ≤ 47) || (58 ≤ n && n ≤ 64) || (91 ≤ n && n ≤ 96) || (123 ≤ n && n ≤ 126)

end Crowdlending.Text
