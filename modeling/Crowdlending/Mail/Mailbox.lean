import Crowdlending.Text.Blank
import Crowdlending.Text.CharClass
import Crowdlending.Web.Name.Ascii

/-!
# Mailboxes

A mailbox is written `local@domain`, or `Name <local@domain>` with a name of words. A word is an
atom or a quoted text. The local part is a row of atoms with points between, or a quoted text, or
an atom, a point and a row of words that begins with a quoted text. It stands for a name without
the quotes, and that name must be a row of atoms again, or be quoted once more.
-/
namespace Crowdlending.Mail
open Text

structure Mailbox where
  localPart : List Char
  domain : List Char
deriving Repr, DecidableEq

namespace Mailbox

def mostLocalBytes : Nat := 64
def mostDomainBytes : Nat := 254
def mostLabelBytes : Nat := 63

/-! ## Words -/

/-- A character of an atom: no space, no control and none of the signs with a meaning. -/
def isAtomChar (c : Char) : Bool :=
  128 ≤ c.toNat || c.isAlphanum || "!#$%&'*+-/=?^_\x60\x7b|\x7d~".toList.contains c

def isAtom (s : List Char) : Bool := !s.isEmpty && s.all isAtomChar

def isDotAtom (s : List Char) : Bool := (cut '.' s).all isAtom

/-- The end of a line, or a character that stands for nothing. -/
def isBreak (c : Char) : Bool := c == '\n' || c == '\r' || c.toNat == 0

/-- A character between quotes that stands for itself. -/
def isQuotedChar (c : Char) : Bool := c != '"' && c != '\\' && !isBreak c

/-- A character between quotes that may follow a backslash. -/
def isEscapable (c : Char) : Bool := c.toNat < 128 && !isBreak c

/-- What a text stands for up to its closing quote, and what follows that. -/
def readQuoted : List Char → Option (List Char × List Char)
  | [] => none
  | '"' :: r => some ([], r)
  | '\\' :: c :: r => if isEscapable c then (readQuoted r).map fun x => (c :: x.1, x.2) else none
  | c :: r => if isQuotedChar c then (readQuoted r).map fun x => (c :: x.1, x.2) else none

/-- Where one is in a row of words with points between them. -/
inductive RowPlace where
  | start
  | atom
  | quotes
  | escape
  | closed
deriving Repr, DecidableEq

/-- What the rest of a row stands for. -/
def readRow : RowPlace → List Char → Option (List Char)
  | .atom, [] | .closed, [] => some []
  | _, [] => none
  | .escape, c :: r => if isEscapable c then (readRow .quotes r).map (c :: ·) else none
  | .quotes, c :: r =>
      if c = '"' then readRow .closed r
      else if c = '\\' then readRow .escape r
      else if isQuotedChar c then (readRow .quotes r).map (c :: ·)
      else none
  | .start, c :: r =>
      if c = '"' then readRow .quotes r
      else if isAtomChar c then (readRow .atom r).map (c :: ·)
      else none
  | .atom, c :: r =>
      if c = '.' then (readRow .start r).map (c :: ·)
      else if isAtomChar c then (readRow .atom r).map (c :: ·)
      else none
  | .closed, c :: r => if c = '.' then (readRow .start r).map (c :: ·) else none

/-! ## Local parts -/

/-- What a local part stands for. -/
def readLocal (s : List Char) : Option (List Char) :=
  if isDotAtom s then some s
  else match s with
    | '"' :: r => match readQuoted r with
      | some (name, []) => some name
      | _ => none
    | _ => match s.dropWhile isAtomChar with
      | '.' :: '"' :: r =>
          let atom := s.takeWhile isAtomChar
          if atom.isEmpty then none else (readRow .quotes r).map fun name => atom ++ '.' :: name
      | _ => none

/-- A character that shows; `c` may then follow a backslash in a name. -/
def isVisible (c : Char) : Bool := 33 ≤ c.toNat && c.toNat < 127

/-- A character of a quoted name that stands for itself. -/
def isNameChar (c : Char) : Bool :=
  c == ' ' || c == '\t' || ((isVisible c || 128 ≤ c.toNat) && c != '"' && c != '\\')

/-- The rest of a name that is in quotes itself. -/
def isQuotedName : List Char → Bool
  | [] => false
  | ['"'] => true
  | '\\' :: c :: r => isVisible c && isQuotedName r
  | c :: r => isNameChar c && isQuotedName r

/-- A name that a mailbox can have at its host. -/
def isName (s : List Char) : Bool :=
  byteLength s ≤ mostLocalBytes &&
    match s with
    | '"' :: r => r != ['"'] && isQuotedName r
    | _ => isDotAtom s

/-! ## Domains -/

/-- A label of a domain starts and ends with a letter or a digit. -/
def isLabel (s : List Char) : Bool :=
  isAtom s && (s.head?).any isAlphanumeric && (s.getLast?).any isAlphanumeric &&
    byteLength s ≤ mostLabelBytes

def isPlainDomain (s : List Char) : Bool :=
  byteLength s ≤ mostDomainBytes && (cut '.' s).all isLabel

/-- A domain as it is, or in the form in which it is sent. -/
def isDomain (s : List Char) : Bool :=
  isPlainDomain s || (Web.Name.asciiForm? s).any isPlainDomain

/-! ## Addresses -/

/-- Reads `local@domain`. -/
def ofAddress? (s : List Char) : Option Mailbox :=
  match cutLast '@' s with
  | none => none
  | some (written, domain) => match readLocal written with
    | none => none
    | some name =>
        if isName name ∧ isDotAtom domain ∧ isDomain domain then some ⟨name, domain⟩ else none

/-- Where one is in a name that precedes an address. -/
inductive Place where
  | words
  | quotes
  | escape
deriving Repr, DecidableEq

/-- What follows the angle bracket that ends a name. -/
def skipName : Place → List Char → Option (List Char)
  | _, [] => none
  | .escape, c :: r => if isEscapable c then skipName .quotes r else none
  | .quotes, c :: r =>
      if c = '"' then skipName .words r
      else if c = '\\' then skipName .escape r
      else if isQuotedChar c then skipName .quotes r
      else none
  | .words, c :: r =>
      if c = '<' then some r
      else if c = '"' then skipName .quotes r
      else if isBlank c || isAtomChar c || c == '.' then skipName .words r
      else none

/-- Reads `Name <local@domain>`; the name may be missing, and begins with a word. -/
def ofNamed? (s : List Char) : Option Mailbox := do
  if s.head? = some '.' then none
  else
    let r ← skipName .words s
    if r.getLast? = some '>' then ofAddress? r.dropLast else none

def ofText? (text : String) : Option Mailbox :=
  let s := trimChars text.toList
  (ofNamed? s).or (ofAddress? s)

end Mailbox

end Crowdlending.Mail
