import Crowdlending.Codec.Base64
import Crowdlending.Text.Blank

/-!
# PEM

Bytes in base 64 between a line that names what they are and a line that ends
them. The strict reading wants lines of 64 symbols and nothing after the end;
the loose one takes the first block it finds and ignores white space in it.
-/
namespace Crowdlending.Crypto.Pem
open Text

structure Block where
  label : String
  bytes : List UInt8
deriving Repr, DecidableEq

def lineWidth : Nat := 64
def beginMark : List Char := "-----BEGIN ".toList
def endMark : List Char := "-----END ".toList
def dashes : List Char := "-----".toList

/-- The parts before and after the first place where the pattern stands. -/
def splitAt? (pattern : List Char) : List Char → Option (List Char × List Char)
  | [] => if pattern.isEmpty then some ([], []) else none
  | c :: r =>
      match after? pattern (c :: r) with
      | some rest => some ([], rest)
      | none => (splitAt? pattern r).map fun p => (c :: p.1, p.2)

/-- What follows the end of a line. -/
def skipNewline : List Char → Option (List Char)
  | '\r' :: '\n' :: r | '\n' :: r | '\r' :: r => some r
  | _ => none

def dropSuffix? (suffix s : List Char) : Option (List Char) :=
  (after? suffix.reverse s.reverse).map List.reverse

/-- What stands before the end of the last line. -/
def dropNewline? (s : List Char) : Option (List Char) :=
  match s.reverse with
  | '\n' :: '\r' :: r | '\n' :: r | '\r' :: r => some r.reverse
  | _ => none

/-- Where the first line that begins a block starts. -/
def skipPreamble (s : List Char) : Option (List Char) :=
  match after? beginMark s with
  | some r => some r
  | none =>
      match splitAt? ('\n' :: beginMark) s with
      | some (before, r) => if before.contains '\x00' then none else some r
      | none => none

/-- Every kind of line end becomes a single line feed. -/
def unifyNewlines : List Char → List Char
  | [] => []
  | '\r' :: '\n' :: r => '\n' :: unifyNewlines r
  | '\r' :: r => '\n' :: unifyNewlines r
  | c :: r => c :: unifyNewlines r

def linesOf (s : List Char) : List (List Char) := cut '\n' (unifyNewlines s)

/-- All lines but the last are full, and the last one is not empty. -/
def wrapped : List (List Char) → Bool
  | [] => false
  | [l] => 0 < l.length && l.length ≤ lineWidth
  | l :: r => l.length == lineWidth && wrapped r

def readStrict (text : String) : Option Block := do
  let r ← skipPreamble text.toList
  let (label, r) ← splitAt? dashes r
  let body ← skipNewline r
  let body := (dropNewline? body).getD body
  let body ← dropSuffix? dashes body
  let body ← dropSuffix? label body
  let body ← dropSuffix? endMark body
  let body ← dropNewline? body
  let ls := linesOf body
  if wrapped ls then
    let bytes ← Codec.Base64.decodePadded .standard ls.flatten
    some ⟨String.ofList label, bytes⟩
  else none

def readLoose (text : String) : Option Block := do
  let (_, r) ← splitAt? beginMark text.toList
  let (label, r) ← splitAt? dashes r
  let (body, r) ← splitAt? endMark r
  let (closing, _) ← splitAt? dashes r
  if label = closing then
    let bytes ← Codec.Base64.decodePadded .standard (body.filter fun c => !isBlank c)
    some ⟨String.ofList label, bytes⟩
  else none

end Crowdlending.Crypto.Pem
