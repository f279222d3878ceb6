import Crowdlending.Text.Blank
import Crowdlending.Token.Bearer

/-!
# Media types

A media type is two tokens with a slash between and parameters after semicolons. What follows the
last plus sign of the second token names the format it is built on.
-/
namespace Crowdlending.Http
open Text

def isTokenChar (c : Char) : Bool := c.isAlphanum || "!#$%&\x27*+-.^_\x60|~".toList.contains c

/-- A character between quotes. -/
def isQuotedChar (c : Char) : Bool := 32 ≤ c.toNat && c.toNat ≠ 127

/-- Where one is in the parameters. -/
inductive ParameterPlace where
  | before
  | name
  | value
  | token
  | opened
  | quoted
  | closed
deriving Repr, DecidableEq

/-- The place after a character; `none` if the character does not fit. -/
def ParameterPlace.next? (c : Char) : ParameterPlace → Option ParameterPlace
  | before => if c = ' ' then some before else if isTokenChar c then some name else none
  | name => if c = '=' then some value else if isTokenChar c then some name else none
  | value => if c = '"' then some opened else if isTokenChar c then some token else none
  | token => if c = ';' then some before else if isTokenChar c then some token else none
  | opened => if isQuotedChar c then some quoted else none
  | quoted => if c = '"' then some closed else if isQuotedChar c then some quoted else none
  | closed => if c = ';' then some before else if c = ' ' then some closed else none

/-- Parameters may end wherever no name and no quoted value is left open. -/
def ParameterPlace.mayEnd : ParameterPlace → Bool
  | before | value | token | closed => true
  | name | opened | quoted => false

def areParameters (place : ParameterPlace) : List Char → Bool
  | [] => place.mayEnd
  | c :: r =>
      match place.next? c with
      | some next => areParameters next r
      | none => false

/-- The second token without its suffix, and the suffix. -/
def cutSuffix (s : List Char) : List Char × Option (List Char) :=
  match cutLast '+' s with
  | some (c :: r, suffix) => (c :: r, some suffix)
  | _ => (s, none)

/-- The content is JSON, or of a format built on it. -/
def isJsonType (mediaType : String) : Bool :=
  let s := mediaType.toList
  match cutFirst '/' s with
  | none => false
  | some (kind, r) =>
      let name := r.takeWhile (· != ';')
      let parameters := (r.dropWhile (· != ';')).drop 1
      let (base, suffix) := cutSuffix name
      let lower := fun (cs : List Char) => lowerAscii (String.ofList cs)
      s.all Token.isShown && kind.all isTokenChar && !name.isEmpty && name.all isTokenChar &&
        areParameters .before parameters && lower kind == "application" &&
        (lower base == "json" || suffix.any fun x => lower x == "json")

end Crowdlending.Http
