import Crowdlending.Number.Numeral
import Crowdlending.Text.Percent
import Crowdlending.Web.Ip
import Crowdlending.Web.Name.Basic

/-!
# Web addresses

An absolute address with the scheme `http` or `https` and a host. Addresses are read as browsers
read them: tabs and line ends anywhere are passed over, backslashes count as slashes, and any
number of slashes may stand before the host. Path, query and fragment may be anything.
-/
namespace Crowdlending.Web
open Text

inductive Host where
  | name (labels : List (List Char))
  | v4 (address : Nat)
  | v6 (pieces : List Nat)
deriving Repr, DecidableEq

def Host.ofName? (s : List Char) : Option Host := do
  let decoded ← percentDecodeText? (String.ofList s)
  let labels ← Name.labels? decoded.toList
  if labels.flatten.isEmpty ∧ labels.length ≤ 1 then none
  else if Ip.endsInNumber labels then (Ip.v4? labels).map .v4
  else some (.name labels)

/-- The host in an address; one in brackets is an address of 128 bits. -/
def Host.ofChars? : List Char → Option Host
  | [] => none
  | '[' :: r =>
      match r.reverse with
      | ']' :: inner => (Ip.v6? inner.reverse).map .v6
      | _ => none
  | s => ofName? s

def isControlOrSpace (c : Char) : Bool := c.toNat ≤ 0x20
def isPassedOver (c : Char) : Bool := c == '\t' || c == '\n' || c == '\r'
def isSlash (c : Char) : Bool := c == '/' || c == '\\'

/-- Ends the host and what belongs to it. -/
def endsAuthority (c : Char) : Bool := isSlash c || c == '?' || c == '#'

/-- The characters of an address that count. -/
def significant (s : List Char) : List Char :=
  (((s.dropWhile isControlOrSpace).reverse.dropWhile isControlOrSpace).reverse).filter
    fun c => !isPassedOver c

def schemes : List String := ["http", "https"]

/-- What follows the scheme, if it is one of the web. -/
def afterScheme? (s : List Char) : Option (List Char) :=
  match cutFirst ':' s with
  | some (scheme, r) =>
      if schemes.contains (lowerAscii (String.ofList scheme)) then some r else none
  | none => none

/-- The host and what follows its colon, if it has one outside brackets. -/
def cutPort (inside : Bool) : List Char → List Char × Option (List Char)
  | [] => ([], none)
  | c :: r =>
      if c = ':' ∧ ¬inside then ([], some r)
      else
        let p := cutPort (if c = '[' then true else if c = ']' then false else inside) r
        (c :: p.1, p.2)

def isPort (s : List Char) : Bool :=
  s.isEmpty || (s.all Char.isDigit && (Number.readNat Number.maxU16 s).isOk)

/-- The host of a web address. -/
def host? (s : String) : Option Host := do
  let r ← afterScheme? (significant s.toList)
  let authority := (r.dropWhile isSlash).takeWhile fun c => !endsAuthority c
  let (host, portNumber) := cutPort false (((cutLast '@' authority).map Prod.snd).getD authority)
  if portNumber.all isPort then Host.ofChars? host else none

/-- The text without white space around it is a web address. -/
def isWebAddress (s : String) : Bool := (host? (trim s)).isSome

end Crowdlending.Web
