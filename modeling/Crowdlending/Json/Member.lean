import Crowdlending.Json.Document

/-!
# Members of records

Loose access to documents: a member that is missing, `null` or of another kind than wanted counts
as absent.
-/
namespace Crowdlending.Json.Doc

def member? (d : Doc) (name : String) : Option Doc :=
  match d with
  | record members => match members.find? fun m => m.1 == some name with
    | some (_, null) | none => none
    | some (_, v) => some v
  | _ => none

def toText? : Doc → Option String
  | text s => s
  | _ => none

def toInt? : Doc → Option Int
  | number n => n.toInt?
  | _ => none

/-- A number that is not negative. -/
def toNat? (d : Doc) : Option Nat :=
  match d.toInt? with
  | some (.ofNat n) => some n
  | _ => none

def toItems : Doc → List Doc
  | list items => items
  | _ => []

def textAt? (d : Doc) (name : String) : Option String := (d.member? name).bind toText?
def intAt? (d : Doc) (name : String) : Option Int := (d.member? name).bind toInt?
def natAt? (d : Doc) (name : String) : Option Nat := (d.member? name).bind toNat?
def itemsAt (d : Doc) (name : String) : List Doc := ((d.member? name).map toItems).getD []

/-- An absent text is empty. -/
def textAt (d : Doc) (name : String) : String := (d.textAt? name).getD ""

/-- An absent truth value is false. -/
def flagAt (d : Doc) (name : String) : Bool :=
  match d.member? name with
  | some (bool b) => b
  | _ => false

/-- An absent value is written as `null`. -/
def ofOption {α : Type} (f : α → Doc) : Option α → Doc
  | none => null
  | some a => f a

end Crowdlending.Json.Doc
