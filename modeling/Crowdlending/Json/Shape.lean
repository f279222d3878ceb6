import Crowdlending.Json.Document
import Crowdlending.Number.Numeral

/-!
# Shapes of documents

Reading typed values out of documents from left to right. The fault says which
was met first: a place where the text is no JSON, or one where the document has
another shape than wanted. A record may also be written as the list of its
fields in order; a field that the shape does not know is passed over, whatever
it holds.
-/
namespace Crowdlending.Json

inductive Fault where
  /-- The text is no JSON there. -/
  | text
  /-- The document has another shape there. -/
  | shape
deriving Repr, DecidableEq

namespace Doc

/-- The fault of a document that is not of the kind wanted. -/
def mismatch : Doc → Fault
  | broken => .text
  | text none => .text
  | number n => if n.isHuge then .text else .shape
  | _ => .shape

def asText : Doc → Except Fault String
  | text (some s) => .ok s
  | d => .error d.mismatch

def asBool : Doc → Except Fault Bool
  | bool b => .ok b
  | d => .error d.mismatch

/-- An integer between the bounds. -/
def asInt (least most : Int) : Doc → Except Fault Int
  | number n =>
      match n.toInt? with
      | some i => if least ≤ i ∧ i ≤ most then .ok i else .error (mismatch (number n))
      | none => .error (mismatch (number n))
  | d => .error d.mismatch

def asInt64 : Doc → Except Fault Int := asInt (-(Number.maxI64 : Int) - 1) Number.maxI64
def asNat (most : Nat) (d : Doc) : Except Fault Nat := (d.asInt 0 most).map Int.toNat

/-- `null` or a value. -/
def asOption {α : Type} (read : Doc → Except Fault α) : Doc → Except Fault (Option α)
  | null => .ok none
  | d => (read d).map some

def eachOf {α : Type} (read : Doc → Except Fault α) : List Doc → Except Fault (List α)
  | [] => .ok []
  | d :: r => do
      let a ← read d
      let as ← eachOf read r
      .ok (a :: as)

def asList {α : Type} (read : Doc → Except Fault α) : Doc → Except Fault (List α)
  | list items => eachOf read items
  | d => .error d.mismatch

/-- One of some names, by itself or as the key of `null`. -/
def asName {α : Type} (ofName? : String → Option α) : Doc → Except Fault α
  | text (some s) | record [(some s, null)] =>
      match ofName? s with
      | some a => .ok a
      | none => .error .shape
  | text none => .error .text
  | record ((some s, d) :: _) =>
      match ofName? s with
      | none => .error .shape
      | some _ => .error (if d.isWhole then .shape else .text)
  | _ => .error .text

end Doc

/-- A field of a record: whether it may be missing, and what its value has to pass. -/
structure Field where
  name : String
  optional : Bool
  check : Doc → Except Fault Unit

namespace Field

def required {α : Type} (name : String) (read : Doc → Except Fault α) : Field :=
  ⟨name, false, fun d => (read d).map fun _ => ()⟩

def defaulted {α : Type} (name : String) (read : Doc → Except Fault α) : Field :=
  ⟨name, true, fun d => (read d).map fun _ => ()⟩

/-- The values of the fields that stand in a list in order. -/
def inOrder : List Field → List Doc → Except Fault (List (String × Doc))
  | [], [] => .ok []
  | [], _ :: _ => .error .text
  | f :: fs, [] => if f.optional then inOrder fs [] else .error .shape
  | f :: fs, d :: ds => do
      f.check d
      let rest ← inOrder fs ds
      .ok ((f.name, d) :: rest)

/-- The values of the known fields among the members; one that comes twice is refused. -/
def byName (fields : List Field) (found : List (String × Doc)) :
    List (Option String × Doc) → Except Fault (List (String × Doc))
  | [] =>
      if fields.all fun f => f.optional || (found.lookup f.name).isSome then .ok found
      else .error .shape
  | (none, _) :: _ => .error .text
  | (some k, d) :: r =>
      match fields.find? fun f => f.name == k with
      | none => if d.isWhole then byName fields found r else .error .text
      | some f =>
          if (found.lookup k).isSome then .error .shape
          else match f.check d with
            | .error e => .error e
            | .ok _ => byName fields ((k, d) :: found) r

/-- The fields of a record, each checked. -/
def collect (fields : List Field) : Doc → Except Fault (List (String × Doc))
  | .list items => inOrder fields items
  | .record members => byName fields [] members
  | d => .error d.mismatch

end Field

/-- The fields found in a record. -/
abbrev Found := List (String × Doc)

namespace Found

def value {α : Type} (found : Found) (name : String) (read : Doc → Except Fault α) :
    Except Fault α :=
  match found.lookup name with
  | some d => read d
  | none => .error .shape

def valueD {α : Type} (found : Found) (name : String) (read : Doc → Except Fault α) (default : α) :
    Except Fault α :=
  match found.lookup name with
  | some d => read d
  | none => .ok default

end Found

end Crowdlending.Json
