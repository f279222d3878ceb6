import Crowdlending.Json.Token

/-!
# Reading JSON

A pushdown automaton builds the document from the lexemes: the stack holds the
containers that are open. At the first lexeme that does not fit, the open
containers are closed around the leaf `broken`.
-/
namespace Crowdlending.Json

/-- An open container; its contents are kept newest first. -/
inductive Frame where
  | list (items : List Doc)
  | record (members : List (Option String × Doc))
  | member (members : List (Option String × Doc)) (key : Option String)

/-- What may come next. -/
inductive Want where
  | value
  | firstItem
  | firstKey
  | key
  | colon
  | comma
deriving Repr, DecidableEq

/-- The container with the text stopping in it. -/
def Frame.cut (inner : Option Doc) : Frame → Doc
  | .list items => .list (((inner.getD .broken) :: items).reverse)
  | .record members => .record (((none, .broken) :: members).reverse)
  | .member members key => .record (((key, inner.getD .broken) :: members).reverse)

def cutAll (inner : Option Doc) : List Frame → Doc
  | [] => inner.getD .broken
  | f :: fs => cutAll (some (f.cut inner)) fs

/-- The document that the lexemes begin with, and the lexemes after it. -/
def build : List Frame → Want → List Token → Doc × List Token
  | stack, _, [] => (cutAll none stack, [])
  | stack, want, t :: r =>
      let done (d : Doc) (outer : List Frame) : Doc ⊕ (List Frame × Want) :=
        match outer with
        | [] => .inl d
        | .list items :: fs => .inr (.list (d :: items) :: fs, .comma)
        | .member ms k :: fs => .inr (.record ((k, d) :: ms) :: fs, .comma)
        | .record ms :: fs => .inr (.record ((none, d) :: ms) :: fs, .comma)
      let next : Option (Doc ⊕ (List Frame × Want)) :=
        match want, t, stack with
        | .value, .leaf d, _ | .firstItem, .leaf d, _ => some (done d stack)
        | .value, .openList, _ | .firstItem, .openList, _ =>
            some (.inr (.list [] :: stack, .firstItem))
        | .value, .openRecord, _ | .firstItem, .openRecord, _ =>
            some (.inr (.record [] :: stack, .firstKey))
        | .firstItem, .closeList, .list items :: fs | .comma, .closeList, .list items :: fs =>
            some (done (.list items.reverse) fs)
        | .firstKey, .closeRecord, .record ms :: fs | .comma, .closeRecord, .record ms :: fs =>
            some (done (.record ms.reverse) fs)
        | .firstKey, .leaf (.text k), .record ms :: fs | .key, .leaf (.text k), .record ms :: fs =>
            some (.inr (.member ms k :: fs, .colon))
        | .colon, .colon, _ => some (.inr (stack, .value))
        | .comma, .comma, .list _ :: _ => some (.inr (stack, .value))
        | .comma, .comma, .record _ :: _ => some (.inr (stack, .key))
        | _, _, _ => none
      match next with
      | none => (cutAll none stack, [])
      | some (.inl d) => (d, r)
      | some (.inr (stack', want')) => build stack' want' r

/-- The first value of the text; what follows it is not looked at. -/
def readFirst (bytes : List UInt8) : Doc := (build [] .value (tokens bytes)).1

/-- The value that is the whole text; `broken` when more than white space follows it. -/
def readWhole (bytes : List UInt8) : Doc :=
  match build [] .value (tokens bytes) with
  | (d, []) => d
  | _ => .broken

def readText (s : String) : Doc := readWhole s.toUTF8.toList

end Crowdlending.Json
