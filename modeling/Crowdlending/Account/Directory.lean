import Crowdlending.Account.User
import Crowdlending.Failure

/-!
# The directory of users

Users in the order in which they came. Only active users reserve their email
and phone number; a closed account keeps its entry.
-/
namespace Crowdlending.Account

structure Entry where
  user : User
  createdBy : Option Int
  updatedBy : Option Int
deriving Repr, DecidableEq

namespace Entry

def isActive (e : Entry) : Bool := e.user.status == .active

def holds (e : Entry) (identifier : String) : Bool :=
  e.user.email == identifier || e.user.phoneNumber == identifier

end Entry

structure Directory where
  entries : List Entry
  lastId : Int
deriving Repr, DecidableEq

namespace Directory

def empty : Directory := ⟨[], 0⟩

def entry? (d : Directory) (id : Int) : Option Entry := d.entries.find? fun e => e.user.id == id

def find? (d : Directory) (id : Int) : Option User := (d.entry? id).map Entry.user

/-- An active user has this email or this phone number. -/
def isTaken (d : Directory) (email phoneNumber : String) : Bool :=
  d.entries.any fun e => e.isActive && (e.user.email == email || e.user.phoneNumber == phoneNumber)

def create (d : Directory) (r : Registration) : Except Failure (Directory × User) :=
  if d.isTaken r.email r.phoneNumber then .error .userExists
  else
    let u : User :=
      { id := d.lastId + 1, name := r.name, email := r.email, phoneNumber := r.phoneNumber
        passwordHash := r.passwordHash, status := .active, role := r.role, emailVerified := false }
    .ok (⟨d.entries ++ [⟨u, r.createdBy, none⟩], u.id⟩, u)

/-- An active user is known by this value. -/
def isKnown (d : Directory) (kind : Identifier) (value : String) : Except Failure Bool :=
  match kind with
  | .username => .error .identifierKind
  | .email => .ok (d.entries.any fun e => e.isActive && e.user.email == value)
  | .phoneNumber => .ok (d.entries.any fun e => e.isActive && e.user.phoneNumber == value)

/-- The better of two holders of an identifier: the active one, else the newer one. -/
def preferred (a b : Entry) : Entry :=
  match a.isActive, b.isActive with
  | true, false => a
  | false, true => b
  | _, _ => if a.user.id ≤ b.user.id then b else a

def holder? (d : Directory) (identifier : String) : Option User :=
  match d.entries.filter fun e => e.holds identifier with
  | [] => none
  | e :: r => some (r.foldl preferred e).user

def byIdentifier (d : Directory) (identifier : String) : Except Failure User :=
  match d.holder? identifier with
  | some u => .ok u
  | none => .error .userNotFound

/-- The users with these ids, in the directory's order. -/
def withIds (d : Directory) (ids : List Int) : List User :=
  (d.entries.filter fun e => ids.contains e.user.id).map Entry.user

/-- Changes the first entry with this id. -/
def mapFirst (id : Int) (f : Entry → Entry) : List Entry → List Entry
  | [] => []
  | e :: r => if e.user.id = id then f e :: r else e :: mapFirst id f r

def setStatus (d : Directory) (id : Int) (status : Status) : Directory :=
  { d with entries := mapFirst id (fun e => { e with user := { e.user with status } }) d.entries }

def close (d : Directory) (id closedBy : Int) : Except Failure (Directory × User) :=
  match d.find? id with
  | none => .error .userNotFound
  | some u =>
      let close := fun (e : Entry) =>
        { e with user := { e.user with status := .closed }, updatedBy := some closedBy }
      .ok ({ d with entries := mapFirst id close d.entries }, { u with status := .closed })

end Directory

end Crowdlending.Account
