/-!
# Roles

The numbers of the roles are part of the token format.
-/
namespace Crowdlending.Account

inductive Role where
  | superadmin
  | admin
  | fieldValidator
  | investor
  | borrower
deriving Repr, DecidableEq

namespace Role

def all : List Role := [superadmin, admin, fieldValidator, investor, borrower]

def number : Role → Nat
  | superadmin => 1
  | admin => 2
  | fieldValidator => 3
  | investor => 4
  | borrower => 5

def name : Role → String
  | superadmin => "Superadmin"
  | admin => "Admin"
  | fieldValidator => "FieldValidator"
  | investor => "Investor"
  | borrower => "Borrower"

def ofNumber? (n : Nat) : Option Role := all.find? fun r => r.number == n

def unknownMessage (n : Nat) : String := "unknown role id: " ++ toString n

/-- The roles that a caller with this role may register. -/
def creatable : Role → List Role
  | superadmin => [superadmin, admin]
  | admin => [admin]
  | fieldValidator | investor | borrower => []

theorem ofNumber?_number (r : Role) : ofNumber? r.number = some r := by
  cases r <;> decide

theorem number_ofNumber? {n : Nat} {r : Role} (h : ofNumber? n = some r) : r.number = n := by
  have := List.find?_some h
  simpa using this

end Role

end Crowdlending.Account
