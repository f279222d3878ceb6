import Crowdlending.Failure
import Crowdlending.Token.Claims

/-!
# Who may do what

Each guarded operation lists the roles that may perform it. A caller without
claims is unauthenticated; one with another role is refused.
-/
namespace Crowdlending.Access
open Account Token

inductive Operation where
  | proposeLoan
  | approveLoan
  | investInLoan
  | disburseLoan
  | closeAccount
deriving Repr, DecidableEq

def Operation.roles : Operation → List Role
  | proposeLoan => [.superadmin, .admin, .borrower]
  | approveLoan => [.superadmin, .admin, .fieldValidator]
  | investInLoan => [.superadmin, .admin, .investor]
  | disburseLoan => [.superadmin, .admin]
  | closeAccount => Role.all

def authorize (caller : Option Claims) (op : Operation) : Except Failure Claims :=
  match caller with
  | none => .error .unauthenticated
  | some c => if op.roles.contains c.role then .ok c else .error .permissionDenied

/-- The role a new user gets. Without a caller it is always that of a borrower; a caller may only
ask for a role that its own may create. -/
def registrationRole (caller : Option Claims) (requested : Nat) : Except Failure Role :=
  match caller with
  | none => .ok .borrower
  | some c =>
      if c.role.creatable.isEmpty then .error .permissionDenied
      else match Role.ofNumber? requested with
        | none => .error (.input .roleNumber)
        | some r => if c.role.creatable.contains r then .ok r else .error .permissionDenied

theorem authorize_eq_ok {caller : Option Claims} {op : Operation} {c : Claims}
    (h : authorize caller op = .ok c) : caller = some c ∧ c.role ∈ op.roles := by
  unfold authorize at h
  split at h
  · simp at h
  · split at h
    · next hr => cases h; exact ⟨rfl, by simpa using hr⟩
    · simp at h

end Crowdlending.Access
