/-!
# The life of a loan

A loan is proposed, approved, funded by its investors, fully invested and
disbursed. `rank` orders the states; no transition lowers it.
-/
namespace Crowdlending.Loan

inductive State where
  | proposed
  | approved
  | funding
  | invested
  | disbursed
deriving Repr, DecidableEq

namespace State

def all : List State := [proposed, approved, funding, invested, disbursed]

def name : State → String
  | proposed => "PROPOSED"
  | approved => "APPROVED"
  | funding => "FUNDING"
  | invested => "INVESTED"
  | disbursed => "DISBURSED"

def rank : State → Nat
  | proposed => 0
  | approved => 1
  | funding => 2
  | invested => 3
  | disbursed => 4

/-- Investments are taken. -/
def isOpen : State → Bool
  | approved | funding => true
  | _ => false

def ofName? (s : String) : Option State := all.find? fun st => st.name == s

/-- The report on a name that no state has. -/
def unknownMessage (s : String) : String := "unknown loan state: " ++ s

theorem ofName?_name (st : State) : ofName? st.name = some st := by
  cases st <;> decide

end State

end Crowdlending.Loan
