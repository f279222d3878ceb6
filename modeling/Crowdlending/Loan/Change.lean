import Crowdlending.Failure
import Crowdlending.Loan.Amount
import Crowdlending.Loan.Basic

/-!
# Changes to a loan

The three changes that move a loan on, the guards of each, and the loan that
each leaves. Guards are pure: they look at the loan alone.
-/
namespace Crowdlending.Loan

inductive Change where
  | approval (proofLink : String) (interestRate roi : Decimal)
  | investment (amount : Decimal)
  | disbursement (agreementLink : String)
deriving DecidableEq

def planApproval (l : Loan) : Except Failure State :=
  if l.state = .proposed then .ok .approved else .error .loanNotProposed

/-- The loan is open, the amount within the bounds, and the sum within the principal: a sum equal
to it completes the loan. -/
def planInvestment (l : Loan) (amount : Decimal) : Except Failure State :=
  if ¬l.state.isOpen then .error .loanNotApproved
  else if ¬inBounds amount then .error .amountOutOfRange
  else match l.invested.add? amount with
    | none => .error .amountOutOfRange
    | some total =>
        if l.principal < total then .error .amountOutOfRange
        else if total.sameValue l.principal then .ok .invested
        else .ok .funding

def planDisbursement (l : Loan) : Except Failure State :=
  if l.state = .invested then .ok .disbursed else .error .loanNotInvested

namespace Change

/-- The state that the change leads to. -/
def plan (c : Change) (l : Loan) : Except Failure State :=
  match c with
  | approval .. => planApproval l
  | investment amount => planInvestment l amount
  | disbursement _ => planDisbursement l

/-- What the change writes into the loan itself. -/
def write (c : Change) (l : Loan) : Loan :=
  match c with
  | approval _ interestRate roi => { l with interestRate, roi }
  | investment amount => { l with invested := (l.invested.add? amount).getD l.invested }
  | disbursement link => { l with agreementLink := some link }

end Change

/-- Moves the loan to its next state; a state of lower rank is refused. -/
def advance (l : Loan) (next : State) (actor : Int) (now : Moment) : Except Failure Loan :=
  if next.rank < l.state.rank then .error (.internal (.regression l.id l.state next))
  else .ok { l with state := next, updatedAt := some now, updatedBy := some actor }

end Crowdlending.Loan
