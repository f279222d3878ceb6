import Crowdlending.Decimal.Basic
import Crowdlending.Loan.State
import Crowdlending.Moment

/-!
# Loans and their records

A loan, and the records that its transitions leave: one approval, any number
of investments, one disbursement.
-/
namespace Crowdlending

structure Loan where
  id : Int
  borrower : Int
  principal : Decimal
  interestRate : Decimal
  roi : Decimal
  invested : Decimal
  state : Loan.State
  agreementLink : Option String
  createdAt : Moment
  createdBy : Option Int
  updatedAt : Option Moment
  updatedBy : Option Int
  deletedAt : Option Moment
  deletedBy : Option Int
deriving DecidableEq

namespace Loan

structure Approval where
  id : Int
  loan : Int
  validator : Int
  proofLink : String
  date : Moment
deriving Repr, DecidableEq

structure Investment where
  id : Int
  loan : Int
  investor : Int
  amount : Decimal
  date : Moment
deriving DecidableEq

structure Disbursement where
  id : Int
  loan : Int
  officer : Int
  agreementLink : String
  date : Moment
deriving Repr, DecidableEq

/-- Not deleted. -/
def isVisible (l : Loan) : Bool := l.deletedAt.isNone

/-- What is still open for investment; `none` if it is no decimal. -/
def remaining? (l : Loan) : Option Decimal := l.principal.sub? l.invested

/-- A loan just proposed. -/
def proposed (id borrower : Int) (principal : Decimal) (now : Moment) : Loan :=
  { id, borrower, principal, interestRate := .zero, roi := .zero, invested := .zero
    state := .proposed, agreementLink := none, createdAt := now, createdBy := some borrower
    updatedAt := none, updatedBy := none, deletedAt := none, deletedBy := none }

end Loan

end Crowdlending
