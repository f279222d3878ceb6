import Crowdlending.Json.Member
import Crowdlending.Loan.Ledger

/-!
# Loans as documents

The written forms of loans and of the records of their transitions.
-/
namespace Crowdlending
open Json

def Moment.toDoc (m : Moment) : Doc := .ofText m.text
def Decimal.toDoc (d : Decimal) : Doc := .ofText d.text

namespace Loan

def members (l : Loan) : List (String × Doc) :=
  [("id", .int l.id), ("borrower_id", .int l.borrower), ("principal_amount", l.principal.toDoc),
    ("interest_rate", l.interestRate.toDoc), ("roi", l.roi.toDoc),
    ("invested_amount", l.invested.toDoc), ("state", .ofText l.state.name),
    ("agreement_link", .ofOption .ofText l.agreementLink), ("created_at", l.createdAt.toDoc),
    ("created_by", .ofOption .int l.createdBy), ("updated_at", .ofOption Moment.toDoc l.updatedAt),
    ("updated_by", .ofOption .int l.updatedBy), ("deleted_at", .ofOption Moment.toDoc l.deletedAt),
    ("deleted_by", .ofOption .int l.deletedBy)]

def toDoc (l : Loan) : Doc := .ofMembers l.members

def Approval.toDoc (a : Approval) : Doc :=
  .ofMembers
    [("id", .int a.id), ("loan_id", .int a.loan), ("validator_id", .int a.validator),
      ("photo_proof_link", .ofText a.proofLink), ("approval_date", a.date.toDoc)]

def Investment.toDoc (i : Investment) : Doc :=
  .ofMembers
    [("id", .int i.id), ("loan_id", .int i.loan), ("investor_id", .int i.investor),
      ("amount", i.amount.toDoc), ("invested_at", i.date.toDoc)]

def Disbursement.toDoc (d : Disbursement) : Doc :=
  .ofMembers
    [("id", .int d.id), ("loan_id", .int d.loan), ("officer_id", .int d.officer),
      ("signed_agreement_link", .ofText d.agreementLink), ("disbursement_date", d.date.toDoc)]

namespace Ledger

/-- A loan together with its records. -/
def history (g : Ledger) (l : Loan) : Doc :=
  .ofMembers <| l.members ++
    [("approvals", .list ((g.approvalsOf l.id).map Approval.toDoc)),
      ("investments", .list ((g.investmentsOf l.id).map Investment.toDoc)),
      ("disbursements", .list ((g.disbursementsOf l.id).map Disbursement.toDoc))]

def toDoc (g : Ledger) : Doc := .list (g.loans.map g.history)

end Ledger

end Loan

end Crowdlending
