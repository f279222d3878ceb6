import Crowdlending.Loan.Change

/-!
# The ledger

All loans in the order of their ids, and the records of their transitions in
the order in which they were made. Loans count their ids on one counter, the
three kinds of records share another.
-/
namespace Crowdlending.Loan

structure Ledger where
  loans : List Loan
  approvals : List Approval
  investments : List Investment
  disbursements : List Disbursement
  lastLoan : Int
  lastRecord : Int
deriving DecidableEq

namespace Ledger

def empty : Ledger := ⟨[], [], [], [], 0, 0⟩

def find? (g : Ledger) (id : Int) : Option Loan := g.loans.find? fun l => l.id == id

/-- The loan, unless it is deleted. -/
def visible? (g : Ledger) (id : Int) : Option Loan := (g.find? id).filter isVisible

def approvalsOf (g : Ledger) (id : Int) : List Approval := g.approvals.filter fun a => a.loan == id
def investmentsOf (g : Ledger) (id : Int) : List Investment :=
  g.investments.filter fun i => i.loan == id
def disbursementsOf (g : Ledger) (id : Int) : List Disbursement :=
  g.disbursements.filter fun d => d.loan == id

/-- Replaces the loans with this id. -/
def mapLoan (g : Ledger) (id : Int) (f : Loan → Loan) : Ledger :=
  { g with loans := g.loans.map fun l => if l.id = id then f l else l }

def propose (g : Ledger) (borrower : Int) (principal : Decimal) (now : Moment) : Ledger × Loan :=
  let l := proposed (g.lastLoan + 1) borrower principal now
  ({ g with loans := g.loans ++ [l], lastLoan := l.id }, l)

def softDelete (g : Ledger) (id deletedBy : Int) (now : Moment) : Ledger :=
  g.mapLoan id fun l => { l with deletedAt := some now, deletedBy := some deletedBy }

def recordApproval (g : Ledger) (loan validator : Int) (proofLink : String) (now : Moment) :
    Except Failure (Ledger × Approval) :=
  if g.approvals.any fun a => a.loan == loan then .error (.store .duplicateApproval)
  else
    let a : Approval := ⟨g.lastRecord + 1, loan, validator, proofLink, now⟩
    .ok ({ g with approvals := g.approvals ++ [a], lastRecord := a.id }, a)

def recordInvestment (g : Ledger) (loan investor : Int) (amount : Decimal) (now : Moment) :
    Ledger × Investment :=
  let i : Investment := ⟨g.lastRecord + 1, loan, investor, amount, now⟩
  ({ g with investments := g.investments ++ [i], lastRecord := i.id }, i)

def recordDisbursement (g : Ledger) (loan officer : Int) (agreementLink : String) (now : Moment) :
    Except Failure (Ledger × Disbursement) :=
  if g.disbursements.any fun d => d.loan == loan then .error (.store .duplicateDisbursement)
  else
    let d : Disbursement := ⟨g.lastRecord + 1, loan, officer, agreementLink, now⟩
    .ok ({ g with disbursements := g.disbursements ++ [d], lastRecord := d.id }, d)

/-- Writes what a change may alter of a loan back; the rest of the stored loan stays. -/
def update (g : Ledger) (l : Loan) : Except Failure Ledger :=
  if l.principal < l.invested then .error (.store .investedAbovePrincipal)
  else if (g.visible? l.id).isNone then .error .notFound
  else .ok (g.mapLoan l.id fun stored =>
    { stored with
      interestRate := l.interestRate, roi := l.roi, invested := l.invested, state := l.state
      agreementLink := l.agreementLink, updatedAt := l.updatedAt, updatedBy := l.updatedBy })

/-- The record that a change leaves. -/
def record (g : Ledger) (loan actor : Int) (c : Change) (now : Moment) : Except Failure Ledger :=
  match c with
  | .approval proofLink .. => (g.recordApproval loan actor proofLink now).map Prod.fst
  | .investment amount => .ok (g.recordInvestment loan actor amount now).1
  | .disbursement link => (g.recordDisbursement loan actor link now).map Prod.fst

/-- The ledger after a change to a loan, and the loan it leaves. -/
def transition (g : Ledger) (loan actor : Int) (c : Change) (now : Moment) :
    Except Failure (Ledger × Loan) :=
  match g.visible? loan with
  | none => .error .notFound
  | some l => do
      let next ← c.plan l
      let g ← g.record loan actor c now
      let l ← (c.write l).advance next actor now
      let g ← g.update l
      return (g, l)

end Ledger

end Crowdlending.Loan
