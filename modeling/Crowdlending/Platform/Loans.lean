import Crowdlending.Access
import Crowdlending.Loan.Request
import Crowdlending.Platform.State
import Crowdlending.Web.Address

/-!
# Loan operations

Propose, approve, invest and disburse. The caller is judged first, then the
arguments, then the loan itself. A loan that an investment completes is queued
for notification.
-/
namespace Crowdlending.Platform
open Token Loan Access

structure Proposal where
  loan : Int
  state : State
  date : Moment
deriving Repr, DecidableEq

structure Invested where
  loan : Int
  invested : Decimal
  state : State
deriving DecidableEq

def checkAddress (field value : String) : Except Failure String :=
  if Web.isWebAddress value then .ok (Text.trim value) else .error (.input (.badAddress field))

def input {α : Type} : Except InputFault α → Except Failure α
  | .ok a => .ok a
  | .error e => .error (.input e)

/-- The claims of an authorised caller and the principal. -/
def checkCreate (caller : Option Claims) (r : CreateRequest) :
    Except Failure (Claims × Decimal) := do
  let c ← authorize caller .proposeLoan
  return (c, ← input (readPrincipal r.principal))

def checkApprove (caller : Option Claims) (r : ApproveRequest) :
    Except Failure (Claims × Change) := do
  let c ← authorize caller .approveLoan
  input (checkNumber r.loan)
  let link ← checkAddress "photo_proof_link" r.proofLink
  let interestRate ← input (readPercentage "interest_rate" r.interestRate)
  let roi ← input (readPercentage "roi" r.roi)
  return (c, .approval link interestRate roi)

def checkInvest (caller : Option Claims) (r : InvestRequest) :
    Except Failure (Claims × Decimal) := do
  let c ← authorize caller .investInLoan
  input (checkNumber r.loan)
  return (c, ← input (readDecimal "amount" r.amount))

def checkDisburse (caller : Option Claims) (r : DisburseRequest) :
    Except Failure (Claims × Change) := do
  let c ← authorize caller .disburseLoan
  input (checkNumber r.loan)
  return (c, .disbursement (← checkAddress "signed_agreement_link" r.agreementLink))

/-- A change by an authorised actor, tried until no conflict refuses it, and counted once. -/
def change (p : Platform) (now : Moment) (kind : Metrics.Transition) (loan actor : Int)
    (c : Change) : Outcome Loan :=
  let r := p.store.change loan actor c now
  let p := { p with store := r.state, metrics := p.metrics.add (.transition kind r.result.isOk) }
  ⟨p, r.result.mapError .failure, r.waited⟩

def createLoan (p : Platform) (now : Moment) (caller : Option Claims) (r : CreateRequest) :
    Outcome Proposal :=
  match checkCreate caller r with
  | .error f => .failed p f
  | .ok (c, principal) =>
      let (ledger, l) := p.store.ledger.propose c.userId principal now
      .done
        { p with
          store := { p.store with ledger }, metrics := p.metrics.add (.transition .create true) }
        ⟨l.id, l.state, l.createdAt⟩

def approveLoan (p : Platform) (now : Moment) (caller : Option Claims) (r : ApproveRequest) :
    Outcome Proposal :=
  match checkApprove caller r with
  | .error f => .failed p f
  | .ok (c, ch) => (p.change now .approve r.loan c.userId ch).map fun l => ⟨r.loan, l.state, now⟩

/-- A committed investment is measured, and announced if it completes the loan. -/
def noteInvestment (p : Platform) (loan : Int) (amount : Decimal) (l : Loan) :
    Platform × Invested :=
  let p := { p with metrics := p.metrics.addAmount amount }
  (if l.state = .invested then p.dispatch loan else p, ⟨loan, l.invested, l.state⟩)

def investInLoan (p : Platform) (now : Moment) (caller : Option Claims) (r : InvestRequest) :
    Outcome Invested :=
  match checkInvest caller r with
  | .error f => .failed p f
  | .ok (c, amount) =>
      (p.change now .invest r.loan c.userId (.investment amount)).andThen fun p l =>
        let (p, invested) := p.noteInvestment r.loan amount l
        .done p invested

def disburseLoan (p : Platform) (now : Moment) (caller : Option Claims) (r : DisburseRequest) :
    Outcome Proposal :=
  match checkDisburse caller r with
  | .error f => .failed p f
  | .ok (c, ch) => (p.change now .disburse r.loan c.userId ch).map fun l => ⟨r.loan, l.state, now⟩

end Crowdlending.Platform
