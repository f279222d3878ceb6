import Crowdlending.Platform.Loans

/-!
# Investments at the same time

Several investments that are started together, each in a transaction of its own. The transactions
come one after another in the order of the starts; those that a conflict refuses pause alike and
are tried again in the same order.
-/
namespace Crowdlending.Platform
open Token Loan

inductive Pending where
  | waiting (actor : Int) (loan : Int) (amount : Decimal)
  | settled (result : Except Failure Invested)

namespace Pending

def start (caller : Option Claims) (r : InvestRequest) : Pending :=
  match checkInvest caller r with
  | .error f => settled (.error f)
  | .ok (c, amount) => waiting c.userId r.loan amount

def isWaiting : Pending → Bool
  | waiting .. => true
  | settled _ => false

def result : Pending → Except Failure Invested
  | waiting .. => .error .conflict
  | settled r => r

/-- One try; after the last one a conflict is final. -/
def attempt (now : Moment) (last : Bool) (p : Platform) : Pending → Platform × Pending
  | settled r => (p, settled r)
  | waiting actor loan amount =>
      let (store, r) := p.store.attempt loan actor (.investment amount) now
      let counted := { p with store, metrics := p.metrics.add (.transition .invest r.isOk) }
      match r with
      | .ok l =>
          let (p, invested) := counted.noteInvestment loan amount l
          (p, settled (.ok invested))
      | .error .conflict =>
          if last then (counted, settled (.error .conflict))
          else ({ p with store }, waiting actor loan amount)
      | .error f => (counted, settled (.error f))

end Pending

def attemptEach (now : Moment) (last : Bool) (p : Platform) : List Pending → Platform × List Pending
  | [] => (p, [])
  | a :: r =>
      let (p, a) := a.attempt now last p
      let (p, r) := attemptEach now last p r
      (p, a :: r)

/-- Tries all that wait, and again after a pause; `left` rounds may follow the next one. -/
def investRounds (now : Moment) : Nat → Nat → Nat → Platform → List Pending →
    Outcome (List (Except Failure Invested))
  | 0, _, waited, p, items =>
      let (p, items) := attemptEach now true p items
      ⟨p, .ok (items.map Pending.result), waited⟩
  | left + 1, pause, waited, p, items =>
      let (p, items) := attemptEach now false p items
      if items.any Pending.isWaiting then
        investRounds now left (2 * pause) (waited + pause) p items
      else ⟨p, .ok (items.map Pending.result), waited⟩

def investTogether (p : Platform) (now : Moment) (items : List (Option Claims × InvestRequest)) :
    Outcome (List (Except Failure Invested)) :=
  investRounds now (mostAttempts - 1) firstPause 0 p (items.map fun i => .start i.1 i.2)

end Crowdlending.Platform
