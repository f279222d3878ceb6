import Crowdlending.Proofs.Platform.Turns

/-!
# What a loan call leaves

A call that passes its checks becomes an order, and the order settles the store and the answer. What
else the call does to the platform follows from these two: one count for the outcome, and for an
investment that was made the measured amount and the announcement. A call that does not pass its
checks is not counted at all.
-/
namespace Crowdlending

def Loan.Change.kind : Loan.Change → Metrics.Transition
  | approval .. => .approve
  | investment _ => .invest
  | disbursement _ => .disburse

namespace Platform
open Token Loan

/-- The transition that an order asks for. -/
def Order.kind : Order → Metrics.Transition
  | propose .. => .create
  | change _ _ c => c.kind

/-- An investment that was made is measured, and announced if it completes the loan. -/
def note (p : Platform) : Order → Except Failure LoanReply → Platform
  | .change _ _ (.investment amount), .ok reply =>
      let p := { p with metrics := p.metrics.addAmount amount }
      match reply.announced? with
      | some loan => p.dispatch loan
      | none => p
  | _, _ => p

/-- The platform when an order has left the store and has been answered. -/
def settle (p : Platform) (o : Order) (store : Store) (answer : Except Failure LoanReply) :
    Platform :=
  ({ p with store }.count (.transition o.kind answer.isOk)).note o answer

section Calls
variable {p : Platform} {now : Moment} {caller : Option Claims}

theorem note_store (o : Order) (answer : Except Failure LoanReply) :
    (p.note o answer).store = p.store := by
  unfold note
  split
  · simp only
    split
    · rw [dispatch_store]
    · rfl
  · rfl

@[simp] theorem settle_store (o : Order) (store : Store) (answer : Except Failure LoanReply) :
    (p.settle o store answer).store = store := note_store o answer

theorem settle_of_checked {r : LoanRequest} {o : Order} (h : r.check caller = .ok o) :
    (r.perform p now caller).platform =
      p.settle o (o.execute p.store now).1 (o.execute p.store now).2 := by
  cases r with
  | create r =>
      obtain ⟨a, ha, rfl⟩ := Result.map_eq_ok.mp h
      simp only [LoanRequest.perform, createLoan, ha]
      rfl
  | approve r =>
      obtain ⟨⟨c, ch⟩, ha, rfl⟩ := Result.map_eq_ok.mp h
      obtain ⟨-, link, rate, roi, rfl, -, -⟩ := checkApprove_eq_ok ha
      simp only [LoanRequest.perform, approveLoan, ha, change, Order.execute]
      cases (p.store.change r.loan c.userId (.approval link rate roi) now).result <;> rfl
  | invest r =>
      obtain ⟨⟨c, amount⟩, ha, rfl⟩ := Result.map_eq_ok.mp h
      simp only [LoanRequest.perform, investInLoan, ha, change, Order.execute, map_platform,
        Outcome.andThen]
      cases (p.store.change r.loan c.userId (.investment amount) now).result with
      | error f => rfl
      | ok l =>
          simp only [Except.mapError, noteInvestment, Outcome.done, settle, note, Except.map,
            changeReply, LoanReply.announced?]
          split <;> rfl
  | disburse r =>
      obtain ⟨⟨c, ch⟩, ha, rfl⟩ := Result.map_eq_ok.mp h
      obtain ⟨-, link, rfl⟩ := checkDisburse_eq_ok ha
      simp only [LoanRequest.perform, disburseLoan, ha, change, Order.execute]
      cases (p.store.change r.loan c.userId (.disbursement link) now).result <;> rfl

end Calls

end Platform

end Crowdlending
