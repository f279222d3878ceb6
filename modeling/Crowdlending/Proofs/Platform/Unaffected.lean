import Crowdlending.Proofs.Loan.Undated
import Crowdlending.Proofs.Platform.Settled
import Crowdlending.Proofs.Platform.Worker

/-!
# Notifications and lending

A scene is a platform with its worker at some point of its work. Two scenes may differ in all but
the loans: in the capacity of the queue, in what waits in it, in whether it is closed; in what the
worker is doing and which steps it takes, between the calls or in the pauses of a call that is
tried again; in the accounts there are and the mailboxes that refuse. As long as the same is asked
of the loans, the answers are the same and so are the ledgers. Where the clocks differ, they are the
same apart from dates.
-/
namespace Crowdlending.Platform
open Token Account Loan Worker

/-! ## What is asked of the loans -/

/-- What the loans, among all that a platform holds, are concerned with. -/
inductive Lending where
  | call (now : Moment) (caller : Option Claims) (r : LoanRequest)
  | setConflicts (n : ℕ)
  | delete (now : Moment) (target deletedBy : Int)
deriving DecidableEq

abbrev LoanAnswer := Except Abort LoanReply

def LoanReply.undated : LoanReply → LoanReply
  | proposal p => .proposal { p with date := .erased }
  | invested i => .invested i

namespace Lending

def undated : Lending → Lending
  | call _ caller r => .call .erased caller r
  | setConflicts n => .setConflicts n
  | delete _ target deletedBy => .delete .erased target deletedBy

/-- The store afterwards, and the answer to a call. -/
def perform (store : Store) : Lending → Store × List LoanAnswer
  | call now caller r => match r.check caller with
    | .error f => (store, [.error (.failure f)])
    | .ok o => ((o.execute store now).1, [(o.execute store now).2.mapError .failure])
  | setConflicts n => ({ store with conflicts := n }, [])
  | delete now target deletedBy =>
      ({ store with ledger := store.ledger.softDelete target deletedBy now }, [])

def performAll (store : Store) : List Lending → Store × List LoanAnswer
  | [] => (store, [])
  | l :: lendings =>
      let r := l.perform store
      let rest := performAll r.1 lendings
      (rest.1, r.2 ++ rest.2)

end Lending

section Undated
variable (store : Store)

theorem Order.execute_undated (o : Order) (now : Moment) :
    o.execute store.undated .erased =
      ((o.execute store now).1.undated, (o.execute store now).2.map LoanReply.undated) := by
  cases o with
  | propose borrower principal =>
      have hpropose := store.ledger.undated_propose borrower principal now
      simp only [execute, Store.undated, hpropose]
      rfl
  | change loan actor c =>
      obtain ⟨hstate, hresult⟩ := store.undated_change loan actor c now
      simp only [execute, hstate, hresult]
      refine Prod.ext rfl ?_
      cases (store.change loan actor c now).result with
      | error f => rfl
      | ok l => cases c <;> rfl

theorem Lending.perform_undated (l : Lending) :
    l.undated.perform store.undated =
      ((l.perform store).1.undated, (l.perform store).2.map (Except.map LoanReply.undated)) := by
  cases l with
  | call now caller r =>
      simp only [undated, perform]
      cases r.check caller with
      | error f => rfl
      | ok o =>
          simp only [Order.execute_undated store o now]
          cases (o.execute store now).2 <;> rfl
  | setConflicts n => rfl
  | delete now target deletedBy =>
      simp only [undated, perform, Store.undated, Ledger.undated_softDelete]
      rfl

theorem Lending.performAll_undated (lendings : List Lending) :
    performAll store.undated (lendings.map undated) =
      ((performAll store lendings).1.undated,
        (performAll store lendings).2.map (Except.map LoanReply.undated)) := by
  induction lendings generalizing store with
  | nil => rfl
  | cons l lendings ih =>
      simp only [List.map_cons, performAll, perform_undated, ih, List.map_append]

end Undated

/-! ## Scenes -/

structure Scene where
  platform : Platform
  worker : Phase

/-- `pauses` are the steps of the worker in the first pause of a call, in the second, and so on. -/
inductive Deed where
  | loan (now : Moment) (caller : Option Claims) (r : LoanRequest) (pauses : List (List Signals))
  | account (call : Call) (caller : Option Claims) (r : AccountRequest)
  | setConflicts (n : ℕ)
  | deleteLoan (now : Moment) (target deletedBy : Int)
  /-- Accounts and mailboxes become others. -/
  | change (users : Directory) (outbox : Mail.Outbox)
  | work (g : Signals)

namespace Scene

def withStore (c : Scene) (store : Store) : Scene :=
  { c with platform := { c.platform with store } }

def work (s : Setup) (c : Scene) (g : Signals) : Scene :=
  let r := Worker.work s g (c.platform, c.worker)
  ⟨r.1, r.2⟩

/-- One try at a change; a conflict is followed by a pause. -/
def attempt (s : Setup) (loan actor : Int) (ch : Change) (now : Moment) :
    Scene × List (List Signals) → (Scene × List (List Signals)) × Except Failure Loan
  | (c, pauses) =>
      let r := c.platform.store.attempt loan actor ch now
      let c := c.withStore r.1
      match r.2 with
      | .error .conflict =>
          (((pauses.headD []).foldl (work s) c, pauses.tail), .error .conflict)
      | result => ((c, pauses), result)

def execute (s : Setup) (c : Scene) (pauses : List (List Signals)) (now : Moment) :
    Order → Scene × Except Failure LoanReply
  | .propose borrower principal =>
      let r := (Order.propose borrower principal).execute c.platform.store now
      (c.withStore r.1, r.2)
  | .change loan actor ch =>
      let r := retry (attempt s loan actor ch now) (c, pauses)
      (r.state.1, r.result.map (changeReply ch loan now))

/-- A loan call with the worker at work in its pauses. -/
def call (s : Setup) (c : Scene) (pauses : List (List Signals)) (now : Moment)
    (caller : Option Claims) (r : LoanRequest) : Scene × LoanAnswer :=
  match r.check caller with
  | .error f => (c, .error (.failure f))
  | .ok o =>
      let (c, answer) := c.execute s pauses now o
      ({ c with platform := c.platform.settle o c.platform.store answer },
        answer.mapError .failure)

end Scene

namespace Deed

def perform (s : Setup) (c : Scene) : Deed → Scene × List LoanAnswer
  | loan now caller r pauses =>
      let (c, answer) := c.call s pauses now caller r
      (c, [answer])
  | account call caller r =>
      ({ c with platform := (r.perform s c.platform call caller).platform }, [])
  | setConflicts n => (c.withStore { c.platform.store with conflicts := n }, [])
  | deleteLoan now target deletedBy =>
      (c.withStore
        { c.platform.store with ledger := c.platform.store.ledger.softDelete target deletedBy now },
        [])
  | change users outbox => ({ c with platform := { c.platform with users, outbox } }, [])
  | work g => (c.work s g, [])

/-- What a deed asks of the loans. -/
def lending? : Deed → Option Lending
  | loan now caller r _ => some (.call now caller r)
  | setConflicts n => some (.setConflicts n)
  | deleteLoan now target deletedBy => some (.delete now target deletedBy)
  | _ => none

end Deed

def lendings (deeds : List Deed) : List Lending := deeds.filterMap Deed.lending?

/-- The scene after some deeds, and the answers to the loan calls among them. -/
def Scene.run (s : Setup) (c : Scene) : List Deed → Scene × List LoanAnswer
  | [] => (c, [])
  | d :: deeds =>
      let r := d.perform s c
      let rest := r.1.run s deeds
      (rest.1, r.2 ++ rest.2)

/-! ## The worker in the pauses -/

/-- If each try at the one thing is a try at the other, seen through `view`, so is trying again. -/
theorem retryFrom_view {σ τ α : Type} (try₁ : σ → σ × Except Failure α)
    (try₂ : τ → τ × Except Failure α) (view : σ → τ)
    (h : ∀ x, try₂ (view x) = (view (try₁ x).1, (try₁ x).2)) (left tried pause waited : ℕ) (x : σ) :
    retryFrom try₂ left tried pause waited (view x) =
      { retryFrom try₁ left tried pause waited x with
        state := view (retryFrom try₁ left tried pause waited x).state } := by
  induction left generalizing x tried pause waited with
  | zero => rw [retryFrom_of_last, retryFrom_of_last, h]
  | succ left ih =>
      by_cases hconflict : (try₁ x).2 = .error .conflict
      · have hconflict' : (try₂ (view x)).2 = .error .conflict := by rw [h, hconflict]
        rw [retryFrom_of_conflict hconflict, retryFrom_of_conflict hconflict', h, ih]
      · have hsettled : (try₂ (view x)).2 ≠ .error .conflict := by rwa [h]
        rw [retryFrom_of_settled hconflict, retryFrom_of_settled hsettled, h]

section Pauses
variable (s : Setup) (c : Scene)

theorem work_store (g : Signals) : (c.work s g).platform.store = c.platform.store :=
  (spares_work s g c.platform c.worker).store

theorem foldl_work_store (gs : List Signals) :
    (gs.foldl (Scene.work s) c).platform.store = c.platform.store := by
  induction gs generalizing c with
  | nil => rfl
  | cons g gs ih => rw [List.foldl_cons, ih, work_store]

theorem attempt_store (loan actor : Int) (ch : Change) (now : Moment)
    (x : Scene × List (List Signals)) :
    x.1.platform.store.attempt loan actor ch now =
      ((Scene.attempt s loan actor ch now x).1.1.platform.store,
        (Scene.attempt s loan actor ch now x).2) := by
  unfold Scene.attempt
  simp only
  split
  · next hconflict =>
      rw [foldl_work_store]
      exact Prod.ext rfl hconflict
  · rfl

/-- What the worker does in the pauses makes no difference to an order. -/
theorem execute_store (pauses : List (List Signals)) (now : Moment) (o : Order) :
    ((c.execute s pauses now o).1.platform.store, (c.execute s pauses now o).2) =
      o.execute c.platform.store now := by
  cases o with
  | propose borrower principal => rfl
  | change loan actor ch =>
      have hview := retryFrom_view (Scene.attempt s loan actor ch now)
        (fun store => store.attempt loan actor ch now) (fun x => x.1.platform.store)
        (attempt_store s loan actor ch now) (mostAttempts - 1) 0 firstPause 0 (c, pauses)
      simp only [Scene.execute, Order.execute, Store.change, retry, hview]

theorem call_store (pauses : List (List Signals)) (now : Moment) (caller : Option Claims)
    (r : LoanRequest) :
    ((c.call s pauses now caller r).1.platform.store, [(c.call s pauses now caller r).2]) =
      (Lending.call now caller r).perform c.platform.store := by
  simp only [Scene.call, Lending.perform]
  cases r.check caller with
  | error f => rfl
  | ok o => simp only [settle_store, ← execute_store s c pauses now o]

/-- Where the worker does nothing in the pauses, the call is the operation itself. -/
theorem call_of_idle (now : Moment) (caller : Option Claims) (r : LoanRequest) :
    c.call s [] now caller r =
      ({ c with platform := (r.perform c.platform now caller).platform },
        (r.perform c.platform now caller).result) := by
  simp only [Scene.call]
  cases hcheck : r.check caller with
  | error f => rw [perform_of_refused hcheck]; rfl
  | ok o =>
      obtain ⟨hstore, hresult⟩ := @perform_of_checked c.platform now caller r o hcheck
      have hidle : c.execute s [] now o =
          (c.withStore (o.execute c.platform.store now).1, (o.execute c.platform.store now).2) := by
        cases o with
        | propose borrower principal => rfl
        | change loan actor ch =>
            have htry : ∀ store : Store, Scene.attempt s loan actor ch now (c.withStore store, []) =
                ((c.withStore (store.attempt loan actor ch now).1, []),
                  (store.attempt loan actor ch now).2) := by
              intro store
              unfold Scene.attempt
              simp only
              split
              · next hconflict => exact Prod.ext rfl hconflict.symm
              · rfl
            have hview := retryFrom_view (fun store : Store => store.attempt loan actor ch now)
              (Scene.attempt s loan actor ch now) (fun store => (c.withStore store, []))
              htry (mostAttempts - 1) 0 firstPause 0 c.platform.store
            have hsame : c.withStore c.platform.store = c := rfl
            rw [hsame] at hview
            simp only [Scene.execute, Order.execute, Store.change, retry, hview]
      simp only [hidle, settle_of_checked hcheck, hresult]
      rfl

end Pauses

/-! ## Whole runs -/

section Run
variable (s : Setup) (c : Scene)

/-- Of all deeds, only what is asked of the loans concerns the store, and only the store concerns
the answers. -/
theorem perform_lends (d : Deed) :
    ((d.perform s c).1.platform.store, (d.perform s c).2) =
      Lending.performAll c.platform.store d.lending?.toList := by
  have hone : ∀ l : Lending,
      Lending.performAll c.platform.store [l] = l.perform c.platform.store := by
    intro l
    simp only [Lending.performAll, List.append_nil]
  cases d with
  | loan now caller r pauses =>
      exact (call_store s c pauses now caller r).trans (hone (.call now caller r)).symm
  | account call caller r =>
      exact Prod.ext (account_perform_store s c.platform call caller r) rfl
  | setConflicts n => rfl
  | deleteLoan now target deletedBy => rfl
  | change users outbox => rfl
  | work g => exact Prod.ext (work_store s c g) rfl

theorem performAll_append (store : Store) (a b : List Lending) :
    Lending.performAll store (a ++ b) =
      ((Lending.performAll (Lending.performAll store a).1 b).1,
        (Lending.performAll store a).2 ++
          (Lending.performAll (Lending.performAll store a).1 b).2) := by
  induction a generalizing store with
  | nil => rfl
  | cons l a ih => simp only [List.cons_append, Lending.performAll, ih, List.append_assoc]

theorem run_lends (deeds : List Deed) :
    ((c.run s deeds).1.platform.store, (c.run s deeds).2) =
      Lending.performAll c.platform.store (lendings deeds) := by
  induction deeds generalizing c with
  | nil => rfl
  | cons d deeds ih =>
      have hsplit : lendings (d :: deeds) = d.lending?.toList ++ lendings deeds := by
        rw [lendings, List.filterMap_cons]
        cases d.lending? <;> rfl
      rw [hsplit, performAll_append, ← perform_lends s c d, ← ih]
      rfl

end Run

/-- Two runs in which the same is asked of the loans: neither the queues, the workers, the mailboxes
nor the accounts of the two make a difference to the answers or to the ledger. If the clocks go
differently, dates are all that differs. A call in whose pauses the worker does nothing is the
operation itself. -/
theorem lending_unaffected {s s' : Setup} {c c' : Scene} {deeds deeds' : List Deed}
    (hstore : c.platform.store.undated = c'.platform.store.undated)
    (hasked : (lendings deeds).map Lending.undated = (lendings deeds').map Lending.undated) :
    ((c.run s deeds).2.map (Except.map LoanReply.undated) =
        (c'.run s' deeds').2.map (Except.map LoanReply.undated) ∧
      (c.run s deeds).1.platform.store.undated = (c'.run s' deeds').1.platform.store.undated) ∧
      (c.platform.store = c'.platform.store → lendings deeds = lendings deeds' →
        (c.run s deeds).2 = (c'.run s' deeds').2 ∧
          (c.run s deeds).1.platform.store = (c'.run s' deeds').1.platform.store) ∧
      ∀ now caller r, c.call s [] now caller r =
        ({ c with platform := (r.perform c.platform now caller).platform },
          (r.perform c.platform now caller).result) := by
  have hleft := run_lends s c deeds
  have hright := run_lends s' c' deeds'
  refine ⟨?_, ?_, call_of_idle s c⟩
  · have hundated : (((c.run s deeds).1.platform.store.undated,
          (c.run s deeds).2.map (Except.map LoanReply.undated)) : Store × List LoanAnswer) =
        ((c'.run s' deeds').1.platform.store.undated,
          (c'.run s' deeds').2.map (Except.map LoanReply.undated)) := by
      calc ((c.run s deeds).1.platform.store.undated,
            (c.run s deeds).2.map (Except.map LoanReply.undated))
        _ = Lending.performAll c.platform.store.undated ((lendings deeds).map Lending.undated) := by
            rw [Lending.performAll_undated, ← hleft]
        _ = Lending.performAll c'.platform.store.undated
              ((lendings deeds').map Lending.undated) := by
            rw [hstore, hasked]
        _ = _ := by
            rw [Lending.performAll_undated, ← hright]
    obtain ⟨hstores, hanswers⟩ := Prod.mk.inj hundated
    exact ⟨hanswers, hstores⟩
  · intro hstore hasked
    rw [hstore, hasked, ← hright] at hleft
    obtain ⟨hstores, hanswers⟩ := Prod.mk.inj hleft
    exact ⟨hanswers, hstores⟩

/-- The loan of user 1 is approved, and user 1 completes it himself, after two conflicts. -/
def funding (start : ℕ) (pauses : List (List Signals)) : List Deed :=
  [.loan (clock start) (some (sampleUser 1 .borrower)) (.create ⟨"1500"⟩) [],
    .loan (clock (start + 1)) (some (sampleUser 2 .fieldValidator))
      (.approve ⟨1, "http://[::1]/proof", "12", "8"⟩) [],
    .setConflicts 2,
    .loan (clock (start + 2)) (some (sampleUser 1 .investor)) (.invest ⟨1, "1500"⟩) pauses]

/-- Nobody takes from the queue. -/
def deserted : Scene := ⟨{ start 0 with queue := .close (.ofCapacity 0) }, .stopped⟩

/-- The worker wakes up in the pauses, and mails user 1, who has just registered. -/
def attended : List Deed :=
  .account ⟨clock 4, List.replicate 16 0⟩ none
      (.register ⟨"First", "first@example.com", "0811000001", "Secret-123", 0⟩) ::
    funding 100 [[⟨false, false, false⟩], [⟨false, false, true⟩, ⟨false, false, false⟩]] ++
      List.replicate 5 (.work ⟨true, false, false⟩)

theorem lending_unaffected_of_attended :
    (((Scene.mk (start 4) .selecting).run bareSetup attended).2.map
          (Except.map LoanReply.undated) =
        (deserted.run bareSetup (funding 1 [])).2.map (Except.map LoanReply.undated) ∧
      ((Scene.mk (start 4) .selecting).run bareSetup attended).1.platform.store.undated =
        (deserted.run bareSetup (funding 1 [])).1.platform.store.undated) ∧
      ((Scene.mk (start 4) .selecting).run bareSetup attended).1.platform.outbox.sent.length = 1 ∧
      (deserted.run bareSetup (funding 1 [])).1.platform.outbox.sent.length = 0 ∧
      (deserted.run bareSetup (funding 1 [])).1.platform.metrics.count
        (.notification .dropped) = 1 :=
  ⟨(lending_unaffected (by decide) (by decide +kernel)).1, by decide +kernel, by decide +kernel,
    by decide +kernel⟩

end Crowdlending.Platform
