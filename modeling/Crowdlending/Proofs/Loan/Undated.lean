import Crowdlending.Proofs.Loan.Transition

/-!
# The ledger without its dates

With every date of a ledger set to one and the same moment, all that is left is what the ledger says
apart from when. Whether a change is accepted, and what it leaves apart from dates, depends on this
alone: a change at any moment, with its dates taken away, is the change of the ledger without dates.
Of a deleted loan it stays that it is deleted.
-/
namespace Crowdlending

/-- Stands for every date that is taken away. -/
def Moment.erased : Moment := ⟨0⟩

def Loan.undated (l : Loan) : Loan :=
  { l with
    createdAt := .erased
    updatedAt := l.updatedAt.map fun _ => .erased
    deletedAt := l.deletedAt.map fun _ => .erased }

namespace Loan

def Approval.undated (a : Approval) : Approval := { a with date := .erased }
def Investment.undated (i : Investment) : Investment := { i with date := .erased }
def Disbursement.undated (d : Disbursement) : Disbursement := { d with date := .erased }

def Ledger.undated (g : Ledger) : Ledger :=
  { g with
    loans := g.loans.map Loan.undated
    approvals := g.approvals.map Approval.undated
    investments := g.investments.map Investment.undated
    disbursements := g.disbursements.map Disbursement.undated }

def Store.undated (s : Store) : Store := { s with ledger := s.ledger.undated }

/-! ## One loan -/

section Loan
variable (l : Loan)

@[simp] theorem isVisible_undated : l.undated.isVisible = l.isVisible := by
  simp [isVisible, undated]

@[simp] theorem Change.plan_undated (c : Change) : c.plan l.undated = c.plan l := by
  cases c <;> rfl

@[simp] theorem Change.outcome_undated (c : Change) (next : State) (actor : Int) (now : Moment) :
    c.outcome l.undated next actor .erased = (c.outcome l next actor now).undated := by
  cases c <;> rfl

end Loan

/-! ## The ledger -/

namespace Ledger
variable (g : Ledger)

@[simp] theorem visible?_undated (id : Int) :
    g.undated.visible? id = (g.visible? id).map Loan.undated := by
  have hfind : g.undated.find? id = (g.find? id).map Loan.undated :=
    find?_map (g := g) (f := Loan.undated) rfl (fun _ _ => rfl) id
  have hvisible : isVisible ∘ Loan.undated = isVisible := funext isVisible_undated
  rw [visible?, visible?, hfind, Option.filter_map, hvisible]

theorem undated_mapLoan (id : Int) {f f' : Loan → Loan}
    (h : ∀ l, f' l.undated = (f l).undated) :
    (g.mapLoan id f).undated = g.undated.mapLoan id f' := by
  simp only [mapLoan, undated, List.map_map, Ledger.mk.injEq, and_self, and_true]
  refine List.map_congr_left fun l _ => ?_
  simp only [Function.comp_apply]
  have hid : l.undated.id = l.id := rfl
  rw [hid]
  split
  · exact (h l).symm
  · rfl

theorem undated_softDelete (id deletedBy : Int) (now : Moment) :
    (g.softDelete id deletedBy now).undated = g.undated.softDelete id deletedBy .erased :=
  undated_mapLoan g id fun _ => rfl

theorem undated_propose (borrower : Int) (principal : Decimal) (now : Moment) :
    g.undated.propose borrower principal .erased =
      ((g.propose borrower principal now).1.undated,
        (g.propose borrower principal now).2.undated) := by
  simp [propose, undated, proposed, Loan.undated]

theorem undated_record (loan actor : Int) (c : Change) (now : Moment) :
    g.undated.record loan actor c .erased = (g.record loan actor c now).map undated := by
  cases c with
  | approval link rate roi =>
      simp only [record, recordApproval, undated, List.any_map, Function.comp_def,
        Approval.undated]
      split <;> simp [Except.map, undated, Approval.undated]
  | investment amount =>
      simp [record, recordInvestment, Except.map, undated, Investment.undated]
  | disbursement link =>
      simp only [record, recordDisbursement, undated, List.any_map, Function.comp_def,
        Disbursement.undated]
      split <;> simp [Except.map, undated, Disbursement.undated]

theorem undated_update (l : Loan) : g.undated.update l.undated = (g.update l).map undated := by
  have hover : l.undated.principal < l.undated.invested ↔ l.principal < l.invested := .rfl
  have hid : l.undated.id = l.id := rfl
  simp only [update, visible?_undated, Option.isNone_map, hover, hid]
  split
  · rfl
  · split
    · rfl
    · refine congrArg Except.ok (undated_mapLoan g l.id ?_).symm
      exact fun _ => rfl

/-- A change looks at no date. -/
theorem undated_transition (loan actor : Int) (c : Change) (now : Moment) :
    g.undated.transition loan actor c .erased =
      (g.transition loan actor c now).map fun r => (r.1.undated, r.2.undated) := by
  have hvisible := visible?_undated g loan
  cases hl : g.visible? loan with
  | none =>
      rw [hl] at hvisible
      rw [transition_of_invisible hl, transition_of_invisible hvisible]
      rfl
  | some l =>
      rw [hl] at hvisible
      cases hplan : c.plan l with
      | error f =>
          have hplan' : c.plan l.undated = .error f := (c.plan_undated l).trans hplan
          rw [transition_of_refused hl hplan, transition_of_refused hvisible hplan']
          rfl
      | ok next =>
          have hplan' : c.plan l.undated = .ok next := (c.plan_undated l).trans hplan
          rw [transition_of_plan hl hplan, transition_of_plan hvisible hplan',
            undated_record g loan actor c now, Change.outcome_undated l c next actor now]
          cases g.record loan actor c now with
          | error f => rfl
          | ok g₁ =>
              change (g₁.undated.update _).map _ = _
              rw [undated_update]
              cases hupdate : g₁.update (c.outcome l next actor now) with
              | error f => simp [bind, Except.bind, Except.map, hupdate]
              | ok g₂ => simp [bind, Except.bind, Except.map, hupdate]

/-- A change is accepted at one moment if it is at another, and leaves the same apart from dates. -/
theorem transition_moments (loan actor : Int) (c : Change) (now now' : Moment) :
    (∃ f, g.transition loan actor c now = .error f ∧ g.transition loan actor c now' = .error f) ∨
      ∃ r r', g.transition loan actor c now = .ok r ∧ g.transition loan actor c now' = .ok r' ∧
        r'.1.undated = r.1.undated ∧ r'.2.undated = r.2.undated := by
  have hsame := (g.undated_transition loan actor c now').symm.trans
    (g.undated_transition loan actor c now)
  cases h : g.transition loan actor c now with
  | error f =>
      rw [h] at hsame
      exact .inl ⟨f, rfl, Result.map_eq_error.mp hsame⟩
  | ok r =>
      rw [h] at hsame
      obtain ⟨r', h', hr⟩ := Result.map_eq_ok.mp hsame
      obtain ⟨hledger, hloan⟩ := Prod.mk.inj hr
      exact .inr ⟨r, r', rfl, h', hledger, hloan⟩

end Ledger

/-! ## The store -/

/-- Nor do the tries of a change, and the conflicts that they meet. -/
theorem Store.undated_change (s : Store) (loan actor : Int) (c : Change) (now : Moment) :
    (s.undated.change loan actor c .erased).state = (s.change loan actor c now).state.undated ∧
      (s.undated.change loan actor c .erased).result =
        (s.change loan actor c now).result.map Loan.undated := by
  have hundated := s.ledger.undated_transition loan actor c now
  cases h : s.ledger.transition loan actor c now with
  | error f =>
      rw [h] at hundated
      rw [change_of_error h, change_of_error (s := s.undated) hundated]
      exact ⟨rfl, rfl⟩
  | ok r =>
      rw [h] at hundated
      rw [change_of_ok h, change_of_ok (s := s.undated) hundated]
      have hconflicts : s.undated.conflicts = s.conflicts := rfl
      rw [hconflicts]
      split <;> exact ⟨rfl, rfl⟩

end Loan

end Crowdlending
