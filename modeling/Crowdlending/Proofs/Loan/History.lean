import Crowdlending.Proofs.Loan.Numbering
import Crowdlending.Proofs.Platform.Run

/-!
# The history of a loan

A loan only moves on. Whatever is done after a moment, the loans of this moment are
still there: the same borrower and principal, a state of the same or a higher rank,
and all their records with new ones after them. A disbursed loan and a deleted one
stay as they are, but for the mark of a deletion.

What counts as a move is decided by the commit: each commit belongs to one call,
takes the loan that the call names along one of six moves, adds one record of it and
leaves all other loans alone. Without a commit a ledger changes only by a proposal or
by a deletion.
-/
namespace Crowdlending.Loan

inductive State.Moves : State → State → Prop
  | approval : Moves .proposed .approved
  | firstPart : Moves .approved .funding
  | whole : Moves .approved .invested
  | furtherPart : Moves .funding .funding
  | rest : Moves .funding .invested
  | disbursement : Moves .invested .disbursed

theorem Change.moves_of_plan {c : Change} {l : Loan} {next : State} (h : c.plan l = .ok next) :
    l.state.Moves next := by
  cases c with
  | approval link rate roi =>
      obtain ⟨hstate, rfl⟩ := plan_approval_eq_ok h
      rw [hstate]
      exact .approval
  | disbursement link =>
      obtain ⟨hstate, rfl⟩ := plan_disbursement_eq_ok h
      rw [hstate]
      exact .disbursement
  | investment amount =>
      obtain ⟨hopen, -, total, -, -, rfl⟩ := plan_investment_eq_ok h
      cases hstate : l.state with
      | approved =>
          split
          · exact .whole
          · exact .firstPart
      | funding =>
          split
          · exact .rest
          · exact .furtherPart
      | _ => rw [hstate] at hopen; cases hopen

namespace File

/-- The file without the marks of a deletion. -/
def business (f : File) : File :=
  { f with loan := { f.loan with deletedAt := none, deletedBy := none } }

/-- Nothing moves the loan any more. -/
def IsSettled (f : File) : Prop := f.loan.state = .disbursed ∨ f.loan.isVisible = false

/-- The later file of a loan continues the earlier one. -/
structure Continues (f f' : File) : Prop where
  id : f'.loan.id = f.loan.id
  borrower : f'.loan.borrower = f.loan.borrower
  principal : f'.loan.principal = f.loan.principal
  createdAt : f'.loan.createdAt = f.loan.createdAt
  createdBy : f'.loan.createdBy = f.loan.createdBy
  rank : f.loan.state.rank ≤ f'.loan.state.rank
  approvals : f.approvals <+: f'.approvals
  investments : f.investments <+: f'.investments
  disbursements : f.disbursements <+: f'.disbursements
  deleted : f.loan.isVisible = false → f'.loan.isVisible = false
  settled : f.IsSettled → f'.business = f.business

variable {f f' f'' : File}

theorem Continues.refl (f : File) : f.Continues f :=
  ⟨rfl, rfl, rfl, rfl, rfl, le_rfl, List.prefix_rfl, List.prefix_rfl, List.prefix_rfl, fun h => h,
    fun _ => rfl⟩

theorem Continues.isSettled (h : f.Continues f') (hf : f.IsSettled) : f'.IsSettled := by
  have hsame : f'.business.loan.state = f.business.loan.state := by rw [h.settled hf]
  rcases hf with hstate | hdeleted
  · exact .inl (hsame.trans hstate)
  · exact .inr (h.deleted hdeleted)

theorem Continues.trans (h : f.Continues f') (h' : f'.Continues f'') : f.Continues f'' where
  id := h'.id.trans h.id
  borrower := h'.borrower.trans h.borrower
  principal := h'.principal.trans h.principal
  createdAt := h'.createdAt.trans h.createdAt
  createdBy := h'.createdBy.trans h.createdBy
  rank := h.rank.trans h'.rank
  approvals := h.approvals.trans h'.approvals
  investments := h.investments.trans h'.investments
  disbursements := h.disbursements.trans h'.disbursements
  deleted hf := h'.deleted (h.deleted hf)
  settled hf := (h'.settled (h.isSettled hf)).trans (h.settled hf)

/-- A change that is planned on a loan that is not deleted finds it unsettled. -/
theorem not_isSettled_of_plan {c : Change} {next : State} (hplan : c.plan f.loan = .ok next)
    (hvisible : f.loan.isVisible = true) : ¬f.IsSettled := by
  rintro (hstate | hdeleted)
  · have hmoves := Change.moves_of_plan hplan
    rw [hstate] at hmoves
    cases hmoves
  · rw [hvisible] at hdeleted
    cases hdeleted

theorem continues_after {c : Change} {next : State} (hplan : c.plan f.loan = .ok next)
    (hvisible : f.loan.isVisible = true) (record actor : Int) (now : Moment) :
    f.Continues (f.after c next record actor now) where
  id := Change.outcome_id ..
  borrower := by cases c <;> rfl
  principal := by cases c <;> rfl
  createdAt := by cases c <;> rfl
  createdBy := by cases c <;> rfl
  rank := Change.rank_le_of_plan hplan
  approvals := List.prefix_append ..
  investments := List.prefix_append ..
  disbursements := List.prefix_append ..
  deleted hdeleted := absurd (.inr hdeleted) (not_isSettled_of_plan hplan hvisible)
  settled hf := absurd hf (not_isSettled_of_plan hplan hvisible)

theorem continues_deleted (f : File) (deletedBy : Int) (now : Moment) :
    f.Continues (f.deleted deletedBy now) :=
  ⟨rfl, rfl, rfl, rfl, rfl, le_rfl, List.prefix_rfl, List.prefix_rfl, List.prefix_rfl, fun _ => rfl,
    fun _ => rfl⟩

end File

namespace Ledger
variable {g g' g'' : Ledger}

/-- Every loan of the earlier ledger is continued in the later one. -/
def Continues (g g' : Ledger) : Prop :=
  ∀ l ∈ g.loans, ∃ l' ∈ g'.loans, (g.fileOf l).Continues (g'.fileOf l')

theorem Continues.refl (g : Ledger) : g.Continues g := fun l hl => ⟨l, hl, .refl _⟩

theorem Continues.trans (h : g.Continues g') (h' : g'.Continues g'') : g.Continues g'' := by
  intro l hl
  obtain ⟨l', hl', hfirst⟩ := h l hl
  obtain ⟨l'', hl'', hsecond⟩ := h' l' hl'
  exact ⟨l'', hl'', hfirst.trans hsecond⟩

section Accepted
variable {id actor : Int} {c : Change} {now : Moment} {l : Loan} {next : State}

theorem Accepted.continues_target (h : g.Accepted id actor c now l next g') :
    (g.fileOf l).Continues (g'.fileOf (c.outcome l next actor now)) := by
  rw [h.fileOf_outcome]
  exact File.continues_after h.plan (visible?_eq_some h.visible).2.2 _ _ _

theorem Accepted.mem_outcome (h : g.Accepted id actor c now l next g') :
    c.outcome l next actor now ∈ g'.loans := by
  obtain ⟨hl, hid, -⟩ := visible?_eq_some h.visible
  rw [h.loans]
  exact List.mem_map.mpr ⟨l, hl, if_pos hid⟩

theorem Accepted.mem_other (h : g.Accepted id actor c now l next g') {k : Loan} (hk : k ∈ g.loans)
    (hid : k.id ≠ id) : k ∈ g'.loans := by
  rw [h.loans]
  exact List.mem_map.mpr ⟨k, hk, if_neg hid⟩

theorem Accepted.continues (hids : (g.loans.map Loan.id).Nodup)
    (h : g.Accepted id actor c now l next g') : g.Continues g' := by
  obtain ⟨hl, hid, -⟩ := visible?_eq_some h.visible
  intro k hk
  by_cases htarget : k.id = id
  · have hsame : k = l := eq_of_id_eq hids hk hl (htarget.trans hid.symm)
    subst hsame
    exact ⟨_, h.mem_outcome, h.continues_target⟩
  · refine ⟨k, h.mem_other hk htarget, ?_⟩
    rw [h.fileOf_other htarget]
    exact .refl _

end Accepted

theorem continues_propose (g : Ledger) (borrower : Int) (principal : Decimal) (now : Moment) :
    g.Continues (g.propose borrower principal now).1 := by
  intro l hl
  exact ⟨l, List.mem_append_left _ hl, .refl _⟩

theorem continues_softDelete (g : Ledger) (id deletedBy : Int) (now : Moment) :
    g.Continues (g.softDelete id deletedBy now) := by
  intro l hl
  refine ⟨_, List.mem_map.mpr ⟨l, hl, rfl⟩, ?_⟩
  split
  · exact (g.fileOf l).continues_deleted deletedBy now
  · exact .refl _

theorem Continues.step (h : g.Continues g') (hnum : g'.Numbered) (hs : g'.Step g'') :
    g.Continues g'' := by
  -- Numbers are needed for a change only: it must not take two loans for one.
  refine h.trans ?_
  cases hs with
  | propose borrower now _ => exact g'.continues_propose borrower _ now
  | change _ ht =>
      obtain ⟨l, next, ha, -⟩ := transition_accepted hnum.nodup ht
      exact ha.continues hnum.nodup
  | delete id deletedBy now => exact g'.continues_softDelete id deletedBy now

/-- One loan takes a move and gets one record more; all other loans stay, with all their
records. -/
structure Moved (g : Ledger) (id : Int) (g' : Ledger) : Prop where
  target : ∃ l ∈ g.loans, ∃ l' ∈ g'.loans, l.id = id ∧ l.isVisible = true ∧
    l.state.Moves l'.state ∧ (g.fileOf l).Continues (g'.fileOf l')
  records : ∃ a i d, g'.approvals = g.approvals ++ a ∧ g'.investments = g.investments ++ i ∧
    g'.disbursements = g.disbursements ++ d ∧ a.length + i.length + d.length = 1 ∧
    (∀ r ∈ a, r.loan = id) ∧ (∀ r ∈ i, r.loan = id) ∧ ∀ r ∈ d, r.loan = id
  others : ∀ l, l.id ≠ id → (l ∈ g'.loans ↔ l ∈ g.loans) ∧ g'.fileOf l = g.fileOf l
  ids : g'.loans.map Loan.id = g.loans.map Loan.id

theorem Accepted.moved {id actor : Int} {c : Change} {now : Moment} {l : Loan} {next : State}
    (h : g.Accepted id actor c now l next g') : g.Moved id g' := by
  obtain ⟨hl, hid, hvisible⟩ := visible?_eq_some h.visible
  refine ⟨⟨l, hl, _, h.mem_outcome, hid, hvisible, Change.moves_of_plan h.plan,
    h.continues_target⟩, ?_, ?_, h.ids⟩
  · refine ⟨_, _, _, h.approvals, h.investments, h.disbursements, ?_,
      fun _ => Change.loan_of_mem_approvals, fun _ => Change.loan_of_mem_investments,
      fun _ => Change.loan_of_mem_disbursements⟩
    cases c <;> rfl
  · intro k hk
    refine ⟨⟨fun hmem => ?_, fun hmem => h.mem_other hmem hk⟩, h.fileOf_other hk⟩
    rcases h.mem_loans hmem with rfl | ⟨hold, -⟩
    · exact absurd ((Change.outcome_id ..).trans hid) hk
    · exact hold

/-- What a ledger may do without a commit. -/
inductive Uncommitted (g : Ledger) : Ledger → Prop
  | same : Uncommitted g g
  | propose (borrower : Int) (principal : Decimal) (now : Moment) :
      Uncommitted g (g.propose borrower principal now).1
  | delete (id deletedBy : Int) (now : Moment) : Uncommitted g (g.softDelete id deletedBy now)

end Ledger

end Crowdlending.Loan

namespace Crowdlending.Platform
open Loan

/-- The loan that an action is to move on. -/
def Action.target? : Action → Option Int
  | .loan _ _ r => r.target?
  | _ => none

/-- The commit counter stands still and no loan moves, or it goes on by one and the loan that the
action names has moved. -/
def Advances (a : Action) (p p' : Platform) : Prop :=
  (p'.store.commits = p.store.commits ∧ p.store.ledger.Uncommitted p'.store.ledger) ∨
    (p'.store.commits = p.store.commits + 1 ∧
      ∃ id, a.target? = some id ∧ p.store.ledger.Moved id p'.store.ledger)

theorem advances_of_order {p : Platform} (hnum : p.store.ledger.Numbered) {now : Moment}
    {caller : Option Token.Claims} {r : LoanRequest} {o : Order} (h : r.check caller = .ok o) :
    Advances (.loan now caller r) p (r.perform p now caller).platform := by
  obtain ⟨hstore, -⟩ := @perform_of_checked p now caller r o h
  obtain ⟨claims, -, ho⟩ := order_of_check h
  rw [Advances, hstore]
  cases o with
  | propose borrower principal => exact .inl ⟨rfl, .propose borrower principal now⟩
  | change loan actor c =>
      rcases p.store.change_cases loan actor c now with
        ⟨f, -, n, -, hstate⟩ | ⟨g, l, ht, -, hstate⟩
      · rw [show (Order.execute p.store now (.change loan actor c)).1 = _ from hstate]
        exact .inl ⟨rfl, .same⟩
      · obtain ⟨k, next, ha, -⟩ := Ledger.transition_accepted hnum.nodup ht
        rw [show (Order.execute p.store now (.change loan actor c)).1 = _ from hstate]
        exact .inr ⟨rfl, loan, ho.2, ha.moved⟩

theorem advances_of_perform (s : Setup) {p : Platform} (hnum : p.store.ledger.Numbered)
    (a : Action) : Advances a p (a.perform s p) := by
  cases a with
  | loan now caller r =>
      cases hcheck : r.check caller with
      | ok o => exact advances_of_order hnum hcheck
      | error f =>
          rw [Action.perform, perform_of_refused hcheck]
          exact .inl ⟨rfl, .same⟩
  | account call caller r =>
      rw [Advances, Action.perform, account_perform_store]
      exact .inl ⟨rfl, .same⟩
  | setConflicts n => exact .inl ⟨rfl, .same⟩
  | deleteLoan now target deletedBy => exact .inl ⟨rfl, .delete target deletedBy now⟩
  | runWorker => exact .inl ⟨rfl, .same⟩

theorem continues_run (s : Setup) {p : Platform} (h : p.store.ledger.Reachable)
    (actions : List Action) : p.store.ledger.Continues (p.run s actions).store.ledger := by
  have hboth := run_induct s
    (motive := fun g => g.Reachable ∧ p.store.ledger.Continues g) ⟨h, .refl _⟩
    (fun hg hs => ⟨hg.1.step hs, hg.2.step hg.1.numbered hs⟩) actions
  exact hboth.2

/-- In every run each loan of an earlier moment is continued at every later one, and each action
moves at most the loan that it names, by one move and with one record. -/
theorem history_of_run (s : Setup) (capacity : ℕ) (earlier : List Action) :
    (∀ later : List Action, (ledgerAfter s capacity earlier).Continues
      (ledgerAfter s capacity (earlier ++ later))) ∧
    ∀ a : Action, Advances a ((start capacity).run s earlier)
      ((start capacity).run s (earlier ++ [a])) := by
  have hreach : (ledgerAfter s capacity earlier).Reachable := reachable_start s capacity earlier
  constructor
  · intro later
    rw [ledgerAfter, ledgerAfter, run_append]
    exact continues_run s hreach later
  · intro a
    rw [run_append]
    exact advances_of_perform s hreach.numbered a

/-- The investment is the one commit that the third call makes, and it moves the loan named. -/
theorem history_of_partlyFunded :
    (ledgerAfter bareSetup 4 (partlyFunded.take 2)).Continues
        (ledgerAfter bareSetup 4 partlyFunded) ∧
      (ledgerAfter bareSetup 4 (partlyFunded.take 2)).Moved 1
        (ledgerAfter bareSetup 4 partlyFunded) := by
  obtain ⟨hcontinues, hadvances⟩ := history_of_run bareSetup 4 (partlyFunded.take 2)
  refine ⟨hcontinues (partlyFunded.drop 2), ?_⟩
  rcases hadvances (.loan (clock 3) (some (sampleUser 3 .investor)) (.invest ⟨1, "1000"⟩)) with
    ⟨hcommits, -⟩ | ⟨-, id, htarget, hmoved⟩
  · exact absurd hcommits (by decide +kernel)
  · cases htarget
    exact hmoved

end Crowdlending.Platform
