import Crowdlending.Proofs.Loan.Numbering
import Crowdlending.Proofs.Platform.Run

/-!
# The records of a loan

The four tables move in step. A loan has its approval as soon as it is approved,
and its disbursement, whose link it carries, once it is disbursed. Its rates are
zero until the approval sets them, and stay as they are from then on. It names
the user who moved it last.
-/
namespace Crowdlending.Loan

namespace File

structure Recorded (f : File) : Prop where
  unapproved : f.loan.state = .proposed →
    f.approvals = [] ∧ f.loan.interestRate = .zero ∧ f.loan.roi = .zero
  approved : f.loan.state ≠ .proposed → ∃ a, f.approvals = [a]
  undisbursed : f.loan.state ≠ .disbursed → f.disbursements = [] ∧ f.loan.agreementLink = none
  disbursed : f.loan.state = .disbursed →
    ∃ d, f.disbursements = [d] ∧ f.loan.agreementLink = some d.agreementLink
  interestRate : 0 ≤ f.loan.interestRate.value ∧ f.loan.interestRate.value ≤ 100
  roi : 0 ≤ f.loan.roi.value ∧ f.loan.roi.value ≤ 100

variable {f : File}

theorem recorded_opened (id borrower : Int) (principal : Decimal) (now : Moment) :
    (opened (proposed id borrower principal now)).Recorded := by
  refine ⟨fun _ => ⟨rfl, rfl, rfl⟩, fun h => absurd rfl h, fun _ => ⟨rfl, rfl⟩, fun h => ?_, ?_, ?_⟩
  · cases h
  · simp [opened, proposed]
  · simp [opened, proposed]

theorem Recorded.ofApproval (h : f.Recorded) {link : String} {rate roi : Decimal} {next : State}
    (hrate : IsPercentage rate) (hroi : IsPercentage roi)
    (hplan : (Change.approval link rate roi).plan f.loan = .ok next) (record actor : Int)
    (now : Moment) : (f.after (.approval link rate roi) next record actor now).Recorded := by
  obtain ⟨hstate, rfl⟩ := Change.plan_approval_eq_ok hplan
  obtain ⟨hnone, -, -⟩ := h.unapproved hstate
  have hopen : f.loan.state ≠ .disbursed := by rw [hstate]; decide
  refine ⟨fun h => ?_, fun _ => ?_, fun _ => ?_, fun h => ?_, hrate.bounds, hroi.bounds⟩
  · cases h
  · simp [after, Change.approvals, hnone]
  · simpa [after, Change.disbursements, Change.outcome, Change.write] using h.undisbursed hopen
  · cases h

theorem Recorded.ofInvestment (h : f.Recorded) {amount : Decimal} {next : State}
    (hplan : (Change.investment amount).plan f.loan = .ok next) (record actor : Int)
    (now : Moment) : (f.after (.investment amount) next record actor now).Recorded := by
  obtain ⟨hopen, -, total, -, -, hnext⟩ := Change.plan_investment_eq_ok hplan
  have happroved : f.loan.state ≠ .proposed := by
    intro hs; rw [hs] at hopen; cases hopen
  have hundisbursed : f.loan.state ≠ .disbursed := by
    intro hs; rw [hs] at hopen; cases hopen
  have hmoved : next ≠ .proposed ∧ next ≠ .disbursed := by
    rw [hnext]; split <;> decide
  refine ⟨fun h => absurd h hmoved.1, fun _ => ?_, fun _ => ?_, fun h => absurd h hmoved.2,
    h.interestRate, h.roi⟩
  · simpa [after, Change.approvals] using h.approved happroved
  · simpa [after, Change.disbursements, Change.outcome, Change.write] using
      h.undisbursed hundisbursed

theorem Recorded.ofDisbursement (h : f.Recorded) {link : String} {next : State}
    (hplan : (Change.disbursement link).plan f.loan = .ok next) (record actor : Int)
    (now : Moment) : (f.after (.disbursement link) next record actor now).Recorded := by
  obtain ⟨hstate, rfl⟩ := Change.plan_disbursement_eq_ok hplan
  have happroved : f.loan.state ≠ .proposed := by rw [hstate]; decide
  have hundisbursed : f.loan.state ≠ .disbursed := by rw [hstate]; decide
  obtain ⟨hnone, -⟩ := h.undisbursed hundisbursed
  refine ⟨fun h => ?_, fun _ => ?_, fun h => absurd rfl h, fun _ => ?_, h.interestRate, h.roi⟩
  · cases h
  · simpa [after, Change.approvals] using h.approved happroved
  · simp [after, Change.disbursements, Change.outcome, Change.write, hnone]

theorem Recorded.changed (h : f.Recorded) {c : Change} {next : State} (hc : c.IsChecked)
    (hplan : c.plan f.loan = .ok next) (record actor : Int) (now : Moment) :
    (f.after c next record actor now).Recorded := by
  cases c with
  | approval link rate roi => exact h.ofApproval hc.1 hc.2 hplan record actor now
  | investment amount => exact h.ofInvestment hplan record actor now
  | disbursement link => exact h.ofDisbursement hplan record actor now

theorem Recorded.deleted (h : f.Recorded) (deletedBy : Int) (now : Moment) :
    (f.deleted deletedBy now).Recorded :=
  ⟨h.unapproved, h.approved, h.undisbursed, h.disbursed, h.interestRate, h.roi⟩

end File

namespace Ledger
variable {g g' : Ledger}

theorem Reachable.recorded (h : g.Reachable) : ∀ l ∈ g.loans, (g.fileOf l).Recorded :=
  h.induct_files
    (fun id borrower principal now _ => File.recorded_opened id borrower principal now)
    (fun record actor now hf hc hplan => hf.changed hc hplan record actor now)
    (fun deletedBy now hf => hf.deleted deletedBy now)

/-! ## Rates after the approval -/

/-- The loan is approved in the ledger, with these rates. -/
def HasRates (g : Ledger) (id : Int) (interestRate roi : Decimal) : Prop :=
  ∃ l ∈ g.loans, l.id = id ∧ l.state ≠ .proposed ∧ l.interestRate = interestRate ∧ l.roi = roi

/-- Only an approval sets rates, and it needs a loan that is still proposed. -/
theorem rates_of_plan {c : Change} {l : Loan} {next : State} (hplan : c.plan l = .ok next)
    (hstate : l.state ≠ .proposed) (actor : Int) (now : Moment) :
    next ≠ .proposed ∧ (c.outcome l next actor now).interestRate = l.interestRate ∧
      (c.outcome l next actor now).roi = l.roi := by
  cases c with
  | approval link rate roi => exact absurd (Change.plan_approval_eq_ok hplan).1 hstate
  | investment amount =>
      obtain ⟨-, -, total, -, -, hnext⟩ := Change.plan_investment_eq_ok hplan
      refine ⟨?_, rfl, rfl⟩
      rw [hnext]
      split <;> decide
  | disbursement link =>
      obtain ⟨-, rfl⟩ := Change.plan_disbursement_eq_ok hplan
      exact ⟨by decide, rfl, rfl⟩

theorem HasRates.step {id : Int} {interestRate roi : Decimal} (h : g.HasRates id interestRate roi)
    (hnum : g.Numbered) (hs : g.Step g') : g'.HasRates id interestRate roi := by
  obtain ⟨l, hl, hid, hstate, hrate, hroi⟩ := h
  cases hs with
  | propose borrower now _ => exact ⟨l, List.mem_append_left _ hl, hid, hstate, hrate, hroi⟩
  | @change _ target actor c now _ _ ht =>
      obtain ⟨k, next, ha, -⟩ := transition_accepted hnum.nodup ht
      obtain ⟨hk, hkid, -⟩ := visible?_eq_some ha.visible
      by_cases htarget : l.id = target
      · have hsame : l = k := eq_of_id_eq hnum.nodup hl hk (htarget.trans hkid.symm)
        subst hsame
        obtain ⟨hnext, hrate', hroi'⟩ := rates_of_plan ha.plan hstate actor now
        refine ⟨c.outcome l next actor now, ?_, ?_, hnext, hrate'.trans hrate, hroi'.trans hroi⟩
        · rw [ha.loans]
          exact List.mem_map.mpr ⟨l, hl, if_pos htarget⟩
        · rw [Change.outcome_id, hid]
      · refine ⟨l, ?_, hid, hstate, hrate, hroi⟩
        rw [ha.loans]
        exact List.mem_map.mpr ⟨l, hl, if_neg htarget⟩
  | delete target deletedBy now =>
      refine ⟨_, List.mem_map.mpr ⟨l, hl, rfl⟩, ?_, ?_, ?_, ?_⟩ <;> split_ifs <;> assumption

/-! ## Who moved a loan last -/

/-- Who moved the loan last, as the ledger has it. -/
def updatedBy? (g : Ledger) (id : Int) : Option Int := (g.find? id).bind Loan.updatedBy

theorem updatedBy?_propose (g : Ledger) (borrower : Int) (principal : Decimal) (now : Moment)
    (id : Int) : (g.propose borrower principal now).1.updatedBy? id = g.updatedBy? id := by
  simp only [updatedBy?, find?, propose, List.find?_append]
  cases hfind : g.loans.find? fun l => l.id == id with
  | some l => rfl
  | none =>
      simp only [Option.none_or, List.find?_singleton]
      split <;> rfl

theorem updatedBy?_softDelete (g : Ledger) (target deletedBy : Int) (now : Moment) (id : Int) :
    (g.softDelete target deletedBy now).updatedBy? id = g.updatedBy? id := by
  have hmap : (g.softDelete target deletedBy now).find? id = (g.find? id).map _ :=
    find?_map rfl (by intro l _; split_ifs <;> rfl) id
  rw [updatedBy?, hmap, updatedBy?]
  cases g.find? id with
  | none => rfl
  | some l =>
      simp only [Option.map_some, Option.bind_some]
      split_ifs <;> rfl

theorem Accepted.updatedBy? {loan actor : Int} {c : Change} {now : Moment} {l : Loan}
    {next : State} (h : g.Accepted loan actor c now l next g') (id : Int) :
    g'.updatedBy? id = if id = loan then some actor else g.updatedBy? id := by
  obtain ⟨-, hid, -⟩ := visible?_eq_some h.visible
  have hkeep : ∀ k ∈ g.loans,
      (if k.id = loan then c.outcome l next actor now else k).id = k.id := by
    intro k _
    split_ifs with hk
    · rw [Change.outcome_id, hid, hk]
    · rfl
  rw [Ledger.updatedBy?, find?_map h.loans hkeep, Ledger.updatedBy?]
  split_ifs with hloan
  · have hfind : g.find? loan = some l := (Option.filter_eq_some_iff.mp h.visible).1
    rw [hloan, hfind, Option.map_some, if_pos hid]
    rfl
  · cases hfind : g.find? id with
    | none => rfl
    | some k =>
        have hk : k.id = id := by simpa using List.find?_some hfind
        simp only [Option.map_some, hk, if_neg hloan]

end Ledger

end Crowdlending.Loan

namespace Crowdlending.Platform
open Loan

theorem Effect.updatedBy? {g g' : Ledger} {mover : Int → Option Int} (h : Effect g g' mover)
    (hnum : g.Numbered) (id : Int) : g'.updatedBy? id = (mover id).or (g.updatedBy? id) := by
  cases h with
  | nothing => rfl
  | propose borrower now _ => exact g.updatedBy?_propose borrower _ now id
  | change _ ht =>
      obtain ⟨l, next, ha, -⟩ := Ledger.transition_accepted hnum.nodup ht
      rw [ha.updatedBy?]
      dsimp only
      split_ifs <;> rfl
  | delete target deletedBy now => exact g.updatedBy?_softDelete target deletedBy now id

/-- The users who move the loan in the course of a run, in order. -/
def movers (s : Setup) (p : Platform) (id : Int) : List Action → List Int
  | [] => []
  | a :: actions => (a.mover? p id).toList ++ movers s (a.perform s p) id actions

theorem updatedBy?_run (s : Setup) {p : Platform} (h : p.store.ledger.Reachable) (id : Int)
    (actions : List Action) :
    (p.run s actions).store.ledger.updatedBy? id =
      (movers s p id actions).getLast?.or (p.store.ledger.updatedBy? id) := by
  induction actions generalizing p with
  | nil => rfl
  | cons a actions ih =>
      have hnext : (a.perform s p).store.ledger.Reachable := reachable_run s h [a]
      have hmover := (perform_effect s p a).updatedBy? h.numbered id
      have hlast : (a.mover? p id).toList.getLast? = a.mover? p id := by
        cases a.mover? p id <;> rfl
      rw [movers, List.getLast?_append, hlast, Option.or_assoc, ← hmover]
      exact ih hnext

theorem hasRates_run (s : Setup) {p : Platform} (h : p.store.ledger.Reachable) {id : Int}
    {interestRate roi : Decimal} (hrates : p.store.ledger.HasRates id interestRate roi)
    (actions : List Action) : (p.run s actions).store.ledger.HasRates id interestRate roi := by
  have hboth := run_induct s (motive := fun g => g.Reachable ∧ g.HasRates id interestRate roi)
    ⟨h, hrates⟩ (fun hg hs => ⟨hg.1.step hs, hg.2.step hg.1.numbered hs⟩) actions
  exact hboth.2

/-- In every run the tables agree: each loan has the records, the link and the rates that its state
asks for, its rates are settled once it is approved, it names the user who moved it last, and loans
and records are numbered without gaps. -/
theorem recorded_of_run (s : Setup) (capacity : ℕ) (actions : List Action) :
    (ledgerAfter s capacity actions).Numbered ∧
      ∀ l ∈ (ledgerAfter s capacity actions).loans,
        ((ledgerAfter s capacity actions).fileOf l).Recorded ∧
        l.updatedBy = (movers s (start capacity) l.id actions).getLast? ∧
        (l.state ≠ .proposed → ∀ later : List Action,
          (ledgerAfter s capacity (actions ++ later)).HasRates l.id l.interestRate l.roi) := by
  have hreach : (ledgerAfter s capacity actions).Reachable := reachable_start s capacity actions
  refine ⟨hreach.numbered, ?_⟩
  intro l hl
  refine ⟨hreach.recorded l hl, ?_, ?_⟩
  · have hlast := updatedBy?_run s (p := start capacity) Relation.ReflTransGen.refl l.id actions
    have hfind := Ledger.find?_of_mem hreach.numbered.nodup hl
    change (ledgerAfter s capacity actions).updatedBy? l.id = _ at hlast
    rw [Ledger.updatedBy?, hfind] at hlast
    exact hlast.trans (Option.or_none)
  · intro hstate later
    rw [ledgerAfter, run_append]
    exact hasRates_run s hreach ⟨l, hl, rfl, hstate, rfl, rfl⟩ later

theorem recorded_of_partlyFunded :
    ∃ l ∈ (ledgerAfter bareSetup 4 partlyFunded).loans, l.state = .funding ∧
      ((ledgerAfter bareSetup 4 partlyFunded).fileOf l).Recorded ∧ l.updatedBy = some 3 ∧
      (ledgerAfter bareSetup 4 (partlyFunded ++ partlyFunded)).HasRates 1 l.interestRate l.roi := by
  obtain ⟨l, hmem, hid, hstate⟩ := Ledger.exists_of_find? (ledgerAfter bareSetup 4 partlyFunded) 1
    (fun l => l.state == .funding) (by decide +kernel)
  have hstate : l.state = .funding := by simpa using hstate
  obtain ⟨hrecorded, hmover, hrates⟩ := (recorded_of_run bareSetup 4 partlyFunded).2 l hmem
  refine ⟨l, hmem, hstate, hrecorded, ?_, ?_⟩
  · rw [hmover, hid]
    decide +kernel
  · rw [← hid]
    exact hrates (by rw [hstate]; decide) partlyFunded

end Crowdlending.Platform
