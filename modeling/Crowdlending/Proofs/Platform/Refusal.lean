import Crowdlending.Proofs.Loan.Conservation
import Crowdlending.Proofs.Loan.Records

/-!
# Why a loan call is refused

A loan call is refused for a cause that its caller can see: who calls, what is asked for, the
state of the loan, or conflicts that outlast its tries. Behind the guards of a change nothing
goes wrong any more. That a record is there already, that a state would go back, that more
would be invested than the principal, that a sum cannot be written, or that a loan is gone
that was read a moment ago: each of these is looked at once more, and in no ledger that can
arise is one of them the case.

The counters are kept in 64 bits; how far a run can take them is bounded by its length.
-/
namespace Crowdlending.Loan

namespace Ledger
variable {g g' : Ledger} {id actor : Int} {c : Change} {now : Moment} {l : Loan} {next : State}

/-! ## Behind the guards -/

/-- A change that its guard lets through leaves the first record where only one may be. -/
theorem Reachable.record_of_plan (h : g.Reachable) (hl : g.visible? id = some l)
    (hplan : c.plan l = .ok next) (actor : Int) (now : Moment) :
    ∃ g₁, g.record id actor c now = .ok g₁ := by
  obtain ⟨hmem, rfl, -⟩ := visible?_eq_some hl
  have hrecorded := h.recorded l hmem
  cases c with
  | investment amount => exact ⟨_, rfl⟩
  | approval link rate roi =>
      obtain ⟨hnone, -, -⟩ := hrecorded.unapproved (Change.plan_approval_eq_ok hplan).1
      have hfirst : (g.approvals.any fun a => a.loan == l.id) = false :=
        List.any_eq_false.mpr (List.filter_eq_nil_iff.mp hnone)
      simp only [record, recordApproval, hfirst, Bool.false_eq_true, if_false]
      exact ⟨_, rfl⟩
  | disbursement link =>
      have hstate : l.state ≠ .disbursed := by
        rw [(Change.plan_disbursement_eq_ok hplan).1]
        decide
      obtain ⟨hnone, -⟩ := hrecorded.undisbursed hstate
      have hfirst : (g.disbursements.any fun d => d.loan == l.id) = false :=
        List.any_eq_false.mpr (List.filter_eq_nil_iff.mp hnone)
      simp only [record, recordDisbursement, hfirst, Bool.false_eq_true, if_false]
      exact ⟨_, rfl⟩

/-- What a change makes of a loan can be written back: nothing beyond the principal is invested,
and the loan that was read is still there. -/
theorem Reachable.update_of_plan (h : g.Reachable) (hl : g.visible? id = some l)
    (hc : c.IsChecked) (hplan : c.plan l = .ok next) {g₁ : Ledger}
    (hrecord : g.record id actor c now = .ok g₁) :
    ∃ g₂, g₁.update (c.outcome l next actor now) = .ok g₂ := by
  obtain ⟨hmem, rfl, -⟩ := visible?_eq_some hl
  have hbalanced := (h.balanced l hmem).changed hc hplan (g.lastRecord + 1) actor now
  have hwithin : ¬(c.outcome l next actor now).principal < (c.outcome l next actor now).invested :=
    Decimal.not_lt_iff_le.mpr (Decimal.le_iff_value.mpr hbalanced.within)
  have hsame : g₁.visible? l.id = some l := by
    rw [record_eq_ok hrecord]
    exact hl
  unfold update
  rw [if_neg hwithin, Change.outcome_id, hsame]
  exact ⟨_, rfl⟩

/-- What stands between the guards of a change and its commit never fails. -/
structure Unhindered (g : Ledger) (id actor : Int) (c : Change) (now : Moment) (l : Loan) :
    Prop where
  /-- An amount within the bounds can be added to what is invested, without rounding. -/
  sum : ∀ amount, c = .investment amount → inBounds amount = true →
    ∃ total, l.invested.add? amount = some total ∧ total.value = l.invested.value + amount.value
  record : ∀ next, c.plan l = .ok next → ∃ g₁, g.record id actor c now = .ok g₁
  advance : ∀ next, c.plan l = .ok next → ∃ l', (c.write l).advance next actor now = .ok l'
  update : ∀ next, c.plan l = .ok next → ∀ g₁ l', g.record id actor c now = .ok g₁ →
    (c.write l).advance next actor now = .ok l' → ∃ g₂, g₁.update l' = .ok g₂
  transition : ∀ next, c.plan l = .ok next → ∃ g₂ l', g.transition id actor c now = .ok (g₂, l')

theorem Reachable.unhindered (h : g.Reachable) (hl : g.visible? id = some l) (hc : c.IsChecked)
    (actor : Int) (now : Moment) : g.Unhindered id actor c now l := by
  have hupdate : ∀ next, c.plan l = .ok next → ∀ g₁ l', g.record id actor c now = .ok g₁ →
      (c.write l).advance next actor now = .ok l' → ∃ g₂, g₁.update l' = .ok g₂ := by
    intro next hplan g₁ l' hrecord hadvance
    rw [advance_of_plan hplan] at hadvance
    cases hadvance
    exact h.update_of_plan hl hc hplan hrecord
  refine ⟨?_, fun next hplan => h.record_of_plan hl hplan actor now,
    fun next hplan => ⟨_, advance_of_plan hplan actor now⟩, hupdate, fun next hplan => ?_⟩
  · rintro amount rfl hbounds
    exact (h.balanced l (visible?_eq_some hl).1).add_exact hc hbounds
  · obtain ⟨g₁, hrecord⟩ := h.record_of_plan hl hplan actor now
    obtain ⟨g₂, hg₂⟩ := hupdate next hplan g₁ _ hrecord (advance_of_plan hplan actor now)
    refine ⟨g₂, c.outcome l next actor now, ?_⟩
    rw [transition_of_plan hl hplan]
    exact Result.bind_eq_ok.mpr ⟨g₁, hrecord, Result.map_eq_ok.mpr ⟨g₂, hg₂, rfl⟩⟩

end Ledger

/-! ## Guards -/

/-- A guard refuses a change for the state of the loan or for the amount. -/
inductive IsGuard : Failure → Prop
  | loanNotProposed : IsGuard .loanNotProposed
  | loanNotApproved : IsGuard .loanNotApproved
  | loanNotInvested : IsGuard .loanNotInvested
  | amountOutOfRange : IsGuard .amountOutOfRange

theorem Change.isGuard_of_plan (c : Change) (l : Loan) : Result.FailsBy IsGuard (c.plan l) := by
  intro f h
  cases c with
  | approval link rate roi =>
      simp only [plan, planApproval] at h
      split at h <;> cases h
      exact .loanNotProposed
  | disbursement link =>
      simp only [plan, planDisbursement] at h
      split at h <;> cases h
      exact .loanNotInvested
  | investment amount =>
      simp only [plan, planInvestment] at h
      repeat' split at h
      all_goals cases h
      · exact .loanNotApproved
      · exact .amountOutOfRange
      · exact .amountOutOfRange
      · exact .amountOutOfRange

theorem Ledger.Reachable.transition_cases {g : Ledger} (h : g.Reachable) {c : Change}
    (hc : c.IsChecked) (id actor : Int) (now : Moment) {f : Failure}
    (hf : g.transition id actor c now = .error f) :
    f = .notFound ∧ g.visible? id = none ∨ IsGuard f := by
  cases hl : g.visible? id with
  | none =>
      rw [transition_of_invisible hl] at hf
      cases hf
      exact .inl ⟨rfl, rfl⟩
  | some l =>
      right
      cases hplan : c.plan l with
      | error e =>
          rw [transition_of_refused hl hplan] at hf
          cases hf
          exact c.isGuard_of_plan l f hplan
      | ok next =>
          obtain ⟨g₂, l', ht⟩ := (h.unhindered hl hc actor now).transition next hplan
          rw [ht] at hf
          cases hf

/-! ## Counters -/

/-- A step moves each counter on by one at most. -/
theorem Ledger.Step.counters {g g' : Ledger} (h : g.Step g') (hnum : g.Numbered) :
    g'.lastLoan ≤ g.lastLoan + 1 ∧ g'.lastRecord ≤ g.lastRecord + 1 := by
  cases h with
  | propose borrower now _ => exact ⟨le_rfl, by simp [Ledger.propose]⟩
  | change _ ht =>
      obtain ⟨l, next, ha, -⟩ := transition_accepted hnum.nodup ht
      rw [ha.lastLoan, ha.lastRecord]
      exact ⟨by omega, le_rfl⟩
  | delete id deletedBy now => exact ⟨by simp [softDelete, mapLoan], by simp [softDelete, mapLoan]⟩

end Crowdlending.Loan

namespace Crowdlending.Platform
open Token Loan Access

/-! ## Callers and arguments -/

/-- A call is refused at its check for its caller or for one of its arguments. -/
inductive IsCheck : Failure → Prop
  | unauthenticated : IsCheck .unauthenticated
  | permissionDenied : IsCheck .permissionDenied
  | input (fault : InputFault) : IsCheck (.input fault)

theorem isCheck_authorize (caller : Option Claims) (op : Operation) :
    Result.FailsBy IsCheck (authorize caller op) := by
  unfold authorize
  split
  · exact Result.failsBy_error .unauthenticated
  · split
    · exact Result.failsBy_ok _
    · exact Result.failsBy_error .permissionDenied

theorem isCheck_input {α : Type} (x : Except InputFault α) : Result.FailsBy IsCheck (input x) := by
  cases x with
  | error e => exact Result.failsBy_error (.input e)
  | ok a => exact Result.failsBy_ok a

theorem isCheck_checkAddress (field value : String) :
    Result.FailsBy IsCheck (checkAddress field value) := by
  unfold checkAddress
  split
  · exact Result.failsBy_ok _
  · exact Result.failsBy_error (.input _)

theorem isCheck_of_check (caller : Option Claims) (r : LoanRequest) :
    Result.FailsBy IsCheck (r.check caller) := by
  cases r with
  | create r =>
      refine Result.FailsBy.map ((isCheck_authorize caller _).bind fun c => ?_)
      exact (isCheck_input _).bind fun d => Result.failsBy_ok _
  | approve r =>
      refine Result.FailsBy.map ((isCheck_authorize caller _).bind fun c => ?_)
      refine (isCheck_input _).bind fun _ => (isCheck_checkAddress _ _).bind fun link => ?_
      exact (isCheck_input _).bind fun rate => (isCheck_input _).bind fun roi => Result.failsBy_ok _
  | invest r =>
      refine Result.FailsBy.map ((isCheck_authorize caller _).bind fun c => ?_)
      exact (isCheck_input _).bind fun _ => (isCheck_input _).bind fun d => Result.failsBy_ok _
  | disburse r =>
      refine Result.FailsBy.map ((isCheck_authorize caller _).bind fun c => ?_)
      refine (isCheck_input _).bind fun _ => (isCheck_checkAddress _ _).bind fun link => ?_
      exact Result.failsBy_ok _

/-! ## Calls -/

/-- Why a loan call may be refused: for what its caller sees, or because as many conflicts waited as
it has tries. -/
inductive IsRefusal (p : Platform) (r : LoanRequest) : Failure → Prop
  | check {f : Failure} : IsCheck f → IsRefusal p r f
  | notFound {loan : Int} : r.target? = some loan → p.store.ledger.visible? loan = none →
      IsRefusal p r .notFound
  | guard {f : Failure} : IsGuard f → IsRefusal p r f
  | conflict : 5 ≤ p.store.conflicts → IsRefusal p r .conflict

/-- None of them is a fault of the platform. -/
theorem IsRefusal.isInternal {p : Platform} {r : LoanRequest} {f : Failure} (h : IsRefusal p r f) :
    f.isInternal = false := by
  cases h with
  | check h => cases h <;> rfl
  | notFound => rfl
  | guard h => cases h <;> rfl
  | conflict => rfl

theorem isRefusal_of_perform {p : Platform} (h : p.store.ledger.Reachable) (now : Moment)
    (caller : Option Claims) (r : LoanRequest) {e : Abort}
    (he : (r.perform p now caller).result = .error e) : ∃ f, e = .failure f ∧ IsRefusal p r f := by
  cases hcheck : r.check caller with
  | error f =>
      rw [perform_of_refused hcheck] at he
      cases he
      exact ⟨f, rfl, .check (isCheck_of_check caller r f hcheck)⟩
  | ok o =>
      have hresult := (@perform_of_checked p now caller r o hcheck).2
      rw [he] at hresult
      obtain ⟨claims, -, ho⟩ := order_of_check hcheck
      cases o with
      | propose borrower principal => cases hresult
      | change loan actor c =>
          cases ht : p.store.ledger.transition loan actor c now with
          | error f =>
              rw [Order.execute, Store.change_of_error ht] at hresult
              cases hresult
              refine ⟨f, rfl, ?_⟩
              rcases h.transition_cases (isChecked_of_check hcheck) loan actor now ht with
                ⟨rfl, hgone⟩ | hguard
              · exact .notFound ho.2 hgone
              · exact .guard hguard
          | ok accepted =>
              rw [Order.execute, Store.change_of_ok ht] at hresult
              split at hresult <;> cases hresult
              next hmany => exact ⟨.conflict, rfl, .conflict (Nat.not_lt.mp hmany)⟩

/-! ## Runs -/

theorem counters_run (s : Setup) {p : Platform} (h : p.store.ledger.Reachable)
    (actions : List Action) :
    (p.run s actions).store.ledger.lastLoan ≤ p.store.ledger.lastLoan + actions.length ∧
      (p.run s actions).store.ledger.lastRecord ≤ p.store.ledger.lastRecord + actions.length := by
  induction actions generalizing p with
  | nil => exact ⟨by simp [run], by simp [run]⟩
  | cons a actions ih =>
      have hstep : (a.perform s p).store.ledger.lastLoan ≤ p.store.ledger.lastLoan + 1 ∧
          (a.perform s p).store.ledger.lastRecord ≤ p.store.ledger.lastRecord + 1 := by
        rcases (perform_effect s p a).step with hsame | hstep
        · rw [hsame]
          exact ⟨by omega, by omega⟩
        · exact hstep.counters h.numbered
      have hrest := ih (p := a.perform s p) (reachable_run s h [a])
      simp only [List.length_cons, Nat.cast_add, Nat.cast_one]
      constructor
      · exact hrest.1.trans (by omega)
      · exact hrest.2.trans (by omega)

/-- Whatever was called before, a loan call is refused only for a cause that its caller can see. No
check behind the guards of its change fails, and no sum is without a decimal; and in a run of fewer
than 2 ^ 63 calls the next number of a loan and of a record is one of 64 bits. -/
theorem refusal_of_run (s : Setup) (capacity : ℕ) (actions : List Action) (now : Moment)
    (caller : Option Claims) (r : LoanRequest) :
    (∀ e, (r.perform ((start capacity).run s actions) now caller).result = .error e →
      ∃ f, e = .failure f ∧ IsRefusal ((start capacity).run s actions) r f ∧
        f.isInternal = false) ∧
    (∀ loan actor c l, r.check caller = .ok (.change loan actor c) →
      (ledgerAfter s capacity actions).visible? loan = some l →
        (ledgerAfter s capacity actions).Unhindered loan actor c now l) ∧
    (actions.length + 1 < 2 ^ 63 →
      (ledgerAfter s capacity actions).lastLoan + 1 < 2 ^ 63 ∧
        (ledgerAfter s capacity actions).lastRecord + 1 < 2 ^ 63) := by
  have hreach : (ledgerAfter s capacity actions).Reachable := reachable_start s capacity actions
  refine ⟨fun e he => ?_, fun loan actor c l hcheck hl => ?_, fun hlength => ?_⟩
  · obtain ⟨f, rfl, hf⟩ := isRefusal_of_perform hreach now caller r he
    exact ⟨f, rfl, hf, hf.isInternal⟩
  · exact hreach.unhindered hl (isChecked_of_check hcheck) actor now
  · obtain ⟨hloan, hrecord⟩ :=
      counters_run s (p := start capacity) Relation.ReflTransGen.refl actions
    have hlength : (actions.length : Int) + 1 < 2 ^ 63 := by exact_mod_cast hlength
    have hnoLoan : (start capacity).store.ledger.lastLoan = 0 := rfl
    have hnoRecord : (start capacity).store.ledger.lastRecord = 0 := rfl
    rw [hnoLoan] at hloan
    rw [hnoRecord] at hrecord
    exact ⟨by unfold ledgerAfter; omega, by unfold ledgerAfter; omega⟩

/-- The loan lacks 500, and whoever offers 1000 is refused for the amount. Its record and its update
would be made without a fault, though seven conflicts wait. -/
theorem refusal_of_partlyFunded :
    ((LoanRequest.invest ⟨1, "1000"⟩).perform
        ((start 4).run bareSetup (partlyFunded ++ [.setConflicts 7])) (clock 4)
        (some (sampleUser 4 .investor))).result = .error (.failure .amountOutOfRange) ∧
      (∃ f, Abort.failure .amountOutOfRange = .failure f ∧
        IsRefusal ((start 4).run bareSetup (partlyFunded ++ [.setConflicts 7]))
          (.invest ⟨1, "1000"⟩) f ∧ f.isInternal = false) ∧
      (∃ amount l, (LoanRequest.invest ⟨1, "1000"⟩).check (some (sampleUser 4 .investor)) =
          .ok (.change 1 4 (.investment amount)) ∧
        (ledgerAfter bareSetup 4 (partlyFunded ++ [.setConflicts 7])).visible? 1 = some l ∧
        (ledgerAfter bareSetup 4 (partlyFunded ++ [.setConflicts 7])).Unhindered 1 4
          (.investment amount) (clock 4) l) ∧
      (partlyFunded ++ [Action.setConflicts 7]).length + 1 < 2 ^ 63 ∧
      (ledgerAfter bareSetup 4 (partlyFunded ++ [.setConflicts 7])).lastRecord + 1 < 2 ^ 63 := by
  obtain ⟨hrefused, hbehind, hcounters⟩ := refusal_of_run bareSetup 4
    (partlyFunded ++ [.setConflicts 7]) (clock 4) (some (sampleUser 4 .investor))
    (.invest ⟨1, "1000"⟩)
  have hresult : ((LoanRequest.invest ⟨1, "1000"⟩).perform
      ((start 4).run bareSetup (partlyFunded ++ [.setConflicts 7])) (clock 4)
      (some (sampleUser 4 .investor))).result = .error (.failure .amountOutOfRange) := by rfl
  have hshort : (partlyFunded ++ [Action.setConflicts 7]).length + 1 < 2 ^ 63 := by decide
  exact ⟨hresult, hrefused _ hresult, ⟨_, _, rfl, rfl, hbehind _ _ _ _ rfl rfl⟩, hshort,
    (hcounters hshort).2⟩

end Crowdlending.Platform
