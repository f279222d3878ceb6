import Mathlib
import Crowdlending.Loan.Store
import Crowdlending.Proofs.Result

/-!
# What one change does

All that an accepted change writes, said once: the loan that it leaves, one
record more in one of the three tables, and one step of the counter of records.
A change is refused for a cause of its own and never by a conflict, so a conflict
is always the commit's, and only conflicts that wait at the store decide how
often a change is tried.
-/
namespace Crowdlending.Loan

namespace Change

/-- The loan that the change leaves. -/
def outcome (c : Change) (l : Loan) (next : State) (actor : Int) (now : Moment) : Loan :=
  { c.write l with state := next, updatedAt := some now, updatedBy := some actor }

def approvals (c : Change) (record loan actor : Int) (now : Moment) : List Approval :=
  match c with
  | approval proofLink .. => [⟨record, loan, actor, proofLink, now⟩]
  | _ => []

def investments (c : Change) (record loan actor : Int) (now : Moment) : List Investment :=
  match c with
  | investment amount => [⟨record, loan, actor, amount, now⟩]
  | _ => []

def disbursements (c : Change) (record loan actor : Int) (now : Moment) : List Disbursement :=
  match c with
  | disbursement link => [⟨record, loan, actor, link, now⟩]
  | _ => []

@[simp] theorem outcome_id (c : Change) (l : Loan) (next : State) (actor : Int) (now : Moment) :
    (c.outcome l next actor now).id = l.id := by cases c <;> rfl

@[simp] theorem outcome_state (c : Change) (l : Loan) (next : State) (actor : Int)
    (now : Moment) : (c.outcome l next actor now).state = next := rfl

theorem outcome_invested {l : Loan} {amount total : Decimal}
    (h : l.invested.add? amount = some total) (next : State) (actor : Int) (now : Moment) :
    ((investment amount).outcome l next actor now).invested = total := by
  simp only [outcome, write, h, Option.getD_some]

theorem plan_approval_eq_ok {l : Loan} {next : State} {link : String} {rate roi : Decimal}
    (h : (approval link rate roi).plan l = .ok next) : l.state = .proposed ∧ next = .approved := by
  simp only [plan, planApproval] at h
  split at h
  · next hs => cases h; exact ⟨hs, rfl⟩
  · cases h

theorem plan_disbursement_eq_ok {l : Loan} {next : State} {link : String}
    (h : (disbursement link).plan l = .ok next) : l.state = .invested ∧ next = .disbursed := by
  simp only [plan, planDisbursement] at h
  split at h
  · next hs => cases h; exact ⟨hs, rfl⟩
  · cases h

/-- An accepted investment has a sum, within the principal; the loan is complete when they are
the same number. -/
theorem plan_investment_eq_ok {l : Loan} {next : State} {amount : Decimal}
    (h : (investment amount).plan l = .ok next) :
    l.state.isOpen = true ∧ inBounds amount = true ∧
      ∃ total, l.invested.add? amount = some total ∧ ¬l.principal < total ∧
        next = if total.sameValue l.principal then .invested else .funding := by
  simp only [plan, planInvestment] at h
  split at h
  · cases h
  · next hopen =>
      split at h
      · cases h
      · next hbounds =>
          refine ⟨by simpa using hopen, by simpa using hbounds, ?_⟩
          split at h
          · cases h
          · next total htotal =>
              split at h
              · cases h
              · next hle =>
                  refine ⟨total, htotal, hle, ?_⟩
                  split at h <;> cases h <;> simp [*]

/-- No change leads back. -/
theorem rank_le_of_plan {c : Change} {l : Loan} {next : State} (h : c.plan l = .ok next) :
    l.state.rank ≤ next.rank := by
  cases c with
  | approval link rate roi =>
      obtain ⟨hs, rfl⟩ := plan_approval_eq_ok h
      rw [hs]; decide
  | disbursement link =>
      obtain ⟨hs, rfl⟩ := plan_disbursement_eq_ok h
      rw [hs]; decide
  | investment amount =>
      obtain ⟨hopen, -, total, -, -, rfl⟩ := plan_investment_eq_ok h
      generalize l.state = st at hopen ⊢
      split_ifs <;> cases st <;> simp [State.isOpen, State.rank] at hopen ⊢

theorem plan_ne_conflict (c : Change) (l : Loan) : c.plan l ≠ .error .conflict := by
  intro h
  cases c <;> simp only [plan, planApproval, planInvestment, planDisbursement] at h <;>
    (repeat' split at h) <;> cases h

end Change

theorem advance_of_plan {c : Change} {l : Loan} {next : State} (h : c.plan l = .ok next)
    (actor : Int) (now : Moment) :
    (c.write l).advance next actor now = .ok (c.outcome l next actor now) := by
  have hstate : (c.write l).state = l.state := by cases c <;> rfl
  rw [advance, hstate, if_neg (Nat.not_lt.mpr (Change.rank_le_of_plan h))]
  rfl

namespace Ledger

section Visible
variable {g : Ledger} {id : Int} {l : Loan}

theorem visible?_eq_some (h : g.visible? id = some l) :
    l ∈ g.loans ∧ l.id = id ∧ l.isVisible = true := by
  obtain ⟨hfind, hvisible⟩ := Option.filter_eq_some_iff.mp h
  exact ⟨List.mem_of_find?_eq_some hfind, by simpa using List.find?_some hfind, hvisible⟩

theorem eq_of_id_eq (hids : (g.loans.map Loan.id).Nodup) {k : Loan} (hk : k ∈ g.loans)
    (hl : l ∈ g.loans) (h : k.id = l.id) : k = l :=
  List.inj_on_of_nodup_map hids hk hl h

theorem find?_of_mem (hids : (g.loans.map Loan.id).Nodup) (hl : l ∈ g.loans) :
    g.find? l.id = some l := by
  cases hfind : g.find? l.id with
  | none => simpa using List.find?_eq_none.mp hfind l hl
  | some k =>
      have hid : k.id = l.id := by simpa using List.find?_some hfind
      rw [eq_of_id_eq hids (List.mem_of_find?_eq_some hfind) hl hid]

theorem visible?_of_mem (hids : (g.loans.map Loan.id).Nodup) (hl : l ∈ g.loans)
    (hvisible : l.isVisible = true) : g.visible? l.id = some l :=
  Option.filter_eq_some_iff.mpr ⟨find?_of_mem hids hl, hvisible⟩

theorem exists_of_find? (g : Ledger) (id : Int) (q : Loan → Bool)
    (h : (g.find? id).any q = true) : ∃ l ∈ g.loans, l.id = id ∧ q l = true := by
  obtain ⟨l, hl, hq⟩ := (Option.any_eq_true _ _).mp h
  exact ⟨l, List.mem_of_find?_eq_some hl, by simpa using List.find?_some hl, hq⟩

theorem find?_map {g' : Ledger} {f : Loan → Loan} (hg : g'.loans = g.loans.map f)
    (hf : ∀ l ∈ g.loans, (f l).id = l.id) (id : Int) : g'.find? id = (g.find? id).map f := by
  rw [find?, hg, List.find?_map, find?]
  congr 1
  apply List.find?_congr
  intro l hl
  simp only [Function.comp_apply, hf l hl]

end Visible

theorem record_eq_ok {g g₁ : Ledger} {id actor : Int} {c : Change} {now : Moment}
    (h : g.record id actor c now = .ok g₁) :
    g₁ = { g with
      approvals := g.approvals ++ c.approvals (g.lastRecord + 1) id actor now
      investments := g.investments ++ c.investments (g.lastRecord + 1) id actor now
      disbursements := g.disbursements ++ c.disbursements (g.lastRecord + 1) id actor now
      lastRecord := g.lastRecord + 1 } := by
  cases c with
  | approval link rate roi =>
      simp only [record, recordApproval] at h
      split at h
      · cases h
      · cases h
        simp [Change.approvals, Change.investments, Change.disbursements]
  | investment amount =>
      cases h
      simp [recordInvestment, Change.approvals, Change.investments, Change.disbursements]
  | disbursement link =>
      simp only [record, recordDisbursement] at h
      split at h
      · cases h
      · cases h
        simp [Change.approvals, Change.investments, Change.disbursements]

theorem record_ne_conflict (g : Ledger) (id actor : Int) (c : Change) (now : Moment) :
    g.record id actor c now ≠ .error .conflict := by
  intro h
  cases c <;> simp only [record, recordApproval, recordDisbursement] at h <;>
    (try split at h) <;> cases h

theorem update_ne_conflict (g : Ledger) (l : Loan) : g.update l ≠ .error .conflict := by
  intro h
  unfold update at h
  split at h
  · cases h
  · split at h <;> cases h

/-- What an accepted change finds and what it writes. -/
structure Accepted (g : Ledger) (id actor : Int) (c : Change) (now : Moment) (l : Loan)
    (next : State) (g' : Ledger) : Prop where
  visible : g.visible? id = some l
  plan : c.plan l = .ok next
  loans : g'.loans = g.loans.map fun k => if k.id = id then c.outcome l next actor now else k
  approvals : g'.approvals = g.approvals ++ c.approvals (g.lastRecord + 1) id actor now
  investments : g'.investments = g.investments ++ c.investments (g.lastRecord + 1) id actor now
  disbursements :
    g'.disbursements = g.disbursements ++ c.disbursements (g.lastRecord + 1) id actor now
  lastLoan : g'.lastLoan = g.lastLoan
  lastRecord : g'.lastRecord = g.lastRecord + 1

section Transition
variable {g g' : Ledger} {id actor : Int} {c : Change} {now : Moment} {l l' : Loan}

theorem transition_of_invisible (h : g.visible? id = none) :
    g.transition id actor c now = .error .notFound := by
  unfold transition
  rw [h]

theorem transition_of_refused {f : Failure} (hl : g.visible? id = some l)
    (hplan : c.plan l = .error f) : g.transition id actor c now = .error f := by
  unfold transition
  rw [hl]
  simp only [hplan]
  rfl

/-- Behind the guards, a change is its record and then its update. -/
theorem transition_of_plan {next : State} (hl : g.visible? id = some l)
    (hplan : c.plan l = .ok next) :
    g.transition id actor c now = g.record id actor c now >>= fun g₁ =>
      (g₁.update (c.outcome l next actor now)).map fun g₂ => (g₂, c.outcome l next actor now) := by
  unfold transition
  rw [hl]
  simp only [hplan]
  cases hrecord : g.record id actor c now with
  | error f => rfl
  | ok g₁ =>
      change ((c.write l).advance next actor now >>= _) = _
      rw [advance_of_plan hplan]
      cases hupdate : g₁.update (c.outcome l next actor now) with
      | error f => simp [bind, Except.bind, Except.map, hupdate]
      | ok g₂ => simp [bind, Except.bind, Except.map, hupdate, pure, Except.pure]

theorem transition_eq_ok (h : g.transition id actor c now = .ok (g', l')) :
    ∃ l next g₁, g.visible? id = some l ∧ c.plan l = .ok next ∧
      g.record id actor c now = .ok g₁ ∧ l' = c.outcome l next actor now ∧
      g₁.update l' = .ok g' := by
  cases hl : g.visible? id with
  | none => rw [transition_of_invisible hl] at h; cases h
  | some l =>
      cases hplan : c.plan l with
      | error f => rw [transition_of_refused hl hplan] at h; cases h
      | ok next =>
          rw [transition_of_plan hl hplan] at h
          obtain ⟨g₁, hrecord, h⟩ := Result.bind_eq_ok.mp h
          obtain ⟨g₂, hupdate, h⟩ := Result.map_eq_ok.mp h
          cases h
          exact ⟨l, next, g₁, rfl, hplan, hrecord, rfl, hupdate⟩

theorem transition_ne_conflict (g : Ledger) (id actor : Int) (c : Change) (now : Moment) :
    g.transition id actor c now ≠ .error .conflict := by
  intro h
  cases hl : g.visible? id with
  | none => rw [transition_of_invisible hl] at h; cases h
  | some l =>
      cases hplan : c.plan l with
      | error f =>
          rw [transition_of_refused hl hplan] at h
          cases h
          exact Change.plan_ne_conflict c l hplan
      | ok next =>
          rw [transition_of_plan hl hplan] at h
          rcases Result.bind_eq_error.mp h with h | ⟨g₁, -, h⟩
          · exact record_ne_conflict g id actor c now h
          · exact update_ne_conflict g₁ _ (Result.map_eq_error.mp h)

theorem transition_accepted (hids : (g.loans.map Loan.id).Nodup)
    (h : g.transition id actor c now = .ok (g', l')) :
    ∃ l next, g.Accepted id actor c now l next g' ∧ l' = c.outcome l next actor now := by
  obtain ⟨l, next, g₁, hl, hplan, hrecord, rfl, hupdate⟩ := transition_eq_ok h
  refine ⟨l, next, ?_, rfl⟩
  obtain ⟨hmem, hid, -⟩ := visible?_eq_some hl
  rw [record_eq_ok hrecord] at hupdate
  unfold update at hupdate
  split at hupdate
  · cases hupdate
  · split at hupdate
    · cases hupdate
    · cases hupdate
      refine ⟨hl, hplan, ?_, rfl, rfl, rfl, rfl, rfl⟩
      simp only [mapLoan, Change.outcome_id, hid]
      apply List.map_congr_left
      intro k hk
      split_ifs with hkid
      · rw [eq_of_id_eq hids hk hmem (hkid.trans hid.symm)]
        cases c <;> rfl
      · rfl

end Transition

end Ledger

/-! ## Conflicts -/

section Retry
variable {σ α : Type} {attempt : σ → σ × Except Failure α} {s : σ}

theorem retryFrom_of_conflict (h : (attempt s).2 = .error .conflict)
    (left tried pause waited : ℕ) :
    retryFrom attempt (left + 1) tried pause waited s =
      retryFrom attempt left (tried + 1) (2 * pause) (waited + pause) (attempt s).1 := by
  have hpair : attempt s = ((attempt s).1, .error .conflict) := Prod.ext rfl h
  conv_lhs => unfold retryFrom; rw [hpair]

theorem retryFrom_of_settled (h : (attempt s).2 ≠ .error .conflict)
    (left tried pause waited : ℕ) :
    retryFrom attempt left tried pause waited s =
      ⟨(attempt s).1, (attempt s).2, tried + 1, waited⟩ := by
  unfold retryFrom
  split
  · next hpair => exact absurd (congrArg Prod.snd hpair) h
  · next hpair _ => rw [hpair]

theorem retryFrom_of_last (tried pause waited : ℕ) :
    retryFrom attempt 0 tried pause waited s =
      ⟨(attempt s).1, (attempt s).2, tried + 1, waited⟩ := by
  unfold retryFrom
  split
  · next hleft => cases hleft
  · next hpair _ => rw [hpair]

/-- A pause, and then the pauses that follow it. -/
theorem pauses_succ (waited pause k : ℕ) :
    waited + pause + 2 * pause * (2 ^ k - 1) = waited + pause * (2 ^ (k + 1) - 1) := by
  obtain ⟨m, hm⟩ := Nat.exists_eq_add_of_le (Nat.one_le_two_pow (n := k))
  rw [pow_succ, hm, Nat.add_sub_cancel_left, show (1 + m) * 2 - 1 = 2 * m + 1 by omega]
  ring

end Retry

namespace Store
variable {s : Store} {id actor : Int} {c : Change} {now : Moment}

theorem attempt_of_error {f : Failure} (h : s.ledger.transition id actor c now = .error f) :
    s.attempt id actor c now = (s, .error f) := by
  simp only [attempt, h]

theorem attempt_of_ok {g : Ledger} {l : Loan} (h : s.ledger.transition id actor c now = .ok (g, l))
    (hfree : s.conflicts = 0) :
    s.attempt id actor c now =
      ({ s with ledger := g, commits := s.commits + 1 }, .ok l) := by
  simp only [attempt, h, commit, hfree]
  rfl

theorem attempt_of_conflict {g : Ledger} {l : Loan} {n : ℕ}
    (h : s.ledger.transition id actor c now = .ok (g, l)) (hn : s.conflicts = n + 1) :
    s.attempt id actor c now = ({ s with conflicts := n }, .error .conflict) := by
  simp only [attempt, h, commit, hn]
  rfl

/-- A change that is refused for a cause of its own is tried once. -/
theorem change_of_error {f : Failure} (h : s.ledger.transition id actor c now = .error f) :
    s.change id actor c now = ⟨s, .error f, 1, 0⟩ := by
  have hf : (s.attempt id actor c now).2 ≠ .error .conflict := by
    rw [attempt_of_error h]
    intro he
    have he : Except.error f = Except.error Failure.conflict := he
    exact Ledger.transition_ne_conflict _ _ _ _ _ (h.trans (congrArg _ (Except.error.inj he)))
  rw [change, retry, retryFrom_of_settled hf, attempt_of_error h]

/-- Each conflict that waits costs one try and one pause, each pause twice as long as the last. -/
theorem retryFrom_of_ok {g : Ledger} {l : Loan} (left tried pause waited : ℕ)
    (h : s.ledger.transition id actor c now = .ok (g, l)) :
    retryFrom (fun s => s.attempt id actor c now) left tried pause waited s =
      if s.conflicts ≤ left then
        ⟨{ s with ledger := g, conflicts := 0, commits := s.commits + 1 }, .ok l,
          tried + s.conflicts + 1, waited + pause * (2 ^ s.conflicts - 1)⟩
      else
        ⟨{ s with conflicts := s.conflicts - (left + 1) }, .error .conflict, tried + left + 1,
          waited + pause * (2 ^ left - 1)⟩ := by
  induction left generalizing s tried pause waited with
  | zero =>
      rw [retryFrom_of_last]
      cases hn : s.conflicts with
      | zero => simp [attempt_of_ok h hn, hn]
      | succ n => simp [attempt_of_conflict h hn]
  | succ left ih =>
      cases hn : s.conflicts with
      | zero =>
          have hdone : (s.attempt id actor c now).2 ≠ .error .conflict := by
            rw [attempt_of_ok h hn]
            exact fun he => by cases he
          rw [retryFrom_of_settled hdone, attempt_of_ok h hn]
          simp [hn]
      | succ n =>
          have hagain : (s.attempt id actor c now).2 = .error .conflict := by
            rw [attempt_of_conflict h hn]
          rw [retryFrom_of_conflict hagain, attempt_of_conflict h hn]
          have hnext := ih (s := { s with conflicts := n }) (tried + 1) (2 * pause)
            (waited + pause) h
          dsimp only at hnext ⊢
          rw [hnext]
          by_cases hle : n ≤ left
          · rw [if_pos hle, if_pos (by omega), pauses_succ]
            congr 1
            omega
          · rw [if_neg hle, if_neg (by omega), pauses_succ]
            congr 1
            · congr 1
              omega
            · omega

/-- A change that would be accepted is, unless as many conflicts wait as it has tries. -/
theorem change_of_ok {g : Ledger} {l : Loan} (h : s.ledger.transition id actor c now = .ok (g, l)) :
    s.change id actor c now =
      if s.conflicts < mostAttempts then
        ⟨{ s with ledger := g, conflicts := 0, commits := s.commits + 1 }, .ok l, s.conflicts + 1,
          firstPause * (2 ^ s.conflicts - 1)⟩
      else
        ⟨{ s with conflicts := s.conflicts - mostAttempts }, .error .conflict, mostAttempts,
          firstPause * (2 ^ (mostAttempts - 1) - 1)⟩ := by
  unfold change retry
  rw [retryFrom_of_ok _ _ _ _ h]
  have hlt : s.conflicts ≤ mostAttempts - 1 ↔ s.conflicts < mostAttempts := by
    unfold mostAttempts; omega
  simp only [hlt, Nat.zero_add]
  rfl

/-- A change is refused, and then no more than waiting conflicts are used up, or it is committed
once. -/
theorem change_cases (s : Store) (id actor : Int) (c : Change) (now : Moment) :
    (∃ f, (s.change id actor c now).result = .error f ∧
      ∃ n ≤ s.conflicts, (s.change id actor c now).state = { s with conflicts := n }) ∨
    ∃ g l, s.ledger.transition id actor c now = .ok (g, l) ∧
      (s.change id actor c now).result = .ok l ∧
      (s.change id actor c now).state =
        { s with ledger := g, conflicts := 0, commits := s.commits + 1 } := by
  cases ht : s.ledger.transition id actor c now with
  | error f =>
      rw [change_of_error ht]
      exact .inl ⟨f, rfl, s.conflicts, le_rfl, rfl⟩
  | ok r =>
      rw [change_of_ok ht]
      split
      · exact .inr ⟨r.1, r.2, rfl, rfl, rfl⟩
      · exact .inl ⟨.conflict, rfl, _, Nat.sub_le _ _, rfl⟩

end Store

end Crowdlending.Loan
