import Crowdlending.Proofs.Decimal.Written
import Crowdlending.Proofs.Loan.Conservation

/-!
# Completing a loan

An open loan can be completed by one more investment of all that remains, as long
as the remainder reaches the least amount of an investment. A smaller remainder is
refused, and so is everything else: the loan then stays as it is for good, and
only its deletion takes it away.
-/
namespace Crowdlending.Loan

section Remainder
variable {f : File}

theorem places_neg {d : Decimal} {n : ℕ} (h : d.significantPlaces ≤ n) :
    d.neg.significantPlaces ≤ n := by
  rw [Decimal.significantPlaces_le_iff] at h ⊢
  obtain ⟨k, hk⟩ := h
  refine ⟨-k, ?_⟩
  rw [Decimal.value_neg, neg_mul, hk]
  push_cast
  rfl

/-- What remains is a decimal with the places of money. -/
theorem File.Balanced.remaining (h : f.Balanced) :
    ∃ d, f.loan.remaining? = some d ∧ d.value = f.loan.principal.value - f.loan.invested.value ∧
      d.significantPlaces ≤ moneyPlaces := by
  have hnonneg := h.nonneg
  have hwithin := h.within
  have hmost := h.most
  have hneg := places_neg h.investedPlaces
  have hfit : |f.loan.principal.value + f.loan.invested.neg.value| *
      Decimal.unit moneyPlaces < Decimal.limit := by
    apply File.value_lt_limit
    rw [Decimal.value_neg, abs_le]
    constructor <;> linarith
  obtain ⟨d, hd, hvalue⟩ := Decimal.add?_exact h.principalPlaces hneg hfit
  have hplaces := Decimal.significantPlaces_of_value_add hvalue h.principalPlaces hneg
  rw [Decimal.value_neg, ← sub_eq_add_neg] at hvalue
  exact ⟨d, hd, hvalue, hplaces⟩

/-- Something remains to be invested in an open loan; before the first investment, all of it. -/
theorem File.Balanced.open_remainder (h : f.Balanced) (hopen : f.loan.state.isOpen = true) :
    f.loan.invested.value < f.loan.principal.value ∧
      (f.loan.state = .approved → f.loan.invested.value = 0) := by
  refine ⟨lt_of_le_of_ne h.within ?_, fun hs => h.unfunded.mp (.inr hs)⟩
  intro heq
  rcases h.complete.mpr heq with hs | hs <;> rw [hs] at hopen <;> cases hopen

/-- An investment of all that remains is accepted if it is large enough, and completes the loan. -/
theorem File.Balanced.plan_remainder (h : f.Balanced) (hopen : f.loan.state.isOpen = true)
    {amount : Decimal} (hplaces : amount.significantPlaces ≤ moneyPlaces)
    (hleast : 1000 ≤ amount.value)
    (hexact : amount.value = f.loan.principal.value - f.loan.invested.value) :
    ∃ total, f.loan.invested.add? amount = some total ∧
      total.value = f.loan.principal.value ∧
      (Change.investment amount).plan f.loan = .ok .invested := by
  have hnonneg := h.nonneg
  have hmost := h.most
  have hbounds : inBounds amount = true := inBounds_iff.mpr ⟨hleast, by linarith⟩
  obtain ⟨total, htotal, hvalue⟩ := h.add_exact hplaces hbounds
  have hfull : total.value = f.loan.principal.value := by rw [hvalue, hexact]; ring
  have hwithin : ¬f.loan.principal < total := by
    rw [Decimal.lt_iff_value, hfull]
    exact lt_irrefl _
  refine ⟨total, htotal, hfull, ?_⟩
  simp only [Change.plan, planInvestment, hopen, hbounds, htotal, not_true_eq_false, if_false,
    if_neg hwithin, if_pos (Decimal.sameValue_iff.mpr hfull)]

/-- A loan in funding of which less remains than an investment must have takes no change. -/
theorem File.Balanced.plan_stranded (h : f.Balanced) (hstate : f.loan.state = .funding)
    (hless : f.loan.principal.value - f.loan.invested.value < 1000) {c : Change}
    (hc : c.IsChecked) (next : State) : c.plan f.loan ≠ .ok next := by
  intro hplan
  cases c with
  | approval link rate roi =>
      rw [(Change.plan_approval_eq_ok hplan).1] at hstate
      cases hstate
  | disbursement link =>
      rw [(Change.plan_disbursement_eq_ok hplan).1] at hstate
      cases hstate
  | investment amount =>
      obtain ⟨-, hbounds, total, htotal, hle, -⟩ := Change.plan_investment_eq_ok hplan
      obtain ⟨total', htotal', hvalue⟩ := h.add_exact hc hbounds
      cases htotal.symm.trans htotal'
      obtain ⟨hleast, -⟩ := inBounds_iff.mp hbounds
      have hwithin := Decimal.le_iff_value.mp (Decimal.not_lt_iff_le.mp hle)
      linarith

end Remainder

namespace Ledger
variable {g g' : Ledger}

/-- A planned investment is carried out: no row can be in its way. -/
theorem transition_of_investment {id : Int} {amount : Decimal} {l : Loan} {next : State}
    (hl : g.visible? id = some l) (hplan : (Change.investment amount).plan l = .ok next)
    (actor : Int) (now : Moment) :
    ∃ g', g.transition id actor (.investment amount) now =
      .ok (g', (Change.investment amount).outcome l next actor now) := by
  obtain ⟨-, -, total, htotal, hwithin, -⟩ := Change.plan_investment_eq_ok hplan
  obtain ⟨-, hid, -⟩ := visible?_eq_some hl
  rw [transition_of_plan hl hplan]
  have hinvested : ¬((Change.investment amount).outcome l next actor now).principal <
      ((Change.investment amount).outcome l next actor now).invested := by
    rw [Change.outcome_invested htotal]
    exact hwithin
  have hfound : (g.recordInvestment id actor amount now).1.visible?
      ((Change.investment amount).outcome l next actor now).id = some l := by
    rw [Change.outcome_id, hid]
    exact hl
  simp only [record, bind, Except.bind, update, if_neg hinvested, hfound, Option.isNone_some,
    Bool.false_eq_true, if_false, Except.map]
  exact ⟨_, rfl⟩

/-- The loan is in funding with this much invested, and less remains than an investment needs. -/
def Stranded (g : Ledger) (id : Int) (invested : Decimal) : Prop :=
  ∃ l ∈ g.loans, l.id = id ∧ l.state = .funding ∧ l.invested = invested ∧
    l.principal.value - l.invested.value < 1000

theorem Stranded.refuses {id : Int} {invested : Decimal} (h : g.Stranded id invested)
    (hreach : g.Reachable) {c : Change} (hc : c.IsChecked) {actor : Int} {now : Moment}
    {r : Ledger × Loan} : g.transition id actor c now ≠ .ok r := by
  intro ht
  obtain ⟨l, hl, hid, hstate, -, hless⟩ := h
  obtain ⟨k, next, ha, -⟩ := transition_accepted hreach.numbered.nodup ht
  obtain ⟨hk, hkid, -⟩ := visible?_eq_some ha.visible
  have hsame : l = k := eq_of_id_eq hreach.numbered.nodup hl hk (hid.trans hkid.symm)
  subst hsame
  exact (hreach.balanced l hl).plan_stranded hstate hless hc next ha.plan

theorem Stranded.step {id : Int} {invested : Decimal} (h : g.Stranded id invested)
    (hreach : g.Reachable) (hs : g.Step g') : g'.Stranded id invested := by
  cases hs with
  | propose borrower now _ =>
      obtain ⟨l, hl, hstranded⟩ := h
      exact ⟨l, List.mem_append_left _ hl, hstranded⟩
  | @change _ target actor c now _ hc ht =>
      have hother : id ≠ target := by
        rintro rfl
        exact h.refuses hreach hc ht
      obtain ⟨k, next, ha, -⟩ := transition_accepted hreach.numbered.nodup ht
      obtain ⟨l, hl, hid, hstranded⟩ := h
      refine ⟨l, ?_, hid, hstranded⟩
      rw [ha.loans]
      exact List.mem_map.mpr ⟨l, hl, if_neg (hid ▸ hother)⟩
  | delete target deletedBy now =>
      obtain ⟨l, hl, hid, hstate, hinvested, hless⟩ := h
      refine ⟨_, List.mem_map.mpr ⟨l, hl, rfl⟩, ?_, ?_, ?_, ?_⟩ <;> split_ifs <;> assumption

end Ledger

end Crowdlending.Loan

namespace Crowdlending.Platform
open Loan Token

section Stranded
variable {p : Platform} {id : Int} {invested : Decimal}

theorem stranded_run (s : Setup) (hreach : p.store.ledger.Reachable)
    (h : p.store.ledger.Stranded id invested) (actions : List Action) :
    (p.run s actions).store.ledger.Stranded id invested := by
  have hboth := run_induct s (motive := fun g => g.Reachable ∧ g.Stranded id invested)
    ⟨hreach, h⟩ (fun hg hs => ⟨hg.1.step hs, hg.2.step hg.1 hs⟩) actions
  exact hboth.2

theorem investInLoan_of_stranded (hreach : p.store.ledger.Reachable)
    (h : p.store.ledger.Stranded id invested) (now : Moment) (caller : Option Claims)
    (text : String) : ∃ e, (p.investInLoan now caller ⟨id, text⟩).result = .error e := by
  have hresult : (LoanRequest.perform p now caller (.invest ⟨id, text⟩)).result =
      (p.investInLoan now caller ⟨id, text⟩).result.map .invested := rfl
  suffices ∃ e, (LoanRequest.perform p now caller (.invest ⟨id, text⟩)).result = .error e by
    obtain ⟨e, he⟩ := this
    exact ⟨e, Result.map_eq_error.mp (hresult.symm.trans he)⟩
  cases hcheck : LoanRequest.check caller (.invest ⟨id, text⟩) with
  | error f =>
      rw [perform_of_refused hcheck]
      exact ⟨_, rfl⟩
  | ok o =>
      rw [(perform_of_checked hcheck).2]
      obtain ⟨a, ha, rfl⟩ := Result.map_eq_ok.mp hcheck
      have hchecked : (Change.investment a.2).IsChecked :=
        places_of_readDecimal (checkInvest_eq_ok ha).2
      rcases execute_change p.store now id a.1.userId (.investment a.2) with
        ⟨f, hf, -⟩ | ⟨l, -, ht⟩
      · exact ⟨.failure f, congrArg (Except.mapError Abort.failure) hf⟩
      · exact absurd ht (h.refuses hreach hchecked)

end Stranded

/-- Anyone who may invest completes the loan with this amount, however it is written, unless as
many conflicts wait as a transaction has tries. -/
def CompletedBy (p : Platform) (l : Loan) (remaining : Decimal) : Prop :=
  ∀ (c : Claims) (now : Moment) (text : String) (amount : Decimal),
    c.role ∈ Access.Operation.investInLoan.roles → readDecimal "amount" text = .ok amount →
    amount.value = remaining.value →
      if p.store.conflicts < mostAttempts then
        ∃ total, total.value = l.principal.value ∧
          (p.investInLoan now (some c) ⟨l.id, text⟩).result = .ok ⟨l.id, total, .invested⟩ ∧
          ∃ l' ∈ (p.investInLoan now (some c) ⟨l.id, text⟩).platform.store.ledger.loans,
            l'.id = l.id ∧ l'.state = .invested ∧ l'.invested = total
      else
        (p.investInLoan now (some c) ⟨l.id, text⟩).result = .error (.failure .conflict) ∧
          (p.investInLoan now (some c) ⟨l.id, text⟩).platform.store.ledger = p.store.ledger

theorem checkInvest_of_read {c : Claims} (hrole : c.role ∈ Access.Operation.investInLoan.roles)
    {id : Int} (hid : 1 ≤ id) {text : String} {amount : Decimal}
    (hread : readDecimal "amount" text = .ok amount) :
    checkInvest (some c) ⟨id, text⟩ = .ok (c, amount) := by
  have hauthorized : Access.authorize (some c) .investInLoan = .ok c := by
    simp only [Access.authorize, List.contains_iff_mem.mpr hrole, if_true]
  have hnumber : checkNumber id = .ok () := if_neg (by omega)
  simp only [checkInvest, hauthorized, hnumber, hread, input, bind, Except.bind, pure, Except.pure]

theorem completedBy_of_large {p : Platform} (hreach : p.store.ledger.Reachable) {l : Loan}
    (hl : l ∈ p.store.ledger.loans) (hvisible : l.isVisible = true)
    (hopen : l.state.isOpen = true) {remaining : Decimal}
    (hvalue : remaining.value = l.principal.value - l.invested.value)
    (hleast : 1000 ≤ remaining.value) : CompletedBy p l remaining := by
  intro c now text amount hrole hread hamount
  have hplaces := places_of_readDecimal hread
  have hids := hreach.numbered.nodup
  have hbalanced := hreach.balanced l hl
  obtain ⟨total, htotal, hfull, hplan⟩ := hbalanced.plan_remainder hopen hplaces
    (hamount ▸ hleast) (hamount.trans hvalue)
  have htotal : l.invested.add? amount = some total := htotal
  have hplan : (Change.investment amount).plan l = .ok .invested := hplan
  have hfound := Ledger.visible?_of_mem hids hl hvisible
  obtain ⟨g, ht⟩ := Ledger.transition_of_investment hfound hplan c.userId now
  have hinvested := Change.outcome_invested htotal .invested c.userId now
  have hcheck := checkInvest_of_read hrole (hreach.numbered.one_le_id hl) hread
  obtain ⟨hstore, hresult⟩ := @investInLoan_of_checked p now (some c) ⟨l.id, text⟩ c amount hcheck
  rw [hresult, hstore, Store.change_of_ok ht]
  split
  · refine ⟨total, hfull, ?_, ?_⟩
    · simp only [Except.map, Except.mapError, hinvested, Change.outcome_state]
    · obtain ⟨k, next, ha, -⟩ := Ledger.transition_accepted hids ht
      cases hfound.symm.trans ha.visible
      cases hplan.symm.trans ha.plan
      refine ⟨(Change.investment amount).outcome l .invested c.userId now, ?_,
        Change.outcome_id _ _ _ _ _, rfl, hinvested⟩
      simp only [ha.loans]
      exact List.mem_map.mpr ⟨l, hl, if_pos rfl⟩
  · exact ⟨rfl, rfl⟩

/-- In every run an open loan has a positive remainder, all of its principal before the first
investment. A remainder of at least 1000 completes the loan. A smaller one is refused now and after
any further run, and the loan stays in funding with the same sum. -/
theorem completion_of_run (s : Setup) (capacity : ℕ) (actions : List Action) :
    ∀ l ∈ (ledgerAfter s capacity actions).loans, l.isVisible = true → l.state.isOpen = true →
      ∃ remaining, l.remaining? = some remaining ∧
        readDecimal "amount" remaining.text = .ok remaining ∧
        remaining.value = l.principal.value - l.invested.value ∧ 0 < remaining.value ∧
        (l.state = .approved → remaining.value = l.principal.value ∧ 1000 ≤ remaining.value) ∧
        (1000 ≤ remaining.value → CompletedBy ((start capacity).run s actions) l remaining) ∧
        (remaining.value < 1000 → ∀ (later : List Action),
          (∃ l' ∈ (ledgerAfter s capacity (actions ++ later)).loans,
            l'.id = l.id ∧ l'.state = .funding ∧ l'.invested = l.invested) ∧
          ∀ (now : Moment) (caller : Option Claims) (text : String), ∃ e,
            (((start capacity).run s (actions ++ later)).investInLoan now caller
              ⟨l.id, text⟩).result = .error e) := by
  intro l hl hvisible hopen
  have hreach : (ledgerAfter s capacity actions).Reachable := reachable_start s capacity actions
  have hbalanced := hreach.balanced l hl
  obtain ⟨remaining, hremaining, hvalue, hplaces⟩ := hbalanced.remaining
  have hvalue : remaining.value = l.principal.value - l.invested.value := hvalue
  obtain ⟨hless, hwhole⟩ := hbalanced.open_remainder hopen
  have hless : l.invested.value < l.principal.value := hless
  have hleast : 1000 ≤ l.principal.value := hbalanced.least
  have happroved : l.state = .approved →
      remaining.value = l.principal.value ∧ 1000 ≤ remaining.value := by
    intro hs
    have hzero : l.invested.value = 0 := hwhole hs
    rw [hvalue, hzero, sub_zero]
    exact ⟨rfl, hleast⟩
  refine ⟨remaining, hremaining, readDecimal_text _ hplaces, hvalue, by linarith, happroved, ?_, ?_⟩
  · exact completedBy_of_large hreach hl hvisible hopen hvalue
  · intro hsmall later
    have hstate : l.state = .funding := by
      cases hs : l.state with
      | approved => linarith [(happroved hs).2]
      | funding => rfl
      | _ => rw [hs] at hopen; cases hopen
    have hstranded := stranded_run s hreach ⟨l, hl, rfl, hstate, rfl, hvalue ▸ hsmall⟩ later
    rw [ledgerAfter, run_append]
    refine ⟨?_, ?_⟩
    · obtain ⟨l', hl', hid, hstate', hinvested, -⟩ := hstranded
      exact ⟨l', hl', hid, hstate', hinvested⟩
    · exact investInLoan_of_stranded (reachable_run s hreach later) hstranded

theorem completion_of_approved :
    ∃ l ∈ (ledgerAfter bareSetup 4 (partlyFunded.take 2)).loans, ∃ remaining,
      l.remaining? = some remaining ∧ remaining.value = l.principal.value ∧
        1000 ≤ remaining.value ∧
        CompletedBy ((start 4).run bareSetup (partlyFunded.take 2)) l remaining := by
  obtain ⟨l, hmem, -, hopen⟩ := Ledger.exists_of_find?
    (ledgerAfter bareSetup 4 (partlyFunded.take 2)) 1
    (fun l => l.isVisible && l.state == .approved) (by decide +kernel)
  obtain ⟨hvisible, hstate⟩ := Bool.and_eq_true_iff.mp hopen
  have hstate : l.state = .approved := by simpa using hstate
  obtain ⟨remaining, hremaining, -, -, -, hwhole, hcompleted, -⟩ :=
    completion_of_run bareSetup 4 (partlyFunded.take 2) l hmem hvisible (by rw [hstate]; rfl)
  obtain ⟨hwhole, hleast⟩ := hwhole hstate
  exact ⟨l, hmem, remaining, hremaining, hwhole, hleast, hcompleted hleast⟩

/-- A loan of 1500 in which 1000 are invested is open, and no conflict waits; the 500 that remain
are refused to a user who may invest. -/
theorem remainder_refused :
    (sampleUser 4 .investor).role ∈ Access.Operation.investInLoan.roles ∧
      ((ledgerAfter bareSetup 4 partlyFunded).visible? 1).any (fun l =>
        l.state.isOpen && (l.remaining?.map Decimal.text == some "500")) = true ∧
      ((start 4).run bareSetup partlyFunded).store.conflicts = 0 ∧
      (((start 4).run bareSetup partlyFunded).investInLoan (clock 4) (some (sampleUser 4 .investor))
        ⟨1, "500"⟩).result = .error (.failure .amountOutOfRange) := by
  refine ⟨by decide, by decide +kernel, by decide +kernel, by rfl⟩

end Crowdlending.Platform
