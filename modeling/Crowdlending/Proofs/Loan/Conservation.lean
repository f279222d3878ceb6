import Crowdlending.Proofs.Loan.Numbering
import Crowdlending.Proofs.Platform.Run

/-!
# The money of a loan

What is invested in a loan is the exact sum of its investments, never more than
its principal, and decides its state: nothing is invested in a loan until it is
approved, a part of the principal while it is funded, and all of it afterwards.

The sum is exact because nothing is ever rounded: both terms have the places of
money, and the bounds on amounts keep every total far below the most that a
decimal can hold.
-/
namespace Crowdlending.Loan

namespace File

structure Balanced (f : File) : Prop where
  conserved : f.loan.invested.value = (f.investments.map fun i => i.amount.value).sum
  nonneg : 0 ≤ f.loan.invested.value
  within : f.loan.invested.value ≤ f.loan.principal.value
  least : 1000 ≤ f.loan.principal.value
  most : f.loan.principal.value ≤ 100000000
  unfunded : f.loan.state = .proposed ∨ f.loan.state = .approved ↔ f.loan.invested.value = 0
  funding : f.loan.state = .funding ↔
    0 < f.loan.invested.value ∧ f.loan.invested.value < f.loan.principal.value
  complete : f.loan.state = .invested ∨ f.loan.state = .disbursed ↔
    f.loan.invested.value = f.loan.principal.value
  principalPlaces : f.loan.principal.significantPlaces ≤ moneyPlaces
  investedPlaces : f.loan.invested.significantPlaces ≤ moneyPlaces

variable {f : File}

theorem value_lt_limit {v : ℚ} (h : |v| ≤ 200000000) :
    |v| * Decimal.unit moneyPlaces < Decimal.limit := by
  have hunit : (Decimal.unit moneyPlaces : ℚ) = 100 := by norm_num [Decimal.unit, moneyPlaces]
  have hlimit : (Decimal.limit : ℚ) = 79228162514264337593543950336 := by
    norm_num [Decimal.limit]
  rw [hunit, hlimit]
  linarith

/-- An amount within the bounds can be added, and the sum is exact. -/
theorem Balanced.add_exact (h : f.Balanced) {amount : Decimal}
    (hplaces : amount.significantPlaces ≤ moneyPlaces) (hbounds : inBounds amount = true) :
    ∃ total, f.loan.invested.add? amount = some total ∧
      total.value = f.loan.invested.value + amount.value := by
  obtain ⟨hleast, hmost⟩ := inBounds_iff.mp hbounds
  have hnonneg := h.nonneg
  have hwithin := h.within
  have hprincipal := h.most
  refine Decimal.add?_exact h.investedPlaces hplaces (value_lt_limit ?_)
  rw [abs_le]
  constructor <;> linarith

theorem balanced_opened {principal : Decimal} (h : IsPrincipal principal) (id borrower : Int)
    (now : Moment) : (opened (proposed id borrower principal now)).Balanced := by
  obtain ⟨hleast, hmost⟩ := h.bounds
  constructor
  case principalPlaces => exact h.places
  case investedPlaces => exact Nat.zero_le _
  all_goals simp only [opened, proposed, Decimal.value_zero, List.map_nil, List.sum_nil]
  case nonneg => exact le_rfl
  case within => linarith
  case least => exact hleast
  case most => exact hmost
  case unfunded => simp
  case funding => simp
  case complete =>
    have hne : (0 : ℚ) ≠ principal.value := by linarith
    simp [hne]

theorem Balanced.approved (h : f.Balanced) {link : String} {rate roi : Decimal} {next : State}
    (hplan : (Change.approval link rate roi).plan f.loan = .ok next) (record actor : Int)
    (now : Moment) : (f.after (.approval link rate roi) next record actor now).Balanced := by
  obtain ⟨hstate, rfl⟩ := Change.plan_approval_eq_ok hplan
  have hzero : f.loan.invested.value = 0 := h.unfunded.mp (.inl hstate)
  have hleast := h.least
  refine ⟨?_, h.nonneg, h.within, h.least, h.most, ?_, ?_, ?_, h.principalPlaces,
    h.investedPlaces⟩
  · simp only [after, Change.investments, List.append_nil]
    exact h.conserved
  · exact iff_of_true (.inr rfl) hzero
  · refine iff_of_false (by simp [after]) ?_
    rintro ⟨hpos, -⟩
    exact hpos.ne' hzero
  · refine iff_of_false (by simp [after]) ?_
    intro heq
    have heq : f.loan.invested.value = f.loan.principal.value := heq
    linarith

theorem Balanced.disbursed (h : f.Balanced) {link : String} {next : State}
    (hplan : (Change.disbursement link).plan f.loan = .ok next) (record actor : Int)
    (now : Moment) : (f.after (.disbursement link) next record actor now).Balanced := by
  obtain ⟨hstate, rfl⟩ := Change.plan_disbursement_eq_ok hplan
  have hfull : f.loan.invested.value = f.loan.principal.value := h.complete.mp (.inl hstate)
  have hleast := h.least
  refine ⟨?_, h.nonneg, h.within, h.least, h.most, ?_, ?_, ?_, h.principalPlaces,
    h.investedPlaces⟩
  · simp only [after, Change.investments, List.append_nil]
    exact h.conserved
  · refine iff_of_false (by simp [after]) ?_
    intro hzero
    have hzero : f.loan.invested.value = 0 := hzero
    linarith
  · refine iff_of_false (by simp [after]) ?_
    rintro ⟨-, hlt⟩
    exact hlt.ne hfull
  · exact iff_of_true (.inr rfl) hfull

theorem Balanced.funded (h : f.Balanced) {amount : Decimal} {next : State}
    (hplaces : amount.significantPlaces ≤ moneyPlaces)
    (hplan : (Change.investment amount).plan f.loan = .ok next) (record actor : Int)
    (now : Moment) : (f.after (.investment amount) next record actor now).Balanced := by
  obtain ⟨-, hbounds, total, htotal, hle, hnext⟩ := Change.plan_investment_eq_ok hplan
  obtain ⟨total', htotal', hvalue⟩ := h.add_exact hplaces hbounds
  cases htotal.symm.trans htotal'
  have hinvested : (f.after (.investment amount) next record actor now).loan.invested = total :=
    Change.outcome_invested htotal next actor now
  have hstate : (f.after (.investment amount) next record actor now).loan.state = next := rfl
  have hprincipal : (f.after (.investment amount) next record actor now).loan.principal =
      f.loan.principal := rfl
  obtain ⟨hleast, -⟩ := inBounds_iff.mp hbounds
  have hnonneg := h.nonneg
  have hpos : 0 < total.value := by linarith
  have hwithin : total.value ≤ f.loan.principal.value :=
    Decimal.le_iff_value.mp (Decimal.not_lt_iff_le.mp hle)
  constructor <;> simp only [hinvested, hprincipal, hstate]
  case conserved =>
    simp only [after, Change.investments, List.map_append, List.map_cons, List.map_nil,
      List.sum_append, List.sum_cons, List.sum_nil, add_zero]
    rw [hvalue, h.conserved]
  case nonneg => exact hpos.le
  case within => exact hwithin
  case least => exact h.least
  case most => exact h.most
  case principalPlaces => exact h.principalPlaces
  case investedPlaces =>
    exact Decimal.significantPlaces_of_value_add hvalue h.investedPlaces hplaces
  all_goals
    by_cases hsame : total.value = f.loan.principal.value
    · rw [if_pos (Decimal.sameValue_iff.mpr hsame)] at hnext
      simp [hnext, hsame, hsame ▸ hpos.ne']
    · rw [if_neg (fun heq => hsame (Decimal.sameValue_iff.mp heq))] at hnext
      simp [hnext, hsame, hpos, hpos.ne', lt_of_le_of_ne hwithin hsame]

theorem Balanced.changed (h : f.Balanced) {c : Change} {next : State} (hc : c.IsChecked)
    (hplan : c.plan f.loan = .ok next) (record actor : Int) (now : Moment) :
    (f.after c next record actor now).Balanced := by
  cases c with
  | approval link rate roi => exact h.approved hplan record actor now
  | investment amount => exact h.funded hc hplan record actor now
  | disbursement link => exact h.disbursed hplan record actor now

theorem Balanced.deleted (h : f.Balanced) (deletedBy : Int) (now : Moment) :
    (f.deleted deletedBy now).Balanced :=
  ⟨h.conserved, h.nonneg, h.within, h.least, h.most, h.unfunded, h.funding, h.complete,
    h.principalPlaces, h.investedPlaces⟩

end File

theorem Ledger.Reachable.balanced {g : Ledger} (h : g.Reachable) :
    ∀ l ∈ g.loans, (g.fileOf l).Balanced :=
  h.induct_files
    (fun id borrower _ now hp => File.balanced_opened hp id borrower now)
    (fun record actor now hf hc hplan => hf.changed hc hplan record actor now)
    (fun deletedBy now hf => hf.deleted deletedBy now)

end Crowdlending.Loan

namespace Crowdlending.Platform
open Loan

/-- Whatever is called, refused, hit by conflicts or deleted, the money of every loan adds up. -/
theorem balanced_of_run (s : Setup) (capacity : ℕ) (actions : List Action) :
    ∀ l ∈ (ledgerAfter s capacity actions).loans,
      ((ledgerAfter s capacity actions).fileOf l).Balanced :=
  (reachable_start s capacity actions).balanced

theorem balanced_of_partlyFunded :
    ∃ l ∈ (ledgerAfter bareSetup 4 partlyFunded).loans,
      l.state = .funding ∧
        ((ledgerAfter bareSetup 4 partlyFunded).fileOf l).Balanced := by
  obtain ⟨l, hmem, -, hstate⟩ := Ledger.exists_of_find? (ledgerAfter bareSetup 4 partlyFunded) 1
    (fun l => l.state == .funding) (by decide +kernel)
  exact ⟨l, hmem, by simpa using hstate, balanced_of_run bareSetup 4 partlyFunded l hmem⟩

end Crowdlending.Platform
