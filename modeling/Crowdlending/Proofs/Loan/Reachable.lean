import Crowdlending.Proofs.Decimal.Value
import Crowdlending.Proofs.Loan.Transition
import Crowdlending.Proofs.Result

/-!
# Ledgers that can arise

A ledger moves on in three ways: a loan is proposed, a loan is changed, a loan is
deleted. What is written passed the checks on arguments before: a principal
within the bounds, rates that are percentages, amounts with the places of money.
A property of the empty ledger that every step keeps holds of every ledger that
can arise.
-/
namespace Crowdlending.Loan

structure IsPrincipal (d : Decimal) : Prop where
  places : d.significantPlaces ≤ moneyPlaces
  least : leastAmount ≤ d
  most : d ≤ mostAmount

structure IsPercentage (d : Decimal) : Prop where
  places : d.significantPlaces ≤ moneyPlaces
  nonneg : Decimal.zero ≤ d
  most : d ≤ hundred

theorem places_of_readDecimal {field value : String} {d : Decimal}
    (h : readDecimal field value = .ok d) : d.significantPlaces ≤ moneyPlaces := by
  simp only [readDecimal] at h
  split at h
  · cases h
  · split at h
    · cases h
    · split at h
      · next hp => cases h; exact hp
      · cases h

theorem isPrincipal_of_readPrincipal {value : String} {d : Decimal}
    (h : readPrincipal value = .ok d) : IsPrincipal d := by
  obtain ⟨a, hread, h⟩ := Result.bind_eq_ok.mp h
  split at h
  · cases h
  · next hleast =>
      split at h
      · cases h
      · next hmost =>
          cases h
          exact ⟨places_of_readDecimal hread, Decimal.not_lt_iff_le.mp hleast,
            Decimal.not_lt_iff_le.mp hmost⟩

theorem isPercentage_of_readPercentage {field value : String} {d : Decimal}
    (h : readPercentage field value = .ok d) : IsPercentage d := by
  obtain ⟨a, hread, h⟩ := Result.bind_eq_ok.mp h
  split at h
  · cases h
  · next hrange =>
      cases h
      obtain ⟨hneg, hmost⟩ := not_or.mp hrange
      exact ⟨places_of_readDecimal hread, Decimal.not_lt_iff_le.mp hneg,
        Decimal.not_lt_iff_le.mp hmost⟩

@[simp] theorem value_leastAmount : leastAmount.value = 1000 := by
  rw [leastAmount, Decimal.value_ofNat32]
  exact Nat.cast_ofNat

@[simp] theorem value_mostAmount : mostAmount.value = 100000000 := by
  rw [mostAmount, Decimal.value_ofNat32]
  exact Nat.cast_ofNat

@[simp] theorem value_hundred : hundred.value = 100 := by
  rw [hundred, Decimal.value_ofNat32]
  exact Nat.cast_ofNat

theorem IsPrincipal.bounds {d : Decimal} (h : IsPrincipal d) :
    1000 ≤ d.value ∧ d.value ≤ 100000000 := by
  have hleast := Decimal.le_iff_value.mp h.least
  have hmost := Decimal.le_iff_value.mp h.most
  simp only [value_leastAmount, value_mostAmount] at hleast hmost
  exact ⟨hleast, hmost⟩

theorem IsPercentage.bounds {d : Decimal} (h : IsPercentage d) : 0 ≤ d.value ∧ d.value ≤ 100 := by
  have hnonneg := Decimal.le_iff_value.mp h.nonneg
  have hmost := Decimal.le_iff_value.mp h.most
  simp only [Decimal.value_zero, value_hundred] at hnonneg hmost
  exact ⟨hnonneg, hmost⟩

theorem inBounds_iff {d : Decimal} :
    inBounds d = true ↔ 1000 ≤ d.value ∧ d.value ≤ 100000000 := by
  simp [inBounds, Decimal.le_iff_value]

/-- The arguments of the change passed their checks. -/
def Change.IsChecked : Change → Prop
  | .approval _ interestRate roi => IsPercentage interestRate ∧ IsPercentage roi
  | .investment amount => amount.significantPlaces ≤ moneyPlaces
  | .disbursement _ => True

namespace Ledger

inductive Step : Ledger → Ledger → Prop
  | propose (g : Ledger) (borrower : Int) {principal : Decimal} (now : Moment) :
      IsPrincipal principal → Step g (g.propose borrower principal now).1
  | change {g g' : Ledger} {id actor : Int} {c : Change} {now : Moment} {l : Loan} :
      c.IsChecked → g.transition id actor c now = .ok (g', l) → Step g g'
  | delete (g : Ledger) (id deletedBy : Int) (now : Moment) :
      Step g (g.softDelete id deletedBy now)

def Reachable (g : Ledger) : Prop := Relation.ReflTransGen Step empty g

theorem Reachable.step {g g' : Ledger} (h : Reachable g) (hs : Step g g') : Reachable g' :=
  Relation.ReflTransGen.tail h hs

/-- What holds of the empty ledger and is kept by every step holds of every reachable ledger. -/
theorem Reachable.induct {motive : Ledger → Prop} {g : Ledger} (h : Reachable g)
    (start : motive empty) (step : ∀ {g g'}, motive g → Step g g' → motive g') : motive g := by
  induction h with
  | refl => exact start
  | tail _ hs ih => exact step ih hs

end Ledger

end Crowdlending.Loan
