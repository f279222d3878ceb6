import Mathlib
import Crowdlending.Loan.Amount

/-!
# The number that a decimal writes

Comparisons of decimals are comparisons of their values, and the significant
places of a decimal say by which power of ten its value becomes whole. A sum is
rounded only when digits that count do not fit: where both summands have at most
`n` places, and the sum in units of the `n`th place is within the limit, the sum
is exact, whatever scales the summands are written with.
-/
namespace Crowdlending.Decimal

theorem unit_cast_pos (n : ℕ) : (0 : ℚ) < unit n := by exact_mod_cast unit_pos n

theorem unit_cast_ne_zero (n : ℕ) : (unit n : ℚ) ≠ 0 := (unit_cast_pos n).ne'

theorem value_eq_div (d : Decimal) : d.value = (d.coefficient : ℚ) / unit d.scale :=
  Rat.mkRat_eq_div _ _

theorem value_mul_unit (d : Decimal) : d.value * unit d.scale = d.coefficient := by
  rw [value_eq_div, div_mul_cancel₀ _ (unit_cast_ne_zero _)]

/-! ## Comparisons -/

theorem le_iff_value {a b : Decimal} : a ≤ b ↔ a.value ≤ b.value := by
  rw [value_eq_div, value_eq_div, div_le_div_iff₀ (unit_cast_pos _) (unit_cast_pos _)]
  change a.coefficient * (unit b.scale : ℤ) ≤ b.coefficient * (unit a.scale : ℤ) ↔ _
  exact_mod_cast Iff.rfl

theorem lt_iff_value {a b : Decimal} : a < b ↔ a.value < b.value := by
  rw [value_eq_div, value_eq_div, div_lt_div_iff₀ (unit_cast_pos _) (unit_cast_pos _)]
  change a.coefficient * (unit b.scale : ℤ) < b.coefficient * (unit a.scale : ℤ) ↔ _
  exact_mod_cast Iff.rfl

theorem not_lt_iff_le {a b : Decimal} : ¬a < b ↔ b ≤ a := by
  rw [lt_iff_value, le_iff_value, not_lt]

theorem sameValue_iff {a b : Decimal} : a.sameValue b = true ↔ a.value = b.value := by
  rw [value_eq_div, value_eq_div, div_eq_div_iff (unit_cast_ne_zero _) (unit_cast_ne_zero _)]
  simp only [sameValue, beq_iff_eq]
  exact_mod_cast Iff.rfl

theorem isZero_iff {d : Decimal} : d.isZero = true ↔ d.value = 0 := by
  rw [value_eq_div, div_eq_zero_iff, or_iff_left (unit_cast_ne_zero _)]
  simp [isZero]

@[simp] theorem value_zero : zero.value = 0 := isZero_iff.mp rfl

@[simp] theorem value_ofNat32 (n : UInt32) : (ofNat32 n).value = n.toNat := by
  rw [value_eq_div]
  simp [ofNat32, unit]

@[simp] theorem value_neg (d : Decimal) : d.neg.value = -d.value := by
  rw [value_eq_div, value_eq_div]
  simp [neg, neg_div]

/-! ## Places -/

theorem neededPlaces_le_iff (c : ℤ) (s n : ℕ) :
    neededPlaces c s ≤ n ↔ (unit s : ℤ) ∣ c * unit n := by
  induction s generalizing c with
  | zero => simp [neededPlaces, unit]
  | succ s ih =>
      rw [neededPlaces, unit_succ]
      push_cast
      split_ifs with h
      · obtain ⟨k, rfl⟩ := Int.dvd_of_emod_eq_zero h
        rw [ih, Int.mul_ediv_cancel_left k (by decide), mul_assoc,
          Int.mul_dvd_mul_iff_left (by decide)]
      · constructor
        · intro hn
          obtain ⟨k, rfl⟩ := Nat.exists_eq_add_of_le hn
          have hu : (unit (s + 1 + k) : ℤ) = 10 * unit s * unit k := by
            rw [unit_add, unit_succ]; push_cast; rfl
          exact hu ▸ (Dvd.intro _ rfl).mul_left c
        · intro hd
          by_contra hn
          obtain ⟨k, rfl⟩ := Nat.exists_eq_add_of_le (show n ≤ s by omega)
          have hu : (unit (n + k) : ℤ) = unit n * unit k := by rw [unit_add]; push_cast; rfl
          have hn0 : (unit n : ℤ) ≠ 0 := by exact_mod_cast (unit_pos n).ne'
          rw [hu, mul_comm c, mul_left_comm, Int.mul_dvd_mul_iff_left hn0] at hd
          exact h (Int.emod_eq_zero_of_dvd ((Dvd.intro _ rfl).trans hd))

/-- At most `n` places count just when the value is a whole number of units of the `n`th place. -/
theorem significantPlaces_le_iff (d : Decimal) (n : ℕ) :
    d.significantPlaces ≤ n ↔ ∃ k : ℤ, d.value * unit n = k := by
  rw [significantPlaces, neededPlaces_le_iff, value_eq_div]
  constructor
  · rintro ⟨k, hk⟩
    refine ⟨k, ?_⟩
    have hq : (d.coefficient : ℚ) * unit n = unit d.scale * k := by exact_mod_cast hk
    rw [div_mul_eq_mul_div, hq, mul_div_cancel_left₀ _ (unit_cast_ne_zero _)]
  · rintro ⟨k, hk⟩
    rw [div_mul_eq_mul_div, div_eq_iff (unit_cast_ne_zero _)] at hk
    exact ⟨k, by rw [mul_comm (unit d.scale : ℤ)]; exact_mod_cast hk⟩

theorem significantPlaces_of_value_add {a b c : Decimal} {n : ℕ} (h : c.value = a.value + b.value)
    (ha : a.significantPlaces ≤ n) (hb : b.significantPlaces ≤ n) : c.significantPlaces ≤ n := by
  rw [significantPlaces_le_iff] at ha hb ⊢
  obtain ⟨i, hi⟩ := ha
  obtain ⟨j, hj⟩ := hb
  exact ⟨i + j, by rw [h, add_mul, hi, hj]; push_cast; rfl⟩

/-! ## Sums -/

theorem dropEven_of_dvd {c : ℤ} {k : ℕ} (h : (unit k : ℤ) ∣ c) : dropEven c k * unit k = c := by
  have hn : unit k ∣ c.natAbs := Int.natCast_dvd.mp h
  have hr : c.natAbs % unit k = 0 := Nat.mod_eq_zero_of_dvd hn
  have hu := unit_pos k
  have hq : ((c.natAbs / unit k : ℕ) : ℤ) * unit k = c.natAbs := by
    exact_mod_cast Nat.div_mul_cancel hn
  simp only [dropEven, hr]
  rw [if_neg (by omega), mul_assoc, hq]
  exact Int.sign_mul_natAbs c

theorem dropEven_natAbs {c : ℤ} {k : ℕ} (h : (unit k : ℤ) ∣ c) :
    (dropEven c k).natAbs * unit k = c.natAbs := by
  conv_rhs => rw [← dropEven_of_dvd h]
  rw [Int.natAbs_mul, Int.natAbs_natCast]

theorem ofParts?_eq_some {c : ℤ} {s : ℕ} {d : Decimal} (h : ofParts? c s = some d) :
    d.coefficient = c ∧ d.scale = s := by
  unfold ofParts? at h
  split at h
  · cases h; exact ⟨rfl, rfl⟩
  · cases h

theorem ofParts?_of_lt {c : ℤ} {s : ℕ} (hc : c.natAbs < limit) (hs : s ≤ 28) :
    ∃ d, ofParts? c s = some d := by
  unfold ofParts?
  rw [dif_pos ⟨hc, hs⟩]
  exact ⟨_, rfl⟩

section Fit
variable {c : ℤ} {s n k : ℕ}

/-- Places beyond the `n`th hold zeros only. -/
theorem unit_dvd_of_places (hplaces : (unit s : ℤ) ∣ c * unit n) (hk : k + n ≤ s) :
    (unit k : ℤ) ∣ c := by
  obtain ⟨j, rfl⟩ := Nat.exists_eq_add_of_le hk
  have hn0 : (unit n : ℤ) ≠ 0 := by exact_mod_cast (unit_pos n).ne'
  have hu : (unit (k + n + j) : ℤ) = unit n * (unit k * unit j) := by
    rw [unit_add, unit_add]; push_cast; ring
  rw [hu, mul_comm c, Int.mul_dvd_mul_iff_left hn0] at hplaces
  exact (Dvd.intro _ rfl).trans hplaces

theorem value_of_dropEven (hk : k ≤ s) (hzeros : (unit k : ℤ) ∣ c) {d : Decimal}
    (h : ofParts? (dropEven c k) (s - k) = some d) : d.value = (c : ℚ) / unit s := by
  obtain ⟨hc, hs⟩ := ofParts?_eq_some h
  have hq : (dropEven c k : ℚ) * unit k = c := by exact_mod_cast dropEven_of_dvd hzeros
  have hunit : unit s = unit k * unit (s - k) := by rw [← unit_add, Nat.add_sub_of_le hk]
  rw [value_eq_div, hc, hs, hunit, ← hq]
  push_cast
  rw [mul_comm, mul_div_mul_left _ _ (unit_cast_ne_zero _)]

/-- Once no place beyond the `n`th is left, the coefficient fits. -/
theorem dropEven_lt_limit (hk : k ≤ s) (hn : s ≤ k + n) (hzeros : (unit k : ℤ) ∣ c)
    (hfit : c.natAbs * unit n < limit * unit s) : (dropEven c k).natAbs < limit := by
  obtain ⟨j, hj⟩ := Nat.exists_eq_add_of_le (show s - k ≤ n by omega)
  have hunit : unit s = unit k * unit (s - k) := by rw [← unit_add, Nat.add_sub_of_le hk]
  rw [← dropEven_natAbs hzeros, hj, unit_add, hunit] at hfit
  have hj : (dropEven c k).natAbs * unit j < limit := by
    refine Nat.lt_of_mul_lt_mul_right (a := unit k * unit (s - k)) ?_
    calc (dropEven c k).natAbs * unit j * (unit k * unit (s - k))
        = (dropEven c k).natAbs * unit k * (unit (s - k) * unit j) := by ring
      _ < limit * (unit k * unit (s - k)) := hfit
  exact (Nat.le_mul_of_pos_right _ (unit_pos j)).trans_lt hj

/-- Places are dropped one by one, and the coefficient fits before a digit that counts is reached:
the invariant is that only zeros have been dropped. -/
theorem fitFrom_exact {more dropped : ℕ} (hs : s ≤ 28) (hd : dropped + more = s)
    (hplaces : (unit s : ℤ) ∣ c * unit n) (hfit : c.natAbs * unit n < limit * unit s)
    (hzeros : (unit dropped : ℤ) ∣ c) :
    ∃ d, fitFrom c s more dropped = some d ∧ d.value = (c : ℚ) / unit s := by
  induction more generalizing dropped with
  | zero =>
      have hlt := dropEven_lt_limit (by omega) (by omega) hzeros hfit
      obtain ⟨d, h⟩ := ofParts?_of_lt hlt (show s - dropped ≤ 28 by omega)
      exact ⟨d, h, value_of_dropEven (by omega) hzeros h⟩
  | succ more ih =>
      unfold fitFrom
      cases h : ofParts? (dropEven c dropped) (s - dropped) with
      | some d => exact ⟨d, rfl, value_of_dropEven (by omega) hzeros h⟩
      | none =>
          have hleft : dropped + 1 + n ≤ s := by
            by_contra hlast
            have hlt := dropEven_lt_limit (by omega) (by omega) hzeros hfit
            obtain ⟨d, hd⟩ := ofParts?_of_lt hlt (show s - dropped ≤ 28 by omega)
            rw [h] at hd
            cases hd
          exact ih (by omega) (unit_dvd_of_places hplaces hleft)

end Fit

/-- A sum of two decimals with at most `n` places is exact when it fits with `n` places. -/
theorem add?_exact {a b : Decimal} {n : ℕ} (ha : a.significantPlaces ≤ n)
    (hb : b.significantPlaces ≤ n) (hfit : |a.value + b.value| * unit n < limit) :
    ∃ c, a.add? b = some c ∧ c.value = a.value + b.value := by
  unfold add?
  split_ifs with ha0 hb0
  · exact ⟨b, rfl, by rw [isZero_iff.mp ha0, zero_add]⟩
  · exact ⟨a, rfl, by rw [isZero_iff.mp hb0, add_zero]⟩
  · set s := max a.scale b.scale with hs
    set c : ℤ := a.coefficient * unit (s - a.scale) + b.coefficient * unit (s - b.scale) with hc
    have hscaled : ∀ d : Decimal, d.scale ≤ s → (d.coefficient * unit (s - d.scale) : ℚ) =
        d.value * unit s := by
      intro d hd
      rw [← value_mul_unit, mul_assoc, ← Nat.cast_mul, ← unit_add, Nat.add_sub_of_le hd]
    have hsum : (c : ℚ) = (a.value + b.value) * unit s := by
      rw [hc]
      push_cast
      rw [hscaled a (le_max_left _ _), hscaled b (le_max_right _ _), add_mul]
    have hplaces : (unit s : ℤ) ∣ c * unit n := by
      obtain ⟨i, hi⟩ := (significantPlaces_le_iff a n).mp ha
      obtain ⟨j, hj⟩ := (significantPlaces_le_iff b n).mp hb
      refine ⟨i + j, ?_⟩
      have hq : (c : ℚ) * unit n = unit s * (i + j) := by rw [hsum, ← hi, ← hj]; ring
      exact_mod_cast hq
    have hlt : c.natAbs * unit n < limit * unit s := by
      have habs : (c.natAbs : ℚ) = |a.value + b.value| * unit s := by
        rw [Nat.cast_natAbs, Int.cast_abs, hsum, abs_mul, abs_of_pos (unit_cast_pos s)]
      have hq : (c.natAbs : ℚ) * unit n < limit * unit s := by
        rw [habs, mul_right_comm]
        exact mul_lt_mul_of_pos_right hfit (unit_cast_pos s)
      exact_mod_cast hq
    have hs28 : s ≤ 28 := max_le a.scale_le b.scale_le
    obtain ⟨d, hd, hv⟩ := fitFrom_exact hs28 (Nat.zero_add s) hplaces hlt (by simp [unit])
    refine ⟨d, hd, ?_⟩
    rw [hv, hsum, mul_div_cancel_right₀ _ (unit_cast_ne_zero s)]

end Crowdlending.Decimal
