import Crowdlending.Proofs.Decimal.Numeral

/-!
# Texts that are read as decimals

A text is read only if it is a numeral, or a numeral and an exponent. Every numeral whose number is
held is read as that number, and so is a numeral with an exponent if the number is held before the
point is shifted and after.
-/
namespace Crowdlending.Decimal
open Number

/-! ## Accepted characters -/

theorem isRun_of_readPlain {r : List Char} {c s : ℕ} {seen : Bool} {p : ℕ × ℕ}
    (h : readPlain c s true seen r = some p) : IsRun r ∧ (seen = true ∨ StartsWithDigit r) := by
  induction r generalizing c s seen with
  | nil =>
      rw [readPlain] at h
      split at h
      · next hseen => exact ⟨fun _ hc => absurd hc List.not_mem_nil, .inl hseen⟩
      · cases h
  | cons a r ih =>
      rw [readPlain] at h
      split at h
      · next hlast =>
          simp only [Bool.and_eq_true] at hlast
          exact ⟨isRun_of_roundAt h, .inl hlast.2⟩
      · split at h
        · next d hd =>
            have ha := (digit?_eq_some_iff.mp hd).1
            refine ⟨?_, .inr ⟨a, r, rfl, ha⟩⟩
            split at h
            · exact List.forall_mem_cons.mpr ⟨.inl ha, (ih h).1⟩
            · exact isRun_of_roundAt h
        · split at h
          · next hpoint => exact absurd hpoint.2 (by decide)
          · split at h
            · next hunderscore =>
                exact ⟨List.forall_mem_cons.mpr ⟨.inr hunderscore.1, (ih h).1⟩,
                  .inl hunderscore.2⟩
            · cases h

theorem split_of_readPlain {r : List Char} {c : ℕ} {seen : Bool} {p : ℕ × ℕ}
    (h : readPlain c 0 false seen r = some p) :
    ∃ w q, r = w ++ pointed q ∧ IsRun (w ++ q.getD []) ∧
      (seen = true ∨ StartsWithDigit (w ++ q.getD [])) := by
  induction r generalizing c seen with
  | nil =>
      rw [readPlain] at h
      split at h
      · next hseen => exact ⟨[], none, rfl, fun _ hc => absurd hc List.not_mem_nil, .inl hseen⟩
      · cases h
  | cons a r ih =>
      rw [readPlain, if_neg (by simp)] at h
      split at h
      · next d hd =>
          have ha := (digit?_eq_some_iff.mp hd).1
          split at h
          · obtain ⟨w, q, rfl, hrun, -⟩ := ih h
            exact ⟨a :: w, q, rfl, List.forall_mem_cons.mpr ⟨.inl ha, hrun⟩,
              .inr ⟨a, _, rfl, ha⟩⟩
          · cases h
      · split at h
        · next hpoint =>
            obtain ⟨hrun, hfirst⟩ := isRun_of_readPlain h
            exact ⟨[], some r, by rw [hpoint.1]; rfl, hrun, hfirst⟩
        · split at h
          · next hunderscore =>
              obtain ⟨w, q, rfl, hrun, -⟩ := ih h
              exact ⟨a :: w, q, rfl, List.forall_mem_cons.mpr ⟨.inr hunderscore.1, hrun⟩,
                .inl hunderscore.2⟩
          · cases h

theorem exists_numeral_of_ofSigned {negative : Bool} {r : List Char} {d : Decimal} (sign : Sign)
    (h : ofSigned negative (readPlain 0 0 false false r) = some d) :
    ∃ n : Numeral, n.text = sign.text ++ r := by
  obtain ⟨p, hp, -⟩ := ofSigned_eq_some h
  obtain ⟨w, q, rfl, hrun, hfirst⟩ := split_of_readPlain hp
  exact ⟨⟨sign, w, q, hrun, hfirst.resolve_left Bool.false_ne_true⟩, rfl⟩

theorem exists_numeral_of_readNumeral {s : List Char} {d : Decimal} (h : readNumeral s = some d) :
    ∃ n : Numeral, n.text = s := by
  unfold readNumeral at h
  split at h
  · exact exists_numeral_of_ofSigned .minus h
  · exact exists_numeral_of_ofSigned .plus h
  · exact exists_numeral_of_ofSigned .bare h

/-! ## Exponents -/

def IsMark (c : Char) : Prop := c = 'e' ∨ c = 'E'

theorem cutExponent_of_plain {s : List Char} (h : ∀ c ∈ s, ¬IsMark c) : cutExponent s = none := by
  induction s with
  | nil => rfl
  | cons c r ih =>
      obtain ⟨hc, hr⟩ := List.forall_mem_cons.mp h
      rw [cutExponent, ih hr]
      exact if_neg hc

theorem cutExponent_eq_some {s base power : List Char} (h : cutExponent s = some (base, power)) :
    ∃ mark, IsMark mark ∧ s = base ++ mark :: power := by
  induction s generalizing base with
  | nil => cases h
  | cons c r ih =>
      rw [cutExponent] at h
      split at h
      · next hc =>
          cases h
          exact ⟨c, hc, rfl⟩
      · obtain ⟨⟨base', power'⟩, hr, hsame⟩ := Option.map_eq_some_iff.mp h
        cases hsame
        obtain ⟨mark, hmark, rfl⟩ := ih hr
        exact ⟨mark, hmark, rfl⟩

/-- The power of ten that an exponent says. -/
inductive IsPower : List Char → ℤ → Prop where
  | up {s : List Char} {k : ℕ} : exponentOf? s = some k → IsPower s k
  | down {s : List Char} {k : ℕ} : exponentOf? s = some k → IsPower ('-' :: s) (-k)

/-- The text is this numeral and says this number: the number of the numeral, or with an exponent
that number times a power of ten. -/
inductive Says : List Char → Numeral → ℚ → Prop where
  | numeral (n : Numeral) : Says n.text n n.value
  | scaled (n : Numeral) {mark : Char} {power : List Char} {k : ℤ} : IsMark mark → IsPower power k →
      Says (n.text ++ mark :: power) n (n.value * 10 ^ k)

theorem unit_eq_zpow (n : ℕ) : (unit n : ℚ) = (10 : ℚ) ^ (n : ℤ) := by
  rw [zpow_natCast, unit_cast]

theorem value_of_shiftUp {d d' : Decimal} {k : ℕ} (h : shiftUp d k = some d') :
    d'.value = d.value * 10 ^ (k : ℤ) := by
  rw [value_eq_div, value_eq_div, ← unit_eq_zpow]
  unfold shiftUp at h
  split at h
  · next hk =>
      obtain ⟨hcoefficient, hscale⟩ := ofParts?_eq_some h
      obtain ⟨j, hj⟩ := Nat.exists_eq_add_of_le hk
      rw [hcoefficient, hscale, hj, Nat.add_sub_cancel_left, unit_add, Nat.cast_mul,
        mul_comm (unit k : ℚ), div_mul_eq_mul_div, mul_div_mul_right _ _ (unit_cast_ne_zero k)]
  · next hk =>
      obtain ⟨hcoefficient, hscale⟩ := ofParts?_eq_some h
      obtain ⟨j, rfl⟩ := Nat.exists_eq_add_of_le (Nat.le_of_not_le hk)
      have hone : ((unit 0 : ℕ) : ℚ) = 1 := Nat.cast_one
      rw [hcoefficient, hscale, hone, Nat.add_sub_cancel_left, unit_add, div_one, Nat.cast_mul,
        ← mul_assoc, div_mul_cancel₀ _ (unit_cast_ne_zero _)]
      push_cast
      rfl

/-- A number with more places than there is room for is held only if the last ones are zeros. -/
theorem unit_dvd_of_isHeld {c : ℤ} {j : ℕ} (h : IsHeld ((c : ℚ) / unit (maxScale + j))) :
    (unit j : ℤ) ∣ c := by
  obtain ⟨d, hd⟩ := h
  obtain ⟨i, hi⟩ := Nat.exists_eq_add_of_le d.scale_le
  have hunit : unit (maxScale + j) = unit d.scale * (unit i * unit j) := by
    rw [← unit_add, ← unit_add, ← Nat.add_assoc, ← hi]
    rfl
  have hq : (c : ℚ) = d.coefficient * (unit i * unit j) := by
    rw [eq_div_iff (unit_cast_ne_zero _), hunit] at hd
    rw [← hd, Nat.cast_mul, ← mul_assoc, value_mul_unit, Nat.cast_mul]
  refine ⟨d.coefficient * unit i, ?_⟩
  have hc : c = d.coefficient * (unit i * unit j) := by exact_mod_cast hq
  rw [hc]
  ring

theorem dropAway_of_dvd {c : ℤ} {k : ℕ} (h : (unit k : ℤ) ∣ c) : dropAway c k * unit k = c := by
  obtain ⟨q, hq⟩ := Int.natCast_dvd.mp h
  have hu := unit_pos k
  have hround : (2 * c.natAbs + unit k) / (2 * unit k) = q := by
    rw [hq]
    refine Nat.div_eq_of_lt_le ?_ ?_
    · linarith
    · linarith
  have habs : ((q * unit k : ℕ) : ℤ) = c.natAbs := by rw [hq, Nat.mul_comm]
  rw [dropAway, hround, mul_assoc, ← Nat.cast_mul, habs]
  exact Int.sign_mul_natAbs c

/-- The point is shifted to the left exactly if the number is held then. -/
theorem value_of_shiftDown {d d' : Decimal} {k : ℕ} (h : shiftDown d k = some d')
    (hheld : IsHeld (d.value * 10 ^ (-k : ℤ))) : d'.value = d.value * 10 ^ (-k : ℤ) := by
  have hshifted : d.value * 10 ^ (-k : ℤ) = d.coefficient / unit (d.scale + k) := by
    rw [value_eq_div, zpow_neg, ← unit_eq_zpow, ← div_eq_mul_inv, div_div, unit_add, Nat.cast_mul]
  rw [hshifted] at hheld ⊢
  unfold shiftDown at h
  split at h
  · obtain ⟨hcoefficient, hscale⟩ := ofParts?_eq_some h
    rw [value_eq_div, hcoefficient, hscale]
  · next hlarge =>
      obtain ⟨hcoefficient, hscale⟩ := ofParts?_eq_some h
      obtain ⟨j, hj⟩ := Nat.exists_eq_add_of_le (Nat.le_of_not_le hlarge)
      rw [hj, Nat.add_sub_cancel_left] at hcoefficient
      rw [hj] at hheld ⊢
      have hdvd := unit_dvd_of_isHeld hheld
      have hdropped : (dropAway d.coefficient j : ℚ) * unit j = d.coefficient := by
        exact_mod_cast dropAway_of_dvd hdvd
      rw [value_eq_div, hcoefficient, hscale, ← hdropped, unit_add, Nat.cast_mul,
        mul_div_mul_right _ _ (unit_cast_ne_zero j)]

theorem says_of_readScientific {s : List Char} {d : Decimal} (h : readScientific s = some d) :
    ∃ n v, Says s n v ∧ (IsHeld n.value → IsHeld v → d.value = v) := by
  obtain ⟨⟨base, power⟩, hcut, hrest⟩ := Option.bind_eq_some_iff.mp h
  obtain ⟨d', hbase, hpower⟩ := Option.bind_eq_some_iff.mp hrest
  obtain ⟨mark, hmark, rfl⟩ := cutExponent_eq_some hcut
  obtain ⟨n, rfl⟩ := exists_numeral_of_readNumeral hbase
  have hn := (Numeral.readsAs_of_readNumeral hbase).exact
  split at hpower
  · obtain ⟨k, hk, hshift⟩ := Option.bind_eq_some_iff.mp hpower
    refine ⟨n, _, .scaled n hmark (.down hk), fun hheld hv => ?_⟩
    rw [← hn hheld] at hv ⊢
    exact value_of_shiftDown hshift hv
  · obtain ⟨k, hk, hshift⟩ := Option.bind_eq_some_iff.mp hpower
    refine ⟨n, _, .scaled n hmark (.up hk), fun hheld _ => ?_⟩
    rw [← hn hheld]
    exact value_of_shiftUp hshift

/-! ## All texts -/

/-- A numeral is never taken for one with an exponent. -/
theorem read?_text (n : Numeral) : read? n.text = readNumeral n.text := by
  have hplain : ∀ c ∈ n.text, ¬IsMark c := by
    intro c hc hmark
    have hmem := Numeral.mem_text hc
    rcases hmark with rfl | rfl <;> exact absurd hmem (by decide)
  unfold read?
  cases hread : readNumeral n.text with
  | some d => rfl
  | none => simp only [readScientific, cutExponent_of_plain hplain]; rfl

theorem says_of_read? {s : List Char} {d : Decimal} (h : read? s = some d) :
    ∃ n v, Says s n v ∧ (IsHeld n.value → IsHeld v → d.value = v) := by
  unfold read? at h
  split at h
  · next d' hread =>
      cases h
      obtain ⟨n, rfl⟩ := exists_numeral_of_readNumeral hread
      exact ⟨n, _, .numeral n, fun hheld _ => (Numeral.readsAs_of_readNumeral hread).exact hheld⟩
  · exact says_of_readScientific h

end Crowdlending.Decimal
