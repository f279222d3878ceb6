import Crowdlending.Proofs.Decimal.Grammar
import Crowdlending.Proofs.Loan.Reachable

/-!
# Amounts as they are written

Places are counted on the decimal that was read, not on the text. As long as a decimal holds the
number that is written, this makes no difference: amounts are taken at what is written, and only
with two places. A numeral with more digits is rounded before its places are counted, so it may
be taken for another number, though only for a very near one.
-/
namespace Crowdlending.Decimal

/-- The number as a decimal fraction has two places at most. -/
def HasTwoPlaces (v : ℚ) : Prop := ∃ k : ℤ, v * 100 = k

theorem hasTwoPlaces_iff (d : Decimal) : HasTwoPlaces d.value ↔ d.significantPlaces ≤ 2 := by
  have hunit : ((unit 2 : ℕ) : ℚ) = 100 := Nat.cast_ofNat
  rw [significantPlaces_le_iff, hunit, HasTwoPlaces]

/-- A decimal without room for another digit has many places, unless its value is large. -/
theorem Numeral.ReadsAs.near {n : Numeral} {d : Decimal} (h : n.ReadsAs d) {k : ℕ} (hk : k ≤ 28)
    (hmost : |d.value| ≤ unit k) : |d.value - n.value| < 1 / unit (28 - k) := by
  have hpos := one_div_pos.mpr (unit_cast_pos (28 - k))
  rcases h.full with hsame | hfull
  · rw [hsame, sub_self, abs_zero]
    exact hpos
  · have hscale : 28 - k ≤ d.scale := by
      rcases hfull with hlast | hlimit
      · rw [hlast]
        exact Nat.sub_le 28 k
      · by_contra hfew
        have hplaces : d.scale + k ≤ 27 := by omega
        rw [value_eq_div, abs_div, abs_of_pos (unit_cast_pos d.scale),
          div_le_iff₀ (unit_cast_pos d.scale), ← Nat.cast_mul, ← unit_add, Nat.add_comm,
          ← Int.cast_abs, ← Nat.cast_natAbs] at hmost
        have hle : d.coefficient.natAbs ≤ unit (d.scale + k) := by exact_mod_cast hmost
        have htop : unit (d.scale + k) ≤ unit 27 := by exact_mod_cast unit_le_unit hplaces
        have hten : unit 27 = 1000000000000000000000000000 := rfl
        unfold limit at hlimit
        omega
    refine h.close.trans_le (one_div_le_one_div_of_le (unit_cast_pos _) (unit_le_unit hscale))

end Crowdlending.Decimal

namespace Crowdlending.Loan
open Decimal Text

section Read
variable {field value : String} {d : Decimal} {n : Numeral}

theorem readDecimal_eq_ok_iff :
    readDecimal field value = .ok d ↔
      read? (trimChars value.toList) = some d ∧ HasTwoPlaces d.value := by
  rw [hasTwoPlaces_iff, readDecimal]
  by_cases hempty : (trimChars value.toList).isEmpty = true
  · have hnone : read? (trimChars value.toList) = none := by
      rw [List.isEmpty_iff.mp hempty]
      rfl
    simp [hempty, hnone]
  · cases read? (trimChars value.toList) with
    | none => simp [hempty]
    | some d' =>
        simp only [hempty, Bool.false_eq_true, if_false, Option.some.injEq]
        by_cases hplaces : d'.significantPlaces ≤ moneyPlaces
        · rw [if_pos hplaces, Except.ok.injEq]
          exact ⟨fun h => ⟨h, h ▸ hplaces⟩, And.left⟩
        · rw [if_neg hplaces]
          exact iff_of_false (by simp) fun h => hplaces (h.1 ▸ h.2)

theorem readPrincipal_eq_ok_iff :
    readPrincipal value = .ok d ↔
      readDecimal "principal_amount" value = .ok d ∧ 1000 ≤ d.value ∧ d.value ≤ 100000000 := by
  constructor
  · intro h
    obtain ⟨d', hread, hbounds⟩ := Result.bind_eq_ok.mp h
    have hsame : d' = d := by
      split at hbounds
      · cases hbounds
      · split at hbounds
        · cases hbounds
        · exact Except.ok.inj hbounds
    exact ⟨hsame ▸ hread, (isPrincipal_of_readPrincipal h).bounds⟩
  · rintro ⟨hread, hleast, hmost⟩
    refine Result.bind_eq_ok.mpr ⟨d, hread, ?_⟩
    rw [if_neg (not_lt_iff_le.mpr (le_iff_value.mpr (by rwa [value_leastAmount]))),
      if_neg (not_lt_iff_le.mpr (le_iff_value.mpr (by rwa [value_mostAmount])))]

theorem readPercentage_eq_ok_iff :
    readPercentage field value = .ok d ↔
      readDecimal field value = .ok d ∧ 0 ≤ d.value ∧ d.value ≤ 100 := by
  constructor
  · intro h
    obtain ⟨d', hread, hbounds⟩ := Result.bind_eq_ok.mp h
    have hsame : d' = d := by
      split at hbounds
      · cases hbounds
      · exact Except.ok.inj hbounds
    exact ⟨hsame ▸ hread, (isPercentage_of_readPercentage h).bounds⟩
  · rintro ⟨hread, hleast, hmost⟩
    refine Result.bind_eq_ok.mpr ⟨d, hread, ?_⟩
    rw [if_neg (not_or.mpr ⟨not_lt_iff_le.mpr (le_iff_value.mpr (by rwa [value_zero])),
      not_lt_iff_le.mpr (le_iff_value.mpr (by rwa [value_hundred]))⟩)]

theorem readsAs_of_readDecimal (hn : n.text = trimChars value.toList)
    (h : readDecimal field value = .ok d) : n.ReadsAs d := by
  have hread := (readDecimal_eq_ok_iff.mp h).1
  rw [← hn, read?_text] at hread
  exact Numeral.readsAs_of_readNumeral hread

/-- A numeral whose number is held is taken for what it says, if that has two places. -/
theorem exists_readDecimal_iff (hn : n.text = trimChars value.toList) (hheld : IsHeld n.value)
    (v : ℚ) :
    (∃ d, readDecimal field value = .ok d ∧ d.value = v) ↔ v = n.value ∧ HasTwoPlaces v := by
  constructor
  · rintro ⟨d, hread, rfl⟩
    exact ⟨(readsAs_of_readDecimal hn hread).exact hheld, (readDecimal_eq_ok_iff.mp hread).2⟩
  · rintro ⟨rfl, hplaces⟩
    obtain ⟨d, hread⟩ := Numeral.exists_of_isHeld hheld
    have hvalue := (Numeral.readsAs_of_readNumeral hread).exact hheld
    rw [← read?_text, hn] at hread
    exact ⟨d, readDecimal_eq_ok_iff.mpr ⟨hread, hvalue ▸ hplaces⟩, hvalue⟩

section Within
variable {read : Except InputFault Decimal} {least most : ℚ}
  (hread : ∀ {d}, read = .ok d ↔
    readDecimal field value = .ok d ∧ least ≤ d.value ∧ d.value ≤ most)
include hread

theorem exists_within_iff (hn : n.text = trimChars value.toList) (hheld : IsHeld n.value) (v : ℚ) :
    (∃ d, read = .ok d ∧ d.value = v) ↔
      v = n.value ∧ HasTwoPlaces v ∧ least ≤ v ∧ v ≤ most := by
  constructor
  · rintro ⟨d, h, rfl⟩
    obtain ⟨hdecimal, hbounds⟩ := hread.mp h
    obtain ⟨hsame, hplaces⟩ := (exists_readDecimal_iff hn hheld _).mp ⟨d, hdecimal, rfl⟩
    exact ⟨hsame, hplaces, hbounds⟩
  · rintro ⟨hsame, hplaces, hbounds⟩
    obtain ⟨d, hdecimal, rfl⟩ := (exists_readDecimal_iff hn hheld v).mpr ⟨hsame, hplaces⟩
    exact ⟨d, hread.mpr ⟨hdecimal, hbounds⟩, rfl⟩

/-- Bounds of at most `k` digits are kept but for one unit of the place that is left then. -/
theorem near_within (hn : n.text = trimChars value.toList) {k : ℕ} (hk : k ≤ 28)
    (hleast : -(10 ^ k) ≤ least) (hmost : most ≤ 10 ^ k) (h : read = .ok d) :
    least - 1 / 10 ^ (28 - k) < n.value ∧ n.value < most + 1 / 10 ^ (28 - k) := by
  obtain ⟨hdecimal, hlow, hhigh⟩ := hread.mp h
  have habs : |d.value| ≤ unit k := by
    rw [unit_cast, abs_le]
    exact ⟨hleast.trans hlow, hhigh.trans hmost⟩
  have hnear := (readsAs_of_readDecimal hn hdecimal).near hk habs
  rw [unit_cast, abs_sub_lt_iff] at hnear
  constructor <;> linarith

end Within

end Read

/-- Amounts as they are written. Only a numeral is accepted, or a numeral with an exponent, and
where the numbers it says are held it is taken for what it says, which has two places. In
particular a numeral whose number is held is accepted just if it has two places, and as a principal
or as a percentage just if it is within the bounds too. Any other numeral is at most rounded, so
the bounds are kept but for a small part of a unit. -/
theorem amount_as_written (field value : String) :
    (∀ d, readDecimal field value = .ok d →
      ∃ n v, Says (trimChars value.toList) n v ∧
        (IsHeld n.value → IsHeld v → d.value = v ∧ HasTwoPlaces v)) ∧
    ∀ n : Numeral, n.text = trimChars value.toList →
      (IsHeld n.value → ∀ v,
        ((∃ d, readDecimal field value = .ok d ∧ d.value = v) ↔
          v = n.value ∧ HasTwoPlaces v) ∧
        ((∃ d, readPrincipal value = .ok d ∧ d.value = v) ↔
          v = n.value ∧ HasTwoPlaces v ∧ 1000 ≤ v ∧ v ≤ 100000000) ∧
        ((∃ d, readPercentage field value = .ok d ∧ d.value = v) ↔
          v = n.value ∧ HasTwoPlaces v ∧ 0 ≤ v ∧ v ≤ 100)) ∧
      (∀ d, readPrincipal value = .ok d →
        1000 - 1 / 10 ^ 20 < n.value ∧ n.value < 100000000 + 1 / 10 ^ 20) ∧
      ∀ d, readPercentage field value = .ok d →
        0 - 1 / 10 ^ 26 < n.value ∧ n.value < 100 + 1 / 10 ^ 26 := by
  refine ⟨fun d h => ?_, fun n hn => ⟨fun hheld v => ⟨?_, ?_, ?_⟩, fun d h => ?_, fun d h => ?_⟩⟩
  · obtain ⟨hread, hplaces⟩ := readDecimal_eq_ok_iff.mp h
    obtain ⟨n, v, hsays, hexact⟩ := says_of_read? hread
    refine ⟨n, v, hsays, fun hn hv => ⟨hexact hn hv, ?_⟩⟩
    rwa [← hexact hn hv]
  · exact exists_readDecimal_iff hn hheld v
  · exact exists_within_iff readPrincipal_eq_ok_iff hn hheld v
  · exact exists_within_iff readPercentage_eq_ok_iff hn hheld v
  · exact near_within (k := 8) readPrincipal_eq_ok_iff hn (by decide) (by norm_num) (by norm_num) h
  · exact near_within (k := 2) readPercentage_eq_ok_iff hn (by decide) (by norm_num) (by norm_num) h

/-- A thousand and a half, with a sign, an underscore and zeros after the last digit that counts. -/
def writtenAmount : Numeral where
  sign := .plus
  whole := ['1', '_', '0', '0', '0']
  places? := some ['5', '0', '0']
  run := all_isFiller_iff.mp (by decide)
  digit := ⟨'1', _, rfl, rfl⟩

theorem amount_of_written :
    writtenAmount.text = trimChars " +1_000.500 ".toList ∧ IsHeld writtenAmount.value ∧
      ∃ d, readPrincipal " +1_000.500 " = .ok d ∧ d.value = 2001 / 2 := by
  have htext : writtenAmount.text = trimChars " +1_000.500 ".toList := by decide +kernel
  have hheld : IsHeld writtenAmount.value := Numeral.isHeld_of_few (by decide +kernel)
  have hvalue : writtenAmount.value = 2001 / 2 := by
    have hdigits : Nat.ofDigitChars 10 (digits (writtenAmount.whole ++ writtenAmount.places)) 0 =
        1000500 := by decide +kernel
    have hplaces : (digits writtenAmount.places).length = 3 := by decide +kernel
    rw [Numeral.value, Numeral.magnitude, hdigits, hplaces]
    norm_num [writtenAmount, Sign.factor]
  obtain ⟨-, hnumeral⟩ := amount_as_written "amount" " +1_000.500 "
  obtain ⟨-, hprincipal, -⟩ := (hnumeral writtenAmount htext).1 hheld (2001 / 2)
  exact ⟨htext, hheld, hprincipal.mpr
    ⟨hvalue.symm, ⟨100050, by norm_num⟩, by norm_num, by norm_num⟩⟩

/-- Less than 1000 by so small a part of a unit that no decimal holds it. -/
def almostThousand : Numeral where
  sign := .bare
  whole := List.replicate 3 '9'
  places? := some (List.replicate 26 '9')
  run := all_isFiller_iff.mp (by decide)
  digit := ⟨'9', _, rfl, rfl⟩

theorem value_almostThousand :
    almostThousand.value = 99999999999999999999999999999 / 10 ^ 26 := by
  have hdigits : Nat.ofDigitChars 10 (digits (almostThousand.whole ++ almostThousand.places)) 0 =
      99999999999999999999999999999 := by decide +kernel
  have hplaces : (digits almostThousand.places).length = 26 := by decide +kernel
  rw [Numeral.value, Numeral.magnitude, hdigits, hplaces]
  simp [almostThousand, Sign.factor]

/-- As a principal it is taken for 1000. -/
theorem admitted_though_small :
    almostThousand.text = trimChars "999.99999999999999999999999999".toList ∧
      almostThousand.value < 1000 ∧ ¬HasTwoPlaces almostThousand.value ∧
      ∃ d, readPrincipal "999.99999999999999999999999999" = .ok d ∧ d.value = 1000 := by
  refine ⟨by decide +kernel, by rw [value_almostThousand]; norm_num, ?_, ?_⟩
  · rintro ⟨k, hk⟩
    rw [value_almostThousand] at hk
    have hwhole : (99999999999999999999999999999 : ℚ) = k * 10 ^ 24 := by linarith
    have : (99999999999999999999999999999 : ℤ) = k * 10 ^ 24 := by exact_mod_cast hwhole
    omega
  · refine ⟨⟨10000000000000000000000000000, 25, by decide, by decide⟩, by decide +kernel, ?_⟩
    rw [value_eq_div, unit_cast]
    norm_num

end Crowdlending.Loan
