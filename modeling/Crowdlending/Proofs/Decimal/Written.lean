import Crowdlending.Proofs.Decimal.Value
import Crowdlending.Proofs.Number.Numeral
import Crowdlending.Proofs.Text.Blank

/-!
# Written decimals read back

The written form of a decimal reads back as that decimal, its scale included.
An amount with no more places than money has is therefore accepted as it was
written.
-/
namespace Crowdlending.Decimal
open Number Text

/-- Digits that fit are read on, before the point and after it. -/
theorem readPlain_digits {ds rest : List Char} {n s : ℕ} {point seen : Bool}
    (hds : ∀ c ∈ ds, c.isDigit = true) (hfit : Nat.ofDigitChars 10 ds n < limit)
    (hplaces : point = true → s + ds.length ≤ maxScale) :
    readPlain n s point seen (ds ++ rest) =
      readPlain (Nat.ofDigitChars 10 ds n) (if point then s + ds.length else s) point
        (seen || !ds.isEmpty) rest := by
  induction ds generalizing n s seen with
  | nil => simp
  | cons c ds ih =>
      have hc := digit?_of_isDigit (hds c (by simp))
      rw [Nat.ofDigitChars_cons, Nat.mul_comm 10] at hfit ⊢
      change Nat.ofDigitChars 10 ds (n * 10 + (c.toNat - 48)) < limit at hfit
      have hnext : n * 10 + (c.toNat - 48) < limit := (le_ofDigitChars ds _).trans_lt hfit
      have hroom : ¬((point && decide (s = maxScale) && seen) = true) := by
        intro h
        simp only [Bool.and_eq_true, decide_eq_true_eq] at h
        have := hplaces h.1.1
        simp only [List.length_cons] at this
        omega
      rw [List.cons_append, readPlain, if_neg hroom, hc]
      simp only [if_pos hnext]
      change _ = readPlain (Nat.ofDigitChars 10 ds (n * 10 + (c.toNat - 48))) _ _ _ _
      rw [ih (fun a ha => hds a (by simp [ha])) hfit]
      · cases point <;> simp [Nat.add_assoc, Nat.add_comm 1]
      · intro hp
        have := hplaces hp
        simp only [List.length_cons] at this
        simp only [hp, if_true]
        omega

/-- The digits after the point, filled up with zeros. -/
def placesText (d : Decimal) : List Char :=
  let digits := Nat.toDigits 10 (d.coefficient.natAbs % unit d.scale)
  List.replicate (d.scale - digits.length) '0' ++ digits

theorem toList_text (d : Decimal) :
    d.text.toList = (if d.coefficient < 0 then ['-'] else []) ++
      (Nat.toDigits 10 (d.coefficient.natAbs / unit d.scale) ++
        (if d.scale = 0 then [] else '.' :: d.placesText)) := by
  unfold text placesText
  split_ifs <;> simp [← String.length_toList]

theorem isDigit_of_mem_placesText {d : Decimal} {c : Char} (h : c ∈ d.placesText) :
    c.isDigit = true := by
  rcases List.mem_append.mp h with h | h
  · rw [List.eq_of_mem_replicate h]; rfl
  · exact Nat.isDigit_of_mem_toDigits (by decide) (by decide) h

theorem length_placesText {d : Decimal} (h : d.scale ≠ 0) : d.placesText.length = d.scale := by
  have hlt : d.coefficient.natAbs % unit d.scale < 10 ^ d.scale := Nat.mod_lt _ (unit_pos _)
  have := (Nat.length_toDigits_le_iff (by decide) (Nat.pos_of_ne_zero h)).mpr hlt
  simp only [placesText, List.length_append, List.length_replicate]
  omega

theorem ofDigitChars_placesText {d : Decimal} (h : d.scale ≠ 0) :
    Nat.ofDigitChars 10 d.placesText (d.coefficient.natAbs / unit d.scale) =
      d.coefficient.natAbs := by
  have hlen := length_placesText h
  rw [Nat.ofDigitChars_eq_ofDigitChars_zero, hlen]
  have hzero : Nat.ofDigitChars 10 d.placesText 0 = d.coefficient.natAbs % unit d.scale := by
    simp [placesText, Nat.ofDigitChars_append]
  rw [hzero]
  exact Nat.div_add_mod _ _

/-- Reading what follows the sign gives the coefficient and the scale. -/
theorem readPlain_text (d : Decimal) :
    readPlain 0 0 false false
      (Nat.toDigits 10 (d.coefficient.natAbs / unit d.scale) ++
        (if d.scale = 0 then [] else '.' :: d.placesText)) =
      some (d.coefficient.natAbs, d.scale) := by
  have hlimit := d.coefficient_lt
  have hwhole : d.coefficient.natAbs / unit d.scale < limit :=
    (Nat.div_le_self _ _).trans_lt hlimit
  rw [readPlain_digits
    (fun c hc => Nat.isDigit_of_mem_toDigits (by decide) (by decide) hc)
    (by rw [Nat.ofDigitChars_ten_toDigits]; exact hwhole) (by simp)]
  have hne : (Nat.toDigits 10 (d.coefficient.natAbs / unit d.scale)).isEmpty = false := by
    simp [Nat.toDigits_ne_nil]
  simp only [Nat.ofDigitChars_ten_toDigits, hne, Bool.false_eq_true, if_false, Bool.not_false,
    Bool.or_true]
  split_ifs with hs
  · simp [readPlain, hs, unit]
  · have hplaces := length_placesText hs
    have hpoint : readPlain (d.coefficient.natAbs / unit d.scale) 0 false true
        ('.' :: d.placesText) =
        readPlain (d.coefficient.natAbs / unit d.scale) 0 true true (d.placesText ++ []) := by
      rw [List.append_nil]; rfl
    rw [hpoint, readPlain_digits (fun c hc => isDigit_of_mem_placesText hc)
      (by rw [ofDigitChars_placesText hs]; exact hlimit)
      (by intro _; rw [hplaces, Nat.zero_add]; exact d.scale_le)]
    simp [readPlain, ofDigitChars_placesText hs, hplaces]

theorem readNumeral_of_digit {c : Char} {r : List Char} (h : c.isDigit = true) :
    readNumeral (c :: r) = ofSigned false (readPlain 0 0 false false (c :: r)) := by
  unfold readNumeral
  split
  · next heq => cases heq; cases h
  · next heq => cases heq; cases h
  · rfl

theorem ofString?_text (d : Decimal) : ofString? d.text = some d := by
  have hparts : ofParts? d.coefficient d.scale = some d := dif_pos ⟨d.coefficient_lt, d.scale_le⟩
  have hread : readNumeral d.text.toList = some d := by
    rw [toList_text]
    have hplain := readPlain_text d
    by_cases hneg : d.coefficient < 0
    · have habs : -(d.coefficient.natAbs : ℤ) = d.coefficient := by omega
      rw [if_pos hneg, List.cons_append, List.nil_append, readNumeral, hplain]
      simp only [ofSigned, Option.bind_some, if_true, habs, hparts]
    · have habs : (d.coefficient.natAbs : ℤ) = d.coefficient := by omega
      obtain ⟨c, r, hcr⟩ := List.exists_cons_of_ne_nil
        (@Nat.toDigits_ne_nil (d.coefficient.natAbs / unit d.scale) 10)
      have hc : c.isDigit = true := by
        have hmem : c ∈ Nat.toDigits 10 (d.coefficient.natAbs / unit d.scale) := by simp [hcr]
        exact Nat.isDigit_of_mem_toDigits (by decide) (by decide) hmem
      rw [hcr, List.cons_append] at hplain
      rw [if_neg hneg, List.nil_append, hcr, List.cons_append, readNumeral_of_digit hc, hplain]
      simp only [ofSigned, Option.bind_some, Bool.false_eq_true, if_false, habs, hparts]
  rw [ofString?, read?, hread]

theorem not_isBlank_of_mem_text {d : Decimal} {c : Char} (h : c ∈ d.text.toList) :
    isBlank c = false := by
  rw [toList_text, List.mem_append, List.mem_append] at h
  rcases h with h | h | h
  · split_ifs at h
    · rw [List.mem_singleton.mp h]; rfl
    · cases h
  · exact not_isBlank_of_isDigit (Nat.isDigit_of_mem_toDigits (by decide) (by decide) h)
  · split_ifs at h
    · cases h
    · rcases List.mem_cons.mp h with rfl | h
      · rfl
      · exact not_isBlank_of_isDigit (isDigit_of_mem_placesText h)

end Crowdlending.Decimal

namespace Crowdlending.Loan

/-- An amount is accepted as it is written. -/
theorem readDecimal_text {d : Decimal} (field : String) (h : d.significantPlaces ≤ moneyPlaces) :
    readDecimal field d.text = .ok d := by
  have htrim := Text.trimChars_of_not_blank (s := d.text.toList)
    fun c hc => Decimal.not_isBlank_of_mem_text hc
  have hread : Decimal.read? d.text.toList = some d := Decimal.ofString?_text d
  have hne : d.text.toList.isEmpty = false := by
    cases hs : d.text.toList with
    | nil => rw [hs] at hread; cases hread
    | cons c r => rfl
  simp only [readDecimal, htrim, hne, hread, if_pos h, Bool.false_eq_true, if_false]

end Crowdlending.Loan
