import Mathlib.Data.List.Basic
import Crowdlending.Account.Phone

/-!
# Numbers in international form

A number in international form is empty or begins with a plus sign, if the country's code does. Only
the code can bring a separator into it, and only where a leading zero stands for the country;
without one, bringing the number to international form again changes nothing.
-/
namespace Crowdlending.Account.Phone
variable {country s : List Char}

theorem mem_separators_iff {c : Char} : c ∈ [' ', '-', '.', '_'] ↔ isSeparator c = true := by
  simp [isSeparator, or_assoc]

theorem strip_eq_self_iff : strip s = s ↔ ∀ c ∈ s, isSeparator c = false := by
  simp [strip, List.filter_eq_self]

theorem isSeparator_of_mem_strip {c : Char} (h : c ∈ strip s) : isSeparator c = false := by
  simpa using (List.mem_filter.mp h).2

/-- Whether there is a zero that stands for the country decides what comes first. -/
theorem internationalChars_cases (country s : List Char) :
    (∃ r, strip s = '0' :: r ∧ internationalChars country s = country ++ r) ∨
      (strip s).head? ≠ some '0' ∧
        (internationalChars country s = strip s ∧ (strip s = [] ∨ (strip s).head? = some '+') ∨
          internationalChars country s = '+' :: strip s) := by
  unfold internationalChars
  split
  · next r h => exact .inl ⟨r, h, rfl⟩
  · next h => exact .inr ⟨by simp [h], .inl ⟨h.symm, .inl h⟩⟩
  · next r h => exact .inr ⟨by simp [h], .inl ⟨h.symm, .inr (by rw [h]; rfl)⟩⟩
  · next hzero _ _ =>
      refine .inr ⟨fun h => ?_, .inr rfl⟩
      obtain ⟨r, hr⟩ := List.head?_eq_some_iff.mp h
      exact hzero r hr

/-! ## What becomes of a text -/

/-- If the country's code begins with a plus sign, so does every number that is not empty. -/
theorem head?_internationalChars (hcountry : country.head? = some '+') (s : List Char) :
    internationalChars country s = [] ∨ (internationalChars country s).head? = some '+' := by
  obtain ⟨r, -, h⟩ | ⟨-, ⟨h, hnil | hplus⟩ | h⟩ := internationalChars_cases country s
  · exact .inr (by rw [h, List.head?_append, hcountry]; rfl)
  · exact .inl (h.trans hnil)
  · exact .inr (h ▸ hplus)
  · exact .inr (by rw [h]; rfl)

/-- A separator comes from the country's code, put in for a zero. -/
theorem mem_internationalChars_iff {c : Char} (hc : isSeparator c = true) :
    c ∈ internationalChars country s ↔ c ∈ country ∧ (strip s).head? = some '0' := by
  have hstrip : c ∉ strip s := fun h => by
    rw [isSeparator_of_mem_strip h] at hc
    cases hc
  obtain ⟨r, hr, h⟩ | ⟨hzero, ⟨h, -⟩ | h⟩ := internationalChars_cases country s
  · have hrest : c ∉ r := fun h => hstrip (hr ▸ List.mem_cons_of_mem _ h)
    rw [h, List.mem_append, or_iff_left hrest, hr]
    simp
  · rw [h]
    exact iff_of_false hstrip fun h => hzero h.2
  · rw [h, List.mem_cons, or_iff_left hstrip]
    refine iff_of_false ?_ fun h => hzero h.2
    rintro rfl
    cases hc

theorem internationalChars_free_iff (country s : List Char) :
    (∀ c ∈ internationalChars country s, isSeparator c = false) ↔
      (∀ c ∈ country, isSeparator c = false) ∨ (strip s).head? ≠ some '0' := by
  by_cases hzero : (strip s).head? = some '0'
  · rw [or_iff_left (not_not.mpr hzero)]
    refine forall_congr' fun c => ?_
    by_cases hc : isSeparator c = true
    · rw [mem_internationalChars_iff hc, and_iff_left hzero]
    · simp [Bool.eq_false_iff.mpr hc]
  · refine iff_of_true (fun c hmem => ?_) (.inr hzero)
    by_contra hc
    exact hzero ((mem_internationalChars_iff (Bool.of_not_eq_false hc)).mp hmem).2

/-- What begins with a plus sign loses its separators and nothing else. -/
theorem internationalChars_of_head (h : s = [] ∨ s.head? = some '+') :
    internationalChars country s = strip s := by
  rcases h with rfl | h
  · rfl
  · obtain ⟨r, rfl⟩ := List.head?_eq_some_iff.mp h
    simp [internationalChars, strip, isSeparator]

theorem internationalChars_again_iff (hcountry : country.head? = some '+') (s : List Char) :
    internationalChars country (internationalChars country s) = internationalChars country s ↔
      (∀ c ∈ country, isSeparator c = false) ∨ (strip s).head? ≠ some '0' := by
  rw [internationalChars_of_head (head?_internationalChars hcountry s), strip_eq_self_iff,
    internationalChars_free_iff]

/-! ## Texts -/

/-- A number in international form has no point in it, unless the country has. -/
theorem not_mem_international {country : String} (h : '.' ∉ country.toList) (s : String) :
    '.' ∉ (international country s).toList := by
  rw [international, String.toList_ofList, mem_internationalChars_iff (by decide)]
  exact fun hmem => h hmem.1

/-- Only of separators nothing is left, unless the country's code is empty itself. -/
theorem international_eq_empty_iff {country : String} (hcountry : country ≠ "") (s : String) :
    international country s = "" ↔ ∀ c ∈ s.toList, isSeparator c = true := by
  have hstrip : strip s.toList = [] ↔ ∀ c ∈ s.toList, isSeparator c = true := by
    simp [strip, List.filter_eq_nil_iff]
  have hcode : country.toList ≠ [] := fun h => hcountry (String.toList_eq_nil_iff.mp h)
  rw [← hstrip, international, String.ofList_eq_empty_iff]
  unfold internationalChars
  split
  · next r hr => simp [hr, hcode]
  · next hnil => simp [hnil]
  · next r hr => simp [hr]
  · next hsome _ => simpa using hsome

end Crowdlending.Account.Phone
