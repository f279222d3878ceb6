import Mathlib.Data.List.TakeWhile
import Crowdlending.Text.Blank

/-!
# Trimming

White space is taken from both ends and nothing else: what is no white space stays, so a text is
trimmed to nothing only if there was nothing else in it.
-/
namespace Crowdlending.Text
variable {s : List Char} {c : Char}

theorem not_isBlank_of_isDigit (h : c.isDigit = true) : isBlank c = false := by
  have hle : 48 ≤ c.toNat ∧ c.toNat ≤ 57 := by
    simp only [Char.isDigit, Bool.and_eq_true, decide_eq_true_eq] at h
    exact h
  simp only [isBlank, Bool.or_eq_false_iff, Bool.and_eq_false_iff, decide_eq_false_iff_not,
    beq_eq_false_iff_ne]
  omega

theorem mem_dropWhile (h : c ∈ s) (hc : isBlank c = false) : c ∈ s.dropWhile isBlank := by
  rw [← List.takeWhile_append_dropWhile (p := isBlank) (l := s)] at h
  rcases List.mem_append.mp h with h | h
  · rw [List.mem_takeWhile_imp h] at hc
    cases hc
  · exact h

theorem mem_of_mem_trimChars (h : c ∈ trimChars s) : c ∈ s := by
  rw [trimChars, List.mem_reverse] at h
  exact (List.dropWhile_sublist _).mem (List.mem_reverse.mp ((List.dropWhile_sublist _).mem h))

theorem mem_trimChars_iff (hc : isBlank c = false) : c ∈ trimChars s ↔ c ∈ s := by
  refine ⟨mem_of_mem_trimChars, fun h => ?_⟩
  rw [trimChars, List.mem_reverse]
  exact mem_dropWhile (List.mem_reverse.mpr (mem_dropWhile h hc)) hc

theorem mem_trim_iff (hc : isBlank c = false) (text : String) :
    c ∈ (trim text).toList ↔ c ∈ text.toList := by
  rw [trim, String.toList_ofList]
  exact mem_trimChars_iff hc

theorem trimChars_of_not_blank (h : ∀ c ∈ s, isBlank c = false) : trimChars s = s := by
  have hdrop : ∀ r : List Char, (∀ c ∈ r, isBlank c = false) → r.dropWhile isBlank = r := by
    intro r hr
    cases r with
    | nil => rfl
    | cons c r => rw [List.dropWhile_cons_of_neg (by simp [hr c])]
  rw [trimChars, hdrop s h, hdrop s.reverse (by simpa using h), List.reverse_reverse]

theorem trimChars_ne_nil_iff : trimChars s ≠ [] ↔ ∃ c ∈ s, isBlank c = false := by
  constructor
  · intro h
    by_contra hall
    have hblank : s.dropWhile isBlank = [] := by
      refine List.dropWhile_eq_nil_iff.mpr fun c hc => ?_
      by_contra hshown
      exact hall ⟨c, hc, Bool.eq_false_iff.mpr hshown⟩
    exact h (by rw [trimChars, hblank]; rfl)
  · rintro ⟨c, hc, hblank⟩
    exact List.ne_nil_of_mem ((mem_trimChars_iff hblank).mpr hc)

/-- What is left of a text has something in it that is no white space. -/
theorem trimChars_trimChars_ne_nil (h : trimChars s ≠ []) : trimChars (trimChars s) ≠ [] := by
  obtain ⟨c, hc, hblank⟩ := trimChars_ne_nil_iff.mp h
  exact trimChars_ne_nil_iff.mpr ⟨c, (mem_trimChars_iff hblank).mpr hc, hblank⟩

end Crowdlending.Text
