import Crowdlending.Text.Blank

/-!
# Cutting and joining

Cutting at a separator and joining with it are inverse to each other: the pieces make up the
text again, and none of them holds the separator.
-/
namespace Crowdlending.Text
variable {sep : Char} {s : List Char}

theorem cut_of_not_mem (h : sep ∉ s) : cut sep s = [s] := by
  induction s with
  | nil => rfl
  | cons c s ih =>
      rw [List.mem_cons, not_or] at h
      rw [cut, if_neg fun he => h.1 he.symm, ih h.2]

theorem cut_append (h : sep ∉ s) (r : List Char) :
    cut sep (s ++ sep :: r) = s :: cut sep r := by
  induction s with
  | nil => rw [List.nil_append, cut, if_pos rfl]
  | cons c s ih =>
      rw [List.mem_cons, not_or] at h
      rw [List.cons_append, cut, if_neg fun he => h.1 he.symm, ih h.2]

/-- A text that is cut has one piece and no separator, or a first piece, a separator and the pieces
of what follows. -/
theorem cut_eq_cons {piece : List Char} {pieces : List (List Char)}
    (h : cut sep s = piece :: pieces) :
    sep ∉ piece ∧ (pieces = [] ∧ s = piece ∨
      ∃ r, s = piece ++ sep :: r ∧ cut sep r = pieces) := by
  induction s generalizing piece with
  | nil =>
      cases h
      exact ⟨List.not_mem_nil, .inl ⟨rfl, rfl⟩⟩
  | cons c s ih =>
      rw [cut] at h
      split at h
      · next hc =>
          cases h
          exact ⟨List.not_mem_nil, .inr ⟨s, by rw [hc, List.nil_append], rfl⟩⟩
      · next hc =>
          split at h
          · next hnil => exact absurd hnil (cut_ne_nil sep s)
          · next first rest hcut =>
              cases h
              obtain ⟨hfree, hrest⟩ := ih hcut
              refine ⟨fun hmem => ?_, ?_⟩
              · rcases List.mem_cons.mp hmem with he | hmem
                · exact hc he.symm
                · exact hfree hmem
              · rcases hrest with ⟨hlast, rfl⟩ | ⟨r, rfl, hr⟩
                · exact .inl ⟨hlast, rfl⟩
                · exact .inr ⟨r, rfl, hr⟩

/-! ## Two parts -/

theorem cutFirst_eq_some_iff {a b : List Char} :
    cutFirst sep s = some (a, b) ↔ s = a ++ sep :: b ∧ sep ∉ a := by
  refine ⟨cutFirst_eq_some, ?_⟩
  rintro ⟨rfl, hfree⟩
  induction a with
  | nil => rw [List.nil_append, cutFirst, if_pos rfl]
  | cons c a ih =>
      rw [List.mem_cons, not_or] at hfree
      rw [List.cons_append, cutFirst, if_neg fun he => hfree.1 he.symm, ih hfree.2]
      rfl

theorem cutLast_eq_some_iff {a b : List Char} :
    cutLast sep s = some (a, b) ↔ s = a ++ sep :: b ∧ sep ∉ b := by
  rw [cutLast, Option.map_eq_some_iff]
  constructor
  · rintro ⟨⟨x, y⟩, hcut, heq⟩
    obtain ⟨hs, hfree⟩ := cutFirst_eq_some_iff.mp hcut
    cases heq
    have hrev := congrArg List.reverse hs
    rw [List.reverse_reverse, List.reverse_append, List.reverse_cons, List.append_assoc,
      List.singleton_append] at hrev
    exact ⟨hrev, fun hmem => hfree (List.mem_reverse.mp hmem)⟩
  · rintro ⟨rfl, hfree⟩
    refine ⟨(b.reverse, a.reverse), cutFirst_eq_some_iff.mpr ⟨?_, ?_⟩, ?_⟩
    · rw [List.reverse_append, List.reverse_cons, List.append_assoc, List.singleton_append]
    · exact fun hmem => hfree (List.mem_reverse.mp hmem)
    · rw [List.reverse_reverse, List.reverse_reverse]

/-! ## Joining -/

theorem cut_eq_splitOn (sep : Char) (s : List Char) : cut sep s = s.splitOn sep := by
  induction s with
  | nil => rfl
  | cons c s ih =>
      rw [List.splitOn_cons_eq_if_modifyHead, ← ih, cut]
      simp only [beq_iff_eq]
      split
      · rfl
      · split
        · next hnil => exact absurd hnil (cut_ne_nil sep s)
        · next first rest hcut => rw [hcut, List.modifyHead_cons]

theorem intercalate_cut (sep : Char) (s : List Char) : [sep].intercalate (cut sep s) = s := by
  rw [cut_eq_splitOn, List.intercalate_splitOn]

/-- Pieces without the separator are what their joined text is cut into. -/
theorem cut_intercalate {pieces : List (List Char)} (hne : pieces ≠ [])
    (hfree : ∀ piece ∈ pieces, sep ∉ piece) : cut sep ([sep].intercalate pieces) = pieces := by
  rw [cut_eq_splitOn, List.splitOn_intercalate sep hfree hne]

theorem not_mem_of_mem_cut {piece : List Char} (h : piece ∈ cut sep s) : sep ∉ piece := by
  induction hpieces : cut sep s generalizing s with
  | nil => exact absurd hpieces (cut_ne_nil sep s)
  | cons first pieces ih =>
      obtain ⟨hfree, hrest⟩ := cut_eq_cons hpieces
      rw [hpieces] at h
      rcases List.mem_cons.mp h with rfl | h
      · exact hfree
      · rcases hrest with ⟨rfl, -⟩ | ⟨r, -, hr⟩
        · cases h
        · exact ih (hr ▸ h) hr

/-- A joined text has what its pieces have, and the separator if there are two pieces at least. -/
theorem mem_intercalate_iff {c : Char} {pieces : List (List Char)} :
    c ∈ [sep].intercalate pieces ↔ (c = sep ∧ 2 ≤ pieces.length) ∨ ∃ piece ∈ pieces, c ∈ piece := by
  induction pieces with
  | nil => simp
  | cons piece pieces ih =>
      cases pieces with
      | nil => simp
      | cons second pieces =>
          simp only [List.intercalate_cons_cons, List.mem_append, List.mem_singleton, ih,
            List.mem_cons (b := piece), exists_eq_or_imp]
          constructor
          · rintro ((hc | hc) | ⟨hc, -⟩ | hc)
            · exact .inr (.inl hc)
            · exact .inl ⟨hc, by simp⟩
            · exact .inl ⟨hc, by simp⟩
            · exact .inr (.inr hc)
          · rintro (⟨hc, -⟩ | hc | hc)
            · exact .inl (.inr hc)
            · exact .inl (.inl hc)
            · exact .inr (.inr hc)

end Crowdlending.Text
