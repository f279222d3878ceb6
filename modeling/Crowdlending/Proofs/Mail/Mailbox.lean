import Mathlib.Data.List.Basic
import Mathlib.Data.List.TakeWhile
import Crowdlending.Mail.Mailbox
import Crowdlending.Proofs.Text.Cut

/-!
# How mailboxes are written

The grammar of mailboxes as relations between a text and what it stands for, and the reader as
their decision: a mailbox is read from a text just if the text writes it. So a text writes one
mailbox at most.
-/
namespace Crowdlending.Mail.Mailbox
open Text

/-- What stands before a closing quote, and what it stands for. -/
inductive Quoted : List Char → List Char → Prop where
  | nil : Quoted [] []
  | plain {c s t} (hc : isQuotedChar c = true) (h : Quoted s t) : Quoted (c :: s) (c :: t)
  | escaped {c s t} (hc : isEscapable c = true) (h : Quoted s t) :
      Quoted ('\\' :: c :: s) (c :: t)

inductive Word : List Char → List Char → Prop where
  | atom {s} (h : isAtom s = true) : Word s s
  | quoted {s t} (h : Quoted s t) : Word ('"' :: (s ++ ['"'])) t

/-- Words with points between them. -/
inductive Row : List Char → List Char → Prop where
  | word {s t} (h : Word s t) : Row s t
  | point {s t r u} (h : Word s t) (hr : Row r u) : Row (s ++ '.' :: r) (t ++ '.' :: u)

/-- A local part, and the name it stands for. -/
inductive Local : List Char → List Char → Prop where
  | atoms {s} (h : isDotAtom s = true) : Local s s
  | quoted {s t} (h : Quoted s t) : Local ('"' :: (s ++ ['"'])) t
  | row {s r u} (ha : isAtom s = true) (hr : Row ('"' :: r) u) :
      Local (s ++ '.' :: '"' :: r) (s ++ '.' :: u)

/-- What may precede an address in angle brackets. -/
inductive Phrase : List Char → Prop where
  | nil : Phrase []
  | sign {c s} (hc : isBlank c = true ∨ isAtomChar c = true ∨ c = '.') (h : Phrase s) :
      Phrase (c :: s)
  | quoted {s t r} (hq : Quoted s t) (h : Phrase r) : Phrase ('"' :: (s ++ '"' :: r))

/-- A mailbox that a host can have, and a local part that names it. -/
structure Names (s : List Char) (box : Mailbox) : Prop where
  isLocal : Local s box.localPart
  isName : isName box.localPart = true
  isDotAtom : isDotAtom box.domain = true
  isDomain : isDomain box.domain = true

/-- The form `local@domain`. -/
def IsAddress (s : List Char) (box : Mailbox) : Prop :=
  ∃ w, Names w box ∧ s = w ++ '@' :: box.domain

/-- The form `local@domain`, or that in angle brackets and behind a name. -/
inductive Writes : List Char → Mailbox → Prop where
  | address {s box} (h : IsAddress s box) : Writes s box
  | named {n s box} (hn : Phrase n) (hpoint : n.head? ≠ some '.')
      (h : IsAddress s box) : Writes (n ++ '<' :: (s ++ ['>'])) box

variable {s t r u : List Char} {c : Char} {box : Mailbox}

/-! ## Quotes -/

theorem quoted_of_readQuoted (h : readQuoted s = some (t, r)) :
    ∃ q, Quoted q t ∧ s = q ++ '"' :: r := by
  fun_induction readQuoted s generalizing t with
  | case1 => cases h
  | case2 s =>
      cases h
      exact ⟨[], .nil, rfl⟩
  | case3 c s hc ih =>
      obtain ⟨⟨p, r'⟩, hread, heq⟩ := Option.map_eq_some_iff.mp h
      cases heq
      obtain ⟨q, hq, rfl⟩ := ih hread
      exact ⟨'\\' :: c :: q, .escaped hc hq, rfl⟩
  | case4 => cases h
  | case5 c s _ _ hc ih =>
      obtain ⟨⟨p, r'⟩, hread, heq⟩ := Option.map_eq_some_iff.mp h
      cases heq
      obtain ⟨q, hq, rfl⟩ := ih hread
      exact ⟨c :: q, .plain hc hq, rfl⟩
  | case6 => cases h

theorem ne_of_isQuotedChar (hc : isQuotedChar c = true) : c ≠ '"' ∧ c ≠ '\\' := by
  simp only [isQuotedChar, Bool.and_eq_true, bne_iff_ne] at hc
  exact hc.1

theorem readQuoted_of_quoted (h : Quoted s t) (r : List Char) :
    readQuoted (s ++ '"' :: r) = some (t, r) := by
  induction h with
  | nil => rfl
  | plain hc h ih =>
      obtain ⟨hquote, hslash⟩ := ne_of_isQuotedChar hc
      rw [List.cons_append, readQuoted, if_pos hc, ih]
      · rfl
      · exact hquote
      · exact fun _ _ he => absurd he hslash
  | escaped hc h ih =>
      rw [List.cons_append, List.cons_append, readQuoted, if_pos hc, ih]
      rfl

/-- Whatever goes through quotes one character at a time stops at the same closing quote. -/
theorem eq_bind_readQuoted {β : Type} {f k : List Char → Option β} {g : Char → β → β}
    (hnil : f [] = none) (hclose : ∀ r, f ('"' :: r) = k r)
    (hescape : ∀ c r, f ('\\' :: c :: r) = if isEscapable c then (f r).map (g c) else none)
    (hplain : ∀ c r, c ≠ '"' → (c = '\\' → r = []) →
      f (c :: r) = if isQuotedChar c then (f r).map (g c) else none) (s : List Char) :
    f s = (readQuoted s).bind fun x => (k x.2).map (x.1.foldr g ·) := by
  fun_induction readQuoted s with
  | case1 => exact hnil
  | case2 s => simp [hclose]
  | case3 c s hc ih =>
      rw [hescape, if_pos hc, ih]
      cases readQuoted s <;> simp [Function.comp_def]
  | case4 c s hc =>
      rw [hescape, if_neg hc]
      rfl
  | case5 c s hquote hslash hc ih =>
      rw [hplain c s hquote fun he => absurd he (ne_of_isQuotedChar hc).2, if_pos hc, ih]
      cases readQuoted s <;> simp [Function.comp_def]
  | case6 c s hquote hslash hc =>
      rw [hplain c s hquote fun he => ?_, if_neg hc]
      · rfl
      · cases s with
        | nil => rfl
        | cons d s => exact (hslash d s he rfl).elim

theorem readRow_quotes (s : List Char) : readRow .quotes s =
    (readQuoted s).bind fun x => (readRow .closed x.2).map (x.1 ++ ·) := by
  have hplain : ∀ c r, c ≠ '"' → (c = '\\' → r = []) → readRow .quotes (c :: r) =
      if isQuotedChar c then (readRow .quotes r).map (c :: ·) else none := by
    intro c r hquote hslash
    by_cases hc : c = '\\'
    · rw [hslash hc, hc]
      rfl
    · rw [readRow, if_neg hquote, if_neg hc]
  have hread := eq_bind_readQuoted (k := readRow .closed) (g := List.cons) rfl
    (fun r => if_pos rfl) (fun c r => by simp [readRow]) hplain s
  simpa only [List.foldr_cons_eq_append'] using hread

theorem skipName_quotes (s : List Char) : skipName .quotes s =
    (readQuoted s).bind fun x => skipName .words x.2 := by
  have hplain : ∀ c r, c ≠ '"' → (c = '\\' → r = []) → skipName .quotes (c :: r) =
      if isQuotedChar c then (skipName .quotes r).map (fun n => n) else none := by
    intro c r hquote hslash
    by_cases hc : c = '\\'
    · rw [hslash hc, hc]
      rfl
    · rw [skipName, if_neg hquote, if_neg hc, Option.map_id']
  have hread := eq_bind_readQuoted (k := skipName .words) (g := fun _ n => n) rfl
    (fun r => if_pos rfl) (fun c r => by simp [skipName]) hplain s
  simpa only [List.foldr_fixed, Option.map_id'] using hread

/-! ## Rows of words -/

theorem readRow_atom (s : List Char) : readRow .atom s =
    (readRow .closed (s.dropWhile isAtomChar)).map (s.takeWhile isAtomChar ++ ·) := by
  induction s with
  | nil => rfl
  | cons c s ih =>
      by_cases hc : isAtomChar c = true
      · have hpoint : c ≠ '.' := fun he => absurd (he ▸ hc) (by decide)
        rw [List.dropWhile_cons_of_pos hc, List.takeWhile_cons_of_pos hc, readRow, if_neg hpoint,
          if_pos hc, ih]
        simp [Function.comp_def]
      · rw [List.dropWhile_cons_of_neg hc, List.takeWhile_cons_of_neg hc]
        simp [readRow, hc]

theorem readRow_closed (h : readRow .closed r = some u) :
    r = [] ∧ u = [] ∨ ∃ r' u', r = '.' :: r' ∧ u = '.' :: u' ∧ readRow .start r' = some u' := by
  cases r with
  | nil =>
      cases h
      exact .inl ⟨rfl, rfl⟩
  | cons c r =>
      rw [readRow] at h
      split at h
      · next hc =>
          obtain ⟨u', hread, rfl⟩ := Option.map_eq_some_iff.mp h
          exact .inr ⟨r, u', by rw [hc], by rw [hc], hread⟩
      · cases h

/-- A word is read up to what cannot belong to it. -/
theorem readRow_word (h : Word s t) (hr : r.takeWhile isAtomChar = []) :
    readRow .start (s ++ r) = (readRow .closed r).map (t ++ ·) := by
  cases h with
  | atom h =>
      cases s with
      | nil => cases h
      | cons c s =>
          rw [isAtom, Bool.and_eq_true, List.all_cons, Bool.and_eq_true] at h
          obtain ⟨-, hc, hs⟩ := h
          have hquote : c ≠ '"' := fun he => absurd (he ▸ hc) (by decide)
          have hdrop : r.dropWhile isAtomChar = r := by
            have hwhole := List.takeWhile_append_dropWhile (p := isAtomChar) (l := r)
            rwa [hr, List.nil_append] at hwhole
          rw [List.cons_append, readRow, if_neg hquote, if_pos hc, readRow_atom,
            List.dropWhile_append_of_pos (List.all_eq_true.mp hs),
            List.takeWhile_append_of_pos (List.all_eq_true.mp hs), hdrop, hr, List.append_nil,
            Option.map_map]
          rfl
  | quoted h =>
      rw [List.cons_append, List.append_assoc, List.singleton_append, readRow, if_pos rfl,
        readRow_quotes, readQuoted_of_quoted h]
      rfl

/-- What is read up to the end of a word begins with that word. -/
theorem exists_word_of_readRow (h : readRow .start s = some t) :
    ∃ w p r u, Word w p ∧ s = w ++ r ∧ t = p ++ u ∧ readRow .closed r = some u := by
  cases s with
  | nil => cases h
  | cons c s =>
      rw [readRow] at h
      split at h
      · next hc =>
          rw [readRow_quotes, Option.bind_eq_some_iff] at h
          obtain ⟨⟨p, r⟩, hread, h⟩ := h
          obtain ⟨u, hu, rfl⟩ := Option.map_eq_some_iff.mp h
          obtain ⟨q, hq, rfl⟩ := quoted_of_readQuoted hread
          exact ⟨_, p, r, u, .quoted hq, by simp [hc], rfl, hu⟩
      · split at h
        · next hc =>
            obtain ⟨t', hread, rfl⟩ := Option.map_eq_some_iff.mp h
            rw [readRow_atom] at hread
            obtain ⟨u, hu, rfl⟩ := Option.map_eq_some_iff.mp hread
            refine ⟨c :: s.takeWhile isAtomChar, _, _, u, .atom ?_, ?_, rfl, hu⟩
            · simp [isAtom, hc]
            · rw [List.cons_append, List.takeWhile_append_dropWhile]
        · cases h

theorem row_of_readRow (h : readRow .start s = some t) : Row s t := by
  -- A word has any length, so the induction is on that of the text.
  induction hn : s.length using Nat.strong_induction_on generalizing s t with
  | _ n ih =>
      obtain ⟨w, p, r, u, hw, rfl, rfl, hu⟩ := exists_word_of_readRow h
      rcases readRow_closed hu with ⟨rfl, rfl⟩ | ⟨r, u, rfl, rfl, hread⟩
      · rw [List.append_nil, List.append_nil]
        exact .word hw
      · rw [List.length_append, List.length_cons] at hn
        exact .point hw (ih r.length (by omega) hread rfl)

theorem readRow_eq_some_iff : readRow .start s = some t ↔ Row s t := by
  refine ⟨row_of_readRow, fun h => ?_⟩
  induction h with
  | @word s t h =>
      have hread := readRow_word h (r := []) rfl
      rwa [List.append_nil, readRow, Option.map_some, List.append_nil] at hread
  | @point s t r u h _ ih =>
      rw [readRow_word h (by rfl), readRow, if_pos rfl, ih]
      rfl

/-! ## Local parts -/

theorem not_mem_of_isDotAtom (h : isDotAtom s = true) (hc : isAtomChar c = false)
    (hpoint : c ≠ '.') : c ∉ s := by
  rw [isDotAtom, List.all_eq_true] at h
  rw [← intercalate_cut '.' s, mem_intercalate_iff]
  rintro (⟨he, -⟩ | ⟨a, ha, hmem⟩)
  · exact hpoint he
  · have hatom := h a ha
    rw [isAtom, Bool.and_eq_true, List.all_eq_true] at hatom
    exact absurd (hatom.2 c hmem) (by rw [hc]; exact Bool.false_ne_true)

theorem readLocal_of_local (h : Local s t) : readLocal s = some t := by
  unfold readLocal
  cases h with
  | atoms h => rw [if_pos h]
  | @quoted s t h =>
      have hdot : ¬isDotAtom ('"' :: (s ++ ['"'])) = true := fun hdot =>
        not_mem_of_isDotAtom (c := '"') hdot rfl (by decide) List.mem_cons_self
      rw [if_neg hdot]
      simp only [readQuoted_of_quoted h []]
  | @row s r u ha hr =>
      have hdot : ¬isDotAtom (s ++ '.' :: '"' :: r) = true := fun hdot =>
        not_mem_of_isDotAtom (c := '"') hdot rfl (by decide) (by simp)
      rw [isAtom, Bool.and_eq_true, Bool.not_eq_true', List.all_eq_true] at ha
      have hread := readRow_eq_some_iff.mpr hr
      rw [readRow, if_pos rfl] at hread
      have hquote : ∀ r', s ++ '.' :: '"' :: r = '"' :: r' → False := by
        intro r' he
        cases s with
        | nil => cases ha.1
        | cons c s =>
            rw [List.cons_append, List.cons.injEq] at he
            exact absurd (ha.2 '"' (he.1 ▸ List.mem_cons_self)) (by decide)
      rw [if_neg hdot]
      split
      · next r' he => exact (hquote r' he).elim
      · rw [List.dropWhile_append_of_pos ha.2, List.takeWhile_append_of_pos ha.2]
        have hpoint : ¬isAtomChar '.' = true := by decide
        simp [List.dropWhile_cons_of_neg hpoint, List.takeWhile_cons_of_neg hpoint, ha.1, hread]

/-- What is read behind an atom and a point. -/
theorem local_of_readRow (hatom : (s.takeWhile isAtomChar).isEmpty = false)
    (hdrop : s.dropWhile isAtomChar = '.' :: '"' :: r) (hread : readRow .quotes r = some u) :
    Local s (s.takeWhile isAtomChar ++ '.' :: u) := by
  have hwhole := List.takeWhile_append_dropWhile (p := isAtomChar) (l := s)
  have hlocal : Local (s.takeWhile isAtomChar ++ '.' :: '"' :: r)
      (s.takeWhile isAtomChar ++ '.' :: u) := by
    refine .row ?_ (row_of_readRow (by rwa [readRow, if_pos rfl]))
    rw [isAtom, List.all_takeWhile, Bool.and_true, hatom]
    rfl
  rwa [← hdrop, hwhole] at hlocal

theorem local_of_readLocal (h : readLocal s = some t) : Local s t := by
  unfold readLocal at h
  split at h
  · next hdot =>
      cases h
      exact .atoms hdot
  · split at h
    · next r =>
        split at h
        · next name hread =>
            cases h
            obtain ⟨q, hq, rfl⟩ := quoted_of_readQuoted hread
            exact .quoted hq
        · cases h
    · split at h
      · next r hdrop =>
          dsimp only at h
          split at h
          · cases h
          · next hne =>
              obtain ⟨u, hread, rfl⟩ := Option.map_eq_some_iff.mp h
              exact local_of_readRow (Bool.eq_false_iff.mpr hne) hdrop hread
      · cases h

/-! ## Names before addresses -/

theorem skipName_words_quote (s : List Char) :
    skipName .words ('"' :: s) = (readQuoted s).bind fun x => skipName .words x.2 := by
  rw [skipName, if_neg (by decide), if_pos rfl, skipName_quotes]

theorem skipName_words_sign (hc : isBlank c = true ∨ isAtomChar c = true ∨ c = '.')
    (s : List Char) : skipName .words (c :: s) = skipName .words s := by
  have hbracket : c ≠ '<' := fun he => absurd (he ▸ hc) (by decide)
  have hquote : c ≠ '"' := fun he => absurd (he ▸ hc) (by decide)
  rw [skipName, if_neg hbracket, if_neg hquote, if_pos (by simpa [or_assoc] using hc)]

theorem skipName_of_phrase (h : Phrase s) (r : List Char) :
    skipName .words (s ++ '<' :: r) = some r := by
  induction h with
  | nil => simp [skipName]
  | sign hc h ih => rw [List.cons_append, skipName_words_sign hc, ih]
  | quoted hq h ih =>
      rw [List.cons_append, List.append_assoc, List.cons_append, skipName_words_quote,
        readQuoted_of_quoted hq]
      exact ih

theorem phrase_of_skipName (h : skipName .words s = some r) :
    ∃ n, Phrase n ∧ s = n ++ '<' :: r := by
  induction hn : s.length using Nat.strong_induction_on generalizing s with
  | _ n ih =>
      cases s with
      | nil => cases h
      | cons c s =>
          rw [List.length_cons] at hn
          rw [skipName] at h
          split at h
          · next hc =>
              cases h
              exact ⟨[], .nil, by rw [hc, List.nil_append]⟩
          · split at h
            · next hc =>
                rw [skipName_quotes, Option.bind_eq_some_iff] at h
                obtain ⟨⟨t, s'⟩, hread, h⟩ := h
                obtain ⟨q, hq, rfl⟩ := quoted_of_readQuoted hread
                change skipName .words s' = some r at h
                rw [List.length_append, List.length_cons] at hn
                obtain ⟨m, hm, rfl⟩ := ih _ (by omega) h rfl
                exact ⟨_, .quoted hq hm, by simp [hc]⟩
            · split at h
              · next hc =>
                  obtain ⟨m, hm, rfl⟩ := ih _ (by omega) h rfl
                  exact ⟨c :: m, .sign (by simpa [or_assoc] using hc) hm, rfl⟩
              · cases h

/-! ## Mailboxes -/

theorem ofAddress?_eq_some_iff : ofAddress? s = some box ↔ IsAddress s box := by
  constructor
  · intro h
    unfold ofAddress? at h
    split at h
    · cases h
    · next w domain hcut =>
        split at h
        · cases h
        · next name hread =>
            split at h
            · next hok =>
                cases h
                exact ⟨w, ⟨local_of_readLocal hread, hok.1, hok.2.1, hok.2.2⟩,
                  (cutLast_eq_some_iff.mp hcut).1⟩
            · cases h
  · rintro ⟨w, h, rfl⟩
    have hcut : cutLast '@' (w ++ '@' :: box.domain) = some (w, box.domain) :=
      cutLast_eq_some_iff.mpr ⟨rfl, not_mem_of_isDotAtom h.isDotAtom rfl (by decide)⟩
    simp only [ofAddress?, hcut, readLocal_of_local h.isLocal]
    rw [if_pos ⟨h.isName, h.isDotAtom, h.isDomain⟩]

theorem ofNamed?_eq_some_iff : ofNamed? s = some box ↔
    ∃ n r, Phrase n ∧ n.head? ≠ some '.' ∧ IsAddress r box ∧ s = n ++ '<' :: (r ++ ['>']) := by
  have hhead : ∀ n r : List Char, (n ++ '<' :: r).head? = some '.' ↔ n.head? = some '.' := by
    intro n r
    cases n <;> simp
  unfold ofNamed?
  constructor
  · intro h
    split at h
    · cases h
    · next hstart =>
        obtain ⟨r, hskip, hread⟩ := Option.bind_eq_some_iff.mp h
        split at hread
        · next hlast =>
            obtain ⟨n, hn, rfl⟩ := phrase_of_skipName hskip
            obtain ⟨r, rfl⟩ := List.getLast?_eq_some_iff.mp hlast
            rw [List.dropLast_concat] at hread
            exact ⟨n, r, hn, (hhead n _).not.mp hstart, ofAddress?_eq_some_iff.mp hread, rfl⟩
        · cases hread
  · rintro ⟨n, r, hn, hpoint, hr, rfl⟩
    have hread := ofAddress?_eq_some_iff.mpr hr
    rw [if_neg ((hhead n _).not.mpr hpoint), skipName_of_phrase hn]
    simp [hread]

/-- An address does not end with the bracket that follows it. -/
theorem IsAddress.getLast?_ne (h : IsAddress s box) : s.getLast? ≠ some '>' := by
  obtain ⟨w, h, rfl⟩ := h
  have hmem : '>' ∉ box.domain := not_mem_of_isDotAtom h.isDotAtom rfl (by decide)
  intro hlast
  rw [List.getLast?_append, List.getLast?_cons, Option.some_or, Option.some_inj] at hlast
  cases hend : box.domain.getLast? with
  | none => simp [hend] at hlast
  | some c =>
      rw [hend, Option.getD_some] at hlast
      exact hmem (hlast ▸ List.mem_of_getLast? hend)

theorem read_eq_some_iff : (ofNamed? s).or (ofAddress? s) = some box ↔ Writes s box := by
  rw [Option.or_eq_some_iff, ofNamed?_eq_some_iff, ofAddress?_eq_some_iff]
  constructor
  · rintro (⟨n, r, hn, hpoint, hr, rfl⟩ | ⟨-, h⟩)
    · exact .named hn hpoint hr
    · exact .address h
  · intro h
    cases h with
    | @named n s box hn hpoint h => exact .inl ⟨n, s, hn, hpoint, h, rfl⟩
    | address h =>
        refine .inr ⟨Option.eq_none_iff_forall_ne_some.mpr fun other hother => ?_, h⟩
        obtain ⟨n, r, -, -, -, rfl⟩ := ofNamed?_eq_some_iff.mp hother
        exact h.getLast?_ne (List.getLast?_eq_some_iff.mpr ⟨n ++ '<' :: r, by simp⟩)

theorem ofText?_eq_some_iff (text : String) :
    ofText? text = some box ↔ Writes (trimChars text.toList) box := read_eq_some_iff

/-- A text writes one mailbox at most. -/
theorem Writes.unique {other : Mailbox} (h : Writes s box) (ho : Writes s other) : box = other :=
  Option.some_inj.mp ((read_eq_some_iff.mpr h).symm.trans (read_eq_some_iff.mpr ho))

end Crowdlending.Mail.Mailbox
