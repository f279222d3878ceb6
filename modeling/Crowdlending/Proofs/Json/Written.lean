import Crowdlending.Json.Printer
import Crowdlending.Json.Reader
import Crowdlending.Proofs.Text.Utf8
import Mathlib.Tactic.IntervalCases

/-!
# Documents read back

A document of texts, whole numbers, truth values, lists and records is written and
read as itself, whatever characters its texts hold: each character is escaped or
stands for itself, each number ends where a mark follows, and each container is
closed by its own mark. First the lexemes of one value, then the automaton over them.
-/
namespace Crowdlending.Json
open Text

/-! ## Texts -/

/-- A text that has been read so far without a half pair. -/
def TextSoFar.plain (bytes : List UInt8) : TextSoFar := ⟨bytes, none, true⟩

theorem pushByte_plain (bytes : List UInt8) (b : UInt8) :
    (TextSoFar.plain bytes).pushByte b = .plain (b :: bytes) := rfl

theorem pushChar_plain (bytes : List UInt8) (c : Char) :
    (TextSoFar.plain bytes).pushChar c =
      .plain ((String.utf8EncodeChar c).reverse ++ bytes) := by
  rw [← utf8_toString]
  rfl

theorem lex_ordinary (bs acc rest : List UInt8) (h : ∀ b ∈ bs, b ≠ 34 ∧ b ≠ 92 ∧ ¬b < 32) :
    lex (.inText (.plain acc)) (bs ++ rest) = lex (.inText (.plain (bs.reverse ++ acc))) rest := by
  induction bs generalizing acc with
  | nil => rfl
  | cons b bs ih =>
      obtain ⟨hquote, hslash, hcontrol⟩ := h b List.mem_cons_self
      rw [List.cons_append, lex_inText, if_neg (by simpa using hquote),
        if_neg (by simpa using hslash), if_neg hcontrol, pushByte_plain,
        ih _ fun b hb => h b (List.mem_cons_of_mem _ hb)]
      simp

theorem lex_escape {b : UInt8} {c : Char} (hb : b ≠ 117) (h : escaped? b = some c)
    (acc rest : List UInt8) :
    lex (.inText (.plain acc)) (92 :: b :: rest) =
      lex (.inText (.plain ((String.utf8EncodeChar c).reverse ++ acc))) rest := by
  rw [lex_inText, if_neg (by decide), if_pos (by decide), lex, if_neg (by simpa using hb), h]
  simp only [pushChar_plain]

theorem hexDigit?_hexDigit : ∀ n < 16, hexDigit? ((hexDigit n).toNat.toUInt8) = some n := by
  decide

theorem lex_unit (acc rest : List UInt8) {d e : ℕ} (hd : d < 16) (he : e < 16) :
    lex (.inText (.plain acc)) (92 :: 117 :: 48 :: 48 :: (hexDigit d).toNat.toUInt8 ::
      (hexDigit e).toNat.toUInt8 :: rest) =
      lex (.inText ((TextSoFar.plain acc).pushUnit (d * 16 + e))) rest := by
  have hzero : hexDigit? 48 = some 0 := by decide
  rw [lex_inText, if_neg (by decide), if_pos (by decide), lex, if_pos (by decide)]
  simp [lex, hzero, hexDigit?_hexDigit d hd, hexDigit?_hexDigit e he]

theorem pushUnit_plain {c : Char} (h : c.toNat < 32) (acc : List UInt8) :
    (TextSoFar.plain acc).pushUnit c.toNat = (TextSoFar.plain acc).pushChar c := by
  rw [TextSoFar.pushUnit, if_neg (by omega), if_neg (by omega), Char.ofNat_toNat]

theorem utf8_hexDigit {n : ℕ} (h : n < 16) :
    utf8 (hexDigit n).toString = [(hexDigit n).toNat.toUInt8] := by
  have hascii : ∀ n < 16, (hexDigit n).toNat < 128 := by decide
  rw [utf8_toString, utf8EncodeChar_of_lt (hascii n h)]

/-- All bytes of a character that is not escaped stand for themselves. -/
theorem ordinary_of_mem {c : Char} (hquote : c ≠ '"') (hslash : c ≠ '\\') (h : ¬c.toNat < 32)
    {b : UInt8} (hb : b ∈ String.utf8EncodeChar c) : b ≠ 34 ∧ b ≠ 92 ∧ ¬b < 32 := by
  by_cases hascii : c.toNat < 128
  · rw [utf8EncodeChar_of_lt hascii, List.mem_singleton] at hb
    have hval : b.toNat = c.toNat := by
      rw [hb]
      exact Nat.mod_eq_of_lt (by omega)
    refine ⟨fun hb => hquote ?_, fun hb => hslash ?_, fun hb => h ?_⟩
    · exact Char.toNat_inj.mp (by rw [← hval, hb]; rfl)
    · exact Char.toNat_inj.mp (by rw [← hval, hb]; rfl)
    · rw [← hval]
      exact UInt8.lt_iff_toNat_lt.mp hb
  · have hle := UInt8.le_iff_toNat_le.mp (le_of_mem_utf8EncodeChar (Nat.not_lt.mp hascii) hb)
    refine ⟨?_, ?_, ?_⟩
    · rintro rfl; exact absurd hle (by decide)
    · rintro rfl; exact absurd hle (by decide)
    · intro hlt
      have hlt : b.toNat < 32 := UInt8.lt_iff_toNat_lt.mp hlt
      have hle : 128 ≤ b.toNat := hle
      omega

theorem lex_char (c : Char) (acc rest : List UInt8) :
    lex (.inText (.plain acc)) (utf8 (printChar c) ++ rest) =
      lex (.inText (.plain ((String.utf8EncodeChar c).reverse ++ acc))) rest := by
  unfold printChar
  split_ifs with hquote hslash hline hreturn htab hback hfeed hcontrol
  · rw [hquote, show utf8 "\\\"" = [92, 34] from utf8_eq "\\\""]
    exact lex_escape (by decide) (by decide) acc rest
  · rw [hslash, show utf8 "\\\\" = [92, 92] from utf8_eq "\\\\"]
    exact lex_escape (by decide) (by decide) acc rest
  · rw [hline, show utf8 "\\n" = [92, 110] from utf8_eq "\\n"]
    exact lex_escape (by decide) (by decide) acc rest
  · rw [hreturn, show utf8 "\\r" = [92, 114] from utf8_eq "\\r"]
    exact lex_escape (by decide) (by decide) acc rest
  · rw [htab, show utf8 "\\t" = [92, 116] from utf8_eq "\\t"]
    exact lex_escape (by decide) (by decide) acc rest
  · have hc : c = '\x08' := Char.toNat_inj.mp hback
    rw [hc, show utf8 "\\b" = [92, 98] from utf8_eq "\\b"]
    exact lex_escape (by decide) (by decide) acc rest
  · have hc : c = '\x0c' := Char.toNat_inj.mp hfeed
    rw [hc, show utf8 "\\f" = [92, 102] from utf8_eq "\\f"]
    exact lex_escape (by decide) (by decide) acc rest
  · rw [utf8_append, utf8_append, utf8_hexDigit (by omega), utf8_hexDigit (by omega),
      show utf8 "\\u00" = [92, 117, 48, 48] from utf8_eq "\\u00"]
    have hunit := lex_unit acc rest (show c.toNat / 16 < 16 by omega)
      (show c.toNat % 16 < 16 by omega)
    rw [Nat.div_add_mod' c.toNat 16, pushUnit_plain hcontrol, pushChar_plain] at hunit
    exact hunit
  · rw [utf8_toString]
    exact lex_ordinary _ acc rest fun b hb => ordinary_of_mem hquote hslash hcontrol hb

theorem lex_chars (cs : List Char) (acc rest : List UInt8) :
    lex (.inText (.plain acc)) (utf8 (String.join (cs.map printChar)) ++ rest) =
      lex (.inText (.plain ((cs.flatMap String.utf8EncodeChar).reverse ++ acc))) rest := by
  induction cs generalizing acc with
  | nil => simp [utf8_eq]
  | cons c cs ih =>
      rw [List.map_cons, String.join_cons, utf8_append, List.append_assoc, lex_char, ih]
      simp

theorem finish_plain (s : String) : (TextSoFar.plain (utf8 s).reverse).finish = some s := by
  rw [TextSoFar.plain, TextSoFar.finish]
  simp only [Option.isNone_none, Bool.and_self, if_true, List.reverse_reverse]
  exact fromUTF8?_utf8 s

theorem lex_printText (s : String) (rest : List UInt8) :
    lex .gap (utf8 (printText s) ++ rest) = .leaf (.text (some s)) :: lex .gap rest := by
  rw [printText, utf8_append, utf8_append, show utf8 "\"" = [34] from utf8_eq "\"",
    List.append_assoc, List.append_assoc, List.singleton_append, List.singleton_append]
  have hbegin : lex .gap (34 :: (utf8 (String.join (s.toList.map printChar)) ++ 34 :: rest)) =
      lex (.inText (.plain [])) (utf8 (String.join (s.toList.map printChar)) ++ 34 :: rest) := rfl
  rw [hbegin, lex_chars, ← utf8_eq, List.append_nil, lex_inText, if_pos (by decide), finish_plain]

/-! ## Numbers -/

/-- A comma or the end of a container comes next, or nothing at all. -/
def EndsValue (rest : List UInt8) : Prop := ∀ b ∈ rest.head?, b = 44 ∨ b = 93 ∨ b = 125

theorem lex_number_end {phase : NumberPhase} (hphase : phase = .zero ∨ phase = .whole)
    (negative : Bool) (digits : ℕ) {rest : List UInt8} (h : EndsValue rest) :
    lex (.number (.start phase negative digits)) rest =
      .leaf (.number ⟨negative, digits, 0, true, 0⟩) :: lex .gap rest := by
  cases rest with
  | nil => rcases hphase with rfl | rfl <;> rfl
  | cons b rest => rcases hphase with rfl | rfl <;> rcases h b rfl with rfl | rfl | rfl <;> rfl

theorem toNat_of_isDigit {c : Char} (h : c.isDigit = true) : 48 ≤ c.toNat ∧ c.toNat ≤ 57 := by
  simp only [Char.isDigit, Bool.and_eq_true, decide_eq_true_eq] at h
  exact h

theorem push?_digit {c : Char} (h : c.isDigit = true) (negative : Bool) (n : ℕ) :
    (NumberSoFar.start .whole negative n).push? c.toNat.toUInt8 =
      some (.start .whole negative (10 * n + (c.toNat - 48))) := by
  obtain ⟨hlow, hhigh⟩ := toNat_of_isDigit h
  have hval : c.toNat.toUInt8.toNat = c.toNat := Nat.mod_eq_of_lt (by omega)
  have hdigit : NumberSoFar.isDigit c.toNat.toUInt8 = true := by
    simp only [NumberSoFar.isDigit, Bool.and_eq_true, decide_eq_true_eq, UInt8.le_iff_toNat_le,
      hval]
    exact ⟨hlow, hhigh⟩
  simp only [NumberSoFar.push?, NumberSoFar.start, hdigit, if_true]
  rw [NumberSoFar.pushWhole, hval, Nat.mul_comm 10]

theorem lex_digits {ds : List Char} (hds : ∀ c ∈ ds, c.isDigit = true) (negative : Bool) (n : ℕ)
    {rest : List UInt8} (h : EndsValue rest) :
    lex (.number (.start .whole negative n)) (ds.flatMap String.utf8EncodeChar ++ rest) =
      .leaf (.number ⟨negative, Nat.ofDigitChars 10 ds n, 0, true, 0⟩) :: lex .gap rest := by
  induction ds generalizing n with
  | nil => exact lex_number_end (.inr rfl) negative n h
  | cons c ds ih =>
      have hc := hds c List.mem_cons_self
      have hascii : c.toNat < 128 := (toNat_of_isDigit hc).2.trans_lt (by decide)
      rw [List.flatMap_cons, utf8EncodeChar_of_lt hascii, List.append_assoc, List.singleton_append,
        lex, push?_digit hc]
      simp only
      rw [ih fun a ha => hds a (List.mem_cons_of_mem _ ha), Nat.ofDigitChars_cons]
      rfl

/-- A positive number begins with no zero. -/
theorem toDigits_eq_cons {n : ℕ} (h : 0 < n) :
    ∃ c cs, Nat.toDigits 10 n = c :: cs ∧ c ≠ '0' := by
  induction n using Nat.strong_induction_on with
  | _ n ih =>
      by_cases hlt : n < 10
      · refine ⟨n.digitChar, [], Nat.toDigits_of_lt_base hlt, ?_⟩
        have hchar : ∀ n < 10, 0 < n → n.digitChar ≠ '0' := by decide
        exact hchar n hlt h
      · obtain ⟨c, cs, hcs, hc⟩ := ih (n / 10) (by omega) (by omega)
        refine ⟨c, cs ++ [(n % 10).digitChar], ?_, hc⟩
        rw [Nat.toDigits_of_base_le (by omega) (by omega), hcs, List.cons_append]

theorem begin_digit {c : Char} (h : c.isDigit = true) (hzero : c ≠ '0') :
    begin c.toNat.toUInt8 = .ok (.number (.start .whole false (c.toNat - 48))) ∧
      (NumberSoFar.start .minus true 0).push? c.toNat.toUInt8 =
        some (.start .whole true (c.toNat - 48)) := by
  obtain ⟨hlow, hhigh⟩ := toNat_of_isDigit h
  have hne : c.toNat ≠ 48 := fun heq => hzero (Char.toNat_inj.mp heq)
  generalize c.toNat = n at hlow hhigh hne
  interval_cases n <;> first | exact absurd rfl hne | exact ⟨rfl, rfl⟩

theorem utf8_print_ofInt (n : Int) :
    utf8 (Numeral.ofInt n).print = (if n < 0 then [45] else []) ++
      (Nat.toDigits 10 n.natAbs).flatMap String.utf8EncodeChar := by
  have hdigits : utf8 (toString n.natAbs) =
      (Nat.toDigits 10 n.natAbs).flatMap String.utf8EncodeChar := by
    rw [Nat.toString_eq_ofList_toDigits, utf8_ofList]
  simp only [Numeral.print, Numeral.ofInt, if_true, String.append_empty]
  rw [utf8_append, hdigits]
  by_cases hn : n < 0
  · simp only [hn, decide_true, if_true]
    rw [show utf8 "-" = [45] from utf8_eq "-"]
  · simp only [hn, decide_false, if_false, Bool.false_eq_true]
    rw [utf8_empty]

theorem lex_int (n : Int) {rest : List UInt8} (h : EndsValue rest) :
    lex .gap (utf8 (Numeral.ofInt n).print ++ rest) =
      .leaf (.number (.ofInt n)) :: lex .gap rest := by
  rw [utf8_print_ofInt]
  by_cases hzero : n = 0
  · subst hzero
    exact lex_number_end (.inl rfl) false 0 h
  · obtain ⟨c, cs, hcs, hc⟩ := toDigits_eq_cons (Int.natAbs_pos.mpr hzero)
    have hall : ∀ a ∈ c :: cs, a.isDigit = true := fun a ha =>
      Nat.isDigit_of_mem_toDigits (by decide) (by decide) (hcs ▸ ha)
    have hcdigit := hall c List.mem_cons_self
    have hascii : c.toNat < 128 := (toNat_of_isDigit hcdigit).2.trans_lt (by decide)
    obtain ⟨hbegin, hpush⟩ := begin_digit hcdigit hc
    have hvalue : Nat.ofDigitChars 10 cs (c.toNat - 48) = n.natAbs := by
      have hall : Nat.ofDigitChars 10 (c :: cs) 0 = n.natAbs :=
        hcs ▸ Nat.ofDigitChars_ten_toDigits
      rw [Nat.ofDigitChars_cons, Nat.mul_zero, Nat.zero_add] at hall
      exact hall
    have hrest := fun negative => lex_digits (fun a ha => hall a (List.mem_cons_of_mem _ ha))
      negative (c.toNat - 48) h
    -- The first digit decides how the number begins, with a sign or without; then all are alike.
    rw [hcs, List.flatMap_cons, utf8EncodeChar_of_lt hascii, Numeral.ofInt, ← hvalue]
    by_cases hneg : n < 0
    · simp only [hneg, if_true, decide_true, List.cons_append, List.nil_append]
      have hsign : begin 45 = .ok (.number (.start .minus true 0)) := rfl
      rw [lex, hsign]
      simp only
      rw [lex, hpush]
      exact hrest true
    · simp only [hneg, if_false, decide_false, List.cons_append, List.nil_append]
      rw [lex, hbegin]
      exact hrest false

/-! ## Documents -/

/-- A document that its written form tells all about. -/
inductive Doc.IsPlain : Doc → Prop
  | null : IsPlain .null
  | bool (b : Bool) : IsPlain (.bool b)
  | int (n : Int) : IsPlain (.int n)
  | text (s : String) : IsPlain (.ofText s)
  | list {items : List Doc} : (∀ d ∈ items, IsPlain d) → IsPlain (.list items)
  | record {members : List (String × Doc)} :
      (∀ m ∈ members, IsPlain m.2) → IsPlain (.ofMembers members)

/-- Where a value goes that is read inside open containers, and what may come next. -/
def place (d : Doc) : List Frame → Doc ⊕ (List Frame × Want)
  | [] => .inl d
  | .list items :: fs => .inr (.list (d :: items) :: fs, .comma)
  | .member ms k :: fs => .inr (.record ((k, d) :: ms) :: fs, .comma)
  | .record ms :: fs => .inr (.record ((none, d) :: ms) :: fs, .comma)

def resume : Doc ⊕ (List Frame × Want) → List Token → Doc × List Token
  | .inl d, r => (d, r)
  | .inr (stack, want), r => build stack want r

section Build
variable (stack : List Frame) (rest : List Token)

theorem build_leaf {want : Want} (hwant : want = .value ∨ want = .firstItem) (d : Doc) :
    build stack want (.leaf d :: rest) = resume (place d stack) rest := by
  rcases hwant with rfl | rfl <;> rcases stack with _ | ⟨_ | _ | _, _⟩ <;> rfl

theorem build_openList {want : Want} (hwant : want = .value ∨ want = .firstItem) :
    build stack want (.openList :: rest) = build (.list [] :: stack) .firstItem rest := by
  rcases hwant with rfl | rfl <;> rcases stack with _ | ⟨_ | _ | _, _⟩ <;> rfl

theorem build_closeList {want : Want} (hwant : want = .comma ∨ want = .firstItem)
    (items : List Doc) : build (.list items :: stack) want (.closeList :: rest) =
      resume (place (.list items.reverse) stack) rest := by
  rcases hwant with rfl | rfl <;> rcases stack with _ | ⟨_ | _ | _, _⟩ <;> rfl

theorem build_openRecord {want : Want} (hwant : want = .value ∨ want = .firstItem) :
    build stack want (.openRecord :: rest) = build (.record [] :: stack) .firstKey rest := by
  rcases hwant with rfl | rfl <;> rcases stack with _ | ⟨_ | _ | _, _⟩ <;> rfl

theorem build_closeRecord {want : Want} (hwant : want = .comma ∨ want = .firstKey)
    (ms : List (Option String × Doc)) : build (.record ms :: stack) want (.closeRecord :: rest) =
      resume (place (.record ms.reverse) stack) rest := by
  rcases hwant with rfl | rfl <;> rcases stack with _ | ⟨_ | _ | _, _⟩ <;> rfl

theorem build_key {want : Want} (hwant : want = .key ∨ want = .firstKey)
    (ms : List (Option String × Doc)) (k : Option String) :
    build (.record ms :: stack) want (.leaf (.text k) :: .colon :: rest) =
      build (.member ms k :: stack) .value rest := by
  rcases hwant with rfl | rfl <;> rfl

end Build

theorem utf8_intercalate (s : String) (ss : List String) :
    utf8 (",".intercalate (s :: ss)) = utf8 s ++ ss.flatMap fun t => 44 :: utf8 t := by
  induction ss generalizing s with
  | nil => simp
  | cons t ss ih =>
      rw [String.intercalate_cons_cons, utf8_append, utf8_append, ih,
        show utf8 "," = [44] from utf8_eq ","]
      simp

theorem printItems_eq (items : List Doc) : Doc.printItems items = items.map Doc.print := by
  induction items with
  | nil => rfl
  | cons d items ih => rw [Doc.printItems, ih, List.map_cons]

def printMember (m : String × Doc) : String := printText m.1 ++ ":" ++ m.2.print

theorem printMembers_eq (members : List (String × Doc)) :
    Doc.printMembers (members.map fun m => (some m.1, m.2)) = members.map printMember := by
  induction members with
  | nil => rfl
  | cons m members ih => rw [List.map_cons, Doc.printMembers, ih, List.map_cons]; rfl

/-- Wherever a value may stand, the written document is read as itself. -/
def ReadsBack (d : Doc) : Prop :=
  ∀ (stack : List Frame) (want : Want) (rest : List UInt8),
    want = .value ∨ want = .firstItem → EndsValue rest →
      build stack want (lex .gap (utf8 d.print ++ rest)) = resume (place d stack) (lex .gap rest)

/-- What follows a value inside a container ends it. -/
theorem endsValue_flatMap {α : Type} (write : α → List UInt8) (as : List α) {close : UInt8}
    (hclose : close = 93 ∨ close = 125) (rest : List UInt8) :
    EndsValue (as.flatMap (fun a => 44 :: write a) ++ close :: rest) := by
  intro b hb
  cases as with
  | nil => cases hb; exact .inr hclose
  | cons a as => cases hb; exact .inl rfl

theorem build_items {items : List Doc} (h : ∀ d ∈ items, ReadsBack d) (acc : List Doc)
    (stack : List Frame) (rest : List UInt8) :
    build (.list acc :: stack) .comma
        (lex .gap (items.flatMap (fun d => 44 :: utf8 d.print) ++ 93 :: rest)) =
      resume (place (.list (acc.reverse ++ items)) stack) (lex .gap rest) := by
  -- Items that were read wait in reverse in the frame, so the induction is over any such items.
  induction items generalizing acc with
  | nil =>
      rw [List.append_nil]
      exact build_closeList stack (lex .gap rest) (.inl rfl) acc
  | cons d items ih =>
      have hcomma : ∀ r, build (.list acc :: stack) .comma (lex .gap (44 :: r)) =
          build (.list acc :: stack) .value (lex .gap r) := fun _ => rfl
      rw [List.flatMap_cons, List.cons_append, List.cons_append, List.append_assoc, hcomma,
        h d List.mem_cons_self _ _ _ (.inl rfl) (endsValue_flatMap _ _ (.inl rfl) _)]
      change build (.list (d :: acc) :: stack) .comma _ = _
      rw [ih fun a ha => h a (List.mem_cons_of_mem _ ha)]
      simp

theorem utf8_printMember (m : String × Doc) (rest : List UInt8) :
    lex .gap (utf8 (printMember m) ++ rest) =
      .leaf (.text (some m.1)) :: .colon :: lex .gap (utf8 m.2.print ++ rest) := by
  rw [printMember, utf8_append, utf8_append, show utf8 ":" = [58] from utf8_eq ":",
    List.append_assoc, List.append_assoc, lex_printText]
  rfl

theorem build_members {members : List (String × Doc)} (h : ∀ m ∈ members, ReadsBack m.2)
    (acc : List (Option String × Doc)) (stack : List Frame) (rest : List UInt8) :
    build (.record acc :: stack) .comma
        (lex .gap (members.flatMap (fun m => 44 :: utf8 (printMember m)) ++ 125 :: rest)) =
      resume (place (.record (acc.reverse ++ members.map fun m => (some m.1, m.2))) stack)
        (lex .gap rest) := by
  induction members generalizing acc with
  | nil =>
      rw [List.map_nil, List.append_nil]
      exact build_closeRecord stack (lex .gap rest) (.inl rfl) acc
  | cons m members ih =>
      have hcomma : ∀ r, build (.record acc :: stack) .comma (lex .gap (44 :: r)) =
          build (.record acc :: stack) .key (lex .gap r) := fun _ => rfl
      rw [List.flatMap_cons, List.cons_append, List.cons_append, List.append_assoc, hcomma,
        utf8_printMember, build_key _ _ (.inl rfl),
        h m List.mem_cons_self _ _ _ (.inl rfl) (endsValue_flatMap _ _ (.inr rfl) _)]
      change build (.record ((some m.1, m.2) :: acc) :: stack) .comma _ = _
      rw [ih fun a ha => h a (List.mem_cons_of_mem _ ha)]
      simp

theorem readsBack_list {items : List Doc} (h : ∀ d ∈ items, ReadsBack d) :
    ReadsBack (.list items) := by
  intro stack want rest hwant hrest
  rw [Doc.print, printItems_eq, utf8_append, utf8_append, show utf8 "[" = [91] from utf8_eq "[",
    show utf8 "]" = [93] from utf8_eq "]", List.append_assoc, List.append_assoc,
    List.singleton_append, List.singleton_append]
  change build stack want (.openList :: lex .gap _) = _
  rw [build_openList _ _ hwant]
  cases items with
  | nil =>
      rw [List.map_nil, String.intercalate_nil, utf8_empty]
      exact build_closeList stack (lex .gap rest) (.inr rfl) []
  | cons d items =>
      rw [List.map_cons, utf8_intercalate, List.flatMap_map, List.append_assoc,
        h d List.mem_cons_self _ _ _ (.inr rfl) (endsValue_flatMap _ _ (.inl rfl) _)]
      exact build_items (fun a ha => h a (List.mem_cons_of_mem _ ha)) [d] stack rest

theorem readsBack_ofMembers {members : List (String × Doc)} (h : ∀ m ∈ members, ReadsBack m.2) :
    ReadsBack (.ofMembers members) := by
  intro stack want rest hwant hrest
  rw [Doc.ofMembers, Doc.print, printMembers_eq, utf8_append, utf8_append,
    show utf8 "\x7b" = [123] from utf8_eq "\x7b", show utf8 "\x7d" = [125] from utf8_eq "\x7d",
    List.append_assoc, List.append_assoc, List.singleton_append, List.singleton_append]
  change build stack want (.openRecord :: lex .gap _) = _
  rw [build_openRecord _ _ hwant]
  cases members with
  | nil =>
      rw [List.map_nil, String.intercalate_nil, utf8_empty]
      exact build_closeRecord stack (lex .gap rest) (.inr rfl) []
  | cons m members =>
      rw [List.map_cons, utf8_intercalate, List.flatMap_map, List.append_assoc, utf8_printMember,
        build_key _ _ (.inr rfl),
        h m List.mem_cons_self _ _ _ (.inl rfl) (endsValue_flatMap _ _ (.inr rfl) _)]
      exact build_members (fun a ha => h a (List.mem_cons_of_mem _ ha)) [(some m.1, m.2)] stack rest

theorem readsBack_leaf {d : Doc}
    (h : ∀ rest, EndsValue rest → lex .gap (utf8 d.print ++ rest) = .leaf d :: lex .gap rest) :
    ReadsBack d := by
  intro stack want rest hwant hrest
  rw [h rest hrest, build_leaf _ _ hwant]

theorem lex_word {b : UInt8} (word : String) {bytes : List UInt8} {d : Doc}
    (hbegin : begin b = .ok (.word (utf8 word) d)) (hword : utf8 word = bytes)
    (hlex : ∀ rest, lex (.word bytes d) (bytes ++ rest) = .leaf d :: lex .gap rest)
    (rest : List UInt8) : lex .gap (b :: bytes ++ rest) = .leaf d :: lex .gap rest := by
  rw [List.cons_append, lex, hbegin, hword]
  exact hlex rest

theorem readsBack_of_isPlain {d : Doc} (h : d.IsPlain) : ReadsBack d := by
  induction h with
  | null =>
      refine readsBack_leaf fun rest _ => ?_
      rw [Doc.print, show utf8 "null" = 110 :: [117, 108, 108] from utf8_eq "null"]
      exact lex_word "ull" rfl (utf8_eq "ull") (fun _ => rfl) rest
  | bool b =>
      refine readsBack_leaf fun rest _ => ?_
      cases b with
      | true =>
          rw [Doc.print, if_pos rfl, show utf8 "true" = 116 :: [114, 117, 101] from utf8_eq "true"]
          exact lex_word "rue" rfl (utf8_eq "rue") (fun _ => rfl) rest
      | false =>
          rw [Doc.print, if_neg (by decide),
            show utf8 "false" = 102 :: [97, 108, 115, 101] from utf8_eq "false"]
          exact lex_word "alse" rfl (utf8_eq "alse") (fun _ => rfl) rest
  | int n =>
      refine readsBack_leaf fun rest hrest => ?_
      rw [Doc.int, Doc.print, lex_int n hrest]
  | text s =>
      refine readsBack_leaf fun rest _ => ?_
      rw [Doc.ofText, Doc.print, Option.getD_some, lex_printText]
  | list _ ih => exact readsBack_list ih
  | record _ ih => exact readsBack_ofMembers ih

theorem build_print {d : Doc} (h : d.IsPlain) :
    build [] .value (tokens (utf8 d.print)) = (d, []) := by
  have hread := readsBack_of_isPlain h [] .value [] (.inl rfl) (fun b hb => by cases hb)
  rw [List.append_nil] at hread
  rw [tokens, hread]
  rfl

/-- A plain document is read back as itself. -/
theorem readWhole_print {d : Doc} (h : d.IsPlain) : readWhole (utf8 d.print) = d := by
  rw [readWhole, build_print h]

theorem readFirst_print {d : Doc} (h : d.IsPlain) : readFirst (utf8 d.print) = d := by
  rw [readFirst, build_print h]

theorem readText_print {d : Doc} (h : d.IsPlain) : readText d.print = d := readWhole_print h

/-! ## How large documents are -/

theorem utf8ByteSize_le_printChar (c : Char) :
    c.toString.utf8ByteSize ≤ (printChar c).utf8ByteSize := by
  have hcontrol : ∀ {s : String}, c.toNat < 128 → 0 < s.utf8ByteSize →
      c.toString.utf8ByteSize ≤ s.utf8ByteSize := by
    intro s hc hs
    rw [utf8ByteSize_eq, utf8_toString, utf8EncodeChar_of_lt hc]
    exact hs
  unfold printChar
  split_ifs with h₁ h₂ h₃ h₄ h₅ h₆ h₇ h₈
  · subst h₁; decide
  · subst h₂; decide
  · subst h₃; decide
  · subst h₄; decide
  · subst h₅; decide
  · exact hcontrol (by omega) (by decide)
  · exact hcontrol (by omega) (by decide)
  · refine hcontrol (by omega) ?_
    have hprefix : 0 < "\\u00".utf8ByteSize := by decide
    simp only [String.utf8ByteSize_append]
    omega
  · exact Nat.le_refl _

/-- A text is at least as large where it is written. -/
theorem utf8ByteSize_le_printText (s : String) :
    s.utf8ByteSize ≤ (printText s).utf8ByteSize := by
  have hchars : ∀ cs : List Char,
      (String.ofList cs).utf8ByteSize ≤ (String.join (cs.map printChar)).utf8ByteSize := by
    intro cs
    induction cs with
    | nil => exact Nat.le_refl 0
    | cons c cs ih =>
        have hc := utf8ByteSize_le_printChar c
        have hsplit : String.ofList (c :: cs) = c.toString ++ String.ofList cs := by
          rw [← String.toList_inj, String.toList_append, String.toList_ofList, String.toList_ofList]
          simp
        rw [hsplit, List.map_cons, String.join_cons, String.utf8ByteSize_append,
          String.utf8ByteSize_append]
        omega
  have hs := hchars s.toList
  rw [String.ofList_toList] at hs
  simp only [printText, String.utf8ByteSize_append]
  omega

theorem utf8ByteSize_le_intercalate {s : String} {ss : List String} (h : s ∈ ss) :
    s.utf8ByteSize ≤ (",".intercalate ss).utf8ByteSize := by
  cases ss with
  | nil => cases h
  | cons t ss =>
      rw [utf8ByteSize_eq (",".intercalate _), utf8_intercalate, List.length_append,
        utf8ByteSize_eq]
      rcases List.mem_cons.mp h with rfl | h
      · exact Nat.le_add_right _ _
      · obtain ⟨before, after, rfl⟩ := List.append_of_mem h
        simp only [List.flatMap_append, List.flatMap_cons, List.length_append, List.length_cons]
        omega

/-- A value is at most as large as the record in which it is written. -/
theorem utf8ByteSize_le_ofMembers {members : List (String × Doc)} {m : String × Doc}
    (h : m ∈ members) : m.2.print.utf8ByteSize ≤ (Doc.ofMembers members).print.utf8ByteSize := by
  have hmember := utf8ByteSize_le_intercalate (List.mem_map_of_mem (f := printMember) h)
  simp only [Doc.ofMembers, Doc.print, printMembers_eq, String.utf8ByteSize_append]
  simp only [printMember, String.utf8ByteSize_append] at hmember
  omega

end Crowdlending.Json
