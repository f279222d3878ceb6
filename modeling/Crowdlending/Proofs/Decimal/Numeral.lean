import Crowdlending.Proofs.Decimal.Written

/-!
# What a numeral says

A numeral says a number exactly, however many digits it has. Reading it keeps the digits that fit
and rounds at the first that does not. So it is read as what it says if there is a decimal of
that value, and otherwise as a decimal that is less than one unit of its last place away.
-/
namespace Crowdlending.Decimal
open Number

/-! ## Values of decimals -/

/-- Some decimal has this value. -/
def IsHeld (v : ℚ) : Prop := ∃ d : Decimal, d.value = v

theorem IsHeld.neg {v : ℚ} (h : IsHeld v) : IsHeld (-v) := by
  obtain ⟨d, rfl⟩ := h
  exact ⟨d.neg, value_neg d⟩

theorem unit_cast (n : ℕ) : (unit n : ℚ) = 10 ^ n := Nat.cast_pow 10 n

theorem unit_le_unit {m n : ℕ} (h : m ≤ n) : (unit m : ℚ) ≤ unit n := by
  obtain ⟨k, rfl⟩ := Nat.exists_eq_add_of_le h
  rw [unit_add]
  exact_mod_cast Nat.le_mul_of_pos_right _ (unit_pos k)

theorem abs_value_lt (d : Decimal) : |d.value| < limit / unit d.scale := by
  rw [value_eq_div, abs_div, abs_of_pos (unit_cast_pos d.scale)]
  refine div_lt_div_of_pos_right ?_ (unit_cast_pos _)
  rw [← Int.cast_abs, ← Nat.cast_natAbs]
  exact_mod_cast d.coefficient_lt

theorem IsHeld.abs_lt {v : ℚ} (h : IsHeld v) : |v| < limit := by
  obtain ⟨d, rfl⟩ := h
  have hunit : (1 : ℚ) ≤ unit d.scale := by exact_mod_cast unit_pos d.scale
  exact (abs_value_lt d).trans_le (div_le_self (Nat.cast_nonneg _) hunit)

/-! ## Digits in a row -/

/-- Digits and underscores. -/
def IsRun (s : List Char) : Prop := ∀ c ∈ s, c.isDigit = true ∨ c = '_'

theorem IsRun.tail {a : Char} {r : List Char} (h : IsRun (a :: r)) : IsRun r :=
  fun b hb => h b (List.mem_cons_of_mem _ hb)

/-- The digits of a run. -/
def digits (s : List Char) : List Char := s.filter Char.isDigit

@[simp] theorem digits_nil : digits [] = [] := rfl

theorem digits_cons_digit {c : Char} (h : c.isDigit = true) (r : List Char) :
    digits (c :: r) = c :: digits r := List.filter_cons_of_pos h

@[simp] theorem digits_underscore (r : List Char) : digits ('_' :: r) = digits r :=
  List.filter_cons_of_neg (by decide)

theorem digits_append (s r : List Char) : digits (s ++ r) = digits s ++ digits r :=
  List.filter_append ..

/-- What is said when `c` has been read to the `s`th place and the run is left. -/
def said (c s : ℕ) (r : List Char) : ℚ :=
  Nat.ofDigitChars 10 (digits r) c / unit (s + (digits r).length)

section Said
variable {c s : ℕ} {a : Char} {r : List Char}

@[simp] theorem said_nil (c s : ℕ) : said c s [] = c / unit s := by
  simp [said, Nat.ofDigitChars_nil]

@[simp] theorem said_underscore (c s : ℕ) (r : List Char) : said c s ('_' :: r) = said c s r := by
  simp only [said, digits_underscore]

theorem said_digit (h : a.isDigit = true) (c s : ℕ) (r : List Char) :
    said c s (a :: r) = said (c * 10 + (a.toNat - 48)) (s + 1) r := by
  rw [said, said, digits_cons_digit h, Nat.ofDigitChars_cons, List.length_cons, Nat.mul_comm 10,
    Nat.add_right_comm s 1, Nat.add_assoc s]
  rfl

theorem toNat_sub_lt_ten (h : a.isDigit = true) : a.toNat - 48 < 10 := by
  simp only [Char.isDigit, Bool.and_eq_true, decide_eq_true_eq] at h
  have hmost : a.toNat ≤ 57 := h.2
  omega

theorem div_unit_succ (c s : ℕ) : ((10 * c : ℕ) : ℚ) / unit (s + 1) = c / unit s := by
  rw [unit_succ]
  push_cast
  exact mul_div_mul_left _ _ (by norm_num)

theorem succ_div_unit (c s : ℕ) : ((c + 1 : ℕ) : ℚ) / unit s = c / unit s + 1 / unit s := by
  rw [Nat.cast_succ, add_div]

/-- What follows adds less than one unit of the last place. -/
theorem said_mem_Ico (hr : IsRun r) (c s : ℕ) :
    (c : ℚ) / unit s ≤ said c s r ∧ said c s r < ((c + 1 : ℕ) : ℚ) / unit s := by
  have hunit := unit_cast_pos
  induction r generalizing c s with
  | nil =>
      rw [said_nil]
      exact ⟨le_rfl, div_lt_div_of_pos_right (by push_cast; linarith) (hunit s)⟩
  | cons a r ih =>
      rcases hr a List.mem_cons_self with ha | rfl
      · have hten := toNat_sub_lt_ten ha
        obtain ⟨hleast, hmost⟩ := ih hr.tail (c * 10 + (a.toNat - 48)) (s + 1)
        rw [said_digit ha, ← div_unit_succ c, ← div_unit_succ (c + 1)]
        constructor
        · refine le_trans (div_le_div_of_nonneg_right ?_ (hunit _).le) hleast
          exact_mod_cast (by omega : 10 * c ≤ c * 10 + (a.toNat - 48))
        · refine lt_of_lt_of_le hmost (div_le_div_of_nonneg_right ?_ (hunit _).le)
          exact_mod_cast (by omega : c * 10 + (a.toNat - 48) + 1 ≤ 10 * (c + 1))
      · rw [said_underscore]
        exact ih hr.tail c s

/-- There is no room for the character: all places are taken, or it is a digit with which the
coefficient would be too large. -/
def NoRoom (c s : ℕ) (a : Char) : Prop :=
  s = maxScale ∨ a.isDigit = true ∧ limit ≤ c * 10 + (a.toNat - 48)

theorem scale_le_of_noRoom (hr : IsRun (a :: r)) (hfull : NoRoom c s a) {d : Decimal}
    (hd : d.value = said c s (a :: r)) : d.scale ≤ s := by
  rcases hfull with rfl | ⟨ha, hlimit⟩
  · exact d.scale_le
  · by_contra hlate
    have hnext : (limit : ℚ) / unit (s + 1) ≤ d.value := by
      rw [hd, said_digit ha]
      refine le_trans ?_ (said_mem_Ico hr.tail _ _).1
      exact div_le_div_of_nonneg_right (by exact_mod_cast hlimit) (unit_cast_pos _).le
    have hlast : (limit : ℚ) / unit d.scale ≤ limit / unit (s + 1) :=
      div_le_div_of_nonneg_left (Nat.cast_nonneg _) (unit_cast_pos _) (unit_le_unit (by omega))
    have := (le_abs_self d.value).trans_lt (abs_value_lt d)
    linarith

/-- Counted in units of the `s`th place, a decimal with no more places is a whole number. -/
theorem value_eq_of_mem_Ico {d : Decimal} (hscale : d.scale ≤ s)
    (hleast : (c : ℚ) / unit s ≤ d.value)
    (hmost : d.value < ((c + 1 : ℕ) : ℚ) / unit s) : d.value = c / unit s := by
  obtain ⟨j, rfl⟩ := Nat.exists_eq_add_of_le hscale
  have hunits : d.value * unit (d.scale + j) = (d.coefficient * unit j : ℤ) := by
    rw [unit_add, Nat.cast_mul, ← mul_assoc, value_mul_unit]
    push_cast
    rfl
  rw [div_le_iff₀ (unit_cast_pos _), hunits] at hleast
  rw [lt_div_iff₀ (unit_cast_pos _), hunits] at hmost
  have hsame : d.coefficient * unit j = c := by
    have hl : (c : ℤ) ≤ d.coefficient * unit j := by exact_mod_cast hleast
    have hm : d.coefficient * unit j < ((c + 1 : ℕ) : ℤ) := by exact_mod_cast hmost
    omega
  rw [eq_div_iff (unit_cast_ne_zero _), hunits, hsame, Int.cast_natCast]

/-- Where there is no room, what is said is held only if nothing but zeros follows. -/
theorem said_eq_of_isHeld (hr : IsRun (a :: r)) (hfull : NoRoom c s a)
    (h : IsHeld (said c s (a :: r))) : said c s (a :: r) = c / unit s := by
  obtain ⟨d, hd⟩ := h
  obtain ⟨hleast, hmost⟩ := said_mem_Ico hr c s
  rw [← hd] at hleast hmost ⊢
  exact value_eq_of_mem_Ico (scale_le_of_noRoom hr hfull hd) hleast hmost

/-- A digit that is not zero counts. -/
theorem lt_said (hr : IsRun r) (ha : a.isDigit = true) (hpos : 0 < a.toNat - 48) :
    (c : ℚ) / unit s < said c s (a :: r) := by
  rw [said_digit ha, ← div_unit_succ c]
  refine lt_of_lt_of_le (div_lt_div_of_pos_right ?_ (unit_cast_pos _)) (said_mem_Ico hr _ _).1
  exact_mod_cast (by omega : 10 * c < c * 10 + (a.toNat - 48))

end Said

/-! ## Rounding -/

/-- The number is read as these parts: as itself if it is held, and otherwise with less than one
unit of the last place of difference, when there is no room for another digit. -/
structure Reads (v : ℚ) (p : ℕ × ℕ) : Prop where
  coefficient_lt : p.1 < limit
  scale_le : p.2 ≤ maxScale
  close : |(p.1 : ℚ) / unit p.2 - v| < 1 / unit p.2
  exact : IsHeld v → (p.1 : ℚ) / unit p.2 = v
  full : (p.1 : ℚ) / unit p.2 = v ∨ p.2 = maxScale ∨ limit ≤ p.1 * 10 + 9

/-- What comes of reading a number: at least the held ones are accepted. -/
structure Reading (v : ℚ) (o : Option (ℕ × ℕ)) : Prop where
  accepts : IsHeld v → ∃ p, o = some p
  reads : ∀ p, o = some p → Reads v p

theorem Reading.exact {v : ℚ} {p : ℕ × ℕ} (hc : p.1 < limit) (hs : p.2 ≤ maxScale)
    (hv : (p.1 : ℚ) / unit p.2 = v) : Reading v (some p) := by
  refine ⟨fun _ => ⟨p, rfl⟩, ?_⟩
  rintro _ ⟨⟩
  refine ⟨hc, hs, ?_, fun _ => hv, .inl hv⟩
  rw [hv, sub_self, abs_zero]
  exact one_div_pos.mpr (unit_cast_pos _)

theorem Reading.refused {v : ℚ} (h : ¬IsHeld v) : Reading v none :=
  ⟨fun hheld => absurd hheld h, fun _ hp => nomatch hp⟩

theorem isFiller_iff {c : Char} : isFiller c = true ↔ c.isDigit = true ∨ c = '_' := by
  simp [isFiller, Option.isSome_iff_exists, digit?_eq_some_iff]

theorem all_isFiller_iff {s : List Char} : s.all isFiller = true ↔ IsRun s := by
  simp [IsRun, isFiller_iff]

section Rounding
variable {c s : ℕ} {a : Char} {r : List Char} {p : ℕ × ℕ}

theorem isRun_of_roundAt (h : roundAt c s a r = some p) : IsRun (a :: r) := by
  unfold roundAt at h
  split at h
  · cases h
  · next hrun => exact all_isFiller_iff.mp (Decidable.not_not.mp hrun)

theorem roundAt_of_isRun (hr : IsRun (a :: r)) :
    roundAt c s a r =
      if (digit? a).getD 0 < 5 then some (c, s)
      else if c + 1 < limit then some (c + 1, s)
      else if s = 0 then none
      else some ((c + 5) / 10, s - 1) := by
  have hall : (isFiller a && r.all isFiller) = true := all_isFiller_iff.mpr hr
  rw [roundAt, if_neg (not_not.mpr hall)]

theorem isDigit_of_large (h : ¬(digit? a).getD 0 < 5) : a.isDigit = true ∧ 0 < a.toNat - 48 := by
  cases hd : digit? a with
  | none => rw [hd] at h; exact absurd (by decide) h
  | some d =>
      obtain ⟨hdigit, rfl⟩ := digit?_eq_some_iff.mp hd
      rw [hd] at h
      refine ⟨hdigit, ?_⟩
      simp only [Option.getD_some] at h
      omega

theorem roundAt_of_said_eq (hr : IsRun (a :: r)) (h : said c s (a :: r) = c / unit s) :
    roundAt c s a r = some (c, s) := by
  have hsmall : (digit? a).getD 0 < 5 := by
    by_contra hlarge
    obtain ⟨ha, hpos⟩ := isDigit_of_large hlarge
    exact absurd h (lt_said hr.tail ha hpos).ne'
  rw [roundAt_of_isRun hr, if_pos hsmall]

/-- With a place less the difference is still less than one unit of the last place. -/
theorem close_of_shorter {q t : ℕ} {v : ℚ} (hten : 10 * q = c + 5)
    (hleast : (c : ℚ) / unit (t + 1) < v) (hmost : v < ((c + 1 : ℕ) : ℚ) / unit (t + 1)) :
    |(q : ℚ) / unit t - v| < 1 / unit t := by
  have hunit := one_div_pos.mpr (unit_cast_pos (t + 1))
  have hone : (1 : ℚ) / unit t = 10 * (1 / unit (t + 1)) := by
    rw [← Nat.cast_one, ← div_unit_succ]
    push_cast
    ring
  have hq : (q : ℚ) / unit t = c / unit (t + 1) + 5 * (1 / unit (t + 1)) := by
    rw [← div_unit_succ, hten]
    push_cast
    ring
  rw [succ_div_unit] at hmost
  rw [hq, hone, abs_sub_lt_iff]
  constructor <;> linarith

/-- Rounding where there is no room. -/
theorem reads_of_roundAt (hc : c < limit) (hs : s ≤ maxScale) (hfull : NoRoom c s a)
    (h : roundAt c s a r = some p) : Reads (said c s (a :: r)) p := by
  have hr := isRun_of_roundAt h
  have hheld := said_eq_of_isHeld hr hfull
  obtain ⟨hleast, hmost⟩ := said_mem_Ico hr c s
  have hunit := one_div_pos.mpr (unit_cast_pos s)
  have hlimit : s = maxScale ∨ limit ≤ c * 10 + 9 := hfull.imp_right fun ⟨ha, hle⟩ => by
    have := toNat_sub_lt_ten ha
    omega
  rw [roundAt_of_isRun hr] at h
  split at h
  · cases h
    refine ⟨hc, hs, ?_, fun hv => (hheld hv).symm, .inr hlimit⟩
    rw [succ_div_unit] at hmost
    rw [abs_sub_lt_iff]
    constructor <;> linarith
  · next hlarge =>
      -- A digit of at least five counts, so what is said is not held.
      obtain ⟨ha, hpos⟩ := isDigit_of_large hlarge
      have hlt : (c : ℚ) / unit s < said c s (a :: r) := lt_said hr.tail ha hpos
      have hnot : ¬IsHeld (said c s (a :: r)) := fun hv => absurd (hheld hv) hlt.ne'
      split at h
      · next hfits =>
          cases h
          refine ⟨hfits, hs, ?_, fun hv => absurd hv hnot,
            .inr (hlimit.imp_right fun _ => by omega)⟩
          rw [succ_div_unit] at hmost ⊢
          rw [abs_sub_lt_iff]
          constructor <;> linarith
      · next hlast =>
          split at h
          · cases h
          · next hplace =>
              cases h
              obtain ⟨t, rfl⟩ := Nat.exists_eq_succ_of_ne_zero hplace
              -- The coefficient is the greatest one, and there is room for it with a place less.
              have hten : 10 * ((c + 5) / 10) = c + 5 := by
                unfold limit at hc hlast
                omega
              exact ⟨by unfold limit at hc ⊢; omega, by omega, close_of_shorter hten hlt hmost,
                fun hv => absurd hv hnot, .inr (.inr (by omega))⟩

theorem reading_roundAt (hr : IsRun (a :: r)) (hc : c < limit) (hs : s ≤ maxScale)
    (hfull : NoRoom c s a) : Reading (said c s (a :: r)) (roundAt c s a r) where
  accepts h := ⟨_, roundAt_of_said_eq hr (said_eq_of_isHeld hr hfull h)⟩
  reads _ h := reads_of_roundAt hc hs hfull h

end Rounding

/-! ## Reading -/

def StartsWithDigit (s : List Char) : Prop := ∃ a r, s = a :: r ∧ a.isDigit = true

/-- After the point: what has been read and what follows say the number together. -/
theorem reading_places {r : List Char} (hr : IsRun r) {c s : ℕ} {seen : Bool} (hc : c < limit)
    (hs : s ≤ maxScale) (hseen : seen = true ∨ s = 0 ∧ StartsWithDigit r) :
    Reading (said c s r) (readPlain c s true seen r) := by
  induction r generalizing c s seen with
  | nil =>
      obtain rfl : seen = true := by
        rcases hseen with h | ⟨-, a, r, hnil, -⟩
        · exact h
        · cases hnil
      exact .exact hc hs (said_nil c s).symm
  | cons a r ih =>
      by_cases hroom : s = maxScale ∧ seen = true
      · have hlast : (true && decide (s = maxScale) && seen) = true := by simp [hroom]
        rw [readPlain, if_pos hlast]
        exact reading_roundAt hr hc hs (.inl hroom.1)
      · have hlast : ¬(true && decide (s = maxScale) && seen) = true := by simpa using hroom
        rw [readPlain, if_neg hlast]
        rcases hr a List.mem_cons_self with ha | rfl
        · simp only [digit?_of_isDigit ha, if_true]
          split
          · next hfits =>
              have hnext : s + 1 ≤ maxScale := by
                rcases hseen with hseen | ⟨rfl, -⟩
                · have : s ≠ maxScale := fun h => hroom ⟨h, hseen⟩
                  omega
                · decide
              rw [said_digit ha]
              exact ih hr.tail hfits hnext (.inl rfl)
          · next hfits => exact reading_roundAt hr hc hs (.inr ⟨ha, Nat.not_lt.mp hfits⟩)
        · obtain rfl : seen = true := by
            rcases hseen with h | ⟨-, b, t, hsame, hb⟩
            · exact h
            · cases hsame
              exact absurd hb (by decide)
          rw [said_underscore]
          exact ih hr.tail hc hs (.inl rfl)

/-- Before the point the digits are read exactly, or there are too many of them. -/
theorem readPlain_whole {w : List Char} (hw : IsRun w) {c : ℕ} {seen : Bool} (hc : c < limit)
    (hseen : seen = true ∨ w = [] ∨ StartsWithDigit w) (rest : List Char) :
    readPlain c 0 false seen (w ++ rest) =
      if Nat.ofDigitChars 10 (digits w) c < limit then
        readPlain (Nat.ofDigitChars 10 (digits w) c) 0 false (seen || !w.isEmpty) rest
      else none := by
  induction w generalizing c seen with
  | nil => simp [Nat.ofDigitChars_nil, hc]
  | cons a w ih =>
      rw [List.cons_append, readPlain, if_neg (by simp)]
      rcases hw a List.mem_cons_self with ha | rfl
      · have hvalue : Nat.ofDigitChars 10 (digits (a :: w)) c =
            Nat.ofDigitChars 10 (digits w) (c * 10 + (a.toNat - 48)) := by
          rw [digits_cons_digit ha, Nat.ofDigitChars_cons, Nat.mul_comm]
          rfl
        simp only [digit?_of_isDigit ha, Bool.false_eq_true, if_false, hvalue]
        split
        · next hfits =>
            rw [ih hw.tail hfits (.inl rfl)]
            simp
        · next hfits =>
            have := le_ofDigitChars (digits w) (c * 10 + (a.toNat - 48))
            rw [if_neg (by omega)]
      · obtain rfl : seen = true := by
          rcases hseen with h | h | ⟨b, t, hsame, hb⟩
          · exact h
          · cases h
          · cases hsame
            exact absurd hb (by decide)
        rw [digits_underscore]
        exact (ih hw.tail hc (.inl rfl)).trans (by simp)

theorem ofSigned_eq_some {negative : Bool} {o : Option (ℕ × ℕ)} {d : Decimal}
    (h : ofSigned negative o = some d) :
    ∃ p, o = some p ∧ d.coefficient = (if negative then -(p.1 : ℤ) else p.1) ∧ d.scale = p.2 := by
  obtain ⟨p, hp, hparts⟩ := Option.bind_eq_some_iff.mp h
  exact ⟨p, hp, ofParts?_eq_some hparts⟩

/-! ## Numerals -/

inductive Sign where
  | bare
  | plus
  | minus
deriving DecidableEq

namespace Sign

def text : Sign → List Char
  | bare => []
  | plus => ['+']
  | minus => ['-']

def factor : Sign → ℚ
  | minus => -1
  | _ => 1

end Sign

/-- The point and the places, if there is a point. -/
def pointed : Option (List Char) → List Char
  | none => []
  | some p => '.' :: p

/-- A sign or none, digits with underscores after the first of them, and a point at most. -/
structure Numeral where
  sign : Sign
  whole : List Char
  places? : Option (List Char)
  run : IsRun (whole ++ places?.getD [])
  digit : StartsWithDigit (whole ++ places?.getD [])

namespace Numeral

def places (n : Numeral) : List Char := n.places?.getD []

def body (n : Numeral) : List Char := n.whole ++ pointed n.places?

def text (n : Numeral) : List Char := n.sign.text ++ n.body

/-- The number that all the digits make, over a ten for each place. -/
def magnitude (n : Numeral) : ℚ :=
  Nat.ofDigitChars 10 (digits (n.whole ++ n.places)) 0 / 10 ^ (digits n.places).length

/-- The number that the numeral says. -/
def value (n : Numeral) : ℚ := n.sign.factor * n.magnitude

theorem magnitude_eq_said (n : Numeral) :
    n.magnitude = said (Nat.ofDigitChars 10 (digits n.whole) 0) 0 n.places := by
  rw [magnitude, said, digits_append, Nat.ofDigitChars_append, Nat.zero_add, unit_cast]

/-- Reading what follows the sign. -/
theorem reading_body (n : Numeral) :
    Reading n.magnitude (readPlain 0 0 false false n.body) := by
  have hwhole : IsRun n.whole := fun c hc => n.run c (List.mem_append_left _ hc)
  have hplaces : IsRun n.places := fun c hc => n.run c (List.mem_append_right _ hc)
  have hfirst : n.whole = [] ∨ StartsWithDigit n.whole := by
    obtain ⟨a, r, hsame, ha⟩ := n.digit
    rcases List.append_eq_cons_iff.mp hsame with ⟨hnil, -⟩ | ⟨w, hcons, -⟩
    · exact .inl hnil
    · exact .inr ⟨a, w, hcons, ha⟩
  rw [body, readPlain_whole hwhole (by decide) (.inr hfirst), magnitude_eq_said]
  split
  · next hfits =>
      cases hpoint : n.places? with
      | none =>
          have hnone : n.places = [] := by rw [places, hpoint]; rfl
          have hsome : n.whole.isEmpty = false := by
            obtain ⟨a, r, hsame, -⟩ := n.digit
            rw [hpoint, Option.getD_none, List.append_nil] at hsame
            rw [hsame]
            rfl
          rw [hnone, hsome]
          exact .exact hfits (Nat.zero_le _) (said_nil _ _).symm
      | some p =>
          have hsome : n.places = p := by rw [places, hpoint]; rfl
          rw [← hsome]
          refine reading_places hplaces hfits (Nat.zero_le _) ?_
          by_cases hnil : n.whole = []
          · have hdigit := n.digit
            rw [hnil, List.nil_append] at hdigit
            exact .inr ⟨rfl, hdigit⟩
          · exact .inl (by simp [hnil])
  · next hfits =>
      refine .refused fun hheld => hfits ?_
      have hleast := (said_mem_Ico hplaces (Nat.ofDigitChars 10 (digits n.whole) 0) 0).1
      have hlt := (le_abs_self _).trans_lt hheld.abs_lt
      have hone : ((unit 0 : ℕ) : ℚ) = 1 := Nat.cast_one
      rw [hone, div_one] at hleast
      exact_mod_cast hleast.trans_lt hlt

theorem mem_body {n : Numeral} {c : Char} (h : c ∈ n.body) :
    c.isDigit = true ∨ c = '_' ∨ c = '.' := by
  have hrun := n.run
  unfold body at h
  cases hpoint : n.places? with
  | none =>
      rw [hpoint, pointed, List.append_nil] at h
      exact (hrun c (List.mem_append_left _ h)).imp_right .inl
  | some p =>
      rw [hpoint] at h hrun
      rcases List.mem_append.mp h with h | h
      · exact (hrun c (List.mem_append_left _ h)).imp_right .inl
      · rcases List.mem_cons.mp h with rfl | h
        · exact .inr (.inr rfl)
        · exact (hrun c (List.mem_append_right _ h)).imp_right .inl

theorem mem_text {n : Numeral} {c : Char} (h : c ∈ n.text) :
    c = '+' ∨ c = '-' ∨ c.isDigit = true ∨ c = '_' ∨ c = '.' := by
  rcases List.mem_append.mp h with h | h
  · cases hs : n.sign <;> rw [hs] at h
    · cases h
    · exact .inl (List.mem_singleton.mp h)
    · exact .inr (.inl (List.mem_singleton.mp h))
  · exact .inr (.inr (mem_body h))

theorem readNumeral_text (n : Numeral) :
    readNumeral n.text =
      ofSigned (decide (n.sign = .minus)) (readPlain 0 0 false false n.body) := by
  have hsign : ∀ c r, c = '-' ∨ c = '+' → n.body ≠ c :: r := by
    intro c r hc hsame
    have hmem := mem_body (n := n) (c := c) (by rw [hsame]; exact List.mem_cons_self)
    rcases hc with rfl | rfl <;> exact absurd hmem (by decide)
  unfold text
  cases n.sign with
  | minus => rfl
  | plus => rfl
  | bare =>
      unfold readNumeral
      split
      · next r hsame => exact absurd hsame (hsign _ r (.inl rfl))
      · next r hsame => exact absurd hsame (hsign _ r (.inr rfl))
      · rfl

/-- The numeral is read as this decimal: as what it says if that is held, and otherwise with less
than one unit of the last place of difference, when there is no room for another digit. -/
structure ReadsAs (n : Numeral) (d : Decimal) : Prop where
  close : |d.value - n.value| < 1 / unit d.scale
  exact : IsHeld n.value → d.value = n.value
  full : d.value = n.value ∨ d.scale = maxScale ∨ limit ≤ d.coefficient.natAbs * 10 + 9

theorem isHeld_value_iff {n : Numeral} : IsHeld n.value ↔ IsHeld n.magnitude := by
  have hneg : IsHeld (-n.magnitude) ↔ IsHeld n.magnitude :=
    ⟨fun h => neg_neg n.magnitude ▸ h.neg, IsHeld.neg⟩
  unfold value
  cases n.sign <;> simp [Sign.factor, hneg]

/-- Numbers of at most 28 digits are held. -/
theorem isHeld_of_few {n : Numeral} (h : (digits (n.whole ++ n.places)).length ≤ 28) :
    IsHeld n.value := by
  have hlt := (said_mem_Ico n.run 0 0).2
  rw [said, div_lt_div_iff₀ (unit_cast_pos _) (unit_cast_pos _)] at hlt
  have hall : Nat.ofDigitChars 10 (digits (n.whole ++ n.places)) 0 <
      unit (digits (n.whole ++ n.places)).length := by
    have hone : unit 0 = 1 := rfl
    rw [hone, Nat.zero_add, Nat.zero_add] at hlt
    simpa [places] using hlt
  have hmost : unit (digits (n.whole ++ n.places)).length ≤ unit 28 := by
    exact_mod_cast unit_le_unit h
  have hlimit : unit 28 < limit := by decide
  have hplaces : (digits n.places).length ≤ 28 := by
    rw [digits_append, List.length_append] at h
    omega
  refine isHeld_value_iff.mpr ⟨⟨Nat.ofDigitChars 10 (digits (n.whole ++ n.places)) 0,
    (digits n.places).length, by rw [Int.natAbs_natCast]; omega, hplaces⟩, ?_⟩
  rw [value_eq_div, magnitude, unit_cast, Int.cast_natCast]

theorem readsAs_of_readNumeral {n : Numeral} {d : Decimal} (h : readNumeral n.text = some d) :
    n.ReadsAs d := by
  rw [readNumeral_text] at h
  obtain ⟨p, hp, hcoefficient, hscale⟩ := ofSigned_eq_some h
  have hreads := n.reading_body.reads p hp
  have habs : d.coefficient.natAbs = p.1 := by
    rw [hcoefficient]
    split
    · exact (Int.natAbs_neg _).trans (Int.natAbs_natCast _)
    · exact Int.natAbs_natCast _
  have hvalue : d.value = n.sign.factor * ((p.1 : ℚ) / unit p.2) := by
    rw [value_eq_div, hcoefficient, hscale]
    cases n.sign <;> simp [Sign.factor, neg_div]
  have hone : |n.sign.factor| = 1 := by cases n.sign <;> simp [Sign.factor]
  refine ⟨?_, fun hheld => ?_, ?_⟩
  · rw [hvalue, value, ← mul_sub, abs_mul, hone, one_mul, hscale]
    exact hreads.close
  · rw [hvalue, hreads.exact (isHeld_value_iff.mp hheld), value]
  · rw [hscale, habs, hvalue, value]
    exact hreads.full.imp_left fun hsame => by rw [hsame]

theorem exists_of_isHeld {n : Numeral} (h : IsHeld n.value) : ∃ d, readNumeral n.text = some d := by
  obtain ⟨p, hp⟩ := n.reading_body.accepts (isHeld_value_iff.mp h)
  have hreads := n.reading_body.reads p hp
  rw [readNumeral_text, hp, ofSigned, Option.bind_some]
  refine ofParts?_of_lt ?_ hreads.scale_le
  split
  · rw [Int.natAbs_neg, Int.natAbs_natCast]
    exact hreads.coefficient_lt
  · rw [Int.natAbs_natCast]
    exact hreads.coefficient_lt

end Numeral

end Crowdlending.Decimal
