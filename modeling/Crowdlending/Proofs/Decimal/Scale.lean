import Crowdlending.Proofs.Decimal.Grammar
import Crowdlending.Proofs.Decimal.Written

/-!
# How many places there are

A decimal keeps the places that it was written with, zeros at the end among them, and is written
with just as many. A sum has no more places than its summands; and if only so many of theirs count,
no more count of the sum, even where it has to be rounded.
-/
namespace Crowdlending.Decimal
open Number Text

/-- How many digits the text has after its first point. -/
def writtenPlaces (s : List Char) : ℕ := (digits (s.dropWhile fun c => c ≠ '.')).length

theorem writtenPlaces_cons {a : Char} (h : a ≠ '.') (r : List Char) :
    writtenPlaces (a :: r) = writtenPlaces r := by
  rw [writtenPlaces, List.dropWhile_cons_of_pos (by simpa using h)]
  rfl

theorem writtenPlaces_point (r : List Char) : writtenPlaces ('.' :: r) = (digits r).length := by
  rw [writtenPlaces, List.dropWhile_cons_of_neg (by simp)]
  rfl

theorem ne_point_of_isDigit {c : Char} (h : c.isDigit = true) : c ≠ '.' := by
  rintro rfl
  cases h

/-! ## What is written -/

theorem digits_eq_self {s : List Char} (h : ∀ c ∈ s, c.isDigit = true) : digits s = s :=
  List.filter_eq_self.mpr h

/-- A decimal is written with the places that it has. -/
theorem writtenPlaces_text (d : Decimal) : writtenPlaces d.text.toList = d.scale := by
  have hwhole : ∀ c ∈ Nat.toDigits 10 (d.coefficient.natAbs / unit d.scale), c ≠ '.' := fun c hc =>
    ne_point_of_isDigit (Nat.isDigit_of_mem_toDigits (by decide) (by decide) hc)
  rw [writtenPlaces, toList_text, List.dropWhile_append_of_pos (by simp),
    List.dropWhile_append_of_pos (by simpa using hwhole)]
  split_ifs with hscale
  · rw [hscale]
    rfl
  · change writtenPlaces ('.' :: d.placesText) = _
    rw [writtenPlaces_point, digits_eq_self fun c hc => isDigit_of_mem_placesText hc,
      length_placesText hscale]

/-! ## What is read -/

section Read
variable {a : Char} {r s : List Char} {c n : ℕ} {seen : Bool} {p : ℕ × ℕ} {d : Decimal}

theorem scale_le_of_roundAt (h : roundAt c n a r = some p) : p.2 ≤ n := by
  unfold roundAt at h
  split_ifs at h <;> cases h
  · exact le_rfl
  · exact le_rfl
  · exact Nat.sub_le _ _

/-- After the point each digit adds a place at most. -/
theorem scale_le_of_places (h : readPlain c n true seen r = some p) :
    p.2 ≤ n + (digits r).length := by
  induction r generalizing c n seen with
  | nil =>
      rw [readPlain] at h
      split at h <;> cases h
      exact Nat.le_add_right _ _
  | cons a r ih =>
      rw [readPlain] at h
      split at h
      · exact (scale_le_of_roundAt h).trans (Nat.le_add_right _ _)
      · split at h
        · next d hd =>
            have ha := (digit?_eq_some_iff.mp hd).1
            split at h
            · have hrest := ih h
              rw [digits_cons_digit ha, List.length_cons]
              simp only [if_true] at hrest
              omega
            · exact (scale_le_of_roundAt h).trans (Nat.le_add_right _ _)
        · split at h
          · next hpoint => exact absurd hpoint.2 (by decide)
          · split at h
            · next hunderscore =>
                rw [hunderscore.1, digits_underscore]
                exact ih h
            · cases h

theorem scale_le_of_readPlain (h : readPlain c 0 false seen r = some p) :
    p.2 ≤ writtenPlaces r := by
  induction r generalizing c seen with
  | nil =>
      rw [readPlain] at h
      split at h <;> cases h
      exact Nat.zero_le _
  | cons a r ih =>
      rw [readPlain, if_neg (by simp)] at h
      split at h
      · next d hd =>
          rw [writtenPlaces_cons (ne_point_of_isDigit (digit?_eq_some_iff.mp hd).1)]
          split at h
          · exact ih h
          · cases h
      · split at h
        · next hpoint =>
            rw [hpoint.1, writtenPlaces_point]
            exact (scale_le_of_places h).trans_eq (Nat.zero_add _)
        · split at h
          · next hunderscore =>
              rw [hunderscore.1, writtenPlaces_cons (by decide)]
              exact ih h
          · cases h

theorem scale_of_ofSigned {negative : Bool} {o : Option (ℕ × ℕ)}
    (h : ofSigned negative o = some d) :
    ∃ p, o = some p ∧ d.scale = p.2 := by
  obtain ⟨p, hp, hparts⟩ := Option.bind_eq_some_iff.mp h
  exact ⟨p, hp, (ofParts?_eq_some hparts).2⟩

theorem scale_le_of_readNumeral (h : readNumeral s = some d) : d.scale ≤ writtenPlaces s := by
  unfold readNumeral at h
  split at h
  all_goals
    obtain ⟨p, hp, hscale⟩ := scale_of_ofSigned h
    have hle := scale_le_of_readPlain hp
    rw [hscale]
  · rwa [writtenPlaces_cons (by decide)]
  · rwa [writtenPlaces_cons (by decide)]
  · exact hle

/-- Without an exponent, what is read has no more places than the text has digits after its
point. -/
theorem scale_le_of_read? (hplain : ∀ c ∈ s, ¬IsMark c) (h : read? s = some d) :
    d.scale ≤ writtenPlaces s := by
  unfold read? at h
  split at h
  · next hread =>
      cases h
      exact scale_le_of_readNumeral hread
  · rw [readScientific, cutExponent_of_plain hplain] at h
    cases h

end Read

/-! ## Sums -/

section Sums
variable {c : ℤ} {s n more dropped : ℕ} {a b d : Decimal}

theorem scale_le_of_fitFrom (h : fitFrom c s more dropped = some d) : d.scale ≤ s := by
  induction more generalizing dropped with
  | zero => exact (ofParts?_eq_some h).2.trans_le (Nat.sub_le _ _)
  | succ more ih =>
      unfold fitFrom at h
      split at h
      · next hparts =>
          cases h
          exact (ofParts?_eq_some hparts).2.trans_le (Nat.sub_le _ _)
      · exact ih h

theorem scale_le_of_add? (ha : a.scale ≤ n) (hb : b.scale ≤ n) (h : a.add? b = some d) :
    d.scale ≤ n := by
  unfold add? at h
  split_ifs at h
  · exact Option.some.inj h ▸ hb
  · exact Option.some.inj h ▸ ha
  · exact (scale_le_of_fitFrom h).trans (max_le ha hb)

theorem significantPlaces_le_scale (d : Decimal) : d.significantPlaces ≤ d.scale := by
  rw [significantPlaces, neededPlaces_le_iff]
  exact Dvd.intro_left _ rfl

/-- Where places that count are dropped, fewer than `n` are left. -/
theorem significantPlaces_of_dropEven (hplaces : (unit s : ℤ) ∣ c * unit n) (hdropped : dropped ≤ s)
    (h : ofParts? (dropEven c dropped) (s - dropped) = some d) : d.significantPlaces ≤ n := by
  by_cases hk : dropped + n ≤ s
  · have hvalue := value_of_dropEven hdropped (unit_dvd_of_places hplaces hk) h
    obtain ⟨k, hk⟩ := hplaces
    refine (significantPlaces_le_iff d n).mpr ⟨k, ?_⟩
    have hq : (c : ℚ) * unit n = unit s * k := by exact_mod_cast hk
    rw [hvalue, div_mul_eq_mul_div, hq, mul_div_cancel_left₀ _ (unit_cast_ne_zero _)]
  · have hscale := (ofParts?_eq_some h).2
    exact (significantPlaces_le_scale d).trans (by omega)

theorem significantPlaces_of_fitFrom (hplaces : (unit s : ℤ) ∣ c * unit n) (hd : dropped + more = s)
    (h : fitFrom c s more dropped = some d) : d.significantPlaces ≤ n := by
  induction more generalizing dropped with
  | zero => exact significantPlaces_of_dropEven hplaces (by omega) h
  | succ more ih =>
      unfold fitFrom at h
      split at h
      · next hparts =>
          cases h
          exact significantPlaces_of_dropEven hplaces (by omega) hparts
      · exact ih (by omega) h

/-- A summand brought to a larger scale has the same places that count. -/
theorem unit_dvd_of_scaled (ha : a.significantPlaces ≤ n) (hs : a.scale ≤ s) :
    (unit s : ℤ) ∣ a.coefficient * unit (s - a.scale) * unit n := by
  obtain ⟨j, rfl⟩ := Nat.exists_eq_add_of_le hs
  have hdvd := (neededPlaces_le_iff a.coefficient a.scale n).mp ha
  rw [Nat.add_sub_cancel_left, unit_add, Nat.cast_mul, mul_right_comm]
  exact mul_dvd_mul_right hdvd _

theorem significantPlaces_of_add? (ha : a.significantPlaces ≤ n) (hb : b.significantPlaces ≤ n)
    (h : a.add? b = some d) : d.significantPlaces ≤ n := by
  unfold add? at h
  split_ifs at h
  · exact Option.some.inj h ▸ hb
  · exact Option.some.inj h ▸ ha
  · refine significantPlaces_of_fitFrom ?_ (Nat.zero_add _) h
    rw [add_mul]
    exact dvd_add (unit_dvd_of_scaled ha (le_max_left _ _))
      (unit_dvd_of_scaled hb (le_max_right _ _))

end Sums

end Crowdlending.Decimal
