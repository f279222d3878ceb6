import Mathlib.Data.Nat.Digits.Defs
import Crowdlending.Number.Numeral
import Crowdlending.Proofs.Result

/-!
# Numbers and their digits

Digits are read one by one, and a number that leaves its range is refused at the digit where it
does. A number only grows by the digits that follow, so nothing is refused that comes back into the
range: what is read is every numeral whose number lies in the range.
-/
namespace Crowdlending.Number

theorem digit?_of_isDigit {c : Char} (h : c.isDigit = true) : digit? c = some (c.toNat - 48) := by
  simp only [Char.isDigit, Bool.and_eq_true, decide_eq_true_eq] at h
  exact if_pos ⟨h.1, h.2⟩

theorem digit?_eq_some_iff {c : Char} {d : ℕ} :
    digit? c = some d ↔ c.isDigit = true ∧ c.toNat - 48 = d := by
  constructor
  · intro h
    unfold digit? at h
    split at h
    · next hrange =>
        refine ⟨?_, Option.some.inj h⟩
        simp only [Char.isDigit, Bool.and_eq_true, decide_eq_true_eq]
        exact hrange
    · cases h
  · rintro ⟨hc, rfl⟩
    exact digit?_of_isDigit hc

theorem isSome_digit?_iff {c : Char} : (digit? c).isSome = true ↔ c.isDigit = true := by
  simp [Option.isSome_iff_exists, digit?_eq_some_iff]

theorem le_ofDigitChars (ds : List Char) (n : ℕ) : n ≤ Nat.ofDigitChars 10 ds n := by
  rw [Nat.ofDigitChars_eq_ofDigitChars_zero]
  exact (Nat.le_mul_of_pos_left n (Nat.pow_pos (by decide))).trans (Nat.le_add_right _ _)

/-- One digit at least, and nothing else. -/
structure IsDigits (s : List Char) : Prop where
  all : ∀ c ∈ s, c.isDigit = true
  ne_nil : s ≠ []

/-- The text is the number in digits, with a plus sign before them at most. -/
def Writes (s : List Char) (n : ℕ) : Prop :=
  ∃ ds, IsDigits ds ∧ (s = ds ∨ s = '+' :: ds) ∧ Nat.ofDigitChars 10 ds 0 = n

/-- The text is the number in digits, with a sign before them at most. -/
inductive WritesInt : List Char → Int → Prop where
  | nonneg {s n} (h : Writes s n) : WritesInt s n
  | negative {ds} (h : IsDigits ds) : WritesInt ('-' :: ds) (-(Nat.ofDigitChars 10 ds 0 : ℕ))

section Digits
variable {limit acc n : ℕ} {beyond : NumeralFault} {s ds : List Char}

/-- Digits are read on as long as their number stays within the limit. -/
theorem readDigits_digits (beyond : NumeralFault) (hds : ∀ c ∈ ds, c.isDigit = true)
    (hfit : Nat.ofDigitChars 10 ds n ≤ limit) :
    readDigits limit beyond n ds = .ok (Nat.ofDigitChars 10 ds n) := by
  induction ds generalizing n with
  | nil => rfl
  | cons c ds ih =>
      have hc := digit?_of_isDigit (hds c List.mem_cons_self)
      rw [Nat.ofDigitChars_cons, Nat.mul_comm 10] at hfit ⊢
      change Nat.ofDigitChars 10 ds (n * 10 + (c.toNat - 48)) ≤ limit at hfit
      have hnext : n * 10 + (c.toNat - 48) ≤ limit := (le_ofDigitChars ds _).trans hfit
      rw [readDigits, hc]
      simp only [if_pos hnext]
      exact ih (fun a ha => hds a (List.mem_cons_of_mem _ ha)) hfit

theorem digits_of_readDigits (h : readDigits limit beyond acc ds = .ok n) :
    (∀ c ∈ ds, c.isDigit = true) ∧ Nat.ofDigitChars 10 ds acc = n := by
  induction ds generalizing acc with
  | nil =>
      cases h
      exact ⟨fun c hc => (by cases hc), rfl⟩
  | cons c ds ih =>
      rw [readDigits] at h
      split at h
      · cases h
      · next d hd =>
          split at h
          · obtain ⟨hds, hvalue⟩ := ih h
            obtain ⟨hc, rfl⟩ := digit?_eq_some_iff.mp hd
            refine ⟨fun a ha => ?_, ?_⟩
            · rcases List.mem_cons.mp ha with rfl | ha
              · exact hc
              · exact hds a ha
            · rw [Nat.ofDigitChars_cons, Nat.mul_comm 10]
              exact hvalue
          · cases h

theorem readMagnitude_eq_ok_iff :
    readMagnitude limit beyond s = .ok n ↔
      IsDigits s ∧ Nat.ofDigitChars 10 s 0 = n ∧ n ≤ limit := by
  unfold readMagnitude
  split
  · exact iff_of_false (by simp) fun h => h.1.ne_nil rfl
  · next hne =>
      constructor
      · intro h
        obtain ⟨hds, hvalue⟩ := digits_of_readDigits h
        exact ⟨⟨hds, hne⟩, hvalue, readDigits_le (Nat.zero_le _) h⟩
      · rintro ⟨hs, rfl, hle⟩
        exact readDigits_digits beyond hs.all hle

end Digits

section Read
variable {limit n : ℕ} {s ds : List Char}

theorem IsDigits.not_plus (h : IsDigits ('+' :: ds)) : False :=
  absurd (h.all '+' List.mem_cons_self) (by decide)

/-- Every numeral whose number is within the limit is read, and nothing else. -/
theorem readNat_eq_ok_iff : readNat limit s = .ok n ↔ Writes s n ∧ n ≤ limit := by
  unfold readNat
  split
  · refine iff_of_false (by simp) ?_
    rintro ⟨⟨ds, hds, hs | hs, -⟩, -⟩
    · exact hds.ne_nil hs.symm
    · cases hs
  · next ds =>
      rw [readMagnitude_eq_ok_iff]
      constructor
      · rintro ⟨hds, hvalue, hle⟩
        exact ⟨⟨ds, hds, .inr rfl, hvalue⟩, hle⟩
      · rintro ⟨⟨ds', hds, hs | hs, hvalue⟩, hle⟩
        · exact (hs ▸ hds).not_plus.elim
        · cases hs
          exact ⟨hds, hvalue, hle⟩
  · next hplus =>
      rw [readMagnitude_eq_ok_iff]
      constructor
      · rintro ⟨hds, hvalue, hle⟩
        exact ⟨⟨s, hds, .inl rfl, hvalue⟩, hle⟩
      · rintro ⟨⟨ds, hds, hs | hs, hvalue⟩, hle⟩
        · exact ⟨hs ▸ hds, hs ▸ hvalue, hle⟩
        · exact (hplus _ hs).elim

theorem IsDigits.readNat_eq_ok_iff (h : IsDigits s) :
    readNat limit s = .ok n ↔ Nat.ofDigitChars 10 s 0 = n ∧ n ≤ limit := by
  rw [Number.readNat_eq_ok_iff]
  refine and_congr_left fun _ => ⟨?_, fun hvalue => ⟨s, h, .inl rfl, hvalue⟩⟩
  rintro ⟨ds, -, rfl | rfl, hvalue⟩
  · exact hvalue
  · exact h.not_plus.elim

theorem isDigits_of_readNat (h : readNat limit s = .ok n) (hs : ∀ c ∈ s, c.isDigit = true) :
    IsDigits s := by
  refine ⟨hs, ?_⟩
  rintro rfl
  cases h

/-- Without a minus sign the number is read as one from zero on. -/
theorem readInt64_eq_map (h : ∀ ds, s ≠ '-' :: ds) :
    readInt64 s = (readNat maxI64 s).map Int.ofNat := by
  unfold readInt64
  split
  · rfl
  · next ds => exact (h ds rfl).elim
  · rfl
  · next hnil hminus hplus => rw [readNat.eq_3 _ _ hnil hplus]

theorem readInt64_minus {n : Int} : readInt64 ('-' :: ds) = .ok n ↔
    IsDigits ds ∧ n = -(Nat.ofDigitChars 10 ds 0 : ℕ) ∧ Nat.ofDigitChars 10 ds 0 ≤ maxI64 + 1 := by
  rw [readInt64, Result.map_eq_ok]
  constructor
  · rintro ⟨_, hmagnitude, rfl⟩
    obtain ⟨m, hread, hm⟩ := Result.bind_eq_ok.mp hmagnitude
    cases hm
    obtain ⟨hds, rfl, hle⟩ := readMagnitude_eq_ok_iff.mp hread
    exact ⟨hds, rfl, hle⟩
  · rintro ⟨hds, rfl, hle⟩
    exact ⟨_, Result.bind_eq_ok.mpr ⟨_, readMagnitude_eq_ok_iff.mpr ⟨hds, rfl, hle⟩, rfl⟩, rfl⟩

/-- Every numeral whose number has 64 bits is read, and nothing else. -/
theorem readInt64_eq_ok_iff {n : Int} :
    readInt64 s = .ok n ↔ WritesInt s n ∧ -(maxI64 + 1) ≤ n ∧ n ≤ maxI64 := by
  by_cases h : ∃ ds, s = '-' :: ds
  · obtain ⟨ds, rfl⟩ := h
    rw [readInt64_minus]
    constructor
    · rintro ⟨hds, rfl, hle⟩
      exact ⟨.negative hds, by omega, by omega⟩
    · rintro ⟨hwrites, hleast, -⟩
      cases hwrites with
      | negative hds => exact ⟨hds, rfl, by omega⟩
      | nonneg hwrites =>
          obtain ⟨ds', hds, hs | hs, -⟩ := hwrites
          · exact absurd (hds.all '-' (hs ▸ List.mem_cons_self)) (by decide)
          · cases hs
  · rw [readInt64_eq_map fun ds hs => h ⟨ds, hs⟩, Result.map_eq_ok]
    constructor
    · rintro ⟨m, hread, rfl⟩
      obtain ⟨hwrites, hle⟩ := readNat_eq_ok_iff.mp hread
      exact ⟨.nonneg hwrites, by simp; omega, by simpa using hle⟩
    · rintro ⟨hwrites, -, hmost⟩
      cases hwrites with
      | negative => exact (h ⟨_, rfl⟩).elim
      | nonneg hwrites => exact ⟨_, readNat_eq_ok_iff.mpr ⟨hwrites, by omega⟩, rfl⟩

theorem readInt64_toDigits (h : n ≤ maxI64) :
    readInt64 (Nat.toDigits 10 n) = .ok (n : Int) := by
  have hdigits : IsDigits (Nat.toDigits 10 n) :=
    ⟨fun c hc => Nat.isDigit_of_mem_toDigits (by decide) (by decide) hc, Nat.toDigits_ne_nil⟩
  exact readInt64_eq_ok_iff.mpr
    ⟨.nonneg ⟨_, hdigits, .inl rfl, Nat.ofDigitChars_ten_toDigits⟩, by omega, by omega⟩

/-- A number without a sign that is read fits into 63 bits. -/
theorem le_of_readInt64 (h : readInt64 s = .ok (n : Int)) : n ≤ maxI64 :=
  Int.ofNat_le.mp (readInt64_eq_ok_iff.mp h).2.2

end Read

end Crowdlending.Number
