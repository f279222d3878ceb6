import Mathlib.Logic.Function.Basic
import Crowdlending.Proofs.Settings.Accepted
import Crowdlending.Proofs.Settings.Duration

/-!
# What one variable may say

Settings are read variable by variable, and of each only what is given counts: an empty variable is
the same as none. A number, a duration or a switch is accepted just if its text is one, and one that
is not given stands for its default.
-/
namespace Crowdlending.Settings
open Number Text

/-- The variable is set, to more than nothing. -/
def Given (vars : Variables) (name v : String) : Prop := vars name = some v ∧ v ≠ ""

/-- If the number is given, it is a numeral of the range. -/
def NumberIfGiven (vars : Variables) (name : String) (least most : ℕ) : Prop :=
  ∀ v, Given vars name v → ∃ n, Writes (trimChars v.toList) n ∧ least ≤ n ∧ n ≤ most

/-- If the duration is given, its groups last some seconds, and no more than fit into 64 bits. -/
def DurationIfGiven (vars : Variables) (name : String) : Prop :=
  ∀ v, Given vars name v → ∃ n, Lasts (trimChars v.toList) n ∧ 1 ≤ n ∧ n ≤ maxU64

def yesWords : List String := ["true", "1", "yes"]
def noWords : List String := ["false", "0", "no"]

def SaysYes (vars : Variables) (name : String) : Prop :=
  ∃ v, Given vars name v ∧ lowerAscii (trim v) ∈ yesWords

/-- If the switch is given, it is blank or a word for yes or no. -/
def SwitchIfGiven (vars : Variables) (name : String) : Prop :=
  ∀ v, Given vars name v → lowerAscii (trim v) ∈ "" :: (yesWords ++ noWords)

section Variable
variable {vars : Variables} {name v default : String} {n most : ℕ}

theorem given?_eq_some_iff : vars.given? name = some v ↔ Given vars name v := by
  simp [Variables.given?, Given, Option.filter_eq_some_iff]

theorem given?_eq_none_iff : vars.given? name = none ↔ ∀ v, ¬Given vars name v := by
  rw [Option.eq_none_iff_forall_ne_some]
  exact forall_congr' fun v => not_congr given?_eq_some_iff

/-! ## Nothing and none -/

theorem given?_given? (vars : Variables) (name : String) :
    Variables.given? vars.given? name = vars.given? name := by
  simp only [Variables.given?, Option.filter_filter, Bool.and_self]

theorem getD_given? (vars : Variables) (name : String) :
    (vars.given? name).getD "" = (vars name).getD "" := by
  unfold Variables.given?
  cases vars name with
  | none => rfl
  | some v =>
      rw [Option.filter_some]
      split
      · rfl
      · next h => simpa using (String.isEmpty_iff.mp (by simpa using h)).symm

/-- Settings depend on nothing but what is given. -/
theorem read_given? (vars : Variables) : read vars.given? = read vars := by
  have hrequired (name : String) : required vars.given? name = required vars name := by
    rw [required, required, given?_given?]
  have hoptional (name default : String) :
      optional vars.given? name default = optional vars name default := by
    rw [optional, optional, given?_given?]
  have hnumber (name : String) (most default : ℕ) :
      number vars.given? name most default = number vars name most default := by
    rw [number, number, given?_given?]
  have hduration (name default : String) :
      duration vars.given? name default = duration vars name default := by
    rw [duration, duration, hoptional]
  have hboolean (name : String) (default : Bool) :
      boolean vars.given? name default = boolean vars name default := by
    simp only [boolean, getD_given?]
  simp only [read, readTokens, readMail, hrequired, hoptional, hnumber, hduration, hboolean,
    given?_given?, getD_given?]

theorem read_update_empty (vars : Variables) (name : String) :
    read (Function.update vars name (some "")) = read (Function.update vars name none) := by
  have hgiven : Variables.given? (Function.update vars name (some "")) =
      Variables.given? (Function.update vars name none) := by
    funext other
    by_cases h : other = name
    · subst h
      simp [Variables.given?]
    · simp only [Variables.given?, Function.update_of_ne h]
  rw [← read_given?, hgiven, read_given?]

/-! ## One variable -/

theorem required_eq_ok_iff : required vars name = .ok v ↔ Given vars name v := by
  rw [← given?_eq_some_iff, required]
  split
  · next h => rw [h, Except.ok.injEq, Option.some.injEq]
  · next h => simp [h]

theorem forall_given_iff {P : String → Prop} :
    (∀ v, Given vars name v → P v) ↔ ∀ v ∈ vars.given? name, P v :=
  forall_congr' fun _ => imp_congr_left given?_eq_some_iff.symm

theorem number_le {default : ℕ} (hdefault : default ≤ most)
    (h : number vars name most default = .ok n) : n ≤ most := by
  unfold number at h
  split at h
  · exact Except.ok.inj h ▸ hdefault
  · split at h
    · next hm => exact Except.ok.inj h ▸ (readNat_eq_ok_iff.mp hm).2
    · cases h

/-- Where the default is in the range, a number that is not given is. -/
theorem exists_number_iff (most default : ℕ) {least highest : ℕ} (hleast : least ≤ default)
    (hdefault : default ≤ highest) (hmost : highest ≤ most) :
    (∃ n, number vars name most default = .ok n ∧ least ≤ n ∧ n ≤ highest) ↔
      NumberIfGiven vars name least highest := by
  rw [NumberIfGiven, forall_given_iff, number]
  cases vars.given? name with
  | none => exact iff_of_true ⟨default, rfl, hleast, hdefault⟩ (by simp)
  | some v =>
      simp only [Option.mem_some_iff, forall_eq']
      constructor
      · rintro ⟨n, hn, hrange⟩
        split at hn
        · next m hm =>
            cases hn
            exact ⟨n, (readNat_eq_ok_iff.mp hm).1, hrange⟩
        · cases hn
      · rintro ⟨n, hn, hrange⟩
        exact ⟨n, by rw [readNat_eq_ok_iff.mpr ⟨hn, hrange.2.trans hmost⟩], hrange⟩

theorem duration_eq_ok_iff : duration vars name default = .ok n ↔
    readDuration (optional vars name default) = .ok n := by
  unfold duration
  cases readDuration (optional vars name default) <;> simp

theorem exists_duration_iff (name : String) {default : String}
    (hdefault : ∃ n, readDuration default = .ok n) :
    (∃ n, duration vars name default = .ok n) ↔ DurationIfGiven vars name := by
  rw [DurationIfGiven, forall_given_iff]
  simp only [duration_eq_ok_iff, optional]
  cases vars.given? name with
  | none => exact iff_of_true hdefault (by simp)
  | some v => simp only [Option.getD_some, readDuration_eq_ok_iff, Option.mem_some_iff, forall_eq']

/-- The words that are looked at, whether or not the switch is given. -/
theorem switch_iff {on : Bool} : SwitchIfGiven vars name ∧ (on = true ↔ SaysYes vars name) ↔
    lowerAscii (trim ((vars name).getD "")) ∈ "" :: (yesWords ++ noWords) ∧
      (on = true ↔ lowerAscii (trim ((vars name).getD "")) ∈ yesWords) := by
  rw [SwitchIfGiven, SaysYes, forall_given_iff, ← getD_given?]
  simp only [← given?_eq_some_iff]
  cases vars.given? name with
  | none =>
      have hblank : lowerAscii (trim "") = "" := by decide
      rw [Option.getD_none, hblank]
      simp [yesWords]
  | some v => simp

theorem boolean_eq_ok_iff {on : Bool} : boolean vars name false = .ok on ↔
    SwitchIfGiven vars name ∧ (on = true ↔ SaysYes vars name) := by
  rw [switch_iff, boolean]
  generalize lowerAscii (trim ((vars name).getD "")) = w
  simp only [yesWords, noWords, List.mem_cons, List.cons_append, List.nil_append, List.not_mem_nil,
    or_false]
  split_ifs with hnone hyes hno
  · obtain rfl := String.isEmpty_iff.mp hnone
    cases on <;> simp
  · cases on <;> grind
  · cases on <;> grind
  · have hsome : w ≠ "" := fun h => hnone (String.isEmpty_iff.mpr h)
    exact iff_of_false (by simp) (by grind)

end Variable

end Crowdlending.Settings
