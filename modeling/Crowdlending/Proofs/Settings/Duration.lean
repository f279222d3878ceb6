import Mathlib.Algebra.Order.BigOperators.Group.List
import Mathlib.Algebra.Order.Group.Nat
import Crowdlending.Proofs.Number.Numeral
import Crowdlending.Proofs.Settings.Accepted
import Crowdlending.Proofs.Text.Blank

/-!
# What an accepted duration can be

A duration is written as groups, each a number and its unit, one after the other, and in one way
only. It is accepted just if the exact sum of its groups is a number of seconds from one to the
largest of 64 bits, and then it is that sum: the sums in between only grow, so none of them leaves
the range unless the whole does. So what is written after another duration adds to it.
-/
namespace Crowdlending.Settings
open Number Text

inductive TimeUnit where
  | second
  | minute
  | hour
deriving DecidableEq

namespace TimeUnit

def symbol : TimeUnit → Char
  | second => 's'
  | minute => 'm'
  | hour => 'h'

def seconds : TimeUnit → ℕ
  | second => 1
  | minute => 60
  | hour => 3600

theorem unitSeconds?_symbol (u : TimeUnit) : unitSeconds? u.symbol = some u.seconds := by
  cases u <;> rfl

theorem exists_of_unitSeconds? {c : Char} {n : ℕ} (h : unitSeconds? c = some n) :
    ∃ u : TimeUnit, u.symbol = c ∧ u.seconds = n := by
  unfold unitSeconds? at h
  split at h <;> cases h
  · exact ⟨second, rfl, rfl⟩
  · exact ⟨minute, rfl, rfl⟩
  · exact ⟨hour, rfl, rfl⟩

theorem digit?_symbol (u : TimeUnit) : digit? u.symbol = none := by
  cases u <;> rfl

theorem isDigit_symbol (u : TimeUnit) : u.symbol.isDigit = false := by
  cases u <;> rfl

theorem symbol_injective {u v : TimeUnit} (h : u.symbol = v.symbol) : u = v := by
  cases u <;> cases v <;> first | rfl | exact absurd h (by decide)

end TimeUnit

/-- A number and its unit. -/
structure Group where
  digits : List Char
  unit : TimeUnit
  isDigits : IsDigits digits

namespace Group

def text (g : Group) : List Char := g.digits ++ [g.unit.symbol]

def seconds (g : Group) : ℕ := Nat.ofDigitChars 10 g.digits 0 * g.unit.seconds

theorem not_isBlank_of_mem_text {g : Group} {c : Char} (h : c ∈ g.text) : isBlank c = false := by
  rcases List.mem_append.mp h with h | h
  · exact not_isBlank_of_isDigit (g.isDigits.all c h)
  · rw [List.mem_singleton.mp h]
    cases g.unit <;> rfl

theorem takeWhile_text (g : Group) (rest : List Char) :
    (g.text ++ rest).takeWhile Char.isDigit = g.digits := by
  rw [text, List.append_assoc, List.takeWhile_append_of_pos g.isDigits.all, List.singleton_append,
    List.takeWhile_cons_of_neg (by simp [g.unit.isDigit_symbol]), List.append_nil]

/-- The digits of a group end where its unit stands. -/
theorem append_text_inj {g h : Group} {r s : List Char} (heq : g.text ++ r = h.text ++ s) :
    g = h ∧ r = s := by
  have hdigits : g.digits = h.digits := by
    rw [← g.takeWhile_text r, heq, h.takeWhile_text]
  rw [text, text, hdigits, List.append_assoc, List.append_assoc, List.append_cancel_left_eq] at heq
  obtain ⟨hsymbol, hrest⟩ := List.cons_eq_cons.mp heq
  have hunit := TimeUnit.symbol_injective hsymbol
  cases g
  cases h
  cases hdigits
  cases hunit
  exact ⟨rfl, hrest⟩

/-- A text is written in groups in one way only. -/
theorem flatMap_text_injective {groups others : List Group}
    (h : groups.flatMap text = others.flatMap text) : groups = others := by
  induction groups generalizing others with
  | nil =>
      cases others with
      | nil => rfl
      | cons g others => simp [text] at h
  | cons g groups ih =>
      cases others with
      | nil => simp [text] at h
      | cons g' others =>
          obtain ⟨hgroup, hrest⟩ := append_text_inj h
          rw [hgroup, ih hrest]

end Group

/-- The text is written in groups, which last so many seconds together. -/
def Lasts (s : List Char) (n : ℕ) : Prop :=
  ∃ groups : List Group, s = groups.flatMap Group.text ∧ n = (groups.map Group.seconds).sum

section Groups
variable {text : String} {total n : ℕ} {digits rest : List Char}

/-- Digits are put aside until their unit comes. -/
theorem readGroups_digits {ds : List Char} (hds : ∀ c ∈ ds, c.isDigit = true) :
    readGroups text total digits (ds ++ rest) =
      readGroups text total (ds.reverse ++ digits) rest := by
  induction ds generalizing digits with
  | nil => rfl
  | cons c ds ih =>
      have hc := isSome_digit?_iff.mpr (hds c List.mem_cons_self)
      rw [List.cons_append, readGroups, if_pos hc, ih fun a ha => hds a (List.mem_cons_of_mem _ ha),
        List.reverse_cons, List.append_assoc]
      rfl

/-- A group adds what it lasts, as long as the sum stays in range. -/
theorem readGroups_group (g : Group) (hgroup : g.seconds ≤ maxU64) :
    readGroups text total [] (g.text ++ rest) =
      if total + g.seconds ≤ maxU64 then readGroups text (total + g.seconds) [] rest
      else .error (.overflow text) := by
  have hunit : 0 < g.unit.seconds := by cases g.unit <;> decide
  have hnumber : Nat.ofDigitChars 10 g.digits 0 ≤ g.seconds := Nat.le_mul_of_pos_right _ hunit
  have hread : readNat maxU64 g.digits = .ok (Nat.ofDigitChars 10 g.digits 0) :=
    g.isDigits.readNat_eq_ok_iff.mpr ⟨rfl, hnumber.trans hgroup⟩
  rw [Group.text, List.append_assoc, readGroups_digits g.isDigits.all, List.append_nil,
    List.singleton_append, readGroups, g.unit.digit?_symbol, g.unit.unitSeconds?_symbol,
    List.reverse_reverse, hread]
  change (if g.seconds ≤ maxU64 ∧ total + g.seconds ≤ maxU64 then _ else _) = _
  simp only [hgroup, true_and]
  rfl

/-- What is read begins with the digits put aside, and each unit closes the group of the digits
before it: the sum so far and the groups still to come make up the result. -/
theorem groups_of_readGroups (htotal : total ≤ maxU64) (hdigits : ∀ c ∈ digits, c.isDigit = true)
    (h : readGroups text total digits rest = .ok n) :
    1 ≤ n ∧ n ≤ maxU64 ∧ ∃ groups : List Group, digits.reverse ++ rest = groups.flatMap Group.text ∧
      n = total + (groups.map Group.seconds).sum := by
  induction rest generalizing total digits with
  | nil =>
      unfold readGroups at h
      split_ifs at h with hnone hzero
      cases h
      have hnil : digits = [] := by simpa using hnone
      exact ⟨Nat.one_le_iff_ne_zero.mpr hzero, htotal, [], by rw [hnil]; rfl, rfl⟩
  | cons c rest ih =>
      unfold readGroups at h
      split at h
      · next hc =>
          have hmore : ∀ a ∈ c :: digits, a.isDigit = true := by
            intro a ha
            rcases List.mem_cons.mp ha with rfl | ha
            · exact isSome_digit?_iff.mp hc
            · exact hdigits a ha
          obtain ⟨hleast, hmost, groups, hgroups, hsum⟩ := ih htotal hmore h
          rw [List.reverse_cons, List.append_assoc, List.singleton_append] at hgroups
          exact ⟨hleast, hmost, groups, hgroups, hsum⟩
      · split at h
        · cases h
        · next unit hunit =>
            obtain ⟨u, rfl, rfl⟩ := TimeUnit.exists_of_unitSeconds? hunit
            split at h
            · cases h
            · next number hread =>
                split at h
                · next hfits =>
                    have hgroup : IsDigits digits.reverse :=
                      isDigits_of_readNat hread fun a ha => hdigits a (List.mem_reverse.mp ha)
                    obtain ⟨rfl, -⟩ := hgroup.readNat_eq_ok_iff.mp hread
                    obtain ⟨hleast, hmost, groups, hgroups, hsum⟩ :=
                      ih hfits.2 (fun a ha => by cases ha) h
                    refine ⟨hleast, hmost, ⟨digits.reverse, u, hgroup⟩ :: groups, ?_, ?_⟩
                    · rw [List.flatMap_cons, ← hgroups, Group.text, List.append_assoc]
                      rfl
                    · rw [List.map_cons, List.sum_cons, ← Nat.add_assoc]
                      exact hsum
                · cases h

theorem readGroups_groups (groups : List Group)
    (hleast : 1 ≤ total + (groups.map Group.seconds).sum)
    (hmost : total + (groups.map Group.seconds).sum ≤ maxU64) :
    readGroups text total [] (groups.flatMap Group.text) =
      .ok (total + (groups.map Group.seconds).sum) := by
  induction groups generalizing total with
  | nil =>
      have hpos : total ≠ 0 := Nat.one_le_iff_ne_zero.mp hleast
      simp [readGroups, hpos]
  | cons g groups ih =>
      rw [List.map_cons, List.sum_cons, ← Nat.add_assoc] at hleast hmost ⊢
      rw [List.flatMap_cons, readGroups_group g (by omega), if_pos (by omega), ih hleast hmost]

/-- Where each group is in range and their sum is not, the sum leaves it at some group. -/
theorem readGroups_overflow (groups : List Group) (heach : ∀ g ∈ groups, g.seconds ≤ maxU64)
    (htotal : total ≤ maxU64) (hmore : maxU64 < total + (groups.map Group.seconds).sum) :
    readGroups text total [] (groups.flatMap Group.text) = .error (.overflow text) := by
  induction groups generalizing total with
  | nil => exact absurd htotal (Nat.not_le.mpr hmore)
  | cons g groups ih =>
      rw [List.map_cons, List.sum_cons, ← Nat.add_assoc] at hmore
      rw [List.flatMap_cons, readGroups_group g (heach g List.mem_cons_self)]
      split
      · next hfits => exact ih (fun a ha => heach a (List.mem_cons_of_mem _ ha)) hfits hmore
      · rfl

end Groups

section Read
variable {n : ℕ}

/-- A duration is what its groups last, if that is in range. -/
theorem readDuration_eq_ok_iff {s : String} :
    readDuration s = .ok n ↔ Lasts (trimChars s.toList) n ∧ 1 ≤ n ∧ n ≤ maxU64 := by
  have htext : (trim s).toList = trimChars s.toList := String.toList_ofList
  have hempty : (trim s).isEmpty = true ↔ trimChars s.toList = [] := by
    rw [String.isEmpty_iff, ← String.toList_eq_nil_iff, htext]
  simp only [readDuration, htext]
  split
  · next hnone =>
      refine iff_of_false (by simp) ?_
      rintro ⟨⟨groups, hgroups, rfl⟩, hleast, -⟩
      rw [hempty.mp hnone] at hgroups
      cases groups with
      | nil => cases hleast
      | cons g groups => simp [Group.text] at hgroups
  · constructor
    · intro h
      obtain ⟨hleast, hmost, groups, hgroups, hsum⟩ :=
        groups_of_readGroups (Nat.zero_le _) (fun c hc => by cases hc) h
      exact ⟨⟨groups, hgroups, hsum.trans (Nat.zero_add _)⟩, hleast, hmost⟩
    · rintro ⟨⟨groups, hgroups, rfl⟩, hleast, hmost⟩
      rw [hgroups, readGroups_groups groups (by omega) (by omega), Nat.zero_add]

theorem mem_range_of_duration {vars : Variables} {name default : String}
    (h : duration vars name default = .ok n) : 1 ≤ n ∧ n ≤ maxU64 := by
  unfold duration at h
  split at h
  · next hread =>
      cases h
      exact (readDuration_eq_ok_iff.mp hread).2
  · cases h

/-- What is written in groups is read group by group. -/
theorem readDuration_of_groups {s : String} {groups : List Group} (hsome : groups ≠ [])
    (hgroups : trimChars s.toList = groups.flatMap Group.text) :
    readDuration s = readGroups (trim s) 0 [] (groups.flatMap Group.text) := by
  have htext : (trim s).toList = groups.flatMap Group.text := String.toList_ofList.trans hgroups
  have hempty : ¬(trim s).isEmpty = true := by
    rw [String.isEmpty_iff, ← String.toList_eq_nil_iff, htext]
    obtain ⟨g, rest, rfl⟩ := List.exists_cons_of_ne_nil hsome
    simp [Group.text]
  simp only [readDuration, if_neg hempty, htext]

/-- Written one after the other, durations add up. -/
theorem readDuration_append {s t : String} {m : ℕ} (hs : trimChars s.toList = s.toList)
    (ht : trimChars t.toList = t.toList) (hm : readDuration s = .ok m)
    (hn : readDuration t = .ok n) :
    readDuration (s ++ t) =
      if m + n ≤ maxU64 then .ok (m + n) else .error (.overflow (s ++ t)) := by
  obtain ⟨⟨groups, hgroups, hsum⟩, hleast, hmost⟩ := readDuration_eq_ok_iff.mp hm
  obtain ⟨⟨others, hothers, hsum'⟩, -, hmost'⟩ := readDuration_eq_ok_iff.mp hn
  have htext : (s ++ t).toList = (groups ++ others).flatMap Group.text := by
    rw [String.toList_append, ← hs, ← ht, hgroups, hothers, List.flatMap_append]
  have htrim : trimChars (s ++ t).toList = (s ++ t).toList := by
    refine trimChars_of_not_blank fun c hc => ?_
    rw [htext] at hc
    obtain ⟨g, -, hmem⟩ := List.mem_flatMap.mp hc
    exact Group.not_isBlank_of_mem_text hmem
  have htotal : ((groups ++ others).map Group.seconds).sum = m + n := by
    rw [List.map_append, List.sum_append, hsum, hsum']
  have hsome : groups ++ others ≠ [] := by
    intro hnil
    rw [hnil] at htotal
    exact absurd (htotal.symm.le) (by simp; omega)
  have heach : ∀ g ∈ groups ++ others, g.seconds ≤ maxU64 := by
    intro g hg
    rcases List.mem_append.mp hg with hg | hg
    · exact (List.le_sum_of_mem (List.mem_map_of_mem hg)).trans (hsum ▸ hmost)
    · exact (List.le_sum_of_mem (List.mem_map_of_mem hg)).trans (hsum' ▸ hmost')
  have hwhole : trim (s ++ t) = s ++ t := by
    rw [trim, htrim, String.ofList_toList]
  rw [readDuration_of_groups hsome (htrim.trans htext), hwhole]
  split
  · next hfits =>
      rw [readGroups_groups _ (by omega) (by omega), htotal, Nat.zero_add]
  · next hmore =>
      exact readGroups_overflow _ heach (Nat.zero_le _) (by omega)

end Read

/-- A duration is read just if it is written in groups that last from one second to the most of 64
bits together, and then it is what they last. There is one way only to take a text as groups. Two
durations written one after the other last their sum, unless that is out of range. -/
theorem readDuration_exactly :
    (∀ s n, readDuration s = .ok n ↔ ∃ groups : List Group, groups ≠ [] ∧
      trimChars s.toList = groups.flatMap Group.text ∧
        n = (groups.map Group.seconds).sum ∧ 1 ≤ n ∧ n ≤ 2 ^ 64 - 1) ∧
      (∀ groups others : List Group,
        groups.flatMap Group.text = others.flatMap Group.text → groups = others) ∧
      ∀ s t m n, trimChars s.toList = s.toList → trimChars t.toList = t.toList →
        readDuration s = .ok m → readDuration t = .ok n → readDuration (s ++ t) =
          if m + n ≤ 2 ^ 64 - 1 then .ok (m + n) else .error (.overflow (s ++ t)) := by
  refine ⟨fun s n => ?_, fun groups others => Group.flatMap_text_injective,
    fun s t m n => readDuration_append⟩
  rw [readDuration_eq_ok_iff]
  constructor
  · rintro ⟨⟨groups, hgroups, hsum⟩, hleast, hmost⟩
    refine ⟨groups, ?_, hgroups, hsum, hleast, hmost⟩
    rintro rfl
    exact absurd hleast (by simp [hsum])
  · rintro ⟨groups, -, hgroups, hsum, hleast, hmost⟩
    exact ⟨⟨groups, hgroups, hsum⟩, hleast, hmost⟩

/-- An hour and a half and a quarter of a minute; and a second more than the most. -/
theorem readDuration_exactly_of_short :
    readDuration "1h30m" = .ok 5400 ∧ readDuration "15s" = .ok 15 ∧
      readDuration ("1h30m" ++ "15s") = .ok 5415 ∧
      readDuration ("18446744073709551615s" ++ "15s") =
        .error (.overflow "18446744073709551615s15s") := by
  have hlong : readDuration "1h30m" = .ok 5400 := by decide
  have hshort : readDuration "15s" = .ok 15 := by decide
  have hmost : readDuration "18446744073709551615s" = .ok (2 ^ 64 - 1) := by decide
  obtain ⟨-, -, hadd⟩ := readDuration_exactly
  refine ⟨hlong, hshort, ?_, ?_⟩
  · rw [hadd _ _ _ _ (by decide) (by decide) hlong hshort]
    rfl
  · rw [hadd _ _ _ _ (by decide) (by decide) hmost hshort]
    rfl

end Crowdlending.Settings
