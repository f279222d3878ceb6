import Crowdlending.Proofs.Account.Phone
import Crowdlending.Proofs.Platform.Acceptance
import Crowdlending.Proofs.Settings.Variables

/-!
# What the country's code does to phone numbers

The code that stands for a leading zero has to begin with a plus sign, and nothing else is asked of
it. It is put in as it is, after the separators were taken out. So a code that has separators itself
brings them into the number, and such a number is another one when it is brought to international
form again: who types it as it is stored is not found. For any other code, and for any number
without the zero, the form is final.
-/
namespace Crowdlending.Settings
open Account

/-- The text has none of the separators that people type. -/
def IsFree (s : String) : Prop := ∀ c ∈ s.toList, c ∉ [' ', '-', '.', '_']

theorem isFree_iff {s : String} : IsFree s ↔ ∀ c ∈ s.toList, Phone.isSeparator c = false := by
  simp only [IsFree, Phone.mem_separators_iff, Bool.not_eq_true]

section Country
variable {vars : Variables} {b : Basic}

/-- Whatever settings are accepted: a number in international form is empty or begins with a plus
sign, and depends only on the text without separators. It has no separator, and stays as it is when
it is brought to that form again, just if the country's code has none or is not put in. -/
theorem international_of_settings (hread : read vars = .ok b) (s : String) :
    let number := Phone.international b.countryCode s
    (number = "" ∨ number.toList.head? = some '+') ∧
      (∀ s', Phone.removeSeparators s' = Phone.removeSeparators s →
        Phone.international b.countryCode s' = number) ∧
      (IsFree number ↔
        IsFree b.countryCode ∨ (Phone.removeSeparators s).toList.head? ≠ some '0') ∧
      (Phone.international b.countryCode number = number ↔
        IsFree b.countryCode ∨ (Phone.removeSeparators s).toList.head? ≠ some '0') := by
  have hcountry := (read_eq_ok_iff.mp hread).countryCodeHead
  have hchars (s : String) : (Phone.international b.countryCode s).toList =
      Phone.internationalChars b.countryCode.toList s.toList := String.toList_ofList
  refine ⟨?_, fun s' hsame => ?_, ?_, ?_⟩
  · rw [hchars, ← String.toList_eq_nil_iff, hchars]
    exact Phone.head?_internationalChars hcountry _
  · have hstrip : Phone.strip s'.toList = Phone.strip s.toList := String.ofList_injective hsame
    rw [Phone.international, Phone.internationalChars, hstrip]
    rfl
  · rw [isFree_iff, isFree_iff, hchars, Phone.removeSeparators, String.toList_ofList]
    exact Phone.internationalChars_free_iff _ _
  · rw [isFree_iff, ← String.toList_inj, hchars, hchars, Phone.removeSeparators,
      String.toList_ofList]
    exact Phone.internationalChars_again_iff hcountry _

end Country

/-- With the code of a country in front, the number is what it will stay. -/
theorem international_of_zero :
    read Platform.leastVariables = .ok Platform.leastBasic ∧
      Phone.international "+62" "0812-3456-789" = "+628123456789" ∧ IsFree "+628123456789" ∧
      Phone.international "+62" "0812 3456.789" = "+628123456789" ∧
      Phone.international "+62" "+628123456789" = "+628123456789" := by
  have hnumber : Phone.international "+62" "0812-3456-789" = "+628123456789" := by decide +kernel
  obtain ⟨-, hsame, hfree, hagain⟩ :=
    international_of_settings Platform.read_leastVariables "0812-3456-789"
  have hcode : IsFree "+62" := by simp [IsFree]
  simp only [Platform.leastBasic, hnumber] at hsame hfree hagain
  exact ⟨Platform.read_leastVariables, hnumber, hfree.mpr (.inl hcode), hsame _ (by decide +kernel),
    hagain.mpr (.inl hcode)⟩

/-- The settings with nothing but what is required, and a country's code. -/
def countryVariables (code : String) : Variables :=
  Function.update Platform.leastVariables "DEFAULT_COUNTRY_CODE" (some code)

theorem readTokens_update_country (vars : Variables) (code : Option String) :
    readTokens (Function.update vars "DEFAULT_COUNTRY_CODE" code) = readTokens vars := by
  simp [readTokens, required, duration, optional, Variables.given?]

theorem read_countryVariables : read (countryVariables "+1-684") =
    .ok { Platform.leastBasic with countryCode := "+1-684" } := by
  have htokens : readTokens (countryVariables "+1-684") = .ok Platform.leastTokens :=
    (readTokens_update_country _ _).trans Platform.readTokens_least
  unfold Settings.read
  rw [htokens]
  rfl

/-- A code with a dash is accepted. The dash gets into the number, and does not stay in it. -/
theorem dashed_of_country :
    ∃ b, read (countryVariables "+1-684") = .ok b ∧
      Phone.international b.countryCode "0812" = "+1-684812" ∧ ¬IsFree "+1-684812" ∧
      Phone.international b.countryCode "+1-684812" = "+1684812" := by
  refine ⟨_, read_countryVariables, by decide, fun h => ?_, by decide⟩
  exact h '-' (by decide) (by decide)

end Crowdlending.Settings
