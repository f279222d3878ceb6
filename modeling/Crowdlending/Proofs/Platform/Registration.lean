import Crowdlending.Proofs.Platform.Enrolment
import Crowdlending.Proofs.Text.Blank

/-!
# What the existence check tells of a registration

Whoever is going to register can ask beforehand whether the email and the phone number are known.
If nothing happens between the question and the registration, the registration finds the same
reasons, for both look for the same two texts. But they pass over an empty text, and the directory
does not: a phone number of separators alone is stored as the empty text, and only one active user
can have it. The next one is not told of it, and is refused by the directory instead.
-/
namespace Crowdlending.Platform
open Token Account

section Reasons
variable {d : Directory} {kind : Identifier} {value email phone : String}

/-- There is a reason just if the value is known and is not empty. -/
theorem reasonFor_of_known {known : Bool} (h : d.isKnown kind value = .ok known) :
    ∃ reasons, reasonFor d kind value = .ok reasons ∧
      (reasons = [] ↔ value = "" ∨ known = false) := by
  unfold reasonFor
  split
  · next hempty => exact ⟨[], rfl, by simp [String.isEmpty_iff.mp hempty]⟩
  · next hsome =>
      have hvalue : value ≠ "" := fun h => hsome (String.isEmpty_iff.mpr h)
      refine ⟨_, by rw [h]; rfl, ?_⟩
      cases known <;> simp [hvalue]

/-- There are no reasons just if no active user has the email, and none has the phone number or the
phone number is empty. -/
theorem existenceReasons_eq_nil_iff (d : Directory) (hemail : email ≠ "") (phone : String) :
    ∃ reasons, existenceReasons d email phone = .ok reasons ∧
      (reasons = [] ↔ ∀ e ∈ d.entries, e.isActive = true →
        e.user.email ≠ email ∧ (phone ≠ "" → e.user.phoneNumber ≠ phone)) := by
  obtain ⟨byEmail, hbyEmail, hnone⟩ := reasonFor_of_known (rfl : d.isKnown .email email = .ok _)
  obtain ⟨byPhone, hbyPhone, hnone'⟩ :=
    reasonFor_of_known (rfl : d.isKnown .phoneNumber phone = .ok _)
  refine ⟨byEmail ++ byPhone, ?_, ?_⟩
  · simp only [existenceReasons, hbyEmail, hbyPhone]
    rfl
  · simp only [List.append_eq_nil_iff, hnone, hnone', hemail, false_or, List.any_eq_false,
      Bool.and_eq_true, beq_iff_eq, not_and]
    by_cases hphone : phone = ""
    · simp [hphone]
    · simp only [hphone, false_or, ne_eq, not_false_eq_true, true_implies]
      exact ⟨fun h e he hactive => ⟨h.1 e he hactive, h.2 e he hactive⟩,
        fun h => ⟨fun e he hactive => (h e he hactive).1, fun e he hactive => (h e he hactive).2⟩⟩

/-- Where there are no reasons, the directory refuses an empty phone number that is held, and
nothing else. -/
theorem isTaken_iff_of_no_reasons (hfree : ∀ e ∈ d.entries, e.isActive = true →
      e.user.email ≠ email ∧ (phone ≠ "" → e.user.phoneNumber ≠ phone)) :
    d.isTaken email phone = true ↔
      phone = "" ∧ ∃ e ∈ d.entries, e.isActive = true ∧ e.user.phoneNumber = "" := by
  constructor
  · intro htaken
    obtain ⟨e, he, h⟩ := List.any_eq_true.mp htaken
    simp only [Bool.and_eq_true, Bool.or_eq_true, beq_iff_eq] at h
    obtain ⟨hactive, hsame⟩ := h
    obtain ⟨hemail, hphone⟩ := hfree e he hactive
    have hheld : e.user.phoneNumber = phone := hsame.resolve_left hemail
    have hempty : phone = "" := by
      by_contra hsome
      exact hphone hsome hheld
    exact ⟨hempty, e, he, hactive, hheld.trans hempty⟩
  · rintro ⟨rfl, e, he, hactive, hphone⟩
    by_contra hnot
    exact (Directory.isTaken_eq_false_iff.mp (Bool.eq_false_iff.mpr hnot) e he hactive).2 hphone

end Reasons

/-! ## Registering after the checks -/

section Register
variable {s : Setup} {p : Platform} {call : Call} {caller : Option Claims} {r : RegisterRequest}
  {a : Applicant}

/-- A registration that passed the checks ends with the reasons against it, or enters the
applicant. -/
theorem register_of_reasons {reasons : List String}
    (hcheck : checkRegister s.countryCode caller r = .ok a)
    (hreasons : existenceReasons p.users a.email a.phone = .ok reasons) :
    p.register s call caller r =
      if reasons = [] then Enrolment.enter s p call caller a r.password
      else .done p ⟨false, reasons⟩ := by
  cases reasons with
  | nil =>
      simp only [register, hcheck, hreasons, if_true]
      rfl
  | cons reason reasons => simp only [register, hcheck, hreasons, List.cons_ne_nil, if_false]

/-- Only the directory can still refuse, if the cost of hashing is in range. -/
theorem result_enter (hcost : 4 ≤ s.hashCost ∧ s.hashCost ≤ 31) (password : String) :
    (Enrolment.enter s p call caller a password).result =
      if p.users.isTaken a.email a.phone then .error (.failure .userExists)
      else .ok ⟨true, []⟩ := by
  obtain ⟨passwordHash, hhash⟩ : ∃ passwordHash,
      Crypto.Bcrypt.hash s.hashCore call.salt password s.hashCost = .ok passwordHash :=
    ⟨_, if_pos hcost⟩
  simp only [Enrolment.enter, hhash, Directory.create]
  cases p.users.isTaken a.email a.phone <;> rfl

/-- Nothing is wrong with the request itself. -/
structure IsRegistrable (r : RegisterRequest) : Prop where
  name : Text.trimChars r.name.toList ≠ []
  email : isEmailText (Text.trim r.email) = true
  password : checkPassword r.password = .ok ()
  phoneNumber : 4 ≤ (Text.trimChars r.phoneNumber.toList).length

theorem checkPresent_eq_ok_iff {field value : String} :
    checkPresent field value = .ok () ↔ Text.trimChars value.toList ≠ [] := by
  unfold checkPresent
  simp only [List.isEmpty_iff]
  split <;> simp_all

theorem IsRegistrable.checkRegister (h : IsRegistrable r) (country : String) :
    checkRegister country none r = .ok ⟨Text.trim r.name, Text.trim r.email,
      Phone.international country (Text.trim r.phoneNumber), .borrower⟩ := by
  have hphone : Text.trimChars r.phoneNumber.toList ≠ [] := by
    intro hnil
    have := h.phoneNumber
    rw [hnil] at this
    exact absurd this (by decide)
  exact checkRegister_eq_ok_iff.mpr ⟨checkPresent_eq_ok_iff.mpr h.name, h.email,
    checkPresent_eq_ok_iff.mpr hphone, h.password, .borrower, rfl, rfl⟩

theorem ne_empty_of_isEmailText {email : String} (h : isEmailText email = true) : email ≠ "" := by
  rintro rfl
  cases h

/-- The question whether the account exists looks for what the registration will look for. -/
theorem IsRegistrable.userExists (h : IsRegistrable r) {reasons : List String}
    (hreasons : existenceReasons p.users (Text.trim r.email)
      (Phone.international s.countryCode (Text.trim r.phoneNumber)) = .ok reasons) :
    p.userExists s ⟨r.email, r.phoneNumber⟩ = .done p ⟨!reasons.isEmpty, reasons⟩ := by
  have hphone : (Phone.meaningful? (Text.trim r.phoneNumber)).getD "" =
      Text.trim r.phoneNumber := by
    rw [Phone.meaningful?, if_pos (by simpa [Text.trim] using h.phoneNumber), Option.getD_some]
  simp only [Platform.userExists, hphone, String.isEmpty_iff, ne_empty_of_isEmailText h.email,
    h.email, hreasons, false_and, not_true_eq_false, and_false, if_false]

/-- Where there is nobody yet, nobody is in the way. -/
theorem result_register_start (hcost : 4 ≤ s.hashCost ∧ s.hashCost ≤ 31) (capacity : ℕ)
    (hr : IsRegistrable r) :
    ((start capacity).register s call none r).result = .ok ⟨true, []⟩ := by
  obtain ⟨reasons, hreasons, hnone⟩ := existenceReasons_eq_nil_iff (start capacity).users
    (ne_empty_of_isEmailText hr.email) (Phone.international s.countryCode (Text.trim r.phoneNumber))
  obtain rfl : reasons = [] := hnone.mpr fun _ h => by cases h
  rw [register_of_reasons (hr.checkRegister s.countryCode) hreasons, if_pos rfl, result_enter hcost]
  rfl

end Register

/-- Asked about right before a registration that nothing is wrong with, the existence check has an
answer, and the registration finds the same reasons. If there are none it succeeds, unless nothing
is left of its phone number and nothing was left of an active user's: the directory refuses it then.
That nothing is left means that it was typed in separators alone. -/
theorem register_as_foretold (s : Setup) (p : Platform) (call : Call) (r : RegisterRequest)
    (hcost : 4 ≤ s.hashCost ∧ s.hashCost ≤ 31) (hr : IsRegistrable r) :
    let phone := Phone.international s.countryCode (Text.trim r.phoneNumber)
    ∃ reasons, p.userExists s ⟨r.email, r.phoneNumber⟩ = .done p ⟨!reasons.isEmpty, reasons⟩ ∧
      (p.register s call none r).result =
        (if reasons = [] ∧ phone = "" ∧
            ∃ e ∈ p.users.entries, e.isActive = true ∧ e.user.phoneNumber = "" then
          .error (.failure .userExists)
        else .ok ⟨reasons.isEmpty, reasons⟩) ∧
      (s.countryCode ≠ "" →
        (phone = "" ↔ ∀ c ∈ Text.trimChars r.phoneNumber.toList, Phone.isSeparator c = true)) := by
  intro phone
  obtain ⟨reasons, hreasons, hnone⟩ :=
    existenceReasons_eq_nil_iff p.users (ne_empty_of_isEmailText hr.email) phone
  refine ⟨reasons, hr.userExists hreasons, ?_, fun hcountry => ?_⟩
  · rw [register_of_reasons (hr.checkRegister s.countryCode) hreasons]
    by_cases hfound : reasons = []
    · subst hfound
      have htaken := isTaken_iff_of_no_reasons (hnone.mp rfl)
      rw [if_pos rfl, result_enter hcost]
      exact if_congr (htaken.trans (and_iff_right rfl).symm) rfl rfl
    · rw [if_neg hfound, if_neg fun h => hfound h.1, List.isEmpty_eq_false_iff.mpr hfound]
      rfl
  · rw [Phone.international_eq_empty_iff hcountry, Text.trim, String.toList_ofList]

/-- Somebody asks for an account, with an email and a phone number of his choice. -/
def requestBy (email phoneNumber : String) : RegisterRequest :=
  ⟨"Name", email, phoneNumber, "Secret-123", 0⟩

/-- A platform with one account, made with this email and this phone number. -/
def afterOne (email phoneNumber : String) : Platform :=
  (start 4).run Enrolment.plusSetup
    [.account ⟨clock 4, List.replicate 16 0⟩ none (.register (requestBy email phoneNumber))]

/-- The question whether the email is known is answered with the reason that the registration is
refused for. -/
theorem foretold_of_taken_email :
    let p := afterOne "first@example.com" "0811000001"
    let second := requestBy " first@example.com" "0811-000002"
    (4 ≤ Enrolment.plusSetup.hashCost ∧ Enrolment.plusSetup.hashCost ≤ 31) ∧
      IsRegistrable second ∧
      (p.userExists Enrolment.plusSetup ⟨second.email, second.phoneNumber⟩).result =
        .ok ⟨true, ["user with email first@example.com already exist"]⟩ ∧
      (p.register Enrolment.plusSetup ⟨clock 5, List.replicate 16 0⟩ none second).result =
        .ok ⟨false, ["user with email first@example.com already exist"]⟩ := by
  intro p second
  have hcost : 4 ≤ Enrolment.plusSetup.hashCost ∧ Enrolment.plusSetup.hashCost ≤ 31 := by decide
  have hsecond : IsRegistrable second :=
    ⟨by decide +kernel, by decide +kernel, by decide +kernel, by decide +kernel⟩
  have hknown : (p.userExists Enrolment.plusSetup ⟨second.email, second.phoneNumber⟩).result =
      .ok ⟨true, ["user with email first@example.com already exist"]⟩ := by
    decide +kernel
  obtain ⟨reasons, hexists, hregister, -⟩ :=
    register_as_foretold Enrolment.plusSetup p ⟨clock 5, List.replicate 16 0⟩ second hcost hsecond
  rw [hexists] at hknown
  obtain rfl : reasons = ["user with email first@example.com already exist"] :=
    congrArg Existence.reasons (Except.ok.inj hknown)
  exact ⟨hcost, hsecond, by rw [hexists]; rfl, hregister⟩

/-- Two people type nothing but dashes for their phone numbers. The second one is told that nobody
is known by them, and is refused nevertheless. -/
theorem refused_of_dashes :
    let p := afterOne "first@example.com" "----"
    let second := requestBy "second@example.com" "----"
    IsRegistrable second ∧
      (p.userExists Enrolment.plusSetup ⟨second.email, second.phoneNumber⟩).result =
        .ok ⟨false, []⟩ ∧
      (p.register Enrolment.plusSetup ⟨clock 5, List.replicate 16 0⟩ none second).result =
        .error (.failure .userExists) := by
  refine ⟨⟨by decide +kernel, by decide +kernel, by decide +kernel, by decide +kernel⟩, ?_, ?_⟩
  · decide +kernel
  · decide +kernel

end Crowdlending.Platform
