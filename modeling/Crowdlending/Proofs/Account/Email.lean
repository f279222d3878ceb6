import Mathlib.Logic.ExistsUnique
import Crowdlending.Account.Email
import Crowdlending.Proofs.Text.Cut

/-!
# What an email address is

An email address is written as a local part, an at sign and the labels of a domain with points
between them. None of these is empty, none has white space or an at sign in it, and there are two
labels at least. The at sign and the points tell the parts, so an address is read in one way only.
-/
namespace Crowdlending.Account
open Text

/-- Something without white space and without an at sign. -/
structure IsEmailPart (s : List Char) : Prop where
  ne_nil : s ≠ []
  not_mem : '@' ∉ s
  shown : ∀ c ∈ s, isBlank c = false

structure EmailAddress where
  localPart : List Char
  /-- Those of the domain. -/
  labels : List (List Char)
  isPart : IsEmailPart localPart
  areParts : ∀ l ∈ labels, IsEmailPart l
  areLabels : ∀ l ∈ labels, '.' ∉ l
  dotted : 2 ≤ labels.length

namespace EmailAddress

def domain (a : EmailAddress) : List Char := ['.'].intercalate a.labels

def text (a : EmailAddress) : List Char := a.localPart ++ '@' :: a.domain

theorem cut_domain (a : EmailAddress) : cut '.' a.domain = a.labels :=
  have hpos : 0 < a.labels.length := Nat.lt_of_lt_of_le Nat.zero_lt_two a.dotted
  cut_intercalate (List.ne_nil_of_length_pos hpos) a.areLabels

theorem not_mem_domain (a : EmailAddress) : '@' ∉ a.domain := by
  rw [domain, mem_intercalate_iff]
  rintro (⟨hpoint, -⟩ | ⟨l, hl, hmem⟩)
  · exact absurd hpoint (by decide)
  · exact (a.areParts l hl).not_mem hmem

theorem mem_domain (a : EmailAddress) : '.' ∈ a.domain :=
  mem_intercalate_iff.mpr (.inl ⟨rfl, a.dotted⟩)

theorem shown (a : EmailAddress) : ∀ c ∈ a.text, isBlank c = false := by
  intro c hc
  rcases List.mem_append.mp hc with hc | hc
  · exact a.isPart.shown c hc
  · rcases List.mem_cons.mp hc with rfl | hc
    · rfl
    · rcases mem_intercalate_iff.mp hc with ⟨rfl, -⟩ | ⟨l, hl, hc⟩
      · rfl
      · exact (a.areParts l hl).shown c hc

theorem cutFirst_text (a : EmailAddress) : cutFirst '@' a.text = some (a.localPart, a.domain) :=
  cutFirst_eq_some_iff.mpr ⟨rfl, a.isPart.not_mem⟩

theorem text_injective {a b : EmailAddress} (h : a.text = b.text) : a = b := by
  have hcut := a.cutFirst_text
  rw [h, b.cutFirst_text] at hcut
  obtain ⟨hlocal, hdomain⟩ := Prod.mk.inj (Option.some.inj hcut)
  have hlabels : b.labels = a.labels := by
    rw [← a.cut_domain, ← b.cut_domain, hdomain]
  cases a
  cases b
  cases hlocal
  cases hlabels
  rfl

end EmailAddress

theorem isEmail_text (a : EmailAddress) : isEmail a.text = true := by
  have hblank : a.text.any isBlank = false := by
    simpa using a.shown
  have hlabels : a.labels.all (fun l => !l.isEmpty) = true := by
    simpa using fun l hl => (a.areParts l hl).ne_nil
  have hlocal := a.isPart.ne_nil
  have hat := a.not_mem_domain
  have hpoint := a.mem_domain
  simp [isEmail, a.cutFirst_text, hblank, a.cut_domain, hlabels, hlocal, hat, hpoint]

/-- What is taken for an email is the text of an address. -/
theorem exists_address_of_isEmail {s : List Char} (h : isEmail s = true) :
    ∃ a : EmailAddress, s = a.text := by
  unfold isEmail at h
  split at h
  · cases h
  · next localPart domain hcut =>
      obtain ⟨rfl, hfree⟩ := cutFirst_eq_some hcut
      simp only [Bool.and_eq_true, Bool.not_eq_true', Bool.or_eq_false_iff, List.all_eq_true,
        List.contains_iff_mem, List.any_eq_false, List.isEmpty_eq_false_iff] at h
      obtain ⟨⟨⟨⟨hlocal, hat⟩, hblank⟩, hpoint⟩, hlabels⟩ := h
      have hdomain : ['.'].intercalate (cut '.' domain) = domain := intercalate_cut '.' domain
      have hmem : ∀ l ∈ cut '.' domain, ∀ c ∈ l, c ∈ domain := fun l hl c hc =>
        hdomain ▸ mem_intercalate_iff.mpr (.inr ⟨l, hl, hc⟩)
      have hshown : ∀ c ∈ localPart ++ '@' :: domain, isBlank c = false := fun c hc =>
        Bool.eq_false_iff.mpr (hblank c hc)
      have hpart : IsEmailPart localPart :=
        ⟨hlocal, hfree, fun c hc => hshown c (List.mem_append_left _ hc)⟩
      have hparts : ∀ l ∈ cut '.' domain, IsEmailPart l := fun l hl => by
        refine ⟨hlabels l hl, fun hc => ?_, fun c hc => ?_⟩
        · exact absurd (hmem l hl _ hc) (by simpa using hat)
        · exact hshown c (List.mem_append_right _ (List.mem_cons_of_mem _ (hmem l hl c hc)))
      have htwo : 2 ≤ (cut '.' domain).length := by
        rw [← hdomain] at hpoint
        rcases mem_intercalate_iff.mp hpoint with ⟨-, htwo⟩ | ⟨l, hl, hc⟩
        · exact htwo
        · exact absurd hc (not_mem_of_mem_cut hl)
      exact ⟨⟨localPart, cut '.' domain, hpart, hparts, fun l hl => not_mem_of_mem_cut hl, htwo⟩,
        congrArg (fun d => localPart ++ '@' :: d) hdomain.symm⟩

theorem mem_at_of_isEmailText {s : String} (h : isEmailText s = true) : '@' ∈ s.toList := by
  obtain ⟨a, ha⟩ := exists_address_of_isEmail h
  rw [ha]
  exact List.mem_append_right _ List.mem_cons_self

theorem mem_of_isEmailText {s : String} (h : isEmailText s = true) : '.' ∈ s.toList := by
  obtain ⟨a, ha⟩ := exists_address_of_isEmail h
  rw [ha]
  exact List.mem_append_right _ (List.mem_cons_of_mem _ a.mem_domain)

/-- A text is an email just if it is the text of an address, and then it is that of one only. -/
theorem isEmailText_iff (s : String) :
    isEmailText s = true ↔ ∃! a : EmailAddress, s.toList = a.text := by
  constructor
  · intro h
    obtain ⟨a, ha⟩ := exists_address_of_isEmail h
    exact ⟨a, ha, fun b hb => EmailAddress.text_injective (hb.symm.trans ha)⟩
  · rintro ⟨a, ha, -⟩
    rw [isEmailText, ha]
    exact isEmail_text a

end Crowdlending.Account
