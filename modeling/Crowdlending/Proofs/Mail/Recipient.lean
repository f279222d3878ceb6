import Crowdlending.Mail.Sink
import Crowdlending.Proofs.Account.Email
import Crowdlending.Proofs.Mail.Mailbox
import Crowdlending.Proofs.Text.Blank

/-!
# Mail to emails

Not every email is a mailbox: an email may have anything but white space in its local part and in
its labels. A relay refuses those that are none, before anything is sent. The at sign of an email
is the one of the mailbox; without quotes and angle brackets the email is read as it stands.
-/
namespace Crowdlending.Mail
open Text Account Mailbox

variable {box : Mailbox} {a : EmailAddress}

/-! ## Emails that are mailboxes -/

/-- The two ways in which an email is a mailbox: as it stands, and by a mailbox in angle brackets
at its end. -/
theorem writes_text_iff : Writes a.text box ↔
    Names a.localPart box ∧ box.domain = a.domain ∨
      ∃ n w, Phrase n ∧ n.head? ≠ some '.' ∧ Names w box ∧
        a.localPart = n ++ '<' :: w ∧ a.domain = box.domain ++ ['>'] := by
  -- The domain of neither has an at sign, so both are cut at the same one.
  have hcut : ∀ w d, '@' ∉ d → a.text = w ++ '@' :: d → a.localPart = w ∧ a.domain = d := by
    intro w d hfree htext
    have hleft : cutLast '@' a.text = some (a.localPart, a.domain) :=
      cutLast_eq_some_iff.mpr ⟨rfl, a.not_mem_domain⟩
    rw [cutLast_eq_some_iff.mpr ⟨htext, hfree⟩] at hleft
    cases hleft
    exact ⟨rfl, rfl⟩
  have hfree : ∀ {w}, Names w box → '@' ∉ box.domain := fun h =>
    not_mem_of_isDotAtom h.isDotAtom rfl (by decide)
  constructor
  · intro h
    generalize htext : a.text = s at h
    cases h with
    | address h =>
        obtain ⟨w, hw, rfl⟩ := h
        obtain ⟨hlocal, hdomain⟩ := hcut w box.domain (hfree hw) htext
        exact .inl ⟨hlocal ▸ hw, hdomain.symm⟩
    | @named n _ _ hn hpoint h =>
        obtain ⟨w, hw, rfl⟩ := h
        obtain ⟨hlocal, hdomain⟩ := hcut (n ++ '<' :: w) (box.domain ++ ['>'])
          (by simpa using hfree hw) (by simpa using htext)
        exact .inr ⟨n, w, hn, hpoint, hw, hlocal, hdomain⟩
  · rintro (⟨hw, hdomain⟩ | ⟨n, w, hn, hpoint, hw, hlocal, hdomain⟩)
    · exact .address ⟨a.localPart, hw, by rw [hdomain]; rfl⟩
    · have htext : a.text = n ++ '<' :: ((w ++ '@' :: box.domain) ++ ['>']) := by
        rw [EmailAddress.text, hlocal, hdomain]
        simp
      rw [htext]
      exact .named hn hpoint ⟨w, hw, rfl⟩

/-- An address that a host can have as it stands. -/
structure IsPlain (a : EmailAddress) : Prop where
  isDotAtom : isDotAtom a.localPart = true
  short : byteLength a.localPart ≤ mostLocalBytes
  areAtoms : ∀ l ∈ a.labels, isAtom l = true
  isDomain : isDomain a.domain = true

theorem isName_of_isDotAtom {s : List Char} (h : isDotAtom s = true) :
    isName s = true ↔ byteLength s ≤ mostLocalBytes := by
  have hquote : '"' ∉ s := not_mem_of_isDotAtom h rfl (by decide)
  unfold isName
  split
  · exact absurd List.mem_cons_self hquote
  · rw [h, Bool.and_true, decide_eq_true_eq]

/-- Quotes tell the other forms of a local part. -/
theorem isDotAtom_of_local {s t : List Char} (h : Local s t) (hquote : '"' ∉ s) :
    isDotAtom s = true ∧ t = s := by
  cases h with
  | atoms h => exact ⟨h, rfl⟩
  | quoted => exact absurd List.mem_cons_self hquote
  | row => simp at hquote

/-- Without quotes and angle brackets an email is no mailbox but the one it looks like. -/
theorem writes_text_iff_of_plain (hquote : '"' ∉ a.localPart) (hbracket : '<' ∉ a.localPart) :
    Writes a.text box ↔ IsPlain a ∧ box = ⟨a.localPart, a.domain⟩ := by
  rw [writes_text_iff]
  constructor
  · rintro (⟨hw, hdomain⟩ | ⟨n, w, -, -, -, hlocal, -⟩)
    · obtain ⟨hdot, hname⟩ := isDotAtom_of_local hw.isLocal hquote
      have hshort := hw.isName
      rw [hname, isName_of_isDotAtom hdot] at hshort
      have hatoms := hw.isDotAtom
      rw [hdomain, Mailbox.isDotAtom, a.cut_domain, List.all_eq_true] at hatoms
      refine ⟨⟨hdot, hshort, hatoms, hdomain ▸ hw.isDomain⟩, ?_⟩
      cases box
      cases hname
      cases hdomain
      rfl
    · exact absurd (hlocal ▸ by simp) hbracket
  · rintro ⟨h, rfl⟩
    have hname := (isName_of_isDotAtom h.isDotAtom).mpr h.short
    refine .inl ⟨⟨.atoms h.isDotAtom, hname, ?_, h.isDomain⟩, rfl⟩
    rw [Mailbox.isDotAtom, a.cut_domain, List.all_eq_true]
    exact h.areAtoms

/-! ## Sending -/

theorem isNone_ofText?_iff {text : String} (hemail : isEmailText text = true) :
    (ofText? text).isNone = true ↔ ¬∃ box, Writes text.toList box := by
  obtain ⟨a, ha⟩ := exists_address_of_isEmail hemail
  have htrim : trimChars text.toList = text.toList := trimChars_of_not_blank (ha ▸ a.shown)
  rw [Option.isNone_iff_eq_none, Option.eq_none_iff_forall_ne_some, not_exists]
  refine forall_congr' fun box => ?_
  rw [ne_eq, ofText?_eq_some_iff, htrim]

theorem relay_of_sender (accepts : Message → Bool) {m : Message}
    (hsender : (ofText? m.sender).isSome = true) : Sink.relay.send accepts m =
      if (ofText? m.recipient).isNone then .error (.internal .recipient)
      else if accepts m then .ok () else .error (.internal .mailRefused) := by
  have hsome : (ofText? m.sender).isNone = false := by simpa using hsender
  simp only [Sink.send, checkAddresses, hsome]
  cases (ofText? m.recipient).isNone <;> rfl

/-- A relay is handed a message to an email just if the email is a mailbox. Without quotes and angle
brackets this is so just if the address is plain. -/
theorem relay_of_email (accepts : Message → Bool) (m : Message)
    (hsender : (ofText? m.sender).isSome = true) (hemail : isEmailText m.recipient = true) :
    (Sink.relay.send accepts m = .error (.internal .recipient) ↔
      ¬∃ box, Writes m.recipient.toList box) ∧
    ((∃ box, Writes m.recipient.toList box) → Sink.relay.send accepts m =
      if accepts m then .ok () else .error (.internal .mailRefused)) ∧
    ∀ a : EmailAddress, m.recipient.toList = a.text → '"' ∉ a.localPart → '<' ∉ a.localPart →
      (Sink.relay.send accepts m = .error (.internal .recipient) ↔ ¬IsPlain a) := by
  have hnone := isNone_ofText?_iff hemail
  have hrefused : Sink.relay.send accepts m = .error (.internal .recipient) ↔
      ¬∃ box, Writes m.recipient.toList box := by
    rw [relay_of_sender accepts hsender, ← hnone]
    cases (ofText? m.recipient).isNone <;> cases accepts m <;> simp
  refine ⟨hrefused, fun hbox => ?_, fun a ha hquote hbracket => ?_⟩
  · rw [relay_of_sender accepts hsender, if_neg fun h => hnone.mp h hbox]
  · rw [hrefused, ha]
    simp [writes_text_iff_of_plain hquote hbracket]

def messageTo (recipient : String) : Message :=
  ⟨"loan@service.com", recipient, "Subject", "Body"⟩

theorem relay_of_plain_email :
    (ofText? (messageTo "ina@example.com").sender).isSome = true ∧
      isEmailText (messageTo "ina@example.com").recipient = true ∧
      Sink.relay.send (fun _ => true) (messageTo "ina@example.com") = .ok () := by
  have hsender : (ofText? (messageTo "ina@example.com").sender).isSome = true := by
    decide +kernel
  have hemail : isEmailText (messageTo "ina@example.com").recipient = true := by decide +kernel
  have hnames : Names "ina".toList ⟨"ina".toList, "example.com".toList⟩ :=
    ⟨.atoms (by decide +kernel), by decide +kernel, by decide +kernel, by decide +kernel⟩
  have hwrites : Writes (messageTo "ina@example.com").recipient.toList
      ⟨"ina".toList, "example.com".toList⟩ :=
    .address ⟨"ina".toList, hnames, by decide +kernel⟩
  have hsend := (relay_of_email (fun _ => true) _ hsender hemail).2.1 ⟨_, hwrites⟩
  exact ⟨hsender, hemail, hsend.trans (if_pos rfl)⟩

/-- An email that is no mailbox: two points of its local part are next to each other. -/
theorem relay_of_double_point :
    (ofText? (messageTo "first..last@example.com").sender).isSome = true ∧
      isEmailText (messageTo "first..last@example.com").recipient = true ∧
      Sink.relay.send (fun _ => true) (messageTo "first..last@example.com") =
        .error (.internal .recipient) := by
  decide +kernel

end Crowdlending.Mail
