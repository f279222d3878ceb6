import Mathlib.Data.List.Pairwise
import Crowdlending.Proofs.Account.Directory
import Crowdlending.Proofs.Account.Email
import Crowdlending.Proofs.Account.Phone

/-!
# Who holds an identifier

Emails and phone numbers are looked up by the same texts. They cannot be taken for each other,
for an email has a point in it and a phone number in international form has none: points are among
the separators that are left out. Each is held by one active user at most. So an identifier stands
for one active user, or for nobody active, and then for the newest of those who once held it.
-/
namespace Crowdlending.Account
open Text

/-! ## Entries -/

/-- The email has a point in it and the phone number has none. -/
def User.IsSeparated (u : User) : Prop :=
  '.' ∈ u.email.toList ∧ '.' ∉ u.phoneNumber.toList

/-- If both are active, they have neither the email nor the phone number in common. -/
def Entry.Apart (a b : Entry) : Prop :=
  a.isActive = true → b.isActive = true →
    a.user.email ≠ b.user.email ∧ a.user.phoneNumber ≠ b.user.phoneNumber

theorem Entry.Apart.symm {a b : Entry} (h : a.Apart b) : b.Apart a :=
  fun hb ha => ⟨(h ha hb).1.symm, (h ha hb).2.symm⟩

theorem Entry.holds_iff {e : Entry} {identifier : String} :
    e.holds identifier = true ↔ e.user.email = identifier ∨ e.user.phoneNumber = identifier := by
  simp [Entry.holds]

/-- Active where the other one is, and the newer one where both are or neither is. -/
structure Entry.Outranks (a b : Entry) : Prop where
  active : b.isActive = true → a.isActive = true
  newer : b.isActive = a.isActive → b.user.id ≤ a.user.id

theorem Entry.Outranks.refl (a : Entry) : a.Outranks a := ⟨id, fun _ => Int.le_refl _⟩

theorem Entry.Outranks.trans {a b c : Entry} (h : a.Outranks b) (h' : b.Outranks c) :
    a.Outranks c := by
  refine ⟨fun hc => h.active (h'.active hc), fun hca => ?_⟩
  have hb : b.isActive = a.isActive := by
    have hca' := h'.active
    have hba := h.active
    revert hca hca' hba
    cases a.isActive <;> cases b.isActive <;> cases c.isActive <;> simp
  exact Int.le_trans (h'.newer (hca.trans hb.symm)) (h.newer hb)

/-! ## Directories without ambiguity -/

namespace Directory

/-- No two active users share an email or a phone number, emails and phone numbers differ in form,
and the users are numbered in the order in which they came. -/
structure Unambiguous (d : Directory) : Prop where
  distinct : d.entries.Pairwise Entry.Apart
  separated : ∀ e ∈ d.entries, e.user.IsSeparated
  ids : d.ids = (List.range d.entries.length).map fun i : ℕ => (i : Int) + 1
  last : d.lastId = d.entries.length

theorem unambiguous_empty : empty.Unambiguous :=
  ⟨.nil, fun _ h => (by cases h), rfl, rfl⟩

section Steps
variable {d d' : Directory}

theorem isTaken_eq_false_iff {email phoneNumber : String} :
    d.isTaken email phoneNumber = false ↔
      ∀ e ∈ d.entries, e.isActive = true →
        e.user.email ≠ email ∧ e.user.phoneNumber ≠ phoneNumber := by
  simp only [isTaken, List.any_eq_false, Bool.and_eq_true, Bool.or_eq_true, beq_iff_eq, not_and,
    not_or, ne_eq]

theorem Unambiguous.create (hd : d.Unambiguous) {r : Registration} {u : User}
    (h : d.create r = .ok (d', u))
    (hseparated : '.' ∈ r.email.toList ∧ '.' ∉ r.phoneNumber.toList) : d'.Unambiguous := by
  have hfree : d.isTaken r.email r.phoneNumber = false := by
    cases htaken : d.isTaken r.email r.phoneNumber with
    | false => rfl
    | true => simp [Directory.create, htaken] at h
  obtain ⟨rfl, rfl⟩ := create_eq_ok h
  constructor
  case distinct =>
    refine List.pairwise_append.mpr ⟨hd.distinct, List.pairwise_singleton .., ?_⟩
    intro a ha b hb hactive _
    rw [List.mem_singleton.mp hb]
    exact isTaken_eq_false_iff.mp hfree a ha hactive
  case separated =>
    intro e he
    rcases List.mem_append.mp he with he | he
    · exact hd.separated e he
    · rw [List.mem_singleton.mp he]
      exact hseparated
  case ids =>
    have hids := hd.ids
    simp only [Directory.ids] at hids ⊢
    rw [List.map_append, hids, List.length_append, List.length_singleton, List.range_succ,
      List.map_append, List.map_singleton, List.map_singleton, hd.last]
  case last =>
    simp only [List.length_append, List.length_singleton, hd.last]
    rfl

theorem length_mapFirst (id : Int) (f : Entry → Entry) (entries : List Entry) :
    (mapFirst id f entries).length = entries.length :=
  (forall₂_mapFirst id f entries).length_eq.symm

theorem mem_mapFirst {id : Int} {f : Entry → Entry} {entries : List Entry} {e' : Entry}
    (h : e' ∈ mapFirst id f entries) : ∃ e ∈ entries, e' = e ∨ e' = f e := by
  induction entries with
  | nil => cases h
  | cons a entries ih =>
      unfold mapFirst at h
      split at h
      · rcases List.mem_cons.mp h with rfl | h
        · exact ⟨a, List.mem_cons_self, .inr rfl⟩
        · exact ⟨e', List.mem_cons_of_mem _ h, .inl rfl⟩
      · rcases List.mem_cons.mp h with rfl | h
        · exact ⟨e', List.mem_cons_self, .inl rfl⟩
        · obtain ⟨e, he, hsame⟩ := ih h
          exact ⟨e, List.mem_cons_of_mem _ he, hsame⟩

/-- What holds between any two entries still holds if it does not matter what is changed. -/
theorem pairwise_mapFirst {R : Entry → Entry → Prop} {f : Entry → Entry}
    (hleft : ∀ a b, R a b → R (f a) b) (hright : ∀ a b, R a b → R a (f b)) (id : Int)
    {entries : List Entry} (h : entries.Pairwise R) : (mapFirst id f entries).Pairwise R := by
  induction h with
  | nil => exact .nil
  | @cons a entries hrest hpairs ih =>
      unfold mapFirst
      split
      · exact .cons (fun b hb => hleft a b (hrest b hb)) hpairs
      · refine .cons (fun b hb => ?_) ih
        obtain ⟨e, he, rfl | rfl⟩ := mem_mapFirst hb
        · exact hrest _ he
        · exact hright a e (hrest e he)

/-- Nobody gets active by a closing. -/
theorem Unambiguous.close (hd : d.Unambiguous) {id closedBy : Int} {u : User}
    (h : d.close id closedBy = .ok (d', u)) : d'.Unambiguous := by
  obtain ⟨f, hf, hclosed, rfl⟩ := close_eq_ok h
  constructor
  case distinct =>
    refine pairwise_mapFirst (fun a b _ hactive => ?_) (fun a b _ _ hactive => ?_) id hd.distinct
    · rw [hclosed] at hactive
      cases hactive
    · rw [hclosed] at hactive
      cases hactive
  case separated =>
    intro e' he'
    obtain ⟨e, he, rfl | rfl⟩ := mem_mapFirst he'
    · exact hd.separated _ he
    · rw [(hf e).user]
      exact hd.separated e he
  case ids =>
    rw [ids_mapFirst hf, hd.ids]
    simp only [length_mapFirst]
  case last =>
    simp only [length_mapFirst]
    exact hd.last

end Steps

/-! ## Holders -/

section Holders
variable {d : Directory} {a b : Entry} {identifier : String}

theorem Unambiguous.nodup_ids (hd : d.Unambiguous) : d.ids.Nodup := by
  rw [hd.ids]
  refine List.nodup_range.map fun i j (h : (i : Int) + 1 = j + 1) => ?_
  omega

theorem Unambiguous.eq_of_id (hd : d.Unambiguous) (ha : a ∈ d.entries) (hb : b ∈ d.entries)
    (h : a.user.id = b.user.id) : a = b :=
  List.inj_on_of_nodup_map hd.nodup_ids ha hb h

/-- No phone number is anybody's email. -/
theorem Unambiguous.phoneNumber_ne_email (hd : d.Unambiguous) (ha : a ∈ d.entries)
    (hb : b ∈ d.entries) : a.user.phoneNumber ≠ b.user.email := by
  intro h
  have hphone := (hd.separated a ha).2
  rw [h] at hphone
  exact hphone (hd.separated b hb).1

/-- An identifier stands for one active user at most. -/
theorem Unambiguous.eq_of_holds (hd : d.Unambiguous) (ha : a ∈ d.entries) (hb : b ∈ d.entries)
    (haactive : a.isActive = true) (hbactive : b.isActive = true)
    (haholds : a.holds identifier = true) (hbholds : b.holds identifier = true) : a = b := by
  have hsymm : Std.Symm Entry.Apart := ⟨fun _ _ => Entry.Apart.symm⟩
  by_contra hne
  obtain ⟨hemail, hphone⟩ := hd.distinct.forall ha hb hne haactive hbactive
  rcases Entry.holds_iff.mp haholds with rfl | rfl <;> rcases Entry.holds_iff.mp hbholds with h | h
  · exact hemail h.symm
  · exact hd.phoneNumber_ne_email hb ha h
  · exact hd.phoneNumber_ne_email ha hb h.symm
  · exact hphone h.symm

/-! ## Looking up -/

theorem preferred_outranks (a b : Entry) :
    (preferred a b).Outranks a ∧ (preferred a b).Outranks b := by
  unfold preferred
  split
  · next ha hb => exact ⟨.refl a, fun _ => ha, fun h => by rw [ha, hb] at h; cases h⟩
  · next ha hb => exact ⟨⟨fun _ => hb, fun h => by rw [ha, hb] at h; cases h⟩, .refl b⟩
  · next hleft hright =>
      have hsame : a.isActive = b.isActive := by
        cases ha : a.isActive <;> cases hb : b.isActive
        · rfl
        · exact absurd hb (hright ha)
        · exact absurd hb (hleft ha)
        · rfl
      split
      · next hle => exact ⟨⟨fun h => hsame ▸ h, fun _ => hle⟩, .refl b⟩
      · next hlt => exact ⟨.refl a, fun h => hsame ▸ h, fun _ => by omega⟩

theorem foldl_preferred_outranks (entries : List Entry) (e : Entry) :
    ∀ a ∈ e :: entries, (entries.foldl preferred e).Outranks a := by
  induction entries generalizing e with
  | nil =>
      intro a ha
      rw [List.mem_singleton.mp ha]
      exact .refl e
  | cons b entries ih =>
      intro a ha
      obtain ⟨he, hb⟩ := preferred_outranks e b
      have hbest := ih (preferred e b) _ List.mem_cons_self
      rcases List.mem_cons.mp ha with rfl | ha
      · exact hbest.trans he
      · rcases List.mem_cons.mp ha with rfl | ha
        · exact hbest.trans hb
        · exact ih (preferred e b) a (List.mem_cons_of_mem _ ha)

/-- If anybody holds the identifier, it finds the holder who outranks all others. -/
theorem byIdentifier_of_holds (ha : a ∈ d.entries) (hholds : a.holds identifier = true) :
    ∃ best ∈ d.entries, best.holds identifier = true ∧
      d.byIdentifier identifier = .ok best.user ∧
      ∀ e ∈ d.entries, e.holds identifier = true → best.Outranks e := by
  cases hfilter : d.entries.filter fun e => e.holds identifier with
  | nil => exact absurd hholds (List.filter_eq_nil_iff.mp hfilter a ha)
  | cons e rest =>
      have hmem := foldl_preferred_mem rest e
      have hbest := foldl_preferred_outranks rest e
      rw [← hfilter] at hmem hbest
      obtain ⟨hentry, hholder⟩ := List.mem_filter.mp hmem
      refine ⟨_, hentry, hholder, ?_, fun e' he' h => hbest e' (List.mem_filter.mpr ⟨he', h⟩)⟩
      simp only [byIdentifier, holder?, hfilter]

/-- What an identifier finds: its active holder, else the newest of its inactive holders, else
nobody. -/
structure LooksUp (d : Directory) (identifier : String) : Prop where
  active : ∀ e ∈ d.entries, e.isActive = true → e.holds identifier = true →
    d.byIdentifier identifier = .ok e.user
  newest : (∀ e ∈ d.entries, e.holds identifier = true → e.isActive = false) →
    ∀ e ∈ d.entries, e.holds identifier = true →
      (∀ e' ∈ d.entries, e'.holds identifier = true → e'.user.id ≤ e.user.id) →
        d.byIdentifier identifier = .ok e.user
  nobody : (∀ e ∈ d.entries, e.holds identifier = false) →
    d.byIdentifier identifier = .error .userNotFound

theorem Unambiguous.looksUp (hd : d.Unambiguous) (identifier : String) :
    d.LooksUp identifier := by
  constructor
  case active =>
    intro e he hactive hholds
    obtain ⟨best, hbest, hholder, hfound, houtranks⟩ := byIdentifier_of_holds he hholds
    have hbestActive := (houtranks e he hholds).active hactive
    rw [hfound, hd.eq_of_holds hbest he hbestActive hactive hholder hholds]
  case newest =>
    intro hinactive e he hholds hnewest
    obtain ⟨best, hbest, hholder, hfound, houtranks⟩ := byIdentifier_of_holds he hholds
    have hsame : e.isActive = best.isActive := by
      rw [hinactive e he hholds, hinactive best hbest hholder]
    have hle := (houtranks e he hholds).newer hsame
    rw [hfound, hd.eq_of_id hbest he (Int.le_antisymm (hnewest best hbest hholder) hle)]
  case nobody =>
    intro hnone
    have hfilter : (d.entries.filter fun e => e.holds identifier) = [] :=
      List.filter_eq_nil_iff.mpr fun e he => by simp [hnone e he]
    simp only [byIdentifier, holder?, hfilter]

end Holders

end Directory

end Crowdlending.Account
