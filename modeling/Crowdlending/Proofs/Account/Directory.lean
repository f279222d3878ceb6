import Mathlib.Data.List.Forall2
import Mathlib.Data.List.Nodup
import Crowdlending.Account.Directory

/-!
# Accounts over time

No account leaves the directory. What is ever written into its entry is the status,
and who wrote it; new accounts come after the old ones, with the next id. So what the
directory tells about a user — id, name, email, phone number, role and password hash —
it tells for good, and no id stands for two users.
-/
namespace Crowdlending.Account

/-- The later entry of the same account. -/
structure Entry.Continues (e e' : Entry) : Prop where
  user : e'.user = { e.user with status := e'.user.status }
  createdBy : e'.createdBy = e.createdBy

theorem Entry.Continues.refl (e : Entry) : e.Continues e := ⟨rfl, rfl⟩

theorem Entry.Continues.trans {e e' e'' : Entry} (h : e.Continues e') (h' : e'.Continues e'') :
    e.Continues e'' where
  user := by
    have huser := h'.user
    rw [h.user] at huser
    exact huser
  createdBy := h'.createdBy.trans h.createdBy

namespace Directory
variable {d d' d'' : Directory}

/-! ## One change -/

theorem map_mapFirst {α : Type} {f : Entry → α} {g : Entry → Entry} (h : ∀ e, f (g e) = f e)
    (id : Int) (entries : List Entry) : (mapFirst id g entries).map f = entries.map f := by
  induction entries with
  | nil => rfl
  | cons e entries ih =>
      unfold mapFirst
      split
      · rw [List.map_cons, h, List.map_cons]
      · rw [List.map_cons, ih, List.map_cons]

theorem forall₂_mapFirst (id : Int) (f : Entry → Entry) (entries : List Entry) :
    entries.Forall₂ (fun e e' => e' = e ∨ e.user.id = id ∧ e' = f e) (mapFirst id f entries) := by
  induction entries with
  | nil => exact .nil
  | cons e entries ih =>
      unfold mapFirst
      split
      · next hid => exact .cons (.inr ⟨hid, rfl⟩) (List.forall₂_same.mpr fun _ _ => .inl rfl)
      · exact .cons (.inl rfl) ih

/-- A new account is active, has the next id and comes last. -/
theorem create_eq_ok {r : Registration} {u : User} (h : d.create r = .ok (d', u)) :
    u = { id := d.lastId + 1, name := r.name, email := r.email, phoneNumber := r.phoneNumber
          passwordHash := r.passwordHash, status := .active, role := r.role
          emailVerified := false } ∧
      d' = ⟨d.entries ++ [⟨u, r.createdBy, none⟩], d.lastId + 1⟩ := by
  unfold create at h
  split at h
  · cases h
  · cases h
    exact ⟨rfl, rfl⟩

/-- A closed account is not active, and keeps all of its entry but the status. -/
theorem close_eq_ok {id closedBy : Int} {u : User} (h : d.close id closedBy = .ok (d', u)) :
    ∃ f : Entry → Entry, (∀ e : Entry, e.Continues (f e)) ∧
      (∀ e : Entry, (f e).isActive = false) ∧
      d' = { d with entries := mapFirst id f d.entries } := by
  unfold close at h
  split at h
  · cases h
  · cases h
    refine ⟨_, ?_, ?_, rfl⟩
    · exact fun e => ⟨rfl, rfl⟩
    · exact fun e => rfl

theorem mem_of_find? {id : Int} {u : User} (h : d.find? id = some u) :
    ∃ e ∈ d.entries, e.user = u := by
  obtain ⟨e, he, rfl⟩ := Option.map_eq_some_iff.mp h
  exact ⟨e, List.mem_of_find?_eq_some he, rfl⟩

/-! ## Later directories -/

/-- The entries go on, each with a later one of its account, and then new ones follow. -/
inductive Extends : List Entry → List Entry → Prop
  | added (new : List Entry) : Extends [] new
  | kept {e e' : Entry} {r r' : List Entry} :
      e.Continues e' → Extends r r' → Extends (e :: r) (e' :: r')

def Continues (d d' : Directory) : Prop := Extends d.entries d'.entries

theorem Extends.refl (entries : List Entry) : Extends entries entries := by
  induction entries with
  | nil => exact .added []
  | cons e r ih => exact .kept (.refl e) ih

theorem Extends.trans {r r' r'' : List Entry} (h : Extends r r') (h' : Extends r' r'') :
    Extends r r'' := by
  induction h generalizing r'' with
  | added new => exact .added r''
  | kept he _ ih =>
      cases h' with
      | kept he' hr' => exact .kept (he.trans he') (ih hr')

theorem Extends.append (entries new : List Entry) : Extends entries (entries ++ new) := by
  induction entries with
  | nil => exact .added new
  | cons e r ih => exact .kept (.refl e) ih

theorem Extends.mapFirst {f : Entry → Entry} (hf : ∀ e : Entry, e.Continues (f e)) (id : Int)
    (entries : List Entry) : Extends entries (mapFirst id f entries) := by
  induction entries with
  | nil => exact .added []
  | cons e r ih =>
      unfold Directory.mapFirst
      split
      · exact .kept (hf e) (.refl r)
      · exact .kept (.refl e) ih

theorem Extends.exists_mem {r r' : List Entry} (h : Extends r r') {e : Entry} (he : e ∈ r) :
    ∃ e' ∈ r', e.Continues e' := by
  induction h with
  | added new => cases he
  | kept hcontinues _ ih =>
      rcases List.mem_cons.mp he with rfl | hr
      · exact ⟨_, List.mem_cons_self, hcontinues⟩
      · obtain ⟨e', he', hcontinues'⟩ := ih hr
        exact ⟨e', List.mem_cons_of_mem _ he', hcontinues'⟩

theorem Continues.refl (d : Directory) : d.Continues d := Extends.refl d.entries

theorem Continues.trans (h : d.Continues d') (h' : d'.Continues d'') : d.Continues d'' :=
  Extends.trans h h'

/-! ## Ids -/

def ids (d : Directory) : List Int := d.entries.map fun e => e.user.id

/-- No id stands for two users, and the next one is not in use. -/
structure Numbered (d : Directory) : Prop where
  nodup : d.ids.Nodup
  le_last : ∀ id ∈ d.ids, id ≤ d.lastId

theorem numbered_empty : empty.Numbered := ⟨List.nodup_nil, fun _ h => by cases h⟩

/-- Ids are counted from one. -/
structure Counted (d : Directory) : Prop where
  last : 0 ≤ d.lastId
  pos : ∀ id ∈ d.ids, 0 < id

theorem counted_empty : empty.Counted := ⟨Int.le_refl 0, fun _ h => by cases h⟩

theorem ids_mapFirst {f : Entry → Entry} (hf : ∀ e : Entry, e.Continues (f e)) (id : Int)
    (d : Directory) : ids { d with entries := mapFirst id f d.entries } = d.ids :=
  map_mapFirst (fun e => by rw [(hf e).user]) id d.entries

theorem mem_ids_of_close {id closedBy : Int} {u : User} (h : d.close id closedBy = .ok (d', u)) :
    u.id ∈ d.ids := by
  unfold close at h
  split at h
  · cases h
  · next found hfound =>
      cases h
      obtain ⟨e, he, rfl⟩ := mem_of_find? hfound
      exact List.mem_map_of_mem he

/-! ## Steps -/

inductive Step (d : Directory) : Directory → Prop
  | create {r : Registration} {d' : Directory} {u : User} : d.create r = .ok (d', u) → Step d d'
  | close {id closedBy : Int} {d' : Directory} {u : User} :
      d.close id closedBy = .ok (d', u) → Step d d'
  | setStatus (id : Int) (status : Status) : Step d (d.setStatus id status)

theorem Step.continues (h : d.Step d') : d.Continues d' := by
  cases h with
  | create h =>
      rw [(create_eq_ok h).2]
      exact Extends.append d.entries _
  | close h =>
      obtain ⟨f, hf, -, rfl⟩ := close_eq_ok h
      exact Extends.mapFirst hf _ d.entries
  | setStatus id status =>
      refine Extends.mapFirst ?_ id d.entries
      exact fun e => ⟨rfl, rfl⟩

/-- A step leaves the ids as they are, or the next one is taken. -/
theorem Step.ids (h : d.Step d') :
    d'.lastId = d.lastId ∧ d'.ids = d.ids ∨
      d'.lastId = d.lastId + 1 ∧ d'.ids = d.ids ++ [d.lastId + 1] := by
  cases h with
  | create h =>
      obtain ⟨hu, rfl⟩ := create_eq_ok h
      exact .inr ⟨rfl, by simp [Directory.ids, hu]⟩
  | close h =>
      obtain ⟨f, hf, -, rfl⟩ := close_eq_ok h
      exact .inl ⟨rfl, ids_mapFirst hf _ d⟩
  | setStatus id status =>
      refine .inl ⟨rfl, ids_mapFirst ?_ id d⟩
      exact fun e => ⟨rfl, rfl⟩

theorem Numbered.step (hd : d.Numbered) (h : d.Step d') : d'.Numbered := by
  rcases h.ids with ⟨hlast, hids⟩ | ⟨hlast, hids⟩
  · constructor
    · rw [hids]
      exact hd.nodup
    · rw [hids, hlast]
      exact hd.le_last
  · constructor
    · have hnew : d.lastId + 1 ∉ d.ids := fun hmem => by
        have := hd.le_last _ hmem
        omega
      rw [hids]
      exact List.nodup_append.mpr ⟨hd.nodup, List.nodup_singleton _, fun a ha b hb hab => hnew
        (List.mem_singleton.mp hb ▸ hab ▸ ha)⟩
    · intro id hmem
      rw [hids] at hmem
      rw [hlast]
      rcases List.mem_append.mp hmem with hold | hnew
      · have := hd.le_last id hold
        omega
      · exact Int.le_of_eq (List.mem_singleton.mp hnew)

theorem Counted.step (hd : d.Counted) (h : d.Step d') : d'.Counted := by
  have hlast := hd.last
  rcases h.ids with ⟨hsame, hids⟩ | ⟨hnext, hids⟩
  · constructor
    · rw [hsame]
      exact hlast
    · rw [hids]
      exact hd.pos
  · constructor
    · rw [hnext]
      omega
    · intro id hmem
      rw [hids] at hmem
      rcases List.mem_append.mp hmem with hold | hnew
      · exact hd.pos id hold
      · rw [List.mem_singleton.mp hnew]
        omega

/-! ## Asking for users -/

/-- The accounts that the directory has and an earlier one had not yet. -/
def since (d' d : Directory) : Directory := ⟨d'.entries.drop d.entries.length, d'.lastId⟩

theorem mem_withIds {wanted : List Int} {u : User} :
    u ∈ d.withIds wanted ↔ (∃ e ∈ d.entries, e.user = u) ∧ u.id ∈ wanted := by
  simp only [withIds, List.mem_map, List.mem_filter, List.contains_iff_mem]
  constructor
  · rintro ⟨e, ⟨he, hid⟩, rfl⟩
    exact ⟨⟨e, he, rfl⟩, hid⟩
  · rintro ⟨⟨e, he, rfl⟩, hid⟩
    exact ⟨e, ⟨he, hid⟩, rfl⟩

theorem Numbered.nodup_withIds (hd : d.Numbered) (wanted : List Int) :
    ((d.withIds wanted).map User.id).Nodup := by
  rw [withIds, List.map_map]
  exact hd.nodup.sublist (List.filter_sublist.map fun e : Entry => e.user.id)

/-- What does not depend on the status is told of the same accounts later, and then of those that
came since. -/
theorem Extends.filterMap {α : Type} {f : Entry → Option α}
    (hf : ∀ e e' : Entry, e.Continues e' → f e' = f e) {r r' : List Entry} (h : Extends r r') :
    r'.filterMap f = r.filterMap f ++ (r'.drop r.length).filterMap f := by
  induction h with
  | added new => rfl
  | kept he _ ih =>
      rw [List.filterMap_cons, List.filterMap_cons, hf _ _ he, ih, List.length_cons,
        List.drop_succ_cons]
      split <;> rfl

theorem map_withIds {α : Type} (f : User → α) (wanted : List Int) :
    (d.withIds wanted).map f =
      d.entries.filterMap fun e => if wanted.contains e.user.id then some (f e.user) else none := by
  rw [withIds, List.map_map, ← List.filterMap_eq_map, List.filterMap_filter]
  rfl

theorem map_withIds_of_continues {α : Type} {f : User → α}
    (hf : ∀ u status, f { u with status } = f u) (h : d.Continues d') (wanted : List Int) :
    (d'.withIds wanted).map f =
      (d.withIds wanted).map f ++ ((d'.since d).withIds wanted).map f := by
  simp only [map_withIds]
  refine Extends.filterMap (fun e e' he => ?_) h
  have huser : f e'.user = f e.user := by rw [he.user, hf]
  have hid : e'.user.id = e.user.id := by rw [he.user]
  rw [huser, hid]

theorem ids_of_continues (h : d.Continues d') : d'.ids = d.ids ++ (d'.since d).ids := by
  simp only [ids, ← List.filterMap_eq_map]
  refine Extends.filterMap (fun e e' he => ?_) h
  have hid : e'.user.id = e.user.id := by rw [he.user]
  simp only [Function.comp_apply, hid]

/-- Whoever had an account before has no new one. -/
theorem withIds_since (h : d.Continues d') (hd' : d'.Numbered) {wanted : List Int}
    (hknown : ∀ id ∈ wanted, id ∈ d.ids) : (d'.since d).withIds wanted = [] := by
  rw [List.eq_nil_iff_forall_not_mem]
  intro u hu
  obtain ⟨⟨e, he, rfl⟩, hid⟩ := mem_withIds.mp hu
  have hnodup := hd'.nodup
  rw [ids_of_continues h] at hnodup
  exact (List.nodup_append.mp hnodup).2.2 _ (hknown _ hid) _ (List.mem_map_of_mem he) rfl

/-! ## Holders of an identifier -/

theorem preferred_eq (a b : Entry) : preferred a b = a ∨ preferred a b = b := by
  unfold preferred
  split
  · exact .inl rfl
  · exact .inr rfl
  · split
    · exact .inr rfl
    · exact .inl rfl

theorem foldl_preferred_mem (entries : List Entry) (e : Entry) :
    entries.foldl preferred e ∈ e :: entries := by
  induction entries generalizing e with
  | nil => exact List.mem_singleton_self e
  | cons a entries ih =>
      have hmem := ih (preferred e a)
      rw [List.foldl_cons]
      rcases List.mem_cons.mp hmem with hmem | hmem
      · rw [hmem]
        rcases preferred_eq e a with h | h <;> rw [h] <;> simp
      · exact List.mem_cons_of_mem _ (List.mem_cons_of_mem _ hmem)

/-- Who is found by an identifier holds it. -/
theorem holds_of_byIdentifier {identifier : String} {u : User}
    (h : d.byIdentifier identifier = .ok u) :
    ∃ e ∈ d.entries, e.user = u ∧ e.holds identifier = true := by
  unfold byIdentifier holder? at h
  split at h
  · next found hfound =>
      cases h
      split at hfound
      · cases hfound
      · next e rest hfilter =>
          cases hfound
          have hmem := foldl_preferred_mem rest e
          rw [← hfilter] at hmem
          obtain ⟨hentry, hholds⟩ := List.mem_filter.mp hmem
          exact ⟨_, hentry, rfl, hholds⟩
  · cases h

end Directory

end Crowdlending.Account
