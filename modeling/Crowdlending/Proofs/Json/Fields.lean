import Crowdlending.Json.Shape

/-!
# Fields that are read from a record

A field is read by its name from the one member of the record that has this name: a name
that comes twice is refused before any value is taken. So what is read does not depend on
the order of the members, nor on which of several a reader would take.
-/
namespace Crowdlending.Json

/-- The values of all members with this name, in their order. -/
def valuesOf (name : String) (members : List (Option String × Doc)) : List Doc :=
  (members.filter fun m => m.1 == some name).map Prod.snd

/-- The document is a record with one member of this name, which is read as this value. -/
def Doc.Holds {α : Type} (d : Doc) (name : String) (read : Doc → Except Fault α) (a : α) : Prop :=
  ∃ members v, d = .record members ∧ valuesOf name members = [v] ∧ read v = .ok a

section Fields
variable {fields : List Field} {members : List (Option String × Doc)} {name : String}

theorem valuesOf_cons_self (d : Doc) :
    valuesOf name ((some name, d) :: members) = d :: valuesOf name members := by
  simp [valuesOf]

theorem valuesOf_cons_of_ne {k : String} (h : k ≠ name) (d : Doc) :
    valuesOf name ((some k, d) :: members) = valuesOf name members := by
  simp [valuesOf, h]

/-- A member is passed over because its name is unknown, or it is the first with its name and
passes the check of its field. -/
theorem Field.byName_cons_eq_ok {found all : Found} {k? : Option String} {d : Doc}
    (h : byName fields found ((k?, d) :: members) = .ok all) :
    ∃ k, k? = some k ∧
      ((∀ f ∈ fields, f.name ≠ k) ∧ byName fields found members = .ok all ∨
        (found.lookup k = none ∧ ∃ f, (fields.find? fun f => f.name == k) = some f ∧
          f.check d = .ok ()) ∧ byName fields ((k, d) :: found) members = .ok all) := by
  cases k? with
  | none => cases h
  | some k =>
      refine ⟨k, rfl, ?_⟩
      unfold byName at h
      split at h
      · next hunknown =>
          split at h
          · exact .inl ⟨by simpa using List.find?_eq_none.mp hunknown, h⟩
          · cases h
      · next f hf =>
          split at h
          · cases h
          · next hfresh =>
              split at h
              · cases h
              · next hcheck =>
                  exact .inr ⟨⟨Option.not_isSome_iff_eq_none.mp hfresh, f, hf, hcheck⟩, h⟩

/-- What is found under a known name in the end was found before or is the value of a member, and
no member is left out. -/
theorem Field.byName_lookup {found all : Found} (h : byName fields found members = .ok all)
    (hname : ∃ f ∈ fields, f.name = name) :
    (found.lookup name).toList ++ valuesOf name members = (all.lookup name).toList := by
  induction members generalizing found with
  | nil =>
      unfold byName at h
      split at h <;> cases h
      exact List.append_nil _
  | cons m members ih =>
      obtain ⟨k, hk, ⟨hunknown, hrest⟩ | ⟨⟨hfresh, -⟩, hrest⟩⟩ := byName_cons_eq_ok h
      all_goals
        obtain ⟨_, d⟩ := m
        cases hk
      · obtain ⟨f, hf, rfl⟩ := hname
        rw [valuesOf_cons_of_ne (hunknown f hf).symm]
        exact ih hrest
      · rw [← ih hrest, List.lookup_cons]
        by_cases hsame : k = name
        · subst hsame
          rw [valuesOf_cons_self, hfresh, beq_self_eq_true]
          rfl
        · have hother : (name == k) = false := beq_false_of_ne (Ne.symm hsame)
          rw [valuesOf_cons_of_ne hsame, hother]

/-- Where all members are read, each one of a known name has passed the check of its field. -/
theorem Field.check_of_byName {found all : Found} (h : byName fields found members = .ok all)
    {d : Doc} (hd : (some name, d) ∈ members) {f : Field}
    (hf : (fields.find? fun f => f.name == name) = some f) : f.check d = .ok () := by
  induction members generalizing found with
  | nil => cases hd
  | cons m members ih =>
      obtain ⟨k, hk, hstep⟩ := byName_cons_eq_ok h
      rcases List.mem_cons.mp hd with rfl | hd
      · cases hk
        rcases hstep with ⟨hunknown, -⟩ | ⟨⟨-, f', hf', hcheck⟩, -⟩
        · have hname := List.find?_some hf
          exact absurd (by simpa using hname) (hunknown f (List.mem_of_find?_eq_some hf))
        · rw [hf] at hf'
          cases hf'
          exact hcheck
      · rcases hstep with ⟨-, hrest⟩ | ⟨-, hrest⟩
        · exact ih hrest hd
        · exact ih hrest hd

theorem Found.value_eq_ok {α : Type} {found : Found} {read : Doc → Except Fault α} {a : α}
    (h : found.value name read = .ok a) : ∃ d, found.lookup name = some d ∧ read d = .ok a := by
  unfold Found.value at h
  split at h
  · next d hd => exact ⟨d, hd, h⟩
  · cases h

theorem Found.valueD_eq_ok {α : Type} {found : Found} {read : Doc → Except Fault α} {a fallback : α}
    (h : found.valueD name read fallback = .ok a) (hne : a ≠ fallback) :
    ∃ d, found.lookup name = some d ∧ read d = .ok a := by
  unfold Found.valueD at h
  split at h
  · next d hd => exact ⟨d, hd, h⟩
  · cases h
    exact absurd rfl hne

/-- A value that was collected from a record is that of the one member with its name. -/
theorem holds_of_lookup {α : Type} {found : Found} {read : Doc → Except Fault α} {a : α} {d : Doc}
    (h : Field.collect fields (.record members) = .ok found)
    (hname : ∃ f ∈ fields, f.name = name) (hd : found.lookup name = some d)
    (hread : read d = .ok a) : (Doc.record members).Holds name read a := by
  have hvalues := Field.byName_lookup h hname
  rw [hd] at hvalues
  exact ⟨members, d, rfl, hvalues, hread⟩

theorem holds_of_value {α : Type} {found : Found} {read : Doc → Except Fault α} {a : α}
    (h : Field.collect fields (.record members) = .ok found)
    (hname : ∃ f ∈ fields, f.name = name) (hvalue : found.value name read = .ok a) :
    (Doc.record members).Holds name read a := by
  obtain ⟨d, hd, hread⟩ := Found.value_eq_ok hvalue
  exact holds_of_lookup h hname hd hread

end Fields

end Crowdlending.Json
