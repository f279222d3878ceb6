/-!
# Results in sequence

When a chain of steps that may fail succeeds, each of its steps did; when it fails, one of them did.
-/
namespace Crowdlending.Result
variable {ε α β : Type}

theorem bind_eq_ok {x : Except ε α} {f : α → Except ε β} {b : β} :
    x >>= f = .ok b ↔ ∃ a, x = .ok a ∧ f a = .ok b := by
  cases x <;> simp [bind, Except.bind]

theorem bind_eq_error {x : Except ε α} {f : α → Except ε β} {e : ε} :
    x >>= f = .error e ↔ x = .error e ∨ ∃ a, x = .ok a ∧ f a = .error e := by
  cases x <;> simp [bind, Except.bind]

theorem map_eq_ok {x : Except ε α} {f : α → β} {b : β} :
    x.map f = .ok b ↔ ∃ a, x = .ok a ∧ f a = b := by
  cases x <;> simp [Except.map]

theorem map_eq_error {x : Except ε α} {f : α → β} {e : ε} :
    x.map f = .error e ↔ x = .error e := by
  cases x <;> simp [Except.map]

theorem toOption_eq_some {x : Except ε α} {a : α} : x.toOption = some a ↔ x = .ok a := by
  cases x <;> simp [Except.toOption]

/-- A chain that throws on a condition goes on only where the condition fails. -/
theorem throw_if_eq_ok {p : Prop} [Decidable p] {e : ε} {f : β → Except ε α} {x : Except ε α}
    {a : α} : (if p then (throw e : Except ε β) >>= f else x) = .ok a ↔ ¬p ∧ x = .ok a := by
  by_cases hp : p <;> simp [hp, throw, throwThe, MonadExceptOf.throw, bind, Except.bind]

/-- If there is no result, it is for one of these causes. -/
def FailsBy (causes : ε → Prop) (x : Except ε α) : Prop := ∀ e, x = .error e → causes e

section FailsBy
variable {causes : ε → Prop} {x : Except ε α}

theorem failsBy_ok (a : α) : FailsBy causes (.ok a) := fun _ h => by cases h

theorem failsBy_error {e : ε} (h : causes e) : FailsBy causes (.error e : Except ε α) := by
  rintro _ ⟨⟩
  exact h

theorem FailsBy.bind {f : α → Except ε β} (hx : FailsBy causes x)
    (hf : ∀ a, FailsBy causes (f a)) : FailsBy causes (x >>= f) := by
  intro e h
  rcases bind_eq_error.mp h with h | ⟨a, -, h⟩
  · exact hx e h
  · exact hf a e h

theorem FailsBy.map {f : α → β} (hx : FailsBy causes x) : FailsBy causes (x.map f) :=
  fun e h => hx e (map_eq_error.mp h)

end FailsBy

end Crowdlending.Result
