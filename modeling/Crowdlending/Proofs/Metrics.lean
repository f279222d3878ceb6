import Crowdlending.Metrics

/-!
# Counters

One counter goes up by one, and every other one stays.
-/
namespace Crowdlending.Metrics

theorem lookup_bump (c d : Counter) (counts : List (Counter × Nat)) :
    ((bump c counts).lookup d).getD 0 = (counts.lookup d).getD 0 + if c = d then 1 else 0 := by
  induction counts with
  | nil =>
      by_cases h : c = d
      · simp [bump, h]
      · simp [bump, List.lookup_cons, h, beq_false_of_ne (Ne.symm h)]
  | cons e counts ih =>
      obtain ⟨k, n⟩ := e
      by_cases hk : k = c
      · subst hk
        by_cases h : k = d
        · simp [bump, h]
        · simp [bump, List.lookup_cons, h, beq_false_of_ne (Ne.symm h)]
      · by_cases hd : d = k
        · subst hd
          simp [bump, hk, Ne.symm hk]
        · simp [bump, hk, List.lookup_cons, beq_false_of_ne hd, ih]

@[simp] theorem count_add (m : Metrics) (c d : Counter) :
    (m.add c).count d = m.count d + if c = d then 1 else 0 := lookup_bump c d m.counts

end Crowdlending.Metrics
