import Crowdlending.Proofs.Loan.History

/-!
# Full loans

A loan becomes full once, by an investment that leads it to the state of a fully
invested loan. From then on its investors are fixed: what is left to it is its
disbursement, and a deletion touches no record.
-/
namespace Crowdlending.Loan

/-- All of the principal is invested. -/
def State.IsFull (st : State) : Prop := st = .invested ∨ st = .disbursed

section Moves
variable {st next : State}

theorem State.Moves.isFull_iff (h : st.Moves next) :
    next.IsFull ↔ st.IsFull ∨ next = .invested := by
  cases h <;> simp [State.IsFull]

/-- A loan that an investment completes was not full before. -/
theorem State.Moves.not_isFull (h : st.Moves next) (hnext : next = .invested) : ¬st.IsFull := by
  cases h <;> simp_all [State.IsFull]

end Moves

/-- Of a full loan only the disbursement is still planned. -/
theorem Change.investments_of_full {c : Change} {l : Loan} {next : State}
    (hplan : c.plan l = .ok next) (hfull : l.state.IsFull) (record loan actor : Int)
    (now : Moment) :
    c.investments record loan actor now = [] := by
  cases c with
  | approval link rate roi => rfl
  | disbursement link => rfl
  | investment amount =>
      obtain ⟨hopen, -⟩ := plan_investment_eq_ok hplan
      rcases hfull with hs | hs <;> rw [hs] at hopen <;> cases hopen

namespace Ledger
variable {g g' : Ledger} {k : Int}

def IsFull (g : Ledger) (id : Int) : Prop := ∃ l ∈ g.loans, l.id = id ∧ l.state.IsFull

theorem not_isFull_empty (id : Int) : ¬empty.IsFull id := by
  rintro ⟨l, hl, -⟩
  cases hl

section Accepted
variable {id actor : Int} {c : Change} {now : Moment} {l : Loan} {next : State}

/-- A change makes at most its own loan full. -/
theorem Accepted.isFull_iff (hids : (g.loans.map Loan.id).Nodup)
    (h : g.Accepted id actor c now l next g') :
    g'.IsFull k ↔ g.IsFull k ∨ k = id ∧ next = .invested := by
  obtain ⟨hl, hid, -⟩ := visible?_eq_some h.visible
  have hmoves := Change.moves_of_plan h.plan
  constructor
  · rintro ⟨m, hm, rfl, hfull⟩
    rcases h.mem_loans hm with rfl | ⟨hold, -⟩
    · rcases hmoves.isFull_iff.mp hfull with hbefore | hnext
      · exact .inl ⟨l, hl, (Change.outcome_id ..).symm, hbefore⟩
      · exact .inr ⟨(Change.outcome_id ..).trans hid, hnext⟩
    · exact .inl ⟨m, hold, rfl, hfull⟩
  · rintro (⟨m, hm, rfl, hfull⟩ | ⟨rfl, hnext⟩)
    · by_cases htarget : m.id = id
      · obtain rfl : m = l := eq_of_id_eq hids hm hl (htarget.trans hid.symm)
        exact ⟨_, h.mem_outcome, Change.outcome_id .., hmoves.isFull_iff.mpr (.inl hfull)⟩
      · exact ⟨m, h.mem_other hm htarget, rfl, hfull⟩
    · exact ⟨_, h.mem_outcome, (Change.outcome_id ..).trans hid, .inl hnext⟩

theorem Accepted.not_isFull (hids : (g.loans.map Loan.id).Nodup)
    (h : g.Accepted id actor c now l next g') (hnext : next = .invested) : ¬g.IsFull id := by
  obtain ⟨hl, hid, -⟩ := visible?_eq_some h.visible
  rintro ⟨m, hm, hmid, hfull⟩
  obtain rfl : m = l := eq_of_id_eq hids hm hl (hmid.trans hid.symm)
  exact (Change.moves_of_plan h.plan).not_isFull hnext hfull

theorem Accepted.investmentsOf_full (hids : (g.loans.map Loan.id).Nodup)
    (h : g.Accepted id actor c now l next g') (hfull : g.IsFull k) :
    g'.investmentsOf k = g.investmentsOf k := by
  simp only [investmentsOf, h.investments, List.filter_append, Change.filter_investments]
  split
  · next htarget =>
      obtain ⟨hl, hid, -⟩ := visible?_eq_some h.visible
      obtain ⟨m, hm, hmid, hstate⟩ := hfull
      obtain rfl : m = l := eq_of_id_eq hids hm hl (hmid.trans (htarget.symm.trans hid.symm))
      rw [Change.investments_of_full h.plan hstate, List.append_nil]
  · rw [List.append_nil]

end Accepted

theorem isFull_propose (g : Ledger) (borrower : Int) (principal : Decimal) (now : Moment) :
    (g.propose borrower principal now).1.IsFull k ↔ g.IsFull k := by
  constructor
  · rintro ⟨m, hm, hid, hfull⟩
    rcases List.mem_append.mp hm with hold | hnew
    · exact ⟨m, hold, hid, hfull⟩
    · rw [List.mem_singleton.mp hnew] at hfull
      rcases hfull with hs | hs <;> cases hs
  · rintro ⟨m, hm, hid, hfull⟩
    exact ⟨m, List.mem_append_left _ hm, hid, hfull⟩

theorem isFull_softDelete (g : Ledger) (id deletedBy : Int) (now : Moment) :
    (g.softDelete id deletedBy now).IsFull k ↔ g.IsFull k := by
  constructor
  · rintro ⟨m, hm, rfl, hfull⟩
    rcases mem_softDelete hm with hold | ⟨l, hl, -, rfl⟩
    · exact ⟨m, hold, rfl, hfull⟩
    · exact ⟨l, hl, rfl, hfull⟩
  · rintro ⟨m, hm, rfl, hfull⟩
    refine ⟨_, List.mem_map.mpr ⟨m, hm, rfl⟩, ?_, ?_⟩ <;> split <;> first | rfl | exact hfull

/-- A full loan stays full, with the same investments. -/
theorem IsFull.step (h : g.IsFull k) (hnum : g.Numbered) (hs : g.Step g') :
    g'.IsFull k ∧ g'.investmentsOf k = g.investmentsOf k := by
  cases hs with
  | propose borrower now _ => exact ⟨(isFull_propose ..).mpr h, rfl⟩
  | change _ ht =>
      obtain ⟨l, next, ha, -⟩ := transition_accepted hnum.nodup ht
      exact ⟨(ha.isFull_iff hnum.nodup).mpr (.inl h), ha.investmentsOf_full hnum.nodup h⟩
  | delete id deletedBy now => exact ⟨(isFull_softDelete ..).mpr h, rfl⟩

end Ledger

end Crowdlending.Loan
