import Crowdlending.Proofs.Loan.Reachable

/-!
# Numbers, and the file of a loan

Loans and records are numbered without gaps, and every record is of a loan that
exists. So a loan just proposed has no records yet, and a change adds records to
the loan that it changes and to no other one. A property of a loan together with
its records can therefore be proved one loan at a time: it holds of a loan just
proposed, and a change or a deletion of this loan keeps it.
-/
namespace Crowdlending.Loan

/-- The numbers from one to `n`. -/
def upTo (n : Int) : List Int := (List.range n.toNat).map fun k : Nat => (k : Int) + 1

theorem mem_upTo {n k : Int} : k ∈ upTo n ↔ 1 ≤ k ∧ k ≤ n := by
  simp only [upTo, List.mem_map, List.mem_range]
  constructor
  · rintro ⟨m, hm, rfl⟩
    omega
  · intro h
    refine ⟨(k - 1).toNat, ?_, ?_⟩ <;> omega

theorem nodup_upTo (n : Int) : (upTo n).Nodup := by
  apply List.Nodup.map _ List.nodup_range
  intro a b h
  simpa using h

theorem upTo_succ {n : Int} (h : 0 ≤ n) : upTo (n + 1) = upTo n ++ [n + 1] := by
  have htoNat : (n + 1).toNat = n.toNat + 1 := by omega
  have hcast : (n.toNat : Int) = n := Int.toNat_of_nonneg h
  rw [upTo, htoNat, List.range_succ, List.map_append, List.map_singleton, hcast, upTo]

namespace Change
variable (c : Change) (record loan actor : Int) (now : Moment)

/-- A change leaves one record. -/
theorem count_records (k : Int) :
    ((c.approvals record loan actor now).map Approval.id).count k +
      (((c.investments record loan actor now).map Investment.id).count k +
        ((c.disbursements record loan actor now).map Disbursement.id).count k) =
      [record].count k := by
  cases c <;> simp [approvals, investments, disbursements]

theorem filter_approvals (k : Int) :
    (c.approvals record loan actor now).filter (fun a => a.loan == k) =
      if loan = k then c.approvals record loan actor now else [] := by
  cases c <;> simp [approvals, List.filter_cons]

theorem filter_investments (k : Int) :
    (c.investments record loan actor now).filter (fun i => i.loan == k) =
      if loan = k then c.investments record loan actor now else [] := by
  cases c <;> simp [investments, List.filter_cons]

theorem filter_disbursements (k : Int) :
    (c.disbursements record loan actor now).filter (fun d => d.loan == k) =
      if loan = k then c.disbursements record loan actor now else [] := by
  cases c <;> simp [disbursements, List.filter_cons]

variable {c record loan actor now}

theorem loan_of_mem_approvals {a : Approval} (h : a ∈ c.approvals record loan actor now) :
    a.loan = loan := by
  cases c <;> simp_all [approvals]

theorem loan_of_mem_investments {i : Investment} (h : i ∈ c.investments record loan actor now) :
    i.loan = loan := by
  cases c <;> simp_all [investments]

theorem loan_of_mem_disbursements {d : Disbursement}
    (h : d ∈ c.disbursements record loan actor now) : d.loan = loan := by
  cases c <;> simp_all [disbursements]

end Change

namespace Ledger

def recordIds (g : Ledger) : List Int :=
  g.approvals.map Approval.id ++
    (g.investments.map Investment.id ++ g.disbursements.map Disbursement.id)

structure Numbered (g : Ledger) : Prop where
  lastLoan : 0 ≤ g.lastLoan
  lastRecord : 0 ≤ g.lastRecord
  loans : g.loans.map Loan.id = upTo g.lastLoan
  records : g.recordIds.Perm (upTo g.lastRecord)
  approvals : ∀ a ∈ g.approvals, a.loan ∈ g.loans.map Loan.id
  investments : ∀ i ∈ g.investments, i.loan ∈ g.loans.map Loan.id
  disbursements : ∀ d ∈ g.disbursements, d.loan ∈ g.loans.map Loan.id

section Numbered
variable {g g' : Ledger}

theorem Numbered.nodup (h : g.Numbered) : (g.loans.map Loan.id).Nodup := by
  rw [h.loans]
  exact nodup_upTo g.lastLoan

theorem Numbered.one_le_id (h : g.Numbered) {l : Loan} (hl : l ∈ g.loans) : 1 ≤ l.id := by
  have hmem : l.id ∈ upTo g.lastLoan := by
    rw [← h.loans]
    exact List.mem_map_of_mem hl
  exact (mem_upTo.mp hmem).1

theorem Numbered.lastLoan_fresh (h : g.Numbered) : g.lastLoan + 1 ∉ g.loans.map Loan.id := by
  rw [h.loans, mem_upTo]
  omega

theorem ids_mapLoan (g : Ledger) (id : Int) {f : Loan → Loan} (hf : ∀ l, (f l).id = l.id) :
    (g.mapLoan id f).loans.map Loan.id = g.loans.map Loan.id := by
  simp only [mapLoan, List.map_map]
  apply List.map_congr_left
  intro l _
  simp only [Function.comp_apply]
  split_ifs
  · exact hf l
  · rfl

theorem Accepted.ids {id actor : Int} {c : Change} {now : Moment} {l : Loan} {next : State}
    (h : g.Accepted id actor c now l next g') :
    g'.loans.map Loan.id = g.loans.map Loan.id := by
  have hid : l.id = id := (visible?_eq_some h.visible).2.1
  rw [h.loans, List.map_map]
  apply List.map_congr_left
  intro k _
  simp only [Function.comp_apply]
  split_ifs with hk
  · rw [Change.outcome_id, hid, hk]
  · rfl

theorem Accepted.mem_ids {id actor : Int} {c : Change} {now : Moment} {l : Loan} {next : State}
    (h : g.Accepted id actor c now l next g') : id ∈ g.loans.map Loan.id := by
  obtain ⟨hl, hid, -⟩ := visible?_eq_some h.visible
  exact List.mem_map.mpr ⟨l, hl, hid⟩

/-- New rows of a loan that exists keep every row on a loan that exists. -/
theorem refer_append {α : Type} {rows new : List α} {loan : α → Int} {id : Int} {ids : List Int}
    (hrows : ∀ r ∈ rows, loan r ∈ ids) (hnew : ∀ r ∈ new, loan r = id) (hid : id ∈ ids) :
    ∀ r ∈ rows ++ new, loan r ∈ ids := by
  intro r hr
  rcases List.mem_append.mp hr with hold | hlast
  · exact hrows r hold
  · rw [hnew r hlast]
    exact hid

theorem numbered_empty : empty.Numbered := by
  constructor <;> simp [empty, upTo, recordIds]

theorem Numbered.propose (h : g.Numbered) (borrower : Int) (principal : Decimal) (now : Moment) :
    (g.propose borrower principal now).1.Numbered := by
  have hold : ∀ k ∈ g.loans.map Loan.id,
      k ∈ (g.propose borrower principal now).1.loans.map Loan.id := by
    intro k hk
    simp only [Ledger.propose, List.map_append, List.mem_append]
    exact .inl hk
  refine ⟨?_, h.lastRecord, ?_, h.records, ?_, ?_, ?_⟩
  · exact Int.add_nonneg h.lastLoan (by decide)
  · simp only [Ledger.propose, List.map_append, h.loans]
    exact (upTo_succ h.lastLoan).symm
  · intro a ha
    exact hold _ (h.approvals a ha)
  · intro i hi
    exact hold _ (h.investments i hi)
  · intro d hd
    exact hold _ (h.disbursements d hd)

theorem Numbered.delete (h : g.Numbered) (id deletedBy : Int) (now : Moment) :
    (g.softDelete id deletedBy now).Numbered := by
  have hids : (g.softDelete id deletedBy now).loans.map Loan.id = g.loans.map Loan.id :=
    ids_mapLoan g id fun _ => rfl
  refine ⟨h.lastLoan, h.lastRecord, hids.trans h.loans, h.records, ?_, ?_, ?_⟩
  · rw [hids]; exact h.approvals
  · rw [hids]; exact h.investments
  · rw [hids]; exact h.disbursements

/-- A change uses the next number for its record, and the record is of the loan it changes. -/
theorem Numbered.accepted {id actor : Int} {c : Change} {now : Moment} {l : Loan} {next : State}
    (h : g.Numbered) (ha : g.Accepted id actor c now l next g') : g'.Numbered := by
  refine ⟨?_, ?_, ?_, ?_, ?_, ?_, ?_⟩
  · rw [ha.lastLoan]; exact h.lastLoan
  · have := h.lastRecord
    rw [ha.lastRecord]
    omega
  · rw [ha.ids, ha.lastLoan]; exact h.loans
  · rw [ha.lastRecord, upTo_succ h.lastRecord]
    refine List.Perm.trans ?_ (h.records.append_right _)
    apply List.perm_iff_count.mpr
    intro k
    have hone := c.count_records (g.lastRecord + 1) id actor now k
    simp only [recordIds, ha.approvals, ha.investments, ha.disbursements, List.map_append,
      List.count_append]
    omega
  · rw [ha.ids, ha.approvals]
    exact refer_append h.approvals (fun _ => Change.loan_of_mem_approvals) ha.mem_ids
  · rw [ha.ids, ha.investments]
    exact refer_append h.investments (fun _ => Change.loan_of_mem_investments) ha.mem_ids
  · rw [ha.ids, ha.disbursements]
    exact refer_append h.disbursements (fun _ => Change.loan_of_mem_disbursements) ha.mem_ids

theorem Numbered.step (h : g.Numbered) (hs : g.Step g') : g'.Numbered := by
  cases hs with
  | propose borrower now _ => exact h.propose borrower _ now
  | change _ ht =>
      obtain ⟨l, next, ha, -⟩ := transition_accepted h.nodup ht
      exact h.accepted ha
  | delete id deletedBy now => exact h.delete id deletedBy now

theorem Reachable.numbered (h : g.Reachable) : g.Numbered :=
  h.induct numbered_empty Numbered.step

end Numbered

end Ledger

/-! ## Files -/

/-- A loan and the records that its changes left. -/
structure File where
  loan : Loan
  approvals : List Approval
  investments : List Investment
  disbursements : List Disbursement

namespace File

def opened (l : Loan) : File := ⟨l, [], [], []⟩

def after (f : File) (c : Change) (next : State) (record actor : Int) (now : Moment) : File where
  loan := c.outcome f.loan next actor now
  approvals := f.approvals ++ c.approvals record f.loan.id actor now
  investments := f.investments ++ c.investments record f.loan.id actor now
  disbursements := f.disbursements ++ c.disbursements record f.loan.id actor now

def deleted (f : File) (deletedBy : Int) (now : Moment) : File :=
  { f with loan := { f.loan with deletedAt := some now, deletedBy := some deletedBy } }

end File

namespace Ledger
variable {g g' : Ledger}

def fileOf (g : Ledger) (l : Loan) : File :=
  ⟨l, g.approvalsOf l.id, g.investmentsOf l.id, g.disbursementsOf l.id⟩

theorem filter_fresh {α : Type} {rows : List α} {loan : α → Int} {id : Int} {ids : List Int}
    (hrows : ∀ r ∈ rows, loan r ∈ ids) (hid : id ∉ ids) :
    rows.filter (fun r => loan r == id) = [] := by
  apply List.filter_eq_nil_iff.mpr
  intro r hr heq
  exact hid (beq_iff_eq.mp heq ▸ hrows r hr)

theorem fileOf_proposed (h : g.Numbered) (borrower : Int) (principal : Decimal) (now : Moment) :
    (g.propose borrower principal now).1.fileOf (g.propose borrower principal now).2 =
      .opened (g.propose borrower principal now).2 := by
  have hfresh := h.lastLoan_fresh
  simp only [fileOf, File.opened, approvalsOf, investmentsOf, disbursementsOf, Ledger.propose,
    proposed, File.mk.injEq, true_and]
  exact ⟨filter_fresh h.approvals hfresh, filter_fresh h.investments hfresh,
    filter_fresh h.disbursements hfresh⟩

section Accepted
variable {id actor : Int} {c : Change} {now : Moment} {l : Loan} {next : State}

theorem Accepted.fileOf_other (h : g.Accepted id actor c now l next g') {k : Loan}
    (hk : k.id ≠ id) : g'.fileOf k = g.fileOf k := by
  simp only [fileOf, approvalsOf, investmentsOf, disbursementsOf, h.approvals, h.investments,
    h.disbursements, List.filter_append, Change.filter_approvals, Change.filter_investments,
    Change.filter_disbursements, if_neg hk.symm, List.append_nil]

theorem Accepted.fileOf_outcome (h : g.Accepted id actor c now l next g') :
    g'.fileOf (c.outcome l next actor now) =
      (g.fileOf l).after c next (g.lastRecord + 1) actor now := by
  have hid : l.id = id := (visible?_eq_some h.visible).2.1
  simp only [fileOf, File.after, approvalsOf, investmentsOf, disbursementsOf, h.approvals,
    h.investments, h.disbursements, List.filter_append, Change.filter_approvals,
    Change.filter_investments, Change.filter_disbursements, Change.outcome_id, hid, if_true]

theorem Accepted.mem_loans (h : g.Accepted id actor c now l next g') {k : Loan}
    (hk : k ∈ g'.loans) : k = c.outcome l next actor now ∨ k ∈ g.loans ∧ k.id ≠ id := by
  rw [h.loans] at hk
  obtain ⟨m, hm, hmk⟩ := List.mem_map.mp hk
  split_ifs at hmk with hid
  · exact .inl hmk.symm
  · subst hmk
    exact .inr ⟨hm, hid⟩

end Accepted

theorem mem_softDelete {id deletedBy : Int} {now : Moment} {k : Loan}
    (hk : k ∈ (g.softDelete id deletedBy now).loans) :
    k ∈ g.loans ∨ ∃ l ∈ g.loans, l.id = id ∧
      k = { l with deletedAt := some now, deletedBy := some deletedBy } := by
  obtain ⟨m, hm, hmk⟩ := List.mem_map.mp hk
  split_ifs at hmk with hid
  · exact .inr ⟨m, hm, hid, hmk.symm⟩
  · subst hmk
    exact .inl hm

/-- What holds of the file of a loan just proposed, and is kept by every change to the loan and by
its deletion, holds of the file of every loan. -/
theorem Reachable.induct_files {motive : File → Prop} (h : g.Reachable)
    (opened : ∀ (id borrower : Int) (principal : Decimal) (now : Moment), IsPrincipal principal →
      motive (.opened (proposed id borrower principal now)))
    (changed : ∀ {f : File} {c : Change} {next : State} (record actor : Int) (now : Moment),
      motive f → c.IsChecked → c.plan f.loan = .ok next →
        motive (f.after c next record actor now))
    (deleted : ∀ {f : File} (deletedBy : Int) (now : Moment), motive f →
      motive (f.deleted deletedBy now)) :
    ∀ l ∈ g.loans, motive (g.fileOf l) := by
  have hall : g.Numbered ∧ ∀ l ∈ g.loans, motive (g.fileOf l) := by
    refine h.induct (motive := fun g => g.Numbered ∧ ∀ l ∈ g.loans, motive (g.fileOf l))
      ⟨numbered_empty, by simp [empty]⟩ ?_
    rintro g g' ⟨hnum, hfiles⟩ hs
    refine ⟨hnum.step hs, ?_⟩
    intro k hk
    cases hs with
    | @propose borrower principal now hp =>
        rcases List.mem_append.mp hk with hold | hnew
        · exact hfiles k hold
        · rw [List.mem_singleton.mp hnew]
          have hopened := opened (g.lastLoan + 1) borrower principal now hp
          exact (fileOf_proposed hnum borrower principal now).symm ▸ hopened
    | change hc ht =>
        obtain ⟨l, next, ha, -⟩ := transition_accepted hnum.nodup ht
        obtain ⟨hl, -, -⟩ := visible?_eq_some ha.visible
        rcases ha.mem_loans hk with rfl | ⟨hold, hid⟩
        · rw [ha.fileOf_outcome]
          exact changed _ _ _ (hfiles l hl) hc ha.plan
        · rw [ha.fileOf_other hid]
          exact hfiles k hold
    | delete id deletedBy now =>
        rcases mem_softDelete hk with hold | ⟨l, hl, -, rfl⟩
        · exact hfiles k hold
        · exact deleted deletedBy now (hfiles l hl)
  exact hall.2

end Ledger

end Crowdlending.Loan
