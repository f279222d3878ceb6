import Crowdlending.Proofs.Loan.Numbering
import Crowdlending.Proofs.Platform.Interleaving

/-!
# Concurrent loan calls are serializable

However the steps of the calls interleave, the calls that are not refused by a
conflict have the effect and give the answers that they would have and give one
at a time, without conflicts, in the order in which they took the guard for the
last time.

A task that holds the guard is the last one that took it, and works on a copy of
the ledger as it still is. So when its effect is decided, by a cause of its own
or by the commit, it is next in the order, and what it decides is what its
operation does to this ledger. No other step changes the ledger or the order.
-/
namespace Crowdlending.Interleaving
open Token Loan Platform

variable {ι : Type} [DecidableEq ι]

/-! ## The order of the calls -/

section LastEntries
variable {α : Type}

/-- The last entry of each key, in order. -/
def lastEntries : List (ι × α) → List (ι × α)
  | [] => []
  | a :: rest => if a.1 ∈ rest.map Prod.fst then lastEntries rest else a :: lastEntries rest

theorem lastEntries_concat (xs : List (ι × α)) (i : ι) (m : α) :
    lastEntries (xs ++ [(i, m)]) = (lastEntries xs).filter (fun a => a.1 ≠ i) ++ [(i, m)] := by
  induction xs with
  | nil => simp [lastEntries]
  | cons a xs ih =>
      simp only [List.cons_append, lastEntries, List.map_append, List.map_cons, List.map_nil,
        List.mem_append, List.mem_singleton]
      by_cases ha : a.1 = i
      · rw [if_pos (.inr ha), ih]
        split_ifs
        · rfl
        · rw [List.filter_cons_of_neg (by simpa using ha)]
      · by_cases hmem : a.1 ∈ xs.map Prod.fst
        · rw [if_pos (.inl hmem), if_pos hmem, ih]
        · rw [if_neg (by simp only [hmem, ha, or_self, not_false_eq_true]), if_neg hmem, ih,
            List.filter_cons_of_pos (by simpa using ha), List.cons_append]

example : lastEntries [(0, "a"), (1, "b"), (0, "c")] = [(1, "b"), (0, "c")] := by decide

theorem mem_lastEntries {xs : List (ι × α)} {i : ι} :
    i ∈ (lastEntries xs).map Prod.fst ↔ i ∈ xs.map Prod.fst := by
  induction xs with
  | nil => rfl
  | cons a xs ih =>
      rw [lastEntries, List.map_cons, List.mem_cons]
      split_ifs with ha
      · rw [ih]
        constructor
        · exact .inr
        · rintro (rfl | hi)
          · exact ha
          · exact hi
      · rw [List.map_cons, List.mem_cons, ih]

theorem nodup_lastEntries (xs : List (ι × α)) : ((lastEntries xs).map Prod.fst).Nodup := by
  induction xs with
  | nil => exact List.nodup_nil
  | cons a xs ih =>
      rw [lastEntries]
      split_ifs with ha
      · exact ih
      · rw [List.map_cons, List.nodup_cons, mem_lastEntries]
        exact ⟨ha, ih⟩

end LastEntries

namespace World

/-- The calls whose effect is decided, in the order in which they took the guard for the last
time. -/
def order (w : World ι) : List (ι × Moment) :=
  (lastEntries w.acquired).filter fun a => (w.phase a.1).settled?.isSome

variable {w : World ι} {i : ι} {ph : Phase} {now : Moment}

theorem nodup_order (w : World ι) : (w.order.map Prod.fst).Nodup :=
  (nodup_lastEntries w.acquired).sublist (List.filter_sublist.map _)

theorem mem_order : i ∈ w.order.map Prod.fst ↔
    i ∈ w.acquired.map Prod.fst ∧ (w.phase i).settled?.isSome = true := by
  have hkeys : i ∈ w.acquired.map Prod.fst ↔ i ∈ (lastEntries w.acquired).map Prod.fst :=
    mem_lastEntries.symm
  rw [hkeys]
  simp only [order, List.mem_map, List.mem_filter]
  constructor
  · rintro ⟨a, ⟨ha, hsettled⟩, rfl⟩
    exact ⟨⟨a, ha, rfl⟩, hsettled⟩
  · rintro ⟨⟨a, ha, rfl⟩, hsettled⟩
    exact ⟨a, ⟨ha, hsettled⟩, rfl⟩

theorem order_goto (h : ph.settled?.isSome = (w.phase i).settled?.isSome) :
    (w.goto i ph).order = w.order := by
  apply List.filter_congr
  intro a _
  by_cases ha : a.1 = i
  · rw [ha, goto_phase_self, h]
  · rw [goto_phase_of_ne w ph ha]

theorem order_fresh (h : i ∉ w.acquired.map Prod.fst) (ph : Phase) :
    (w.goto i ph).order = w.order := by
  apply List.filter_congr
  intro a ha
  have hkey : a.1 ∈ w.acquired.map Prod.fst := mem_lastEntries.mp (List.mem_map_of_mem ha)
  have hne : a.1 ≠ i := fun heq => h (heq ▸ hkey)
  rw [goto_phase_of_ne w ph hne]

/-- A task that takes the guard is not in the order, for nothing of it is decided. -/
theorem order_acquire (h : (w.phase i).settled? = none) (hph : ph.settled? = none)
    (guard : Option ι) :
    ({ w.goto i ph with guard := guard, acquired := w.acquired ++ [(i, now)] } : World ι).order =
      w.order := by
  simp only [order, lastEntries_concat, List.filter_append, List.filter_filter]
  have hnew : [(i, now)].filter (fun a => ((w.goto i ph).phase a.1).settled?.isSome) = [] := by
    simp [hph]
  rw [hnew, List.append_nil]
  apply List.filter_congr
  intro a _
  by_cases ha : a.1 = i
  · simp [ha, h, hph]
  · simp [ha, goto_phase_of_ne w ph ha]

/-- A task that took the guard last and is decided now is next in the order. -/
theorem order_settle (hlast : w.acquired.getLast? = some (i, now))
    (h : (w.phase i).settled? = none) (hph : ph.settled?.isSome = true) :
    (w.goto i ph).order = w.order ++ [(i, now)] := by
  obtain ⟨xs, hxs⟩ := List.getLast?_eq_some_iff.mp hlast
  have hacquired : (w.goto i ph).acquired = w.acquired := rfl
  simp only [order, hacquired, hxs, lastEntries_concat, List.filter_append, List.filter_filter]
  have hold : [(i, now)].filter (fun a => (w.phase a.1).settled?.isSome) = [] := by simp [h]
  have hnew : [(i, now)].filter (fun a => ((w.goto i ph).phase a.1).settled?.isSome) =
      [(i, now)] := by simp [hph]
  rw [hold, hnew, List.append_nil]
  congr 1
  apply List.filter_congr
  intro a _
  by_cases ha : a.1 = i
  · simp [ha]
  · simp [ha, goto_phase_of_ne w ph ha]

end World

/-! ## One call at a time -/

/-- Executes the calls one at a time, each at the moment beside it. -/
def inTurn (calls : Calls ι) (p : Platform) :
    List (ι × Moment) → Platform × List (Except Abort LoanReply)
  | [] => (p, [])
  | (i, now) :: rest =>
      let o := (calls i).2.perform p now (calls i).1
      let r := inTurn calls o.platform rest
      (r.1, o.result :: r.2)

omit [DecidableEq ι] in
theorem inTurn_concat (calls : Calls ι) (p : Platform) (xs : List (ι × Moment)) (i : ι)
    (now : Moment) :
    inTurn calls p (xs ++ [(i, now)]) =
      (((calls i).2.perform (inTurn calls p xs).1 now (calls i).1).platform,
        (inTurn calls p xs).2 ++
          [((calls i).2.perform (inTurn calls p xs).1 now (calls i).1).result]) := by
  induction xs generalizing p with
  | nil => rfl
  | cons a xs ih =>
      simp only [List.cons_append, inTurn, ih]

/-- The answer states the loan as the ledger has it. -/
def Reports (reply : LoanReply) (g : Ledger) : Prop :=
  match reply with
  | .proposal q => ∃ l ∈ g.loans, l.id = q.loan ∧ l.state = q.state
  | .invested q => ∃ l ∈ g.loans, l.id = q.loan ∧ l.state = q.state ∧ l.invested = q.invested

/-- Without conflicts, the order takes the one ledger to the other and is answered like this. -/
structure Settles (g : Ledger) (o : Order) (now : Moment) (g' : Ledger) (answer : Answer) :
    Prop where
  execute : ∀ s : Store, s.ledger = g → s.conflicts = 0 →
    (o.execute s now).1.ledger = g' ∧ (o.execute s now).1.conflicts = 0 ∧
      (o.execute s now).2 = answer
  decided : isConflict answer = false
  refused : answer.isOk = false → g' = g
  reports : ∀ reply, answer = .ok reply → Reports reply g'
  reachable : g.Reachable → g'.Reachable

section Settles
variable {g : Ledger} {a : Attempt}

theorem settles_propose {borrower : Int} {principal : Decimal} (hp : IsPrincipal principal)
    (now : Moment) (s : Store) :
    Settles s.ledger (.propose borrower principal) now
      (s.ledger.propose borrower principal now).1
      (Order.execute s now (.propose borrower principal)).2 where
  execute t ht hcalm := by
    simp only [Order.execute, ht, hcalm, and_self]
  decided := rfl
  refused h := by cases h
  reports reply h := by
    cases h
    exact ⟨_, List.mem_append_right _ (List.mem_singleton_self _), rfl, rfl⟩
  reachable h := h.step (.propose _ borrower now hp)

theorem settles_refused {f : Failure}
    (h : g.transition a.loan a.actor a.change a.now = .error f) :
    Settles g a.order a.now g (.error f) where
  execute s hs hcalm := by
    rw [← hs] at h
    simp only [Attempt.order, Order.execute, Store.change_of_error h]
    exact ⟨hs, hcalm, rfl⟩
  decided := by
    cases f <;> first | rfl | exact absurd h (Ledger.transition_ne_conflict _ _ _ _ _)
  refused _ := rfl
  reports reply h := by cases h
  reachable h := h

theorem settles_committed {g' : Ledger} {l : Loan} (hreach : g.Reachable)
    (hc : a.change.IsChecked)
    (h : g.transition a.loan a.actor a.change a.now = .ok (g', l)) :
    Settles g a.order a.now g' (.ok (changeReply a.change a.loan a.now l)) where
  execute s hs hcalm := by
    rw [← hs] at h
    have hfew : s.conflicts < mostAttempts := by rw [hcalm]; decide
    simp only [Attempt.order, Order.execute, Store.change_of_ok h, if_pos hfew, Except.map,
      and_self]
  decided := rfl
  refused h := by cases h
  reports reply hreply := by
    cases hreply
    obtain ⟨k, next, ha, rfl⟩ := Ledger.transition_accepted hreach.numbered.nodup h
    obtain ⟨hk, hid, -⟩ := Ledger.visible?_eq_some ha.visible
    have hmem : a.change.outcome k next a.actor a.now ∈ g'.loans := by
      rw [ha.loans]
      exact List.mem_map.mpr ⟨k, hk, if_pos hid⟩
    have hloan : (a.change.outcome k next a.actor a.now).id = a.loan := by
      rw [Change.outcome_id, hid]
    cases hchange : a.change <;> rw [hchange] at hmem hloan
    case investment => exact ⟨_, hmem, hloan, rfl, rfl⟩
    all_goals exact ⟨_, hmem, hloan, rfl⟩
  reachable _ := hreach.step (.change hc h)

end Settles

/-- The calls in this order, one at a time on a platform without conflicts, lead to the ledger and
are answered as the tasks are; those that succeed have installed what they left. -/
structure Replays (calls : Calls ι) (p : Platform) (order : List (ι × Moment))
    (answer? : ι → Option Answer) (g : Ledger) (log : List (ι × Ledger)) : Prop where
  calm : (inTurn calls p order).1.store.conflicts = 0
  ledger : (inTurn calls p order).1.store.ledger = g
  answers : (inTurn calls p order).2.map some =
    order.map fun a => (answer? a.1).map (Except.mapError .failure)
  installed : log.map Prod.fst =
    (order.filter fun a => (answer? a.1).any Except.isOk).map Prod.fst
  current : g = (log.getLast?.map Prod.snd).getD p.store.ledger
  reports : ∀ x ∈ log, ∃ reply, answer? x.1 = some (.ok reply) ∧ Reports reply x.2

section Replays
variable {calls : Calls ι} {p : Platform} {order : List (ι × Moment)}
  {answer? : ι → Option Answer} {g : Ledger} {log : List (ι × Ledger)}

omit [DecidableEq ι] in
theorem Replays.congr (h : Replays calls p order answer? g log)
    {answer?' : ι → Option Answer} (hsame : ∀ i ∈ order.map Prod.fst, answer?' i = answer? i) :
    Replays calls p order answer?' g log := by
  have horder : ∀ a ∈ order, answer?' a.1 = answer? a.1 :=
    fun a ha => hsame a.1 (List.mem_map_of_mem ha)
  refine ⟨h.calm, h.ledger, ?_, ?_, h.current, ?_⟩
  · rw [h.answers]
    apply List.map_congr_left
    intro a ha
    rw [horder a ha]
  · rw [h.installed]
    congr 1
    apply List.filter_congr
    intro a ha
    rw [horder a ha]
  · intro x hx
    obtain ⟨reply, hreply, hreports⟩ := h.reports x hx
    have hmem : x.1 ∈ log.map Prod.fst := List.mem_map_of_mem hx
    rw [h.installed] at hmem
    have hkey : x.1 ∈ order.map Prod.fst := (List.filter_sublist.map _).subset hmem
    exact ⟨reply, (hsame x.1 hkey).trans hreply, hreports⟩

omit [DecidableEq ι] in
/-- A call that is decided next is executed next. -/
theorem Replays.settle (h : Replays calls p order answer? g log) {i : ι} {o : Order}
    {now : Moment} {g' : Ledger} {answer : Answer}
    (hcheck : (calls i).2.check (calls i).1 = .ok o) (hs : Settles g o now g' answer)
    (hi : i ∉ order.map Prod.fst) {answer?' : ι → Option Answer}
    (hnew : answer?' i = some answer) (hold : ∀ j, j ≠ i → answer?' j = answer? j) :
    Replays calls p (order ++ [(i, now)]) answer?' g'
      (if answer.isOk then log ++ [(i, g')] else log) := by
  have hkeep : Replays calls p order answer?' g log := by
    apply h.congr
    intro j hj
    apply hold
    rintro rfl
    exact hi hj
  obtain ⟨hstore, hresult⟩ := @perform_of_checked (inTurn calls p order).1 now _ _ o hcheck
  obtain ⟨hledger, hcalm, hanswer⟩ := hs.execute _ h.ledger h.calm
  refine ⟨?_, ?_, ?_, ?_, ?_, ?_⟩
  · rw [inTurn_concat, hstore, hcalm]
  · rw [inTurn_concat, hstore, hledger]
  · rw [inTurn_concat, hresult, hanswer, List.map_append, List.map_append, hkeep.answers]
    simp [hnew]
  · rw [List.filter_append, List.map_append, ← hkeep.installed]
    cases hok : answer.isOk <;> simp [hnew, hok]
  · cases hok : answer.isOk with
    | true => simp
    | false =>
        rw [hs.refused hok]
        exact h.current
  · intro x hx
    cases answer with
    | error f => exact hkeep.reports x hx
    | ok reply =>
        rcases List.mem_append.mp hx with hold | hlast
        · exact hkeep.reports x hold
        · rw [List.mem_singleton.mp hlast]
          exact ⟨reply, hnew, hs.reports reply rfl⟩

end Replays

/-! ## The invariant -/

namespace Phase

/-- The try that is going on. -/
def attempt? : Phase → Option Attempt
  | reading a _ => some a
  | recording a .. => some a
  | updating a .. => some a
  | committing a .. => some a
  | _ => none

/-- What the phase says about the call and, while the task holds the guard, about the ledger. -/
def Sound (checked : Except Failure Order) (g : Ledger) : Phase → Prop
  | called => True
  | waiting o _ => checked = .ok o
  | creating borrower principal _ => checked = .ok (.propose borrower principal)
  | reading a staged => checked = .ok a.order ∧ staged = g
  | recording a staged l next =>
      checked = .ok a.order ∧ (reading a g).work = recording a staged l next
  | updating a staged l next =>
      checked = .ok a.order ∧ (reading a g).work.work = updating a staged l next
  | committing a staged l =>
      checked = .ok a.order ∧ (reading a g).work.work.work = committing a staged l
  | dropping o _ _ _ => checked = .ok o
  | returned answer => ∀ f, checked = .error f → answer = .error f

/-- Only the task that holds the guard knows anything about the ledger. -/
theorem Sound.of_idle {checked : Except Failure Order} {g g' : Ledger} {ph : Phase}
    (hidle : ph.since? = none) (h : ph.Sound checked g) : ph.Sound checked g' := by
  cases ph <;> first | exact h | cases hidle

theorem settled?_dropped (o : Order) (tried : ℕ) (answer : Answer) (now : Moment) :
    (dropped o tried answer).settled? = (dropping o tried now answer).settled? := by
  unfold dropped
  split
  · next h => simp only [settled?, h.1, if_true]
  · rfl

theorem work_reading (a : Attempt) (g : Ledger) :
    (∃ f, (reading a g).work = ended a (.error f)) ∨
      ∃ l next, (reading a g).work = recording a g l next := by
  simp only [work]
  split
  · exact .inl ⟨_, rfl⟩
  · split
    · exact .inl ⟨_, rfl⟩
    · exact .inr ⟨_, _, rfl⟩

theorem work_recording (a : Attempt) (g : Ledger) (l : Loan) (next : State) :
    (∃ f, (recording a g l next).work = ended a (.error f)) ∨
      ∃ staged, (recording a g l next).work = updating a staged l next := by
  simp only [work]
  split
  · exact .inl ⟨_, rfl⟩
  · exact .inr ⟨_, rfl⟩

theorem work_updating (a : Attempt) (g : Ledger) (l : Loan) (next : State) :
    (∃ f, (updating a g l next).work = ended a (.error f)) ∨
      ∃ staged l', (updating a g l next).work = committing a staged l' := by
  simp only [work]
  split
  · exact .inl ⟨_, rfl⟩
  · split
    · exact .inl ⟨_, rfl⟩
    · exact .inr ⟨_, _, rfl⟩

theorem transition_of_ended {a : Attempt} {g : Ledger} {f : Failure}
    (h : (reading a g).work.work.work = ended a (.error f)) :
    g.transition a.loan a.actor a.change a.now = .error f := by
  rw [work_transition] at h
  split at h
  · next ht => cases h; exact ht
  · cases h

theorem transition_of_committing {a : Attempt} {g staged : Ledger} {l : Loan}
    (h : (reading a g).work.work.work = committing a staged l) :
    g.transition a.loan a.actor a.change a.now = .ok (staged, l) := by
  rw [work_transition] at h
  split at h
  · cases h
  · next ht => cases h; exact ht

end Phase

/-- What is true of each task: it holds the guard exactly while a try of it goes on, and then it is
the last one that took it. -/
structure Task (checked : Except Failure Order) (i : ι) (ph : Phase) (g : Ledger)
    (guard : Option ι) (acquired : List (ι × Moment)) : Prop where
  guard : guard = some i ↔ ph.since?.isSome = true
  last : ∀ now, ph.since? = some now → acquired.getLast? = some (i, now)
  sound : ph.Sound checked g
  fresh : ph = .called → i ∉ acquired.map Prod.fst
  taken : ∀ o, ph.isReturned = true → checked = .ok o → i ∈ acquired.map Prod.fst

structure Consistent (calls : Calls ι) (p : Platform) (w : World ι) : Prop where
  reachable : w.store.ledger.Reachable
  tasks : ∀ i, Task ((calls i).2.check (calls i).1) i (w.phase i) w.store.ledger w.guard w.acquired
  checked : ∀ i ∈ w.acquired.map Prod.fst, ∃ o, (calls i).2.check (calls i).1 = .ok o
  replays : Replays calls p w.order (fun i => (w.phase i).settled?) w.store.ledger w.installed

section Consistent
variable {calls : Calls ι} {p : Platform} {w : World ι} {i : ι} {now : Moment} {ph : Phase}

theorem consistent_start (calls : Calls ι) (hcalm : p.store.conflicts = 0)
    (hreach : p.store.ledger.Reachable) {s : Store} (hs : s.ledger = p.store.ledger) :
    Consistent calls p (World.start s) where
  reachable := hs ▸ hreach
  tasks i := by
    refine ⟨by simp [World.start, Phase.since?], ?_, trivial, fun _ => List.not_mem_nil, ?_⟩
    · intro now h; cases h
    · intro o h; cases h
  checked i h := absurd h List.not_mem_nil
  replays := ⟨hcalm, hs.symm, rfl, rfl, hs, fun x hx => absurd hx List.not_mem_nil⟩

omit [DecidableEq ι] in
/-- What others do does not touch a task that neither had the guard nor gets it. -/
theorem Task.other {checked : Except Failure Order} {j : ι} {ph : Phase} {g g' : Ledger}
    {guard guard' : Option ι} {acquired acquired' : List (ι × Moment)}
    (h : Task checked j ph g guard acquired) (hnone : guard ≠ some j) (hnone' : guard' ≠ some j)
    (hkeys : j ∈ acquired'.map Prod.fst ↔ j ∈ acquired.map Prod.fst) :
    Task checked j ph g' guard' acquired' := by
  have hidle : ph.since? = none := by
    rw [← Option.not_isSome_iff_eq_none, ← h.guard]
    exact hnone
  refine ⟨?_, ?_, h.sound.of_idle hidle, ?_, ?_⟩
  · rw [hidle]
    exact iff_of_false hnone' Bool.false_ne_true
  · rw [hidle]
    intro now hnow
    cases hnow
  · rw [hkeys]; exact h.fresh
  · rw [hkeys]; exact h.taken

omit [DecidableEq ι] in
theorem ne_of_guard {guard : Option ι} (hguard : guard = some i) {j : ι} (hj : j ≠ i) :
    guard ≠ some j := by
  rw [hguard]
  intro heq
  exact hj (Option.some.inj heq).symm

theorem Consistent.guard_of_since (h : Consistent calls p w)
    (hsince : (w.phase i).since? = some now) : w.guard = some i := by
  rw [(h.tasks i).guard, hsince]
  rfl

theorem Consistent.mem_acquired (h : Consistent calls p w)
    (hsince : (w.phase i).since? = some now) : i ∈ w.acquired.map Prod.fst := by
  have hlast := (h.tasks i).last now hsince
  exact List.mem_map_of_mem (List.mem_of_getLast? hlast)

theorem tasks_goto {g : Ledger} {guard : Option ι} {acquired : List (ι × Moment)}
    (hi : Task ((calls i).2.check (calls i).1) i ph g guard acquired)
    (hothers : ∀ j, j ≠ i → Task ((calls j).2.check (calls j).1) j (w.phase j) g guard acquired)
    (j : ι) : Task ((calls j).2.check (calls j).1) j ((w.goto i ph).phase j) g guard acquired := by
  by_cases hj : j = i
  · subst hj
    rw [World.goto_phase_self]
    exact hi
  · rw [World.goto_phase_of_ne w ph hj]
    exact hothers j hj

theorem settled_goto (h : ph.settled? = (w.phase i).settled?) (j : ι) :
    ((w.goto i ph).phase j).settled? = (w.phase j).settled? := by
  by_cases hj : j = i
  · rw [hj, World.goto_phase_self, h]
  · rw [World.goto_phase_of_ne w ph hj]

theorem Consistent.leave_called (h : Consistent calls p w) (hcalled : w.phase i = .called)
    (hph : ph.since? = none) (hne : ph ≠ .called)
    (hsound : ph.Sound ((calls i).2.check (calls i).1) w.store.ledger)
    (hchecked : ∀ o, ph.isReturned = true → (calls i).2.check (calls i).1 ≠ .ok o) :
    Consistent calls p (w.goto i ph) := by
  have hfresh := (h.tasks i).fresh hcalled
  have hguard := (h.tasks i).guard
  rw [hcalled] at hguard
  refine ⟨h.reachable, tasks_goto ?_ fun j _ => h.tasks j, h.checked, ?_⟩
  · refine ⟨?_, ?_, hsound, fun hph => absurd hph hne, ?_⟩
    · rw [hph]
      exact hguard
    · rw [hph]
      intro now hnow
      cases hnow
    · intro o hreturned hcheck
      exact absurd hcheck (hchecked o hreturned)
  · rw [World.order_fresh hfresh]
    apply h.replays.congr
    intro j hj
    have hne : j ≠ i := by
      rintro rfl
      exact hfresh (World.mem_order.mp hj).1
    rw [World.goto_phase_of_ne w ph hne]

/-- The free guard is taken, and the ledger is copied. -/
theorem Consistent.acquire (h : Consistent calls p w) {o : Order} {tried : ℕ}
    (hwaiting : w.phase i = .waiting o tried) (hfree : w.guard = none) (now : Moment) :
    Consistent calls p { w.goto i (.begun o tried now w.store.ledger) with
      guard := some i, acquired := w.acquired ++ [(i, now)] } := by
  have hcheck : (calls i).2.check (calls i).1 = .ok o := by
    have hsound := (h.tasks i).sound
    rw [hwaiting] at hsound
    exact hsound
  have hsettled : (w.phase i).settled? = none := by rw [hwaiting]; rfl
  have hbegun : (Phase.begun o tried now w.store.ledger).settled? = none := by cases o <;> rfl
  have hsince : (Phase.begun o tried now w.store.ledger).since? = some now := by cases o <;> rfl
  refine ⟨h.reachable, tasks_goto ?_ ?_, ?_, ?_⟩
  · refine ⟨?_, ?_, ?_, ?_, ?_⟩
    · rw [hsince]
      exact iff_of_true rfl rfl
    · intro m hm
      cases hsince.symm.trans hm
      exact List.getLast?_concat
    · cases o with
      | propose borrower principal => exact hcheck
      | change loan actor c => exact ⟨hcheck, rfl⟩
    · intro hcalled
      rw [hcalled] at hsince
      cases hsince
    · intro _ _ _
      simp
  · intro j hj
    refine (h.tasks j).other ?_ ?_ ?_
    · rw [hfree]
      exact (Option.some_ne_none j).symm
    · exact ne_of_guard rfl hj
    · simp [hj]
  · intro j hj
    rw [List.map_append, List.mem_append] at hj
    rcases hj with hold | hnew
    · exact h.checked j hold
    · rw [List.mem_singleton.mp hnew]
      exact ⟨o, hcheck⟩
  · rw [World.order_acquire hsettled hbegun]
    apply h.replays.congr
    intro j _
    exact settled_goto (hbegun.trans hsettled.symm) j

/-- The task with the guard goes on, and nothing is decided. -/
theorem Consistent.silent (h : Consistent calls p w) (ph : Phase)
    (hsince : (w.phase i).since? = some now) (hph : ph.since? = some now)
    (hsettled : ph.settled? = (w.phase i).settled?)
    (hsound : ph.Sound ((calls i).2.check (calls i).1) w.store.ledger) {s : Store}
    (hs : s.ledger = w.store.ledger) : Consistent calls p { w.goto i ph with store := s } := by
  have hguard := h.guard_of_since hsince
  refine ⟨hs ▸ h.reachable, tasks_goto ?_ ?_, h.checked, ?_⟩
  · refine ⟨?_, ?_, hs ▸ hsound, ?_, ?_⟩
    · rw [hph]
      exact iff_of_true hguard rfl
    · intro m hm
      rw [hph, ← hsince] at hm
      exact (h.tasks i).last m hm
    · intro hcalled
      rw [hcalled] at hph
      cases hph
    · intro _ _ _
      exact h.mem_acquired hsince
  · intro j hj
    exact (h.tasks j).other (ne_of_guard hguard hj) (ne_of_guard hguard hj) Iff.rfl
  · change Replays calls p (w.goto i ph).order _ s.ledger w.installed
    rw [World.order_goto (congrArg Option.isSome hsettled), hs]
    exact h.replays.congr fun j _ => settled_goto hsettled j

/-- The effect of the task with the guard is decided. -/
theorem Consistent.settle (h : Consistent calls p w) (hsince : (w.phase i).since? = some now)
    (hopen : (w.phase i).settled? = none) {o : Order} (tried : ℕ) {answer : Answer} {s : Store}
    (hcheck : (calls i).2.check (calls i).1 = .ok o)
    (hs : Settles w.store.ledger o now s.ledger answer) :
    Consistent calls p { w.goto i (.dropping o tried now answer) with
      store := s
      installed := if answer.isOk then w.installed ++ [(i, s.ledger)] else w.installed } := by
  have hguard := h.guard_of_since hsince
  have hsettled : (Phase.dropping o tried now answer).settled? = some answer := by
    simp only [Phase.settled?, hs.decided, Bool.false_eq_true, if_false]
  refine ⟨hs.reachable h.reachable, tasks_goto ?_ ?_, h.checked, ?_⟩
  · refine ⟨iff_of_true hguard rfl, ?_, hcheck, ?_, ?_⟩
    · intro m hm
      cases hm
      exact (h.tasks i).last now hsince
    · intro hcalled
      cases hcalled
    · intro _ _ _
      exact h.mem_acquired hsince
  · intro j hj
    exact (h.tasks j).other (ne_of_guard hguard hj) (ne_of_guard hguard hj) Iff.rfl
  · change Replays calls p (w.goto i (.dropping o tried now answer)).order _ s.ledger _
    rw [World.order_settle ((h.tasks i).last now hsince) hopen (by rw [hsettled]; rfl)]
    refine h.replays.settle hcheck hs ?_ ?_ ?_
    · rw [World.mem_order, hopen]
      exact fun hmem => Bool.false_ne_true hmem.2
    · rw [World.goto_phase_self]
      exact hsettled
    · intro j hj
      rw [World.goto_phase_of_ne w _ hj]

/-- The guard is dropped. -/
theorem Consistent.drop (h : Consistent calls p w) {o : Order} {tried : ℕ} {since : Moment}
    {answer : Answer} (hphase : w.phase i = .dropping o tried since answer) :
    Consistent calls p { w.goto i (.dropped o tried answer) with guard := none } := by
  have hsince : (w.phase i).since? = some since := by rw [hphase]; rfl
  have hguard := h.guard_of_since hsince
  have hcheck : (calls i).2.check (calls i).1 = .ok o := by
    have hsound := (h.tasks i).sound
    rw [hphase] at hsound
    exact hsound
  have hsettled : (Phase.dropped o tried answer).settled? = (w.phase i).settled? := by
    rw [hphase]
    exact Phase.settled?_dropped o tried answer since
  refine ⟨h.reachable, tasks_goto ?_ ?_, h.checked, ?_⟩
  · refine ⟨?_, ?_, ?_, ?_, ?_⟩
    · unfold Phase.dropped
      split <;> exact iff_of_false (Option.some_ne_none i).symm Bool.false_ne_true
    · intro m hm
      unfold Phase.dropped at hm
      split at hm <;> cases hm
    · unfold Phase.dropped
      split
      · exact hcheck
      · intro f hf
        cases hcheck.symm.trans hf
    · intro hcalled
      unfold Phase.dropped at hcalled
      split at hcalled <;> cases hcalled
    · intro _ _ _
      exact h.mem_acquired hsince
  · intro j hj
    exact (h.tasks j).other (ne_of_guard hguard hj) (Option.some_ne_none j).symm Iff.rfl
  · change Replays calls p (w.goto i (.dropped o tried answer)).order _ w.store.ledger w.installed
    rw [World.order_goto (congrArg Option.isSome hsettled)]
    exact h.replays.congr fun j _ => settled_goto hsettled j

/-- A task in a try has the guard, is undecided, and follows the order that its call gives. -/
theorem Consistent.trying (h : Consistent calls p w) {a : Attempt}
    (htry : (w.phase i).attempt? = some a) :
    (w.phase i).since? = some a.now ∧ (w.phase i).settled? = none ∧
      (calls i).2.check (calls i).1 = .ok a.order := by
  have hsound := (h.tasks i).sound
  cases hphase : w.phase i with
  | reading | recording | updating | committing =>
      rw [hphase] at htry hsound
      cases htry
      exact ⟨rfl, rfl, hsound.1⟩
  | _ => rw [hphase] at htry; cases htry

/-- A try that ends with a cause of its own is decided by it. -/
theorem Consistent.end_try (h : Consistent calls p w) {a : Attempt} {f : Failure}
    (htry : (w.phase i).attempt? = some a)
    (hended : (Phase.reading a w.store.ledger).work.work.work = .ended a (.error f)) :
    Consistent calls p (w.goto i (.ended a (.error f))) := by
  obtain ⟨hsince, hopen, hcheck⟩ := h.trying htry
  exact h.settle hsince hopen a.tried hcheck (settles_refused (Phase.transition_of_ended hended))

/-- A try that goes on has come one phase further. -/
theorem Consistent.go_on (h : Consistent calls p w) {a : Attempt} (ph : Phase)
    (htry : (w.phase i).attempt? = some a) (hph : ph.since? = some a.now)
    (hopen : ph.settled? = none)
    (hsound : ph.Sound ((calls i).2.check (calls i).1) w.store.ledger) :
    Consistent calls p (w.goto i ph) := by
  obtain ⟨hsince, hold, -⟩ := h.trying htry
  exact h.silent ph hsince hph (hopen.trans hold.symm) hsound rfl

theorem Consistent.read (h : Consistent calls p w) {a : Attempt} {staged : Ledger}
    (hphase : w.phase i = .reading a staged) :
    Consistent calls p (w.goto i (Phase.reading a staged).work) := by
  have htry : (w.phase i).attempt? = some a := by rw [hphase]; rfl
  have hsound := (h.tasks i).sound
  rw [hphase] at hsound
  obtain ⟨hcheck, rfl⟩ := hsound
  rcases Phase.work_reading a w.store.ledger with ⟨f, hf⟩ | ⟨l, next, hnext⟩
  · rw [hf]
    exact h.end_try htry (by rw [hf]; rfl)
  · rw [hnext]
    exact h.go_on (.recording a _ l next) htry rfl rfl ⟨hcheck, hnext⟩

theorem Consistent.record (h : Consistent calls p w) {a : Attempt} {staged : Ledger} {l : Loan}
    {next : State} (hphase : w.phase i = .recording a staged l next) :
    Consistent calls p (w.goto i (Phase.recording a staged l next).work) := by
  have htry : (w.phase i).attempt? = some a := by rw [hphase]; rfl
  have hsound := (h.tasks i).sound
  rw [hphase] at hsound
  obtain ⟨hcheck, hread⟩ := hsound
  rcases Phase.work_recording a staged l next with ⟨f, hf⟩ | ⟨staged', hnext⟩
  · rw [hf]
    exact h.end_try htry (by rw [hread, hf]; rfl)
  · have hrecord : (Phase.reading a w.store.ledger).work.work = .updating a staged' l next := by
      rw [hread, hnext]
    rw [hnext]
    exact h.go_on (.updating a staged' l next) htry rfl rfl ⟨hcheck, hrecord⟩

theorem Consistent.update (h : Consistent calls p w) {a : Attempt} {staged : Ledger} {l : Loan}
    {next : State} (hphase : w.phase i = .updating a staged l next) :
    Consistent calls p (w.goto i (Phase.updating a staged l next).work) := by
  have htry : (w.phase i).attempt? = some a := by rw [hphase]; rfl
  have hsound := (h.tasks i).sound
  rw [hphase] at hsound
  obtain ⟨hcheck, hrecord⟩ := hsound
  rcases Phase.work_updating a staged l next with ⟨f, hf⟩ | ⟨staged', l', hnext⟩
  · rw [hf]
    exact h.end_try htry (by rw [hrecord, hf])
  · have hupdate : (Phase.reading a w.store.ledger).work.work.work = .committing a staged' l' := by
      rw [hrecord, hnext]
    rw [hnext]
    exact h.go_on (.committing a staged' l') htry rfl rfl ⟨hcheck, hupdate⟩

/-- The copy takes the ledger's place, or a conflict refuses it. -/
theorem Consistent.commit (h : Consistent calls p w) {a : Attempt} {staged : Ledger} {l : Loan}
    (hphase : w.phase i = .committing a staged l) (now : Moment) :
    Consistent calls p (w.advance calls i now) := by
  have htry : (w.phase i).attempt? = some a := by rw [hphase]; rfl
  obtain ⟨hsince, hopen, hcheck⟩ := h.trying htry
  have hsound := (h.tasks i).sound
  rw [hphase] at hsound
  cases hn : w.store.conflicts with
  | zero =>
      rw [World.advance_committing hphase hn]
      exact h.settle hsince hopen a.tried hcheck
        (settles_committed h.reachable (isChecked_of_check hcheck)
          (Phase.transition_of_committing hsound.2))
  | succ n =>
      rw [World.advance_conflict hphase hn]
      exact h.silent (.ended a (.error .conflict)) hsince rfl hopen.symm hcheck rfl

theorem Consistent.advance (h : Consistent calls p w) (i : ι) (now : Moment) :
    Consistent calls p (w.advance calls i now) := by
  cases hphase : w.phase i with
  | called =>
      cases hcheck : (calls i).2.check (calls i).1 with
      | error f =>
          rw [World.advance_refused hphase hcheck]
          refine h.leave_called hphase rfl (by simp) ?_ ?_
          · intro f' hf'
            exact congrArg _ (Except.error.inj (hcheck.symm.trans hf'))
          · intro o _ hok
            cases hcheck.symm.trans hok
      | ok o =>
          rw [World.advance_checked hphase hcheck]
          exact h.leave_called hphase rfl (by simp) hcheck fun _ hreturned => by cases hreturned
  | waiting o tried =>
      cases hguard : w.guard with
      | none =>
          rw [World.advance_waiting hphase hguard]
          exact h.acquire hphase hguard now
      | some j =>
          rw [World.advance_blocked hphase hguard]
          exact h
  | creating borrower principal since =>
      rw [World.advance_creating hphase]
      have hsound := (h.tasks i).sound
      rw [hphase] at hsound
      have hp : IsPrincipal principal := isChecked_of_check hsound
      exact h.settle (by rw [hphase]; rfl) (by rw [hphase]; rfl) 0 hsound
        (settles_propose hp since w.store)
  | reading a staged =>
      rw [World.advance_reading hphase]
      exact h.read hphase
  | recording a staged l next =>
      rw [World.advance_recording hphase]
      exact h.record hphase
  | updating a staged l next =>
      rw [World.advance_updating hphase]
      exact h.update hphase
  | committing a staged l => exact h.commit hphase now
  | dropping o tried since answer =>
      rw [World.advance_dropping hphase]
      exact h.drop hphase
  | returned answer =>
      rw [World.advance_returned hphase]
      exact h

theorem Consistent.step (h : Consistent calls p w) (e : Event ι) :
    Consistent calls p (w.step calls e) := by
  cases e with
  | task i now => exact h.advance i now
  | inject n => exact ⟨h.reachable, h.tasks, h.checked, h.replays⟩

theorem Consistent.run (h : Consistent calls p w) (schedule : List (Event ι)) :
    Consistent calls p (w.run calls schedule) := by
  induction schedule generalizing w with
  | nil => exact h
  | cons e schedule ih => exact ih (h.step e)

end Consistent

/-! ## When all calls have returned -/

def World.answer? (w : World ι) (i : ι) : Option Answer :=
  match w.phase i with
  | .returned answer => some answer
  | _ => none

/-- The platform with no conflicts to come. -/
def calm (p : Platform) : Platform := { p with store := { p.store with conflicts := 0 } }

/-- The calls are over and went as if one at a time: those that took the guard and were not
answered with a conflict, each once, in the order in which they took it last. The others had no
effect, and those that never took the guard would be refused like this at any time. Whatever
succeeded installed one ledger, which has the loan as the answer states it. -/
structure Serialized (calls : Calls ι) (p : Platform) (w : World ι) : Prop where
  free : w.guard = none
  ledger : (inTurn calls (calm p) w.order).1.store.ledger = w.store.ledger
  answers : (inTurn calls (calm p) w.order).2.map some =
    w.order.map fun a => (w.answer? a.1).map (Except.mapError .failure)
  ordered : w.order.Sublist (lastEntries w.acquired)
  once : (w.order.map Prod.fst).Nodup
  members : ∀ i, i ∈ w.order.map Prod.fst ↔
    i ∈ w.acquired.map Prod.fst ∧ w.answer? i ≠ some (.error .conflict)
  refused : ∀ i, i ∉ w.acquired.map Prod.fst → ∃ f, w.answer? i = some (.error f) ∧
    ∀ (q : Platform) (now : Moment), (calls i).2.perform q now (calls i).1 = .failed q f
  installedOnce : (w.installed.map Prod.fst).Nodup
  installers : ∀ i, i ∈ w.installed.map Prod.fst ↔ ∃ reply, w.answer? i = some (.ok reply)
  current : w.store.ledger = (w.installed.getLast?.map Prod.snd).getD p.store.ledger
  reports : ∀ x ∈ w.installed, ∃ reply, w.answer? x.1 = some (.ok reply) ∧ Reports reply x.2

section Returned
variable {calls : Calls ι} {p : Platform} {w : World ι} {i : ι}

omit [DecidableEq ι] in
theorem answer?_of_returned (h : (w.phase i).isReturned = true) :
    ∃ answer, w.phase i = .returned answer ∧ w.answer? i = some answer := by
  cases hphase : w.phase i with
  | returned answer => exact ⟨answer, rfl, by simp only [World.answer?, hphase]⟩
  | _ => rw [hphase] at h; cases h

theorem isConflict_iff {answer : Answer} :
    isConflict answer = true ↔ answer = .error .conflict := by
  unfold isConflict
  split
  · exact iff_of_true rfl rfl
  · next h => exact iff_of_false Bool.false_ne_true h

omit [DecidableEq ι] in
theorem settled_iff (h : (w.phase i).isReturned = true) :
    (w.phase i).settled?.isSome = true ↔ w.answer? i ≠ some (.error .conflict) := by
  obtain ⟨answer, hphase, hanswer⟩ := answer?_of_returned h
  rw [hphase, hanswer, Phase.settled?, ne_eq, Option.some.injEq, ← isConflict_iff]
  cases isConflict answer <;> simp

omit [DecidableEq ι] in
theorem settled_eq_answer (h : (w.phase i).settled?.isSome = true)
    (hreturned : (w.phase i).isReturned = true) : w.answer? i = (w.phase i).settled? := by
  obtain ⟨answer, hphase, hanswer⟩ := answer?_of_returned hreturned
  rw [hphase, Phase.settled?] at h ⊢
  split at h
  · cases h
  · next hc => rw [hanswer, if_neg hc]

theorem Consistent.serialized (h : Consistent calls (calm p) w)
    (hreturned : ∀ i, (w.phase i).isReturned = true) : Serialized calls p w := by
  have hreplays : Replays calls (calm p) w.order w.answer? w.store.ledger w.installed := by
    apply h.replays.congr
    intro i hi
    exact settled_eq_answer (World.mem_order.mp hi).2 (hreturned i)
  have hkeys : (w.installed.map Prod.fst).Sublist (w.order.map Prod.fst) := by
    rw [hreplays.installed]
    exact List.filter_sublist.map _
  have hmembers : ∀ i, i ∈ w.order.map Prod.fst ↔
      i ∈ w.acquired.map Prod.fst ∧ w.answer? i ≠ some (.error .conflict) := by
    intro i
    rw [World.mem_order, settled_iff (hreturned i)]
  have hrefused : ∀ i, i ∉ w.acquired.map Prod.fst → ∃ f, w.answer? i = some (.error f) ∧
      ∀ (q : Platform) (now : Moment), (calls i).2.perform q now (calls i).1 = .failed q f := by
    intro i hi
    cases hcheck : (calls i).2.check (calls i).1 with
    | ok o => exact absurd ((h.tasks i).taken o (hreturned i) hcheck) hi
    | error f =>
        obtain ⟨answer, hphase, hanswer⟩ := answer?_of_returned (hreturned i)
        have hsound := (h.tasks i).sound
        rw [hphase] at hsound
        refine ⟨f, ?_, fun q now => perform_of_refused hcheck⟩
        rw [hanswer, hsound f hcheck]
  refine ⟨?_, hreplays.ledger, hreplays.answers, List.filter_sublist, w.nodup_order, hmembers,
    hrefused, hkeys.nodup w.nodup_order, ?_, hreplays.current, hreplays.reports⟩
  · by_contra hheld
    obtain ⟨i, hi⟩ := Option.ne_none_iff_exists'.mp hheld
    obtain ⟨answer, hphase, -⟩ := answer?_of_returned (hreturned i)
    have hsince := (h.tasks i).guard.mp hi
    rw [hphase] at hsince
    cases hsince
  · intro i
    constructor
    · intro hi
      obtain ⟨x, hx, rfl⟩ := List.mem_map.mp hi
      obtain ⟨reply, hreply, -⟩ := hreplays.reports x hx
      exact ⟨reply, hreply⟩
    · rintro ⟨reply, hreply⟩
      have hacquired : i ∈ w.acquired.map Prod.fst := by
        by_contra hnot
        obtain ⟨f, hf, -⟩ := hrefused i hnot
        rw [hreply] at hf
        cases hf
      have horder : i ∈ w.order.map Prod.fst :=
        (hmembers i).mpr ⟨hacquired, by rw [hreply]; simp⟩
      obtain ⟨a, ha, rfl⟩ := List.mem_map.mp horder
      rw [hreplays.installed]
      exact List.mem_map_of_mem (List.mem_filter.mpr ⟨ha, by rw [hreply]; rfl⟩)

end Returned

/-- From whatever a run has left, with whatever conflicts injected, and however the steps of the
calls interleave: once all calls have returned, they are serialized. -/
theorem serialized_of_schedule (setup : Setup) (capacity : ℕ) (before : List Action)
    (calls : Calls ι) (schedule : List (Event ι))
    (hreturned : ∀ i, (((World.start ((start capacity).run setup before).store).run calls
      schedule).phase i).isReturned = true) :
    Serialized calls ((start capacity).run setup before)
      ((World.start ((start capacity).run setup before).store).run calls schedule) := by
  have hstart := consistent_start (p := calm ((start capacity).run setup before)) calls rfl
    (reachable_start setup capacity before) (s := ((start capacity).run setup before).store) rfl
  exact (hstart.run schedule).serialized hreturned

/-- Two investors who both want 1000 of the 1500 that a loan takes, and a borrower. -/
def sampleCalls : Calls (Fin 3)
  | 0 => (some (sampleUser 3 .investor), .invest ⟨1, "1000"⟩)
  | 1 => (some (sampleUser 4 .investor), .invest ⟨1, "1000"⟩)
  | 2 => (some (sampleUser 5 .borrower), .create ⟨"5000"⟩)

/-- A conflict is injected, and the three take their steps in turn. -/
def sampleSchedule : List (Event (Fin 3)) :=
  .inject 1 :: (List.replicate 24 [.task 0 (clock 4), .task 1 (clock 5), .task 2 (clock 6)]).flatten

theorem serialized_sample :
    (((World.start ((start 4).run bareSetup (partlyFunded.take 2)).store).run sampleCalls
        sampleSchedule).acquired.map Prod.fst = [0, 1, 2, 0]) ∧
      Serialized sampleCalls ((start 4).run bareSetup (partlyFunded.take 2))
        ((World.start ((start 4).run bareSetup (partlyFunded.take 2)).store).run sampleCalls
          sampleSchedule) := by
  refine ⟨by decide +kernel, ?_⟩
  exact serialized_of_schedule bareSetup 4 (partlyFunded.take 2) sampleCalls sampleSchedule
    (by decide +kernel)

end Crowdlending.Interleaving
