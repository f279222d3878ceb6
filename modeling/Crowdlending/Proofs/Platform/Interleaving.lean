import Crowdlending.Proofs.Platform.Run

/-!
# Loan calls at the same time

Any number of loan calls, each a task of its own, and a schedule that says whose
step comes next. One task at a time holds the guard of the ledger. A proposal
writes the ledger itself. A change works on a copy: it begins by taking the
guard and copying the ledger, reads and plans, records, updates, and commits the
copy or is hit by a conflict; then it drops the guard, and after a conflict it
comes back for another try. A step of a task that waits for the guard while
another one holds it does nothing.

The steps are those of the operations themselves: run alone, a task leaves the
store and gives the answer that its operation does.
-/
namespace Crowdlending.Interleaving
open Token Loan Platform

abbrev Answer := Except Failure LoanReply

def isConflict : Answer → Bool
  | .error .conflict => true
  | _ => false

/-- One try at a change, after `tried` others; `now` is the moment at which it took the guard. -/
structure Attempt where
  loan : Int
  actor : Int
  change : Change
  tried : ℕ
  now : Moment

def Attempt.order (a : Attempt) : Order := .change a.loan a.actor a.change

/-- How far a task has come; `staged` is its copy of the ledger. -/
inductive Phase where
  | called
  | waiting (o : Order) (tried : ℕ)
  | creating (borrower : Int) (principal : Decimal) (now : Moment)
  | reading (a : Attempt) (staged : Ledger)
  | recording (a : Attempt) (staged : Ledger) (l : Loan) (next : State)
  | updating (a : Attempt) (staged : Ledger) (l : Loan) (next : State)
  | committing (a : Attempt) (staged : Ledger) (l : Loan)
  | dropping (o : Order) (tried : ℕ) (now : Moment) (answer : Answer)
  | returned (answer : Answer)

namespace Phase

/-- The phase of a task that has just taken the guard. -/
def begun (o : Order) (tried : ℕ) (now : Moment) (g : Ledger) : Phase :=
  match o with
  | .propose borrower principal => creating borrower principal now
  | .change loan actor c => reading ⟨loan, actor, c, tried, now⟩ g

/-- The try is over, and what is left is to drop the guard. -/
def ended (a : Attempt) (answer : Answer) : Phase := dropping a.order a.tried a.now answer

/-- A step of a task on its own copy. -/
def work : Phase → Phase
  | reading a staged =>
      match staged.visible? a.loan with
      | none => ended a (.error .notFound)
      | some l =>
          match a.change.plan l with
          | .error f => ended a (.error f)
          | .ok next => recording a staged l next
  | recording a staged l next =>
      match staged.record a.loan a.actor a.change a.now with
      | .error f => ended a (.error f)
      | .ok staged => updating a staged l next
  | updating a staged l next =>
      match (a.change.write l).advance next a.actor a.now with
      | .error f => ended a (.error f)
      | .ok l =>
          match staged.update l with
          | .error f => ended a (.error f)
          | .ok staged => committing a staged l
  | ph => ph

/-- After the guard is dropped: another try if a conflict refused this one and tries are left. -/
def dropped (o : Order) (tried : ℕ) (answer : Answer) : Phase :=
  if isConflict answer ∧ tried + 1 < mostAttempts then waiting o (tried + 1) else returned answer

/-- When a task that holds the guard took it. -/
def since? : Phase → Option Moment
  | creating _ _ now => some now
  | reading a _ => some a.now
  | recording a .. => some a.now
  | updating a .. => some a.now
  | committing a .. => some a.now
  | dropping _ _ now _ => some now
  | _ => none

/-- The answer of a task whose effect is decided; a conflict decides nothing. -/
def settled? : Phase → Option Answer
  | dropping _ _ _ answer => if isConflict answer then none else some answer
  | returned answer => if isConflict answer then none else some answer
  | _ => none

def isReturned : Phase → Bool
  | returned _ => true
  | _ => false

end Phase

variable {ι : Type} [DecidableEq ι]

/-- Who calls, and what is called. -/
abbrev Calls (ι : Type) := ι → Option Claims × LoanRequest

/-- The store, who holds its guard, and how far each task is. The two logs take no part in the
steps: who took the guard when, and what commits and proposals put in the ledger's place. -/
structure World (ι : Type) where
  store : Store
  guard : Option ι
  phase : ι → Phase
  acquired : List (ι × Moment)
  installed : List (ι × Ledger)

inductive Event (ι : Type) where
  | task (i : ι) (now : Moment)
  | inject (n : ℕ)

namespace World

def start (s : Store) : World ι := ⟨s, none, fun _ => .called, [], []⟩

def goto (w : World ι) (i : ι) (ph : Phase) : World ι :=
  { w with phase := Function.update w.phase i ph }

/-- The next step of a task. -/
def advance (calls : Calls ι) (w : World ι) (i : ι) (now : Moment) : World ι :=
  match w.phase i with
  | .called =>
      match (calls i).2.check (calls i).1 with
      | .error f => w.goto i (.returned (.error f))
      | .ok o => w.goto i (.waiting o 0)
  | .waiting o tried =>
      if w.guard.isNone then
        { w.goto i (.begun o tried now w.store.ledger) with
          guard := some i, acquired := w.acquired ++ [(i, now)] }
      else w
  | .creating borrower principal now =>
      let (ledger, l) := w.store.ledger.propose borrower principal now
      { w.goto i (.dropping (.propose borrower principal) 0 now
          (.ok (.proposal ⟨l.id, l.state, l.createdAt⟩))) with
        store := { w.store with ledger }, installed := w.installed ++ [(i, ledger)] }
  | .committing a staged l =>
      let (store, r) := w.store.commit staged
      { w.goto i (.ended a (r.map fun _ => changeReply a.change a.loan a.now l)) with
        store, installed := if r.isOk then w.installed ++ [(i, staged)] else w.installed }
  | .dropping o tried _ answer => { w.goto i (.dropped o tried answer) with guard := none }
  | ph => w.goto i ph.work

def step (calls : Calls ι) (w : World ι) : Event ι → World ι
  | .task i now => w.advance calls i now
  | .inject n => { w with store := { w.store with conflicts := n } }

def run (calls : Calls ι) (w : World ι) (schedule : List (Event ι)) : World ι :=
  schedule.foldl (step calls) w

theorem run_append (calls : Calls ι) (w : World ι) (a b : List (Event ι)) :
    w.run calls (a ++ b) = (w.run calls a).run calls b := List.foldl_append

@[simp] theorem goto_phase_self (w : World ι) (i : ι) (ph : Phase) : (w.goto i ph).phase i = ph :=
  Function.update_self ..

theorem goto_phase_of_ne (w : World ι) {i j : ι} (ph : Phase) (h : j ≠ i) :
    (w.goto i ph).phase j = w.phase j :=
  Function.update_of_ne h ..

section Advance
variable {calls : Calls ι} {w : World ι} {i : ι} {now : Moment}

theorem advance_refused {f : Failure} (h : w.phase i = .called)
    (hcheck : (calls i).2.check (calls i).1 = .error f) :
    w.advance calls i now = w.goto i (.returned (.error f)) := by
  simp only [advance, h, hcheck]

theorem advance_checked {o : Order} (h : w.phase i = .called)
    (hcheck : (calls i).2.check (calls i).1 = .ok o) :
    w.advance calls i now = w.goto i (.waiting o 0) := by
  simp only [advance, h, hcheck]

theorem advance_waiting {o : Order} {tried : ℕ} (h : w.phase i = .waiting o tried)
    (hfree : w.guard = none) :
    w.advance calls i now =
      { w.goto i (.begun o tried now w.store.ledger) with
        guard := some i, acquired := w.acquired ++ [(i, now)] } := by
  simp only [advance, h, hfree, Option.isNone_none, if_true]

theorem advance_blocked {o : Order} {tried : ℕ} {j : ι} (h : w.phase i = .waiting o tried)
    (hheld : w.guard = some j) : w.advance calls i now = w := by
  simp only [advance, h, hheld, Option.isNone_some, Bool.false_eq_true, if_false]

theorem advance_creating {borrower : Int} {principal : Decimal} {since : Moment}
    (h : w.phase i = .creating borrower principal since) :
    w.advance calls i now =
      { w.goto i (.dropping (.propose borrower principal) 0 since
          (Order.execute w.store since (.propose borrower principal)).2) with
        store := (Order.execute w.store since (.propose borrower principal)).1
        installed := w.installed ++
          [(i, (w.store.ledger.propose borrower principal since).1)] } := by
  simp only [advance, h]
  rfl

theorem advance_reading {a : Attempt} {staged : Ledger} (h : w.phase i = .reading a staged) :
    w.advance calls i now = w.goto i (Phase.reading a staged).work := by
  simp only [advance, h]

theorem advance_recording {a : Attempt} {staged : Ledger} {l : Loan} {next : State}
    (h : w.phase i = .recording a staged l next) :
    w.advance calls i now = w.goto i (Phase.recording a staged l next).work := by
  simp only [advance, h]

theorem advance_updating {a : Attempt} {staged : Ledger} {l : Loan} {next : State}
    (h : w.phase i = .updating a staged l next) :
    w.advance calls i now = w.goto i (Phase.updating a staged l next).work := by
  simp only [advance, h]

theorem advance_committing {a : Attempt} {staged : Ledger} {l : Loan}
    (h : w.phase i = .committing a staged l) (hcalm : w.store.conflicts = 0) :
    w.advance calls i now =
      { w.goto i (.ended a (.ok (changeReply a.change a.loan a.now l))) with
        store := { w.store with ledger := staged, commits := w.store.commits + 1 }
        installed := w.installed ++ [(i, staged)] } := by
  simp only [advance, h, Store.commit, hcalm]
  rfl

theorem advance_conflict {a : Attempt} {staged : Ledger} {l : Loan} {n : ℕ}
    (h : w.phase i = .committing a staged l) (hn : w.store.conflicts = n + 1) :
    w.advance calls i now =
      { w.goto i (.ended a (.error .conflict)) with
        store := { w.store with conflicts := n } } := by
  simp only [advance, h, Store.commit, hn]
  rfl

theorem advance_dropping {o : Order} {tried : ℕ} {since : Moment} {answer : Answer}
    (h : w.phase i = .dropping o tried since answer) :
    w.advance calls i now = { w.goto i (.dropped o tried answer) with guard := none } := by
  simp only [advance, h]

theorem advance_returned {answer : Answer} (h : w.phase i = .returned answer) :
    w.advance calls i now = w := by
  have hsame : Function.update w.phase i (.returned answer) = w.phase := by
    rw [← h, Function.update_eq_self]
  simp only [advance, h, goto, Phase.work, hsame]

end Advance

end World

/-! ## A task alone -/

/-- On an unchanged copy, three steps make the transition or end the try with its cause. -/
theorem Phase.work_transition (a : Attempt) (g : Ledger) :
    (reading a g).work.work.work =
      match g.transition a.loan a.actor a.change a.now with
      | .error f => ended a (.error f)
      | .ok (staged, l) => committing a staged l := by
  cases hl : g.visible? a.loan with
  | none =>
      rw [Ledger.transition_of_invisible hl]
      simp only [work, hl, ended]
  | some l =>
      cases hplan : a.change.plan l with
      | error f =>
          rw [Ledger.transition_of_refused hl hplan]
          simp only [work, hl, hplan, ended]
      | ok next =>
          rw [Ledger.transition_of_plan hl hplan]
          have hadvance := advance_of_plan hplan a.actor a.now
          cases hrecord : g.record a.loan a.actor a.change a.now with
          | error f => simp only [work, hl, hplan, hrecord, ended, bind, Except.bind]
          | ok g₁ =>
              cases hupdate : g₁.update (a.change.outcome l next a.actor a.now) with
              | error f =>
                  simp only [work, hl, hplan, hrecord, hadvance, hupdate, bind, Except.bind,
                    Except.map]
              | ok g₂ =>
                  simp only [work, hl, hplan, hrecord, hadvance, hupdate, bind, Except.bind,
                    Except.map]

section Alone
variable {calls : Calls ι} {w : World ι} {i : ι} {now : Moment}

/-- The world after some more steps of one task. -/
def Alone (calls : Calls ι) (i : ι) (now : Moment) : World ι → World ι → Prop :=
  Relation.ReflTransGen fun w w' => w.advance calls i now = w'

theorem Alone.exists_schedule {w' : World ι} (h : Alone calls i now w w') :
    ∃ n, w.run calls (List.replicate n (.task i now)) = w' := by
  induction h with
  | refl => exact ⟨0, rfl⟩
  | tail _ hs ih =>
      obtain ⟨n, hn⟩ := ih
      refine ⟨n + 1, ?_⟩
      rw [List.replicate_succ', World.run_append, hn]
      exact hs

theorem alone_work (calls : Calls ι) (w : World ι) (i : ι) (now : Moment) :
    ∃ w', Alone calls i now w w' ∧ w'.phase i = (w.phase i).work ∧ w'.store = w.store := by
  by_cases hwork : w.advance calls i now = w.goto i (w.phase i).work
  · refine ⟨w.goto i (w.phase i).work, .single hwork, w.goto_phase_self i _, rfl⟩
  · -- A phase whose step is none on a copy stays as it is.
    refine ⟨w, .refl, ?_, rfl⟩
    cases hphase : w.phase i with
    | reading | recording | updating =>
        simp only [World.advance, hphase] at hwork
        exact absurd trivial hwork
    | _ => rfl

/-- A try runs through its phases to what the whole transaction does. -/
theorem alone_attempt (calls : Calls ι) (now : Moment) {a : Attempt}
    (h : w.phase i = .reading a w.store.ledger) :
    ∃ w', Alone calls i now w w' ∧
      w'.phase i = .ended a ((w.store.attempt a.loan a.actor a.change a.now).2.map
        (changeReply a.change a.loan a.now)) ∧
      w'.store = (w.store.attempt a.loan a.actor a.change a.now).1 := by
  obtain ⟨w₁, hw₁, hphase₁, hstore₁⟩ := alone_work calls w i now
  obtain ⟨w₂, hw₂, hphase₂, hstore₂⟩ := alone_work calls w₁ i now
  obtain ⟨w₃, hw₃, hphase₃, hstore₃⟩ := alone_work calls w₂ i now
  have halone : Alone calls i now w w₃ := (hw₁.trans hw₂).trans hw₃
  have hstore : w₃.store = w.store := hstore₃.trans (hstore₂.trans hstore₁)
  rw [hphase₂, hphase₁, h, Phase.work_transition] at hphase₃
  cases ht : w.store.ledger.transition a.loan a.actor a.change a.now with
  | error f =>
      rw [Store.attempt_of_error ht]
      rw [ht] at hphase₃
      exact ⟨w₃, halone, hphase₃, hstore⟩
  | ok r =>
      rw [ht] at hphase₃
      refine ⟨w₃.advance calls i now, halone.tail rfl, ?_⟩
      simp only [World.advance, hphase₃, hstore, Store.attempt, ht]
      refine ⟨?_, trivial⟩
      rw [World.goto_phase_self]
      cases (w.store.commit r.1).2 <;> rfl

theorem isConflict_map {r : Except Failure Loan} (f : Loan → LoanReply) :
    isConflict (r.map f) = true ↔ r = .error .conflict := by
  cases r with
  | ok l => simp [isConflict, Except.map]
  | error e => cases e <;> simp [isConflict, Except.map]

/-- One try of a task that waits for the free guard. -/
theorem alone_try (calls : Calls ι) (now : Moment) {loan actor : Int} {c : Change} {tried : ℕ}
    (h : w.phase i = .waiting (.change loan actor c) tried) (hfree : w.guard = none) :
    ∃ w', Alone calls i now w w' ∧ w'.guard = none ∧
      w'.phase i = .dropped (.change loan actor c) tried
        ((w.store.attempt loan actor c now).2.map (changeReply c loan now)) ∧
      w'.store = (w.store.attempt loan actor c now).1 := by
  have hacquire : w.advance calls i now = _ := World.advance_waiting h hfree
  have hbegin : (w.advance calls i now).phase i =
      .reading ⟨loan, actor, c, tried, now⟩ (w.advance calls i now).store.ledger := by
    rw [hacquire]
    exact World.goto_phase_self _ _ _
  have hstore : (w.advance calls i now).store = w.store := by rw [hacquire]; rfl
  obtain ⟨w₁, hw₁, hphase₁, hstore₁⟩ := alone_attempt calls now hbegin
  rw [hstore] at hphase₁ hstore₁
  have halone : Alone calls i now w w₁ := Relation.ReflTransGen.head rfl hw₁
  refine ⟨w₁.advance calls i now, halone.tail rfl, ?_, ?_, ?_⟩
  all_goals simp only [World.advance, hphase₁, Phase.ended]
  · exact World.goto_phase_self _ _ _
  · exact hstore₁

theorem dropped_of_last (o : Order) {tried : ℕ} (h : tried + 1 = mostAttempts) (answer : Answer) :
    Phase.dropped o tried answer = .returned answer := by
  unfold Phase.dropped
  rw [if_neg (by omega)]

/-- A task that waits for the free guard tries as often as the operation does. -/
theorem alone_retry {loan actor : Int} {c : Change} {tried left : ℕ}
    (h : w.phase i = .waiting (.change loan actor c) tried) (hfree : w.guard = none)
    (hleft : tried + left + 1 = mostAttempts) (count pause waited : ℕ) :
    ∃ w', Alone calls i now w w' ∧ w'.guard = none ∧
      w'.phase i = .returned ((retryFrom (fun s => s.attempt loan actor c now) left count pause
        waited w.store).result.map (changeReply c loan now)) ∧
      w'.store = (retryFrom (fun s => s.attempt loan actor c now) left count pause
        waited w.store).state := by
  induction left generalizing w tried count pause waited with
  | zero =>
      obtain ⟨w₁, hw₁, hguard, hphase, hstore⟩ := alone_try calls now h hfree
      rw [dropped_of_last _ hleft] at hphase
      rw [retryFrom_of_last]
      exact ⟨w₁, hw₁, hguard, hphase, hstore⟩
  | succ left ih =>
      obtain ⟨w₁, hw₁, hguard, hphase, hstore⟩ := alone_try calls now h hfree
      by_cases hconflict : (w.store.attempt loan actor c now).2 = .error .conflict
      · have hagain : w₁.phase i = .waiting (.change loan actor c) (tried + 1) := by
          rw [hphase, Phase.dropped, if_pos]
          exact ⟨(isConflict_map _).mpr hconflict, by omega⟩
        obtain ⟨w₂, hw₂, hguard₂, hphase₂, hstore₂⟩ :=
          ih hagain hguard (by omega) (count + 1) (2 * pause) (waited + pause)
        rw [hstore] at hphase₂ hstore₂
        rw [retryFrom_of_conflict hconflict]
        exact ⟨w₂, hw₁.trans hw₂, hguard₂, hphase₂, hstore₂⟩
      · have hdone : w₁.phase i = .returned
            ((w.store.attempt loan actor c now).2.map (changeReply c loan now)) := by
          rw [hphase, Phase.dropped, if_neg]
          exact fun h => hconflict ((isConflict_map _).mp h.1)
        rw [retryFrom_of_settled hconflict]
        exact ⟨w₁, hw₁, hguard, hdone, hstore⟩

theorem alone_order (calls : Calls ι) (now : Moment) {o : Order}
    (h : w.phase i = .waiting o 0) (hfree : w.guard = none) :
    ∃ w', Alone calls i now w w' ∧ w'.guard = none ∧
      w'.phase i = .returned (o.execute w.store now).2 ∧
      w'.store = (o.execute w.store now).1 := by
  cases o with
  | change loan actor c =>
      exact alone_retry h hfree (by rfl) 0 firstPause 0
  | propose borrower principal =>
      obtain ⟨w₁, hw₁⟩ : ∃ w₁, w.advance calls i now = w₁ := ⟨_, rfl⟩
      obtain ⟨w₂, hw₂⟩ : ∃ w₂, w₁.advance calls i now = w₂ := ⟨_, rfl⟩
      obtain ⟨w₃, hw₃⟩ : ∃ w₃, w₂.advance calls i now = w₃ := ⟨_, rfl⟩
      have halone : Alone calls i now w w₃ := by
        have hfirst : Alone calls i now w w₁ := .single hw₁
        have hsecond : Alone calls i now w₁ w₂ := .single hw₂
        exact (hfirst.trans hsecond).tail hw₃
      rw [World.advance_waiting h hfree] at hw₁
      have hphase₁ : w₁.phase i = .creating borrower principal now := by
        rw [← hw₁]
        exact World.goto_phase_self _ _ _
      have hstore₁ : w₁.store = w.store := by rw [← hw₁]; rfl
      rw [World.advance_creating hphase₁, hstore₁] at hw₂
      have hphase₂ : w₂.phase i = .dropping (.propose borrower principal) 0 now
          (Order.execute w.store now (.propose borrower principal)).2 := by
        rw [← hw₂]
        exact World.goto_phase_self _ _ _
      rw [World.advance_dropping hphase₂] at hw₃
      refine ⟨w₃, halone, ?_, ?_, ?_⟩
      · rw [← hw₃]
      · rw [← hw₃]
        exact World.goto_phase_self _ _ _
      · rw [← hw₃, ← hw₂]
        rfl

/-- Run alone, a task does what the operation does: it leaves the same store and gives the same
answer, whatever conflicts wait. -/
theorem alone_performs (hcalled : w.phase i = .called) (hfree : w.guard = none) {p : Platform}
    (hp : p.store = w.store) :
    ∃ n answer, (w.run calls (List.replicate n (.task i now))).phase i = .returned answer ∧
      (w.run calls (List.replicate n (.task i now))).guard = none ∧
      (w.run calls (List.replicate n (.task i now))).store =
        ((calls i).2.perform p now (calls i).1).platform.store ∧
      ((calls i).2.perform p now (calls i).1).result = answer.mapError .failure := by
  suffices ∃ w' answer, Alone calls i now w w' ∧ w'.guard = none ∧ w'.phase i = .returned answer ∧
      w'.store = ((calls i).2.perform p now (calls i).1).platform.store ∧
      ((calls i).2.perform p now (calls i).1).result = answer.mapError .failure by
    obtain ⟨w', answer, halone, hguard, hphase, hstore, hresult⟩ := this
    obtain ⟨n, rfl⟩ := halone.exists_schedule
    exact ⟨n, answer, hphase, hguard, hstore, hresult⟩
  cases hcheck : (calls i).2.check (calls i).1 with
  | error f =>
      refine ⟨w.goto i (.returned (.error f)), .error f, ?_, hfree, ?_, ?_, ?_⟩
      · exact .single (World.advance_refused hcalled hcheck)
      · exact World.goto_phase_self _ _ _
      · rw [perform_of_refused hcheck]
        exact hp.symm
      · rw [perform_of_refused hcheck]
        rfl
  | ok o =>
      have hwaiting : (w.goto i (.waiting o 0)).phase i = .waiting o 0 := w.goto_phase_self i _
      obtain ⟨w', halone, hguard, hphase, hstore⟩ := alone_order calls now hwaiting hfree
      obtain ⟨hstore', hresult⟩ := @perform_of_checked p now _ _ o hcheck
      refine ⟨w', _, ?_, hguard, hphase, ?_, ?_⟩
      · exact halone.head (World.advance_checked hcalled hcheck)
      · rw [hstore, hstore', hp]
        rfl
      · rw [hresult, hp]
        rfl

end Alone

end Crowdlending.Interleaving
