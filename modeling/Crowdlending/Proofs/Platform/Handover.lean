import Mathlib.Data.Finset.Basic
import Crowdlending.Proofs.Platform.Run
import Crowdlending.Proofs.Platform.Worker

/-!
# From the dispatchers to the worker

Any number of dispatchers put events into the queue while the worker takes them out, and at some
moment the worker may be cancelled. A schedule says who comes next: a dispatcher with an event, a
dispatcher that is shared or given up, the cancellation, the rest of the platform with any change of
the loans, the accounts and the mailboxes, or the worker with its next step.

What the queue accepted is at every moment what was handled, then the event in hand, then what
waits. So nothing is lost, doubled or overtaken as long as the queue is empty when the receiver
goes. It is: before that the queue was closed, or there was nobody left to fill it.
-/
namespace Crowdlending.Worker
open Platform Account Loan Notification

variable {σ : Type}

/-- An event that was dropped, and the queue that it met. -/
structure Drop where
  event : Int
  found : Queue

/-- The platform and its worker, and who holds a dispatcher. The three logs take no part in the
steps: what the queue accepted, what was handled to the end, and what was dropped. -/
structure World (σ : Type) where
  platform : Platform
  phase : Phase
  dispatchers : Finset σ
  cancelled : Bool
  accepted : List Int
  handled : List Int
  dropped : List Drop

inductive Event (σ : Type) where
  | dispatch (i : σ) (event : Int)
  | share (i j : σ)
  | release (i : σ)
  | cancel
  | change (store : Store) (users : Directory) (refusing : List String)
  | work (cancelFirst : Bool)

namespace World

/-- A worker that has just been started, with a queue of its own. -/
def start (p : Platform) (capacity : ℕ) (dispatchers : Finset σ) : World σ :=
  ⟨{ p with queue := .ofCapacity capacity }, .selecting, dispatchers, false, [], [], []⟩

def dispatch (w : World σ) (event : Int) : World σ :=
  let after := { w with platform := w.platform.dispatch event }
  if (w.platform.queue.dispatch event).2 then { after with accepted := w.accepted ++ [event] }
  else { after with dropped := w.dropped ++ [⟨event, w.platform.queue⟩] }

variable [DecidableEq σ]

def signals (w : World σ) (cancelFirst : Bool) : Signals :=
  ⟨w.cancelled, w.dispatchers = ∅, cancelFirst⟩

def work (s : Setup) (w : World σ) (cancelFirst : Bool) : World σ :=
  let r := Worker.work s (w.signals cancelFirst) (w.platform, w.phase)
  { w with platform := r.1, phase := r.2, handled := w.handled ++ w.phase.done?.toList }

/-- Only who holds a dispatcher can use or share it. -/
def step (s : Setup) (w : World σ) : Event σ → World σ
  | .dispatch i event => if i ∈ w.dispatchers then w.dispatch event else w
  | .share i j =>
      if i ∈ w.dispatchers then { w with dispatchers := insert j w.dispatchers } else w
  | .release i => { w with dispatchers := w.dispatchers.erase i }
  | .cancel => { w with cancelled := true }
  | .change store users refusing =>
      { w with
        platform :=
          { w.platform with store, users, outbox := { w.platform.outbox with refusing } } }
  | .work cancelFirst => w.work s cancelFirst

def run (s : Setup) (w : World σ) (schedule : List (Event σ)) : World σ :=
  schedule.foldl (step s) w

theorem run_append (s : Setup) (w : World σ) (a b : List (Event σ)) :
    w.run s (a ++ b) = (w.run s a).run s b := List.foldl_append

end World

/-! ## A step of the worker -/

section Work
variable (s : Setup) (g : Signals) (p : Platform)

theorem held?_next (h : Held) : h.next.held? = none := by
  unfold Held.next
  split <;> rfl

/-- What the worker takes out of the queue it has in hand until it has done with it. -/
theorem events_work {ph : Phase} (hleaving : ph = .leaving → p.queue.events = []) :
    ph.done?.toList ++ ((work s g (p, ph)).2.held?.map Held.event).toList ++
        (work s g (p, ph)).1.queue.events =
      (ph.held?.map Held.event).toList ++ p.queue.events := by
  have hreceive : ∀ drains otherwise, otherwise.held? = none →
      ((receive p drains otherwise).2.held?.map Held.event).toList ++
        (receive p drains otherwise).1.queue.events = p.queue.events := by
    intro drains otherwise hnone
    rcases receive_cases p drains otherwise with ⟨-, h⟩ | ⟨e, events, hevents, h⟩
    · rw [h, hnone]
      rfl
    · rw [h, hevents]
      rfl
  cases ph with
  | selecting =>
      rw [work]
      split
      · rfl
      · exact hreceive false _ (by split <;> rfl)
  | draining => exact hreceive true .leaving rfl
  | mailing h left =>
      cases left with
      | nil => rw [work, held?_next]; rfl
      | cons u left => rfl
  | leaving => rw [hleaving rfl]; rfl
  | _ => rfl

end Work

/-! ## What the phase tells about the queue -/

/-- Neither about to close the queue nor past the last look into it. -/
def Phase.isUnderWay : Phase → Bool
  | closing | leaving | stopped => false
  | _ => true

/-- A worker that drains or has stopped has closed the queue. It leaves when nothing is in the queue
and nothing can come any more; and it neither closes the queue nor goes before it is told to. -/
structure Consistent (cancelled abandoned : Prop) (q : Queue) (ph : Phase) : Prop where
  closed : ph.isClosed = true → q.closed = true
  empty : ph = .leaving ∨ ph = .stopped → q.events = []
  last : ph = .leaving → q.closed = true ∨ abandoned
  cause : q.closed = true ∨ ph = .closing → cancelled ∨ abandoned

section Consistent
variable {cancelled abandoned : Prop} {q : Queue} {ph : Phase}

theorem accepts_iff : q.accepts = true ↔ q.closed = false ∧ q.events.length < q.capacity := by
  simp [Queue.accepts]

/-- Signals stay once they are given. -/
theorem Consistent.mono {cancelled' abandoned' : Prop} (h : Consistent cancelled abandoned q ph)
    (hcancelled : cancelled → cancelled') (habandoned : abandoned → abandoned') :
    Consistent cancelled' abandoned' q ph where
  closed := h.closed
  empty := h.empty
  last hph := (h.last hph).imp_right habandoned
  cause hq := (h.cause hq).imp hcancelled habandoned

/-- Of such a phase it matters only whether the queue was closed on the way there. -/
theorem Consistent.of_isUnderWay (hway : ph.isUnderWay = true)
    (hcause : q.closed = true → cancelled ∨ abandoned)
    (hclosed : ph.isClosed = true → q.closed = true) : Consistent cancelled abandoned q ph where
  closed := hclosed
  empty := by rintro (rfl | rfl) <;> cases hway
  last := by
    rintro rfl
    cases hway
  cause := by
    rintro (hq | rfl)
    · exact hcause hq
    · cases hway

theorem Consistent.of_leaving (hcause : q.closed = true → cancelled ∨ abandoned)
    (hnil : q.events = []) (hlast : q.closed = true ∨ abandoned) :
    Consistent cancelled abandoned q .leaving where
  closed h := absurd h Bool.false_ne_true
  empty _ := hnil
  last _ := hlast
  cause := by
    rintro (hq | hph)
    · exact hcause hq
    · cases hph

/-- As long as there is a dispatcher, an event may come in. It does not come in too late. -/
theorem Consistent.dispatch (h : Consistent cancelled abandoned q ph) (hthere : ¬abandoned)
    (e : Int) : Consistent cancelled abandoned (q.dispatch e).1 ph := by
  rw [Queue.dispatch]
  split
  · next haccepts =>
      have hopen := (accepts_iff.mp haccepts).1
      refine ⟨h.closed, ?_, h.last, h.cause⟩
      rintro (rfl | rfl)
      · rcases h.last rfl with hclosed | habandoned
        · rw [hopen] at hclosed
          cases hclosed
        · exact absurd habandoned hthere
      · have hclosed := h.closed rfl
        rw [hopen] at hclosed
        cases hclosed
  · exact h

section Work
variable (s : Setup) {g : Signals} {p : Platform}

/-- Whatever comes out of the queue, the next phase agrees with what is left of it. -/
theorem Consistent.receive {drains : Bool} {otherwise : Phase}
    (hcause : p.queue.closed = true → cancelled ∨ abandoned)
    (hdrains : drains = true → p.queue.closed = true)
    (hotherwise : p.queue.events = [] → Consistent cancelled abandoned p.queue otherwise) :
    Consistent cancelled abandoned (receive p drains otherwise).1.queue
      (receive p drains otherwise).2 := by
  rcases receive_cases p drains otherwise with ⟨hnil, h⟩ | ⟨e, events, -, h⟩
  · rw [h]
    exact hotherwise hnil
  · rw [h]
    exact .of_isUnderWay rfl hcause hdrains

theorem Consistent.work (h : Consistent (g.cancelled = true) (g.abandoned = true) p.queue ph) :
    Consistent (g.cancelled = true) (g.abandoned = true) (work s g (p, ph)).1.queue
      (work s g (p, ph)).2 := by
  have hcause := fun hq => h.cause (.inl hq)
  cases ph with
  | selecting =>
      rw [Worker.work]
      split
      · next hcancel =>
          rw [Bool.and_eq_true] at hcancel
          exact
            { closed := fun hph => absurd hph Bool.false_ne_true
              empty := by rintro (hph | hph) <;> cases hph
              last := fun hph => by cases hph
              cause := fun _ => .inl hcancel.1 }
      · refine .receive hcause (fun hdrains => absurd hdrains Bool.false_ne_true) fun hnil => ?_
        split
        · next hanswers =>
            exact .of_leaving hcause hnil (by simpa [Signals.answers, hnil] using hanswers)
        · exact h
  | holding h' => exact .of_isUnderWay rfl hcause h.closed
  | listed h' investors => exact .of_isUnderWay rfl hcause h.closed
  | mailing h' left =>
      cases left with
      | nil =>
          obtain ⟨event, drains⟩ := h'
          cases drains with
          | true => exact .of_isUnderWay rfl hcause h.closed
          | false =>
              exact .of_isUnderWay rfl hcause fun hclosed => absurd hclosed Bool.false_ne_true
      | cons u left => exact .of_isUnderWay rfl hcause h.closed
  | closing => exact .of_isUnderWay rfl (fun _ => h.cause (.inr rfl)) fun _ => rfl
  | draining =>
      refine .receive hcause (fun _ => h.closed rfl) fun hnil => ?_
      exact .of_leaving hcause hnil (.inl (h.closed rfl))
  | leaving =>
      exact
        { closed := fun _ => rfl
          empty := fun _ => rfl
          last := fun hph => by cases hph
          cause := fun _ => (h.last rfl).elim hcause .inr }
  | stopped => exact h

end Work

end Consistent

/-! ## Every schedule -/

namespace World

/-- What holds of a world at every moment: the queue was set up with `capacity`, and `before` events
had been counted as dropped. -/
structure Orderly (capacity before : ℕ) (w : World σ) : Prop where
  order : w.handled ++ (w.phase.held?.map Held.event).toList ++ w.platform.queue.events = w.accepted
  room : w.platform.queue.capacity = max capacity 1
  bounded : w.platform.queue.events.length ≤ max capacity 1
  consistent :
    Consistent (w.cancelled = true) (w.dispatchers = ∅) w.platform.queue w.phase
  drops : ∀ d ∈ w.dropped, d.found.events.length = max capacity 1 ∨ d.found.closed = true
  counted : w.platform.metrics.count (.notification .dropped) = before + w.dropped.length

section Orderly
variable {capacity before : ℕ} {w : World σ}

theorem orderly_start (p : Platform) (capacity : ℕ) (dispatchers : Finset σ) :
    Orderly capacity (p.metrics.count (.notification .dropped)) (start p capacity dispatchers) where
  order := rfl
  room := rfl
  bounded := Nat.zero_le _
  consistent := .of_isUnderWay rfl (fun hq => absurd hq Bool.false_ne_true)
    fun hclosed => absurd hclosed Bool.false_ne_true
  drops _ hd := absurd hd List.not_mem_nil
  counted := rfl

/-- Each event is handled after those that were accepted before it. -/
theorem Orderly.handled_prefix (h : w.Orderly capacity before) :
    w.handled ++ (w.phase.held?.map Held.event).toList <+: w.accepted := by
  rw [← h.order]
  exact List.prefix_append _ _

theorem Orderly.handled_eq (h : w.Orderly capacity before) (hstopped : w.phase = .stopped) :
    w.handled = w.accepted := by
  have hempty := h.consistent.empty (.inr hstopped)
  rw [← h.order, hempty, hstopped]
  simp [Phase.held?]

theorem Orderly.cause (h : w.Orderly capacity before) (hstopped : w.phase = .stopped) :
    w.cancelled = true ∨ w.dispatchers = ∅ := by
  have hclosed : w.platform.queue.closed = true := h.consistent.closed (by rw [hstopped]; rfl)
  exact h.consistent.cause (.inl hclosed)

theorem dispatch_of_accepts (h : w.platform.queue.accepts = true) (event : Int) :
    w.dispatch event =
      { w with
        platform :=
          { w.platform with
            queue := { w.platform.queue with events := w.platform.queue.events ++ [event] } }
        accepted := w.accepted ++ [event] } := by
  simp [World.dispatch, Platform.dispatch, Queue.dispatch, h]

theorem dispatch_of_refuses (h : w.platform.queue.accepts = false) (event : Int) :
    w.dispatch event =
      { w with
        platform := w.platform.count (.notification .dropped)
        dropped := w.dropped ++ [⟨event, w.platform.queue⟩] } := by
  simp [World.dispatch, Platform.dispatch, Queue.dispatch, h]

theorem Orderly.dispatch (h : w.Orderly capacity before) (hthere : w.dispatchers ≠ ∅)
    (event : Int) : (w.dispatch event).Orderly capacity before := by
  rcases hq : w.platform.queue.accepts with _ | _
  · have hfull : w.platform.queue.events.length = max capacity 1 ∨
        w.platform.queue.closed = true := by
      have hor : w.platform.queue.closed = true ∨
          w.platform.queue.capacity ≤ w.platform.queue.events.length := by
        simpa [Queue.accepts, imp_iff_not_or] using hq
      rw [h.room] at hor
      exact hor.symm.imp_left h.bounded.antisymm
    rw [dispatch_of_refuses hq]
    exact
      { order := h.order
        room := h.room
        bounded := h.bounded
        consistent := h.consistent
        drops := by
          intro d hd
          rcases List.mem_append.mp hd with hd | hd
          · exact h.drops d hd
          · rw [List.mem_singleton.mp hd]
            exact hfull
        counted := by
          simp [Platform.count, h.counted, Nat.add_assoc] }
  · have hroom : w.platform.queue.events.length < max capacity 1 := by
      rw [← h.room]
      exact (accepts_iff.mp hq).2
    have hconsistent := h.consistent.dispatch hthere event
    rw [Queue.dispatch, if_pos hq] at hconsistent
    rw [dispatch_of_accepts hq]
    exact
      { order := by rw [← h.order, List.append_assoc _ _ [event]]
        room := h.room
        bounded := by
          rw [List.length_append]
          exact hroom
        consistent := hconsistent
        drops := h.drops
        counted := h.counted }

variable [DecidableEq σ]

theorem Orderly.work (s : Setup) (h : w.Orderly capacity before) (cancelFirst : Bool) :
    (w.work s cancelFirst).Orderly capacity before := by
  have hevents := events_work s (w.signals cancelFirst) w.platform
    fun hph => h.consistent.empty (.inl hph)
  have hspares := spares_work s (w.signals cancelFirst) w.platform w.phase
  have hconsistent : Consistent (w.cancelled = true) (w.dispatchers = ∅)
      (w.work s cancelFirst).platform.queue (w.work s cancelFirst).phase := by
    refine (Consistent.work s (g := w.signals cancelFirst) ?_).mono id of_decide_eq_true
    exact h.consistent.mono id decide_eq_true
  exact
    { order := by
        refine .trans ?_ h.order
        rw [List.append_assoc w.handled, ← hevents]
        simp only [World.work, List.append_assoc]
      room := hspares.capacity.trans h.room
      bounded := hspares.events.trans h.bounded
      consistent := hconsistent
      drops := h.drops
      counted := hspares.dropped.trans h.counted }

theorem Orderly.step (s : Setup) (h : w.Orderly capacity before) (e : Event σ) :
    (w.step s e).Orderly capacity before := by
  cases e with
  | dispatch i event =>
      rw [World.step]
      split
      · next hi => exact h.dispatch (Finset.ne_empty_of_mem hi) event
      · exact h
  | share i j =>
      rw [World.step]
      split
      · next hi =>
          have hnever : w.dispatchers = ∅ → insert j w.dispatchers = ∅ :=
            fun hnone => absurd hnone (Finset.ne_empty_of_mem hi)
          exact { h with consistent := h.consistent.mono id hnever }
      · exact h
  | release i =>
      have hstill : w.dispatchers = ∅ → w.dispatchers.erase i = ∅ := by
        intro hnone
        rw [hnone]
        rfl
      exact { h with consistent := h.consistent.mono id hstill }
  | cancel => exact { h with consistent := h.consistent.mono (fun _ => rfl) id }
  | change store users refusing => exact { h with }
  | work cancelFirst => exact h.work s cancelFirst

theorem Orderly.run (s : Setup) (h : w.Orderly capacity before) (schedule : List (Event σ)) :
    (w.run s schedule).Orderly capacity before := by
  induction schedule generalizing w with
  | nil => exact h
  | cons e schedule ih => exact ih (h.step s e)

end Orderly

section Alone
variable [DecidableEq σ] (s : Setup) (cancelFirst : Bool) (w : World σ)

/-- When only the worker goes on, it goes on as if it were alone. -/
theorem run_work (n : ℕ) :
    ((w.run s (.replicate n (.work cancelFirst))).platform,
        (w.run s (.replicate n (.work cancelFirst))).phase) =
      (Worker.work s (w.signals cancelFirst))^[n] (w.platform, w.phase) := by
  induction n generalizing w with
  | zero => rfl
  | succ n ih => exact ih (w.work s cancelFirst)

theorem accepted_run_work (n : ℕ) :
    (w.run s (.replicate n (.work cancelFirst))).accepted = w.accepted := by
  induction n generalizing w with
  | zero => rfl
  | succ n ih => exact ih (w.work s cancelFirst)

/-- The event in hand is handled as in one go, and then it stands in the log. -/
theorem Orderly.finish {capacity before : ℕ} {w : World σ} (horderly : w.Orderly capacity before)
    {h : Held} (hphase : w.phase = .holding h) : ∃ n,
      (w.run s (.replicate n (.work cancelFirst))).handled = w.handled ++ [h.event] ∧
        (w.run s (.replicate n (.work cancelFirst))).platform =
          Worker.handled s w.platform h.event := by
  obtain ⟨n, hn⟩ := leads_holding s (w.signals cancelFirst) h w.platform
  have hrun := run_work s cancelFirst w n
  rw [hphase, hn] at hrun
  obtain ⟨hplatform, hnext⟩ := Prod.mk.inj hrun
  refine ⟨n, ?_, hplatform⟩
  -- The log is told by the order: what the queue accepted is the same, and so is what waits in it.
  have horder := (horderly.run s (.replicate n (.work cancelFirst))).order
  rw [accepted_run_work, hplatform, hnext, held?_next, ← horderly.order, hphase] at horder
  rw [Option.map_none, Option.toList_none, List.append_nil] at horder
  exact List.append_cancel_right horder

end Alone

end World

section Delivery
variable [DecidableEq σ] (s : Setup) (p : Platform) (capacity : ℕ) (dispatchers : Finset σ)

/-- Whatever the capacity, whoever sends when, and whenever the worker goes on or is cancelled: what
was handled is the beginning of what the queue accepted, also with the event in hand after it, and
all of it once the worker has stopped. What is handled is mailed: given its turns, the worker leaves
what the event in hand leads to. It stops only after it was cancelled or when all dispatchers are
gone, and then it does if it is given its turns. Nothing is dropped unless the queue is full or
closed, and each dropped event is counted. -/
theorem delivered_of_schedule (schedule : List (Event σ)) :
    let w := (World.start p capacity dispatchers).run s schedule
    (w.handled <+: w.accepted ∧
        w.handled ++ (w.phase.held?.map Held.event).toList <+: w.accepted) ∧
      (w.phase = .stopped →
        w.handled = w.accepted ∧ (w.cancelled = true ∨ w.dispatchers = ∅)) ∧
      (∀ h, w.phase = .holding h → ∀ cancelFirst, ∃ n,
        (w.run s (.replicate n (.work cancelFirst))).handled = w.handled ++ [h.event] ∧
          (w.run s (.replicate n (.work cancelFirst))).platform =
            handled s w.platform h.event) ∧
      (w.cancelled = true ∨ w.dispatchers = ∅ → ∀ cancelFirst,
        ∃ n, (w.run s (.replicate n (.work cancelFirst))).phase = .stopped) ∧
      (∀ d ∈ w.dropped, d.found.events.length = max capacity 1 ∨ d.found.closed = true) ∧
      w.platform.metrics.count (.notification .dropped) =
        p.metrics.count (.notification .dropped) + w.dropped.length := by
  intro w
  have h := (World.orderly_start p capacity dispatchers).run s schedule
  refine ⟨⟨(List.prefix_append _ _).trans h.handled_prefix, h.handled_prefix⟩,
    fun hstopped => ⟨h.handled_eq hstopped, h.cause hstopped⟩,
    fun held hphase cancelFirst => h.finish s cancelFirst hphase, ?_, h.drops, h.counted⟩
  intro htold cancelFirst
  have hsignal : (w.signals cancelFirst).cancelled = true ∨
      (w.signals cancelFirst).abandoned = true := htold.imp_right decide_eq_true
  obtain ⟨q, n, hn⟩ := ends_of_signal s hsignal w.platform w.phase
  have hrun := World.run_work s cancelFirst w n
  rw [hn] at hrun
  exact ⟨n, congrArg Prod.snd hrun⟩

/-- One place in the queue, although none was asked for. While event 1 is handled, event 2 finds the
place that it left, event 3 finds none, and the cancellation comes; event 4 is too late. -/
def crowded : List (Event ℕ) :=
  [.dispatch 0 1, .share 0 1, .work false, .dispatch 1 2, .dispatch 0 3, .work false, .cancel,
    .work false, .work false, .work true, .work true, .dispatch 1 4, .work true, .work true,
    .work true, .work true, .work true, .work true]

theorem delivered_of_crowded :
    let w := (World.start (.start 0) 0 {0}).run bareSetup crowded
    (w.phase = .stopped ∧ w.accepted = [1, 2] ∧ w.dropped.map Drop.event = [3, 4]) ∧
      w.handled = [1, 2] ∧ w.platform.metrics.count (.notification .dropped) = 2 := by
  have hends : let w := (World.start (.start 0) 0 {0}).run bareSetup crowded
      w.phase = .stopped ∧ w.accepted = [1, 2] ∧ w.dropped.map Drop.event = [3, 4] := by
    decide +kernel
  obtain ⟨hstopped, haccepted, hdropped⟩ := hends
  have h := delivered_of_schedule bareSetup (.start 0) 0 {0} crowded
  refine ⟨⟨hstopped, haccepted, hdropped⟩, (h.2.1 hstopped).1.trans haccepted, ?_⟩
  rw [h.2.2.2.2.2, ← List.length_map Drop.event, hdropped]
  rfl

end Delivery

end Crowdlending.Worker
