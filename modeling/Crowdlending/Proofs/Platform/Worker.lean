import Mathlib.Logic.Function.Iterate
import Crowdlending.Platform.State
import Crowdlending.Proofs.Metrics

/-!
# The worker step by step

The worker waits for an event and for its cancellation at once, and where both are there it may take
either. An event that it has received is handled to the end: the investors of the loan are read,
then their accounts, and then one mail follows the other. Once cancelled, the worker closes the
queue and handles what is still in it; once all dispatchers are gone, it stops when the queue is
empty. Between any two of these steps anything may happen on the platform, also between the last
look into the queue and the moment at which the receiver is gone. Each operation of the queue is a
single step; how a channel is shared among threads is not looked into.

The steps are those of the operation itself: alone with a closed queue, the worker leaves what
`runWorker` leaves.
-/
namespace Crowdlending.Worker
open Platform Account Loan Notification

/-- A received event; `drains` tells whether the worker was cancelled before. -/
structure Held where
  event : Int
  drains : Bool
deriving DecidableEq

/-- How far the worker has come. -/
inductive Phase where
  | selecting
  | holding (h : Held)
  /-- The investors of the loan are read. -/
  | listed (h : Held) (investors : List Int)
  | mailing (h : Held) (left : List User)
  | closing
  | draining
  /-- Nothing is left to do, and the receiver is still there. -/
  | leaving
  | stopped
deriving DecidableEq

/-- What comes after the event. -/
def Held.next (h : Held) : Phase := if h.drains then .draining else .selecting

namespace Phase

/-- The event that is received and not yet handled. -/
def held? : Phase → Option Held
  | holding h => some h
  | listed h _ => some h
  | mailing h _ => some h
  | _ => none

/-- The event that the next step has done with. -/
def done? : Phase → Option Int
  | mailing h [] => some h.event
  | _ => none

/-- The queue was closed on the way here. -/
def isClosed : Phase → Bool
  | holding h => h.drains
  | listed h _ => h.drains
  | mailing h _ => h.drains
  | draining => true
  | stopped => true
  | _ => false

end Phase

/-- What the worker hears while it waits. -/
structure Signals where
  cancelled : Bool
  /-- All dispatchers are gone. -/
  abandoned : Bool
  /-- The cancellation is asked for before the queue. -/
  cancelFirst : Bool

/-- The queue has something to tell: an event, or that none will follow. -/
def Signals.answers (g : Signals) (q : Queue) : Bool := !q.events.isEmpty || q.closed || g.abandoned

/-- Takes the oldest event; without one, `otherwise` is what comes next. -/
def receive (p : Platform) (drains : Bool) (otherwise : Phase) : Platform × Phase :=
  match p.queue.receive? with
  | some (event, queue) => ({ p with queue }, .holding ⟨event, drains⟩)
  | none => (p, otherwise)

def mail (s : Setup) (p : Platform) (u : User) : Platform :=
  let d := deliver s.sender ⟨p.outbox, p.metrics, 0⟩ u
  { p with outbox := d.outbox, metrics := d.metrics }

/-- The next step of the worker: the platform and its phase afterwards. -/
def work (s : Setup) (g : Signals) : Platform × Phase → Platform × Phase
  | (p, .selecting) =>
      if g.cancelled && (g.cancelFirst || !g.answers p.queue) then (p, .closing)
      else receive p false (if g.answers p.queue then .leaving else .selecting)
  | (p, .holding h) =>
      (p, .listed h ((p.store.ledger.investmentsOf h.event).map Investment.investor))
  | (p, .listed h investors) => (p, .mailing h (p.users.withIds investors))
  | (p, .mailing h (u :: left)) => (mail s p u, .mailing h left)
  | (p, .mailing h []) => (p, h.next)
  | (p, .closing) => ({ p with queue := p.queue.close }, .draining)
  | (p, .draining) => receive p true .leaving
  | (p, .leaving) => ({ p with queue := p.queue.drop }, .stopped)
  | (p, .stopped) => (p, .stopped)

section Receive
variable {p : Platform} {drains : Bool} {otherwise : Phase}

theorem receive_nil (h : p.queue.events = []) : receive p drains otherwise = (p, otherwise) := by
  simp only [receive, Queue.receive?, h]

theorem receive_cons {e : Int} {events : List Int} (h : p.queue.events = e :: events) :
    receive p drains otherwise =
      ({ p with queue := { p.queue with events } }, .holding ⟨e, drains⟩) := by
  simp only [receive, Queue.receive?, h]

theorem receive_cases (p : Platform) (drains : Bool) (otherwise : Phase) :
    (p.queue.events = [] ∧ receive p drains otherwise = (p, otherwise)) ∨
      ∃ e events, p.queue.events = e :: events ∧ receive p drains otherwise =
        ({ p with queue := { p.queue with events } }, .holding ⟨e, drains⟩) := by
  cases h : p.queue.events with
  | nil => exact .inl ⟨rfl, receive_nil h⟩
  | cons e events => exact .inr ⟨e, events, rfl, receive_cons h⟩

end Receive

/-! ## What the worker leaves alone -/

/-- The loans are as they were, the queue has not become longer, and nothing more is counted as
dropped. -/
structure Spares (p q : Platform) : Prop where
  store : q.store = p.store
  capacity : q.queue.capacity = p.queue.capacity
  events : q.queue.events.length ≤ p.queue.events.length
  dropped : q.metrics.count (.notification .dropped) = p.metrics.count (.notification .dropped)

theorem Spares.refl (p : Platform) : Spares p p := ⟨rfl, rfl, Nat.le_refl _, rfl⟩

theorem spares_receive (p : Platform) (drains : Bool) (otherwise : Phase) :
    Spares p (receive p drains otherwise).1 := by
  rcases receive_cases p drains otherwise with ⟨-, h⟩ | ⟨e, events, hevents, h⟩
  · rw [h]
    exact .refl p
  · rw [h]
    refine ⟨rfl, rfl, ?_, rfl⟩
    rw [hevents]
    exact Nat.le_succ _

theorem spares_mail (s : Setup) (p : Platform) (u : User) : Spares p (mail s p u) := by
  refine ⟨rfl, rfl, Nat.le_refl _, ?_⟩
  simp only [mail, deliver, Metrics.count_add]
  split <;> simp

theorem spares_work (s : Setup) (g : Signals) (p : Platform) (ph : Phase) :
    Spares p (work s g (p, ph)).1 := by
  cases ph with
  | selecting =>
      rw [work]
      split
      · exact .refl p
      · exact spares_receive p _ _
  | mailing h left =>
      cases left with
      | nil => exact .refl p
      | cons u left => exact spares_mail s p u
  | closing => exact ⟨rfl, rfl, Nat.le_refl _, rfl⟩
  | draining => exact spares_receive p _ _
  | leaving => exact ⟨rfl, rfl, Nat.zero_le _, rfl⟩
  | _ => exact .refl p

/-! ## The worker alone -/

/-- Some steps of the worker alone lead from the one to the other. -/
def Leads (s : Setup) (g : Signals) (x y : Platform × Phase) : Prop := ∃ n, (work s g)^[n] x = y

section Alone
variable {s : Setup} {g : Signals} {x y z : Platform × Phase}

theorem Leads.refl (x : Platform × Phase) : Leads s g x x := ⟨0, rfl⟩

theorem Leads.trans (h : Leads s g x y) (h' : Leads s g y z) : Leads s g x z := by
  obtain ⟨n, rfl⟩ := h
  obtain ⟨m, rfl⟩ := h'
  exact ⟨m + n, Function.iterate_add_apply _ m n x⟩

theorem Leads.head (h : Leads s g (work s g x) y) : Leads s g x y := by
  obtain ⟨n, hn⟩ := h
  exact ⟨n + 1, hn⟩

/-- The platform when the event has been handled in one go. -/
def handled (s : Setup) (p : Platform) (event : Int) : Platform :=
  let d := notify p.store.ledger p.users s.sender event p.outbox p.metrics
  { p with outbox := d.outbox, metrics := d.metrics }

/-- Mail by mail or all at once: what is sent and counted is the same. -/
theorem foldl_mail (s : Setup) (users : List User) (p : Platform) (sent : ℕ) :
    users.foldl (mail s) p =
      { p with
        outbox := (users.foldl (deliver s.sender) ⟨p.outbox, p.metrics, sent⟩).outbox
        metrics := (users.foldl (deliver s.sender) ⟨p.outbox, p.metrics, sent⟩).metrics } := by
  induction users generalizing p sent with
  | nil => rfl
  | cons u users ih =>
      rw [List.foldl_cons, List.foldl_cons]
      exact ih (mail s p u) _

theorem leads_mailing (s : Setup) (g : Signals) (h : Held) (left : List User) (p : Platform) :
    Leads s g (p, .mailing h left) (left.foldl (mail s) p, h.next) := by
  induction left generalizing p with
  | nil => exact .head (.refl _)
  | cons u left ih => exact .head (ih (mail s p u))

/-- An event that was received is handled as in one go. -/
theorem leads_holding (s : Setup) (g : Signals) (h : Held) (p : Platform) :
    Leads s g (p, .holding h) (handled s p h.event, h.next) := by
  have hmailing := leads_mailing s g h (recipients p.store.ledger p.users h.event) p
  rw [foldl_mail s _ p 0] at hmailing
  exact .head (.head hmailing)

/-- Left alone once the queue is closed, the worker handles all that is in it, as `runWorker` does,
and is gone. -/
theorem leads_draining (s : Setup) (g : Signals) (p : Platform) :
    Leads s g (p, .draining) ({ p.runWorker s with queue := p.queue.drop }, .stopped) := by
  obtain ⟨store, users, ⟨capacity, events, closed⟩, outbox, metrics, ready, source⟩ := p
  induction events generalizing outbox metrics with
  | nil => exact .head (.head (.refl _))
  | cons e events ih => exact .head ((leads_holding s g ⟨e, true⟩ _).trans (ih _ _))

/-- Left alone, the worker comes to its end. -/
def Ends (s : Setup) (g : Signals) (x : Platform × Phase) : Prop :=
  ∃ q, Leads s g x (q, .stopped)

theorem Ends.of_leads (h : Leads s g x y) (hends : Ends s g y) : Ends s g x := by
  obtain ⟨q, hq⟩ := hends
  exact ⟨q, h.trans hq⟩

theorem Ends.head (h : Ends s g (work s g x)) : Ends s g x := .of_leads (.head (.refl _)) h

theorem ends_draining (s : Setup) (g : Signals) (p : Platform) : Ends s g (p, .draining) :=
  ⟨_, leads_draining s g p⟩

/-- A worker that has been cancelled, or that nobody can send anything any more, does not wait for
ever. -/
theorem ends_selecting (s : Setup) (hends : g.cancelled = true ∨ g.abandoned = true)
    (p : Platform) : Ends s g (p, .selecting) := by
  obtain ⟨store, users, ⟨capacity, events, closed⟩, outbox, metrics, ready, source⟩ := p
  induction events generalizing outbox metrics with
  | nil =>
      refine .head ?_
      rw [work]
      split
      · exact .head (ends_draining s g _)
      · next hstays =>
          have hanswers : g.answers ⟨capacity, [], closed⟩ = true := by
            rcases hends with hcancelled | habandoned
            · have hboth : g.cancelFirst = false ∧ g.answers ⟨capacity, [], closed⟩ = true := by
                simpa [hcancelled] using hstays
              exact hboth.2
            · simp [Signals.answers, habandoned]
          rw [receive_nil rfl, if_pos hanswers]
          exact ⟨_, .head (.refl _)⟩
  | cons e events ih =>
      refine .head ?_
      rw [work]
      split
      · exact .head (ends_draining s g _)
      · rw [receive_cons rfl]
        exact .of_leads (leads_holding s g ⟨e, false⟩ _) (ih _ _)

theorem ends_of_signal (s : Setup) (hends : g.cancelled = true ∨ g.abandoned = true)
    (p : Platform) (ph : Phase) : Ends s g (p, ph) := by
  have hnext : ∀ (q : Platform) (h : Held), Ends s g (q, h.next) := by
    rintro q ⟨event, drains⟩
    cases drains with
    | true => exact ends_draining s g q
    | false => exact ends_selecting s hends q
  cases ph with
  | selecting => exact ends_selecting s hends p
  | holding h => exact .of_leads (leads_holding s g h p) (hnext _ h)
  | listed h investors => exact .head (.of_leads (leads_mailing s g h _ p) (hnext _ h))
  | mailing h left => exact .of_leads (leads_mailing s g h left p) (hnext _ h)
  | closing => exact .head (ends_draining s g _)
  | draining => exact ends_draining s g p
  | leaving => exact ⟨_, .head (.refl _)⟩
  | stopped => exact ⟨p, .refl _⟩

end Alone

end Crowdlending.Worker
