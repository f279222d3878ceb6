import Crowdlending.Proofs.Loan.Full
import Crowdlending.Proofs.Notification.Worker
import Crowdlending.Proofs.Platform.Authority

/-!
# A platform from turn to turn

Calls, the hands of an operator and the worker take turns: an operator seeds accounts,
sets their status, sets conflicts to come, deletes loans and shuts mailboxes, and the
worker takes one event at a time, at any moment. A journal keeps, next to the platform,
which events were handled and which tokens were issued, and what was found then.

Whatever the turn, the ledger takes a step or stays, the directory goes on, the queue
gets what a call announces and loses what the worker takes, and only the worker mails.
-/
namespace Crowdlending.Platform
open Token Account Loan Notification

/-- The worker takes the oldest event and mails the investors of its loan. -/
def handleNext (s : Setup) (p : Platform) : Platform :=
  match p.queue.receive? with
  | none => p
  | some (e, queue) =>
      let d := notify p.store.ledger p.users s.sender e p.outbox p.metrics
      { p with queue, outbox := d.outbox, metrics := d.metrics }

/-- To handle everything is to handle the next event as often as there are events. -/
theorem runWorker_eq (s : Setup) (p : Platform) :
    p.runWorker s = (handleNext s)^[p.queue.events.length] p := by
  obtain ⟨store, users, ⟨capacity, events, closed⟩, outbox, metrics, ready, source⟩ := p
  simp only [runWorker]
  induction events generalizing outbox metrics with
  | nil => rfl
  | cons e events ih => exact ih _ _

inductive Turn where
  | loan (now : Moment) (caller : Option Claims) (r : LoanRequest)
  | account (call : Call) (caller : Option Claims) (r : AccountRequest)
  | seed (r : Registration)
  | setStatus (id : Int) (status : Status)
  | setConflicts (n : ℕ)
  | deleteLoan (now : Moment) (target deletedBy : Int)
  | refuse (recipient : String)
  | handle

/-- The loan that an answer tells to be complete. -/
def LoanReply.announced? : LoanReply → Option Int
  | invested i => if i.state = .invested then some i.loan else none
  | proposal _ => none

/-- An event that the worker handled, what it found, and how many mails were taken. -/
structure Handled where
  loan : Int
  found : Platform
  sent : ℕ

/-- A pair of tokens, the call that was answered with it, and what this call found. -/
structure Issue where
  found : Platform
  call : Call
  request : AccountRequest
  pair : Pair

namespace Turn

def perform (s : Setup) (p : Platform) : Turn → Platform
  | loan now caller r => (r.perform p now caller).platform
  | account call caller r => (r.perform s p call caller).platform
  | seed r => match p.users.create r with
    | .ok (users, _) => { p with users }
    | .error _ => p
  | setStatus user status => { p with users := p.users.setStatus user status }
  | setConflicts n => { p with store := { p.store with conflicts := n } }
  | deleteLoan now target deletedBy =>
      { p with store := { p.store with ledger := p.store.ledger.softDelete target deletedBy now } }
  | refuse recipient => { p with outbox := p.outbox.refuse recipient }
  | handle => p.handleNext s

/-- The loan that the turn announces as complete. -/
def announced? (p : Platform) : Turn → Option Int
  | loan now caller r => (r.perform p now caller).result.toOption.bind LoanReply.announced?
  | _ => none

def handled (s : Setup) (p : Platform) : Turn → List Handled
  | handle => match p.queue.events with
    | [] => []
    | e :: _ => [⟨e, p, (notify p.store.ledger p.users s.sender e p.outbox p.metrics).sent⟩]
  | _ => []

def issued (s : Setup) (p : Platform) : Turn → List Issue
  | account call caller r => match (r.perform s p call caller).result with
    | .ok (.issued pair) => [⟨p, call, r, pair⟩]
    | _ => []
  | _ => []

/-- The turn is the worker's. -/
def isHandle : Turn → Bool
  | handle => true
  | _ => false

end Turn

structure Journal where
  platform : Platform
  handled : List Handled
  issued : List Issue

namespace Journal

def start (capacity : ℕ) (source : KeySource := .published) : Journal :=
  ⟨.start capacity source, [], []⟩

def turn (s : Setup) (j : Journal) (t : Turn) : Journal :=
  ⟨t.perform s j.platform, j.handled ++ t.handled s j.platform, j.issued ++ t.issued s j.platform⟩

def play (s : Setup) (j : Journal) (turns : List Turn) : Journal := turns.foldl (turn s) j

/-- What holds at first and is kept by every turn holds in the end. -/
theorem play_induct (s : Setup) {motive : Journal → Prop} {j : Journal} (h : motive j)
    (step : ∀ j t, motive j → motive (j.turn s t)) (turns : List Turn) :
    motive (j.play s turns) := by
  induction turns generalizing j with
  | nil => exact h
  | cons t turns ih => exact ih (step j t h)

end Journal

/-! ## What a call leaves alone -/

section Calls
variable (s : Setup) (p : Platform)

theorem loan_perform_outbox (now : Moment) (caller : Option Claims) (r : LoanRequest) :
    (r.perform p now caller).platform.outbox = p.outbox := by
  obtain ⟨store, queue, metrics, h⟩ := loan_perform_frame p now caller r
  rw [h]

theorem announced?_proposal (result : Except Abort Proposal) :
    (result.map LoanReply.proposal).toOption.bind LoanReply.announced? = none := by
  cases result <;> rfl

/-- A call queues the loan that it announces, and nothing else. -/
theorem loan_perform_queue (now : Moment) (caller : Option Claims) (r : LoanRequest) :
    (r.perform p now caller).platform.queue =
      match (Turn.loan now caller r).announced? p with
      | none => p.queue
      | some e => (p.queue.dispatch e).1 := by
  cases r with
  | create r =>
      simp only [Turn.announced?, LoanRequest.perform, Outcome.map, announced?_proposal, createLoan]
      split <;> rfl
  | approve r =>
      simp only [Turn.announced?, LoanRequest.perform, Outcome.map, announced?_proposal,
        approveLoan]
      split <;> rfl
  | disburse r =>
      simp only [Turn.announced?, LoanRequest.perform, Outcome.map, announced?_proposal,
        disburseLoan]
      split <;> rfl
  | invest r =>
      simp only [Turn.announced?, LoanRequest.perform, Outcome.map, investInLoan]
      cases checkInvest caller r with
      | error f => rfl
      | ok a =>
          simp only [Outcome.andThen]
          cases hresult : (p.change now .invest r.loan a.1.userId (.investment a.2)).result with
          | error e => rfl
          | ok l =>
              by_cases hstate : l.state = .invested
              · simp only [noteInvestment, hstate, Outcome.done, if_true, Except.map,
                  Except.toOption, Option.bind_some, LoanReply.announced?]
                obtain ⟨metrics, hdispatch⟩ := dispatch_frame _ r.loan
                rw [hdispatch]
                rfl
              · simp only [noteInvestment, hstate, Outcome.done, if_false, Except.map,
                  Except.toOption, Option.bind_some, LoanReply.announced?]
                rfl

/-- Of all that a platform holds, an account call may change the directory, by one step, the counts,
and which keys were fetched. -/
theorem account_perform_effect (call : Call) (caller : Option Claims) (r : AccountRequest) :
    (r.perform s p call caller).platform.queue = p.queue ∧
      (r.perform s p call caller).platform.outbox = p.outbox ∧
      (p.source = .published → (r.perform s p call caller).platform.source = .published) ∧
      ((r.perform s p call caller).platform.users = p.users ∨
        p.users.Step (r.perform s p call caller).platform.users) := by
  have hkept : ∀ {q : Platform}, p.Kept q → q.queue = p.queue ∧ q.outbox = p.outbox ∧
      (p.source = .published → q.source = .published) ∧
        (q.users = p.users ∨ p.users.Step q.users) :=
    fun h => ⟨h.queue, h.outbox, h.source, .inl h.users⟩
  cases r with
  | register r =>
      rw [AccountRequest.perform, map_platform]
      rcases register_cases s p call caller r with hsame | ⟨a, hash, users, u, -, hu, hdone⟩
      · rw [hsame]
        exact hkept (.refl p)
      · rw [hdone]
        exact ⟨rfl, rfl, id, .inr (.create hu)⟩
  | login r =>
      rw [AccountRequest.perform, map_platform]
      exact hkept (kept_login s p call r)
  | refresh r =>
      rw [AccountRequest.perform, map_platform]
      exact hkept (kept_refresh s p call r)
  | «exists» r =>
      rw [AccountRequest.perform, map_platform]
      exact hkept (kept_userExists s p r)
  | close =>
      rw [AccountRequest.perform, map_platform]
      rcases closeAccount_cases p caller with ⟨f, hfailed⟩ | ⟨c, users, u, -, hclose, hdone⟩
      · rw [hfailed]
        exact hkept (.refl p)
      · rw [hdone]
        exact ⟨rfl, rfl, id, .inr (.close hclose)⟩

end Calls

/-! ## What a turn does -/

/-- The mails that the event of a loan leads to if it is handled now. -/
def mailsFor (s : Setup) (p : Platform) (loan : Int) : List Mail.Message :=
  (letters p.store.ledger p.users s.sender loan).filter p.outbox.accepts

section Turn
variable (s : Setup) (p : Platform)

theorem handleNext_nil (h : p.queue.events = []) : p.handleNext s = p := by
  simp only [handleNext, Queue.receive?, h]

theorem handleNext_cons {e : Int} {events : List Int} (h : p.queue.events = e :: events) :
    ∃ metrics, p.handleNext s =
      { p with
        queue := { p.queue with events }
        outbox := { p.outbox with sent := p.outbox.sent ++ p.mailsFor s e }
        metrics } := by
  simp only [handleNext, Queue.receive?, h, notify_outbox]
  exact ⟨_, rfl⟩

theorem handleNext_frame : ∃ queue outbox metrics,
    p.handleNext s = { p with queue, outbox, metrics } := by
  cases h : p.queue.events with
  | nil => exact ⟨p.queue, p.outbox, p.metrics, handleNext_nil s p h⟩
  | cons e events =>
      obtain ⟨metrics, heq⟩ := handleNext_cons s p h
      exact ⟨_, _, metrics, heq⟩

theorem Turn.ledger_step (t : Turn) :
    (t.perform s p).store.ledger = p.store.ledger ∨
      p.store.ledger.Step (t.perform s p).store.ledger := by
  cases t with
  | loan now caller r => exact (perform_effect s p (.loan now caller r)).step
  | account call caller r => exact .inl (congrArg _ (account_perform_store s p call caller r))
  | seed r =>
      rw [Turn.perform]
      split <;> exact .inl rfl
  | setStatus id status => exact .inl rfl
  | setConflicts n => exact .inl rfl
  | deleteLoan now target deletedBy => exact .inr (.delete _ target deletedBy now)
  | refuse recipient => exact .inl rfl
  | handle =>
      obtain ⟨queue, outbox, metrics, h⟩ := handleNext_frame s p
      rw [Turn.perform, h]
      exact .inl rfl

theorem Turn.users_step (t : Turn) :
    (t.perform s p).users = p.users ∨ p.users.Step (t.perform s p).users := by
  cases t with
  | loan now caller r => exact .inl (loan_perform_users p now caller r)
  | account call caller r => exact (account_perform_effect s p call caller r).2.2.2
  | seed r =>
      rw [Turn.perform]
      split
      · next hu => exact .inr (.create hu)
      · exact .inl rfl
  | setStatus id status => exact .inr (.setStatus id status)
  | setConflicts n => exact .inl rfl
  | deleteLoan now target deletedBy => exact .inl rfl
  | refuse recipient => exact .inl rfl
  | handle =>
      obtain ⟨queue, outbox, metrics, h⟩ := handleNext_frame s p
      rw [Turn.perform, h]
      exact .inl rfl

/-- Once keys are looked up among the published ones, they always are. -/
theorem Turn.published (h : p.source = .published) (t : Turn) :
    (t.perform s p).source = .published := by
  cases t with
  | loan now caller r =>
      obtain ⟨store, queue, metrics, heq⟩ := loan_perform_frame p now caller r
      rw [Turn.perform, heq]
      exact h
  | account call caller r => exact (account_perform_effect s p call caller r).2.2.1 h
  | seed r =>
      rw [Turn.perform]
      split <;> exact h
  | handle =>
      obtain ⟨queue, outbox, metrics, heq⟩ := handleNext_frame s p
      rw [Turn.perform, heq]
      exact h
  | _ => exact h

end Turn

/-! ## Whole plays -/

/-- The ledger can arise, and ids of accounts are in order. -/
structure Sound (p : Platform) : Prop where
  ledger : p.store.ledger.Reachable
  users : p.users.Numbered

/-- At a later moment all accounts are still there, and full loans are full with the same
investments. -/
structure Later (p p' : Platform) : Prop where
  users : p.users.Continues p'.users
  full : ∀ id, p.store.ledger.IsFull id →
    p'.store.ledger.IsFull id ∧ p'.store.ledger.investmentsOf id = p.store.ledger.investmentsOf id

theorem Later.refl (p : Platform) : p.Later p := ⟨.refl _, fun _ h => ⟨h, rfl⟩⟩

theorem Later.trans {p p' p'' : Platform} (h : p.Later p') (h' : p'.Later p'') : p.Later p'' where
  users := h.users.trans h'.users
  full id hfull := by
    obtain ⟨hfull', hsame⟩ := h.full id hfull
    obtain ⟨hfull'', hsame'⟩ := h'.full id hfull'
    exact ⟨hfull'', hsame'.trans hsame⟩

theorem sound_start (capacity : ℕ) (source : KeySource := .published) :
    (start capacity source).Sound :=
  ⟨Relation.ReflTransGen.refl, Directory.numbered_empty⟩

section Play
variable {s : Setup} {p : Platform}

theorem Sound.turn (h : p.Sound) (t : Turn) : (t.perform s p).Sound := by
  constructor
  · rcases t.ledger_step s p with hsame | hstep
    · rw [hsame]
      exact h.ledger
    · exact h.ledger.step hstep
  · rcases t.users_step s p with hsame | hstep
    · rw [hsame]
      exact h.users
    · exact h.users.step hstep

theorem Sound.later_turn (h : p.Sound) (t : Turn) : p.Later (t.perform s p) := by
  constructor
  · rcases t.users_step s p with hsame | hstep
    · rw [hsame]
      exact .refl _
    · exact hstep.continues
  · intro id hfull
    rcases t.ledger_step s p with hsame | hstep
    · rw [hsame]
      exact ⟨hfull, rfl⟩
    · exact hfull.step h.ledger.numbered hstep

theorem Journal.sound_play {j : Journal} (h : j.platform.Sound) (turns : List Turn) :
    (j.play s turns).platform.Sound :=
  Journal.play_induct s (motive := fun j => j.platform.Sound) h (fun _ t hj => hj.turn t) turns

theorem Journal.published_play {j : Journal} (h : j.platform.source = .published)
    (turns : List Turn) : (j.play s turns).platform.source = .published :=
  Journal.play_induct s (motive := fun j => j.platform.source = .published) h
    (fun j t hj => t.published s j.platform hj) turns

end Play

/-- Somebody registers, and becomes user 1 if he is the first. -/
def registration : Turn :=
  .account ⟨clock 4, List.replicate 16 0⟩ none
    (.register ⟨"First", "first@example.com", "0811000001", "Secret-123", 0⟩)

end Crowdlending.Platform
