/-!
# The queue of completed loans

A bounded queue between the loan operations and the worker that mails
investors. Nobody waits at it: an event that finds the queue full or its
receiver gone is dropped.
-/
namespace Crowdlending.Notification

/-- Events are the ids of loans that were completed. -/
structure Queue where
  capacity : Nat
  /-- Accepted and not yet received, oldest first. -/
  events : List Int
  closed : Bool
deriving Repr, DecidableEq

namespace Queue

/-- A queue has room for one event at least. -/
def ofCapacity (capacity : Nat) : Queue := ⟨max capacity 1, [], false⟩

def accepts (q : Queue) : Bool := !q.closed && q.events.length < q.capacity

/-- The queue afterwards, and whether the event was accepted. -/
def dispatch (q : Queue) (event : Int) : Queue × Bool :=
  if q.accepts then ({ q with events := q.events ++ [event] }, true) else (q, false)

def receive? (q : Queue) : Option (Int × Queue) :=
  match q.events with
  | [] => none
  | e :: r => some (e, { q with events := r })

/-- The receiver takes no more events; those already accepted stay. -/
def close (q : Queue) : Queue := { q with closed := true }

/-- The receiver is gone with all that it had not received. -/
def drop (q : Queue) : Queue := { q with closed := true, events := [] }

end Queue

end Crowdlending.Notification
