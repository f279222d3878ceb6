import Crowdlending.Loan.Ledger

/-!
# Transactions

A transaction works on a copy of the ledger, which takes the ledger's place on
commit; a copy that is never committed leaves no trace. A commit may be refused
by a conflict. Then the whole transaction is tried again, a few times, with
growing pauses.
-/
namespace Crowdlending.Loan

structure Store where
  ledger : Ledger
  /-- How many of the next commits will be refused. -/
  conflicts : Nat
  commits : Nat
  available : Bool
deriving DecidableEq

namespace Store

def empty : Store := ⟨.empty, 0, 0, true⟩

/-- Puts the copy in the ledger's place, or refuses to. -/
def commit (s : Store) (staged : Ledger) : Store × Except Failure Unit :=
  match s.conflicts with
  | 0 => ({ s with ledger := staged, commits := s.commits + 1 }, .ok ())
  | n + 1 => ({ s with conflicts := n }, .error .conflict)

/-- One try at a change: a transaction from its begin to its commit. -/
def attempt (s : Store) (loan actor : Int) (c : Change) (now : Moment) :
    Store × Except Failure Loan :=
  match s.ledger.transition loan actor c now with
  | .error e => (s, .error e)
  | .ok (staged, l) =>
      let (s, r) := s.commit staged
      (s, r.map fun _ => l)

/-- The store answers. -/
def ping (s : Store) : Except Failure Unit :=
  if s.available then .ok () else .error (.store .unreachable)

end Store

/-- How often a transaction is tried at most. -/
def mostAttempts : Nat := 5

/-- Milliseconds before the second try; each further pause is twice as long. -/
def firstPause : Nat := 10

/-- How a repeated operation ended: what it left, after how many tries, and how long it paused. -/
structure Retried (σ α : Type) where
  state : σ
  result : Except Failure α
  attempts : Nat
  waited : Nat

/-- Tries again while a conflict is reported; `left` tries may follow the next one, the first of
them after `pause`. -/
def retryFrom {σ α : Type} (attempt : σ → σ × Except Failure α) :
    Nat → Nat → Nat → Nat → σ → Retried σ α
  | left, tried, pause, waited, s =>
      match attempt s, left with
      | (s, .error .conflict), left + 1 =>
          retryFrom attempt left (tried + 1) (2 * pause) (waited + pause) s
      | (s, r), _ => ⟨s, r, tried + 1, waited⟩

def retry {σ α : Type} (attempt : σ → σ × Except Failure α) (s : σ) : Retried σ α :=
  retryFrom attempt (mostAttempts - 1) 0 firstPause 0 s

/-- A change, tried until it is no longer refused by a conflict. -/
def Store.change (s : Store) (loan actor : Int) (c : Change) (now : Moment) : Retried Store Loan :=
  retry (fun s => s.attempt loan actor c now) s

end Crowdlending.Loan
