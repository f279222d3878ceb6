import Crowdlending.Account.Directory
import Crowdlending.Crypto.Bcrypt
import Crowdlending.Loan.Store
import Crowdlending.Mail.Message
import Crowdlending.Metrics
import Crowdlending.Notification.Worker
import Crowdlending.Token.Issuer
import Crowdlending.Token.KeySource

/-!
# The platform

What a running platform holds, and what it was set up with. Every operation
takes the platform and gives the platform afterwards with its result. The time,
and the salt of a new password hash, come with each call.
-/
namespace Crowdlending
open Token

structure Setup where
  scheme : Crypto.SignatureScheme
  hashCore : Crypto.Bcrypt.Core
  hashCost : Nat
  issuer : Issuer
  /-- The keys that are published. -/
  keys : KeySet
  /-- The issuers that verified tokens must name. -/
  issuers : Issuers
  countryCode : String
  sender : String

structure Platform where
  store : Loan.Store
  users : Account.Directory
  queue : Notification.Queue
  outbox : Mail.Outbox
  metrics : Metrics
  ready : Bool
  /-- Where the keys of tokens are looked up. -/
  source : KeySource

/-- What the surroundings give to a call. -/
structure Call where
  now : Moment
  salt : List UInt8
deriving Repr, DecidableEq

/-- The platform after an operation, how the operation ended, and how many milliseconds it paused
between its tries. -/
structure Outcome (α : Type) where
  platform : Platform
  result : Except Abort α
  waited : Nat

namespace Outcome

def done {α : Type} (p : Platform) (a : α) : Outcome α := ⟨p, .ok a, 0⟩
def failed {α : Type} (p : Platform) (f : Failure) : Outcome α := ⟨p, .error (.failure f), 0⟩

def ofExcept {α : Type} (p : Platform) : Except Failure α → Outcome α
  | .ok a => done p a
  | .error f => failed p f

def map {α β : Type} (f : α → β) (o : Outcome α) : Outcome β :=
  ⟨o.platform, o.result.map f, o.waited⟩

/-- Goes on with a result. -/
def andThen {α β : Type} (o : Outcome α) (f : Platform → α → Outcome β) : Outcome β :=
  match o.result with
  | .error e => ⟨o.platform, .error e, o.waited⟩
  | .ok a =>
      let r := f o.platform a
      ⟨r.platform, r.result, o.waited + r.waited⟩

end Outcome

namespace Platform

def start (queueCapacity : Nat) (source : KeySource := .published) : Platform :=
  ⟨.empty, .empty, .ofCapacity queueCapacity, .empty, .zero, true, source⟩

def count (p : Platform) (c : Metrics.Counter) : Platform := { p with metrics := p.metrics.add c }

/-- Queues an event; one that finds no room is counted as dropped. -/
def dispatch (p : Platform) (loan : Int) : Platform :=
  let (queue, accepted) := p.queue.dispatch loan
  let p := { p with queue }
  if accepted then p else p.count (.notification .dropped)

/-- The worker handles everything that is queued. -/
def runWorker (s : Setup) (p : Platform) : Platform :=
  let (outbox, metrics) :=
    Notification.handleAll p.store.ledger p.users s.sender p.queue.events p.outbox p.metrics
  { p with outbox, metrics, queue := { p.queue with events := [] } }

/-- The key for a kid, if it is looked up now. -/
def findKey (s : Setup) (p : Platform) (now : Moment) (kid : String) : Except Failure PublicKey :=
  p.source.find s.keys now kid

/-- Verifies a token by the keys that the source has. -/
def verify (s : Setup) (p : Platform) (now : Moment) (kind : Kind) (token : String) :
    Outcome Claims :=
  let (source, r) := p.source.verify s.scheme s.issuers s.keys now kind token
  .ofExcept ({ p with source }.count (.validation r.isOk)) r

def sign (s : Setup) (p : Platform) (c : Claims) : Outcome String :=
  let r := s.issuer.sign s.scheme c
  .ofExcept (p.count (.issuance c.kind r.isOk)) r

def issue (s : Setup) (p : Platform) (now : Moment) (u : Subject) (kind : Kind) (extended : Bool) :
    Outcome String :=
  match s.issuer.claimsFor? now.seconds u kind extended with
  | none => ⟨p, .error .dateOverflow, 0⟩
  | some c => p.sign s c

/-- An access token, never extended, and a refresh token. -/
def issuePair (s : Setup) (p : Platform) (now : Moment) (u : Subject) (remember : Bool) :
    Outcome Pair :=
  (p.issue s now u .access false).andThen fun p access =>
    (p.issue s now u .refresh remember).map fun refresh => ⟨access, refresh⟩

end Platform

end Crowdlending
