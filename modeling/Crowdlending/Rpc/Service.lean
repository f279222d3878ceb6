import Crowdlending.Rpc.Message
import Crowdlending.Token.Bearer
import Crowdlending.Web.Target

/-!
# Remote calls

Answers calls by the operations of the platform. A call needs a token unless its method is open; a
token that comes with an open method must be valid all the same.
-/
namespace Crowdlending.Rpc
open Platform Token Loan

/-- The last part of the path that a call is sent to. -/
def methodOf (target : String) : String :=
  let path := (Web.pathOf target).toList
  String.ofList <| match Text.cutLast '/' path with
    | some (_, name) => name
    | none => path

/-- Who calls, if anybody may call so. -/
def identify (s : Setup) (p : Platform) (now : Moment) (openMethods : List String)
    (target : String) (header : Option String) : Platform × Except Status (Option Claims) :=
  match header with
  | none =>
      (p, if openMethods.contains (methodOf target) then .ok none else .error .unauthenticated)
  | some header =>
      match presented header with
      | .error _ => (p, .error .unauthenticated)
      | .ok token =>
          let o := p.verify s now .access token
          (o.platform, match o.result with
            | .ok c => .ok (some c)
            | .error _ => .error .unauthenticated)

/-- Runs an operation on what the message stands for. -/
def onRequest {α β : Type} (p : Platform) (request : Except Failure α) (reply : β → Reply)
    (run : α → Outcome β) : Outcome Reply :=
  match request with
  | .error f => .failed p f
  | .ok a => (run a).map reply

def run (s : Setup) (p : Platform) (call : Call) (who : Option Claims) : Message → Outcome Reply
  | .register user => onRequest p (readUser user) .registered (register s p call who)
  | .login r => onRequest p (.ok r) .tokens (login s p call)
  | .refreshToken r => onRequest p (.ok r) .tokens (refresh s p call)
  | .userExists r => onRequest p (.ok r) .existence (userExists s p)
  | .closeAccount => (closeAccount p who).map .closed
  | .createLoan r => onRequest p (.ok r) .proposal (createLoan p call.now who)
  | .approveLoan loan proofLink interestRate roi =>
      onRequest p (readId loan) .proposal fun loan =>
        approveLoan p call.now who ⟨loan, proofLink, interestRate, roi⟩
  | .investInLoan loan amount =>
      onRequest p (readId loan) .invested fun loan => investInLoan p call.now who ⟨loan, amount⟩
  | .disburseLoan loan agreementLink =>
      onRequest p (readId loan) .proposal fun loan =>
        disburseLoan p call.now who ⟨loan, agreementLink⟩

structure Answer where
  platform : Platform
  result : Except Status Reply
  waited : Nat

/-- What a caller is told of an outcome; failures are counted by their code. -/
def Answer.ofOutcome (o : Outcome Reply) : Answer :=
  match o.result with
  | .ok reply => ⟨o.platform, .ok reply, o.waited⟩
  | .error (.failure f) =>
      ⟨o.platform.count (.rpcError f.code), .error (.ofFailure f), o.waited⟩
  | .error .dateOverflow => ⟨o.platform, .error .stopped, o.waited⟩

/-- Answers a call. -/
def handle (s : Setup) (p : Platform) (call : Call) (openMethods : List String)
    (header : Option String) (m : Message) : Answer :=
  match identify s p call.now openMethods m.method header with
  | (p, .error status) => ⟨p, .error status, 0⟩
  | (p, .ok who) => .ofOutcome (run s p call who m)

end Crowdlending.Rpc
