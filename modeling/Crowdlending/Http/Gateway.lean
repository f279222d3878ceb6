import Crowdlending.Http.Document
import Crowdlending.Http.MediaType
import Crowdlending.Http.Message
import Crowdlending.Http.Route
import Crowdlending.Json.Reader
import Crowdlending.Token.Bearer

/-!
# The gateway

Answers requests by the operations of the platform. A token that comes with a request is verified
first, then the method is looked at, then the path, then the body. Each response carries the id of
its request, unless the service stopped in the middle of it.
-/
namespace Crowdlending.Http
open Json Token Platform Loan Account

structure Site where
  setup : Setup
  /-- What the metrics page shows. -/
  metricsPage : Platform → String

/-- The caller of a request without a token is nobody. -/
def caller (s : Setup) (p : Platform) (now : Moment) :
    Option String → Outcome (Option Claims)
  | none => .done p none
  | some header =>
      match presented header with
      | .error e => .failed p (.token e)
      | .ok token => (p.verify s now .access token).map some

def faultOf : Fault → InputFault
  | .text => .bodyText
  | .shape => .bodyShape

/-- The longest body that is taken in. -/
def mostBodyBytes : Nat := 2097152

/-- The body as a request; what follows its first value is not looked at. -/
def readBody {α : Type} (r : Request) (read : Doc → Except Fault α) : Except Failure α :=
  if ¬(r.contentType.map isJsonType).getD false then .error (.input .contentType)
  else if mostBodyBytes < r.body.length then .error (.input .bodySize)
  else (read (readFirst r.body)).mapError fun e => .input (faultOf e)

/-- Runs an operation on the body and writes its result. -/
def answer {α β : Type} (p : Platform) (r : Request) (read : Doc → Except Fault α) (status : Nat)
    (write : β → Doc) (run : α → Outcome β) : Outcome Response :=
  match readBody r read with
  | .error f => .failed p f
  | .ok a => (run a).map fun b => .ofDoc status (write b)

/-- Runs an operation on the loan that the path names. -/
def onLoan (p : Platform) (segment : String) (run : Int → Outcome Response) : Outcome Response :=
  match readLoanNumber segment with
  | .error text => .done p (.ofText 400 text)
  | .ok loan => run loan

def act (s : Setup) (p : Platform) (call : Call) (r : Request) (who : Option Claims) :
    Action → Outcome Response
  | .register => answer p r RegisterRequest.ofDoc 200 registeredDoc (register s p call who)
  | .login => answer p r LoginRequest.ofDoc 200 pairDoc (login s p call)
  | .refresh => answer p r RefreshRequest.ofDoc 200 pairDoc (refresh s p call)
  | .userExists => answer p r ExistenceRequest.ofDoc 200 existenceDoc (userExists s p)
  | .closeAccount => (closeAccount p who).map fun c => .ofDoc 200 (closedDoc c)
  | .createLoan =>
      answer p r CreateRequest.ofDoc 201 (proposalDoc "created_at") (createLoan p call.now who)
  | .approveLoan segment =>
      onLoan p segment fun loan =>
        answer p r ApproveRequest.ofDoc 200 (proposalDoc "approval_date") fun q =>
          approveLoan p call.now who { q with loan }
  | .investInLoan segment =>
      onLoan p segment fun loan =>
        answer p r InvestRequest.ofDoc 200 investedDoc fun q =>
          investInLoan p call.now who { q with loan }
  | .disburseLoan segment =>
      onLoan p segment fun loan =>
        answer p r DisburseRequest.ofDoc 200 (proposalDoc "disbursement_date") fun q =>
          disburseLoan p call.now who { q with loan }

def pageResponse (site : Site) (p : Platform) : Page → Response
  | .keySet =>
      { Response.ofDoc 200 site.setup.keys.toDoc with
        cacheControl := some "public, max-age=3600" }
  | .health => .ofText 200 "OK"
  | .ready =>
      if ¬p.ready then .ofText 503 "NOT READY"
      else match p.store.ping with
        | .ok _ => .ofText 200 "READY"
        | .error _ => .ofText 503 "DATABASE UNAVAILABLE"
  | .metrics => .ofText 200 (site.metricsPage p)

/-- What the route does with an allowed method; a page shows its head alone when asked for that. -/
def serve (site : Site) (p : Platform) (call : Call) (r : Request) (who : Option Claims) :
    Route → Outcome Response
  | .page page =>
      let response := pageResponse site p page
      .done p (if r.method = "HEAD" then { response with body := .empty } else response)
  | .action a => act site.setup p call r who a
  | .unknown => .done p .notFound

/-- The response to a request whose route is known, before it is given its id. -/
def respond (site : Site) (p : Platform) (call : Call) (r : Request) (route : Route) :
    Outcome Response :=
  let allowed := route.methods.contains r.method || route == .unknown
  let header := if route.isGuarded then r.authorization else none
  (caller site.setup p call.now header).andThen fun p who =>
    if allowed then serve site p call r who route else .done p .methodNotAllowed

/-- What leaves the service for an outcome. -/
def finish (r : Request) (freshId : String) (route : Route) (o : Outcome Response) : Response :=
  let given (response : Response) : Response :=
    { response with
      requestId := some (r.requestId.getD freshId)
      allow :=
        if route.methods.contains r.method ∨ route.methods.isEmpty then none
        else some (",".intercalate route.methods) }
  match o.result with
  | .ok response => given response
  | .error (.failure f) => given (.ofFailure f)
  | .error .dateOverflow => .stopped

/-- Answers a request; `freshId` becomes its id if it came without one. -/
def handle (site : Site) (p : Platform) (call : Call) (freshId : String) (r : Request) :
    Outcome Response :=
  let route := Route.ofPath r.path
  let o := respond site p call r route
  ⟨o.platform, .ok (finish r freshId route o), o.waited⟩

end Crowdlending.Http
