import Crowdlending.Text.Blank
import Crowdlending.Number.Numeral
import Crowdlending.Text.Percent
import Crowdlending.Text.Quoted

/-!
# Addresses of the gateway

The paths that the service knows. Those under `/v1` are operations and are asked for with `POST`;
the others are public pages.
-/
namespace Crowdlending.Http
open Text

inductive Page where
  | keySet
  | health
  | ready
  | metrics
deriving Repr, DecidableEq

/-- A loan is named by the segment of the path as written. -/
inductive Action where
  | register
  | login
  | refresh
  | userExists
  | closeAccount
  | createLoan
  | approveLoan (segment : String)
  | investInLoan (segment : String)
  | disburseLoan (segment : String)
deriving Repr, DecidableEq

inductive Route where
  | page (p : Page)
  | action (a : Action)
  | unknown
deriving Repr, DecidableEq

namespace Route

def ofSegments : List String → Route
  | ["", ".well-known", "jwks.json"] => page .keySet
  | ["", "health"] => page .health
  | ["", "ready"] => page .ready
  | ["", "metrics"] => page .metrics
  | ["", "v1", "auth", "register"] => action .register
  | ["", "v1", "auth", "login"] => action .login
  | ["", "v1", "auth", "refresh"] => action .refresh
  | ["", "v1", "users", "exists"] => action .userExists
  | ["", "v1", "users", "close"] => action .closeAccount
  | ["", "v1", "loans"] => action .createLoan
  | ["", "v1", "loans", segment, "approve"] =>
      if segment.isEmpty then unknown else action (.approveLoan segment)
  | ["", "v1", "loans", segment, "invest"] =>
      if segment.isEmpty then unknown else action (.investInLoan segment)
  | ["", "v1", "loans", segment, "disburse"] =>
      if segment.isEmpty then unknown else action (.disburseLoan segment)
  | _ => unknown

def ofPath (path : String) : Route := ofSegments ((cut '/' path.toList).map String.ofList)

/-- The methods that a route knows. -/
def methods : Route → List String
  | page _ => ["GET", "HEAD"]
  | action _ => ["POST"]
  | unknown => []

/-- A token that comes with the request is verified before anything else. -/
def isGuarded : Route → Bool
  | page _ => false
  | action _ | unknown => true

end Route

/-- The number of a loan in a path, or what is wrong with it. -/
def readLoanNumber (segment : String) : Except String Int :=
  match percentDecodeText? segment with
  | none => .error "Invalid URL: Invalid UTF-8 in `id`"
  | some s => match Number.readInt64 s.toList with
    | .ok n => .ok n
    | .error _ => .error ("Invalid URL: Cannot parse `" ++ quoted s ++ "` to a `i64`")

end Crowdlending.Http
