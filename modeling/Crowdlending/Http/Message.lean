import Crowdlending.Failure
import Crowdlending.Json.Document

/-!
# Requests and responses

The parts of a request that the service looks at, and the parts of a response that it sets.
-/
namespace Crowdlending.Http
open Json

structure Request where
  method : String
  /-- The path as written, without a query. -/
  path : String
  authorization : Option String
  contentType : Option String
  requestId : Option String
  body : List UInt8
deriving Repr, DecidableEq

inductive Body where
  | empty
  | text (content : String)
  | json (content : Doc)

structure Response where
  status : Nat
  contentType : Option String
  body : Body
  /-- The methods that the address knows, where the request had another one. -/
  allow : Option String
  cacheControl : Option String
  requestId : Option String

namespace Body

def mediaType? : Body → Option String
  | empty => none
  | text _ => some "text/plain; charset=utf-8"
  | json _ => some "application/json"

end Body

namespace Response

def of (status : Nat) (body : Body) : Response :=
  ⟨status, body.mediaType?, body, none, none, none⟩

def ofText (status : Nat) (content : String) : Response := of status (.text content)

def ofDoc (status : Nat) (content : Doc) : Response := of status (.json content)

/-- Every failure is reported in the same form. -/
def ofFailure (f : Failure) : Response :=
  ofDoc f.httpStatus <| .ofMembers
    [("error", .ofMembers [("code", .ofText f.errorCode), ("message", .ofText f.clientMessage)])]

def notFound : Response := of 404 .empty

def methodNotAllowed : Response := of 405 .empty

/-- The service stopped in the middle of a request. -/
def stopped : Response := ofText 500 "Service panicked"

end Response

end Crowdlending.Http
