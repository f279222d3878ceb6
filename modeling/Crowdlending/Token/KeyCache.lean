import Crowdlending.Token.Verifier

/-!
# A cached remote key set

A key set that is fetched from an endpoint and kept for a while. A key that is
not in a fresh set is unknown, without another request; a failed fetch leaves
the cache as it was. What the endpoint replies is a parameter.
-/
namespace Crowdlending.Token
open Json Crypto

/-- What the endpoint does with a request. -/
inductive Reply where
  | unreachable
  | response (status : Nat) (body : List UInt8)
deriving Repr, DecidableEq

namespace Reply

def reason : Nat → String
  | 100 => "Continue" | 101 => "Switching Protocols" | 102 => "Processing"
  | 200 => "OK" | 201 => "Created" | 202 => "Accepted" | 203 => "Non Authoritative Information"
  | 204 => "No Content" | 205 => "Reset Content" | 206 => "Partial Content"
  | 207 => "Multi-Status" | 208 => "Already Reported" | 226 => "IM Used"
  | 300 => "Multiple Choices" | 301 => "Moved Permanently" | 302 => "Found" | 303 => "See Other"
  | 304 => "Not Modified" | 305 => "Use Proxy" | 307 => "Temporary Redirect"
  | 308 => "Permanent Redirect"
  | 400 => "Bad Request" | 401 => "Unauthorized" | 402 => "Payment Required" | 403 => "Forbidden"
  | 404 => "Not Found" | 405 => "Method Not Allowed" | 406 => "Not Acceptable"
  | 407 => "Proxy Authentication Required" | 408 => "Request Timeout" | 409 => "Conflict"
  | 410 => "Gone" | 411 => "Length Required" | 412 => "Precondition Failed"
  | 413 => "Payload Too Large" | 414 => "URI Too Long" | 415 => "Unsupported Media Type"
  | 416 => "Range Not Satisfiable" | 417 => "Expectation Failed" | 418 => "I'm a teapot"
  | 421 => "Misdirected Request" | 422 => "Unprocessable Entity" | 423 => "Locked"
  | 424 => "Failed Dependency" | 425 => "Too Early" | 426 => "Upgrade Required"
  | 428 => "Precondition Required" | 429 => "Too Many Requests"
  | 431 => "Request Header Fields Too Large" | 451 => "Unavailable For Legal Reasons"
  | 500 => "Internal Server Error" | 501 => "Not Implemented" | 502 => "Bad Gateway"
  | 503 => "Service Unavailable" | 504 => "Gateway Timeout" | 505 => "HTTP Version Not Supported"
  | 506 => "Variant Also Negotiates" | 507 => "Insufficient Storage" | 508 => "Loop Detected"
  | 510 => "Not Extended" | 511 => "Network Authentication Required"
  | _ => "<unknown status code>"

/-- The key set that a reply brings. -/
def keySet : Reply → Except InternalFault KeySet
  | unreachable => .error .keySetUnreachable
  | response status body =>
      if status < 200 ∨ 299 < status then
        .error (.keySetStatus (toString status ++ " " ++ reason status))
      else match KeySet.ofDoc (readWhole body) with
        | .ok s => .ok s
        | .error _ => .error .keySetUnreadable

end Reply

structure Cached where
  keys : KeySet
  /-- In milliseconds, like all times here. -/
  expiresAt : Nat
deriving Repr, DecidableEq

structure KeyCache where
  ttl : Nat
  cached : Option Cached
deriving Repr, DecidableEq

namespace KeyCache

def fresh? (c : KeyCache) (now : Nat) : Option KeySet :=
  match c.cached with
  | some k => if now < k.expiresAt then some k.keys else none
  | none => none

/-- A look-up: the cache afterwards, whether a request was made, and the key. -/
structure Lookup (α : Type) where
  cache : KeyCache
  fetched : Bool
  result : Except Failure α

/-- Looks a key up; `reply` is what the endpoint answers if it is asked. -/
def find (c : KeyCache) (now : Nat) (reply : Reply) (kid : String) : Lookup PublicKey :=
  match c.fresh? now with
  | some keys => ⟨c, false, keys.find kid⟩
  | none => match reply.keySet with
    | .error e => ⟨c, true, .error (.internal e)⟩
    | .ok keys => ⟨{ c with cached := some ⟨keys, now + c.ttl⟩ }, true, keys.find kid⟩

/-- Verifies a token with the key that the cache finds. -/
def verify (scheme : SignatureScheme) (issuers : Issuers) (c : KeyCache) (now : Nat)
    (reply : Reply) (seconds : Int) (expected : Kind) (token : String) : Lookup Claims :=
  match requestedKey token with
  | .error e => ⟨c, false, .error (.token e)⟩
  | .ok kid =>
      let l := c.find now reply kid
      ⟨l.cache, l.fetched, match l.result with
        | .error e => .error e
        | .ok key => match verifyByKey scheme issuers seconds expected token key with
          | .error e => .error (.token e)
          | .ok claims => .ok claims⟩

end KeyCache

end Crowdlending.Token
