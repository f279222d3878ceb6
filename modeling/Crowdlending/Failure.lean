import Crowdlending.Loan.State

/-!
# What can go wrong

One type of failure for every operation. A failure is a cause; its text, its
gRPC code, its HTTP status and its error code are separate total functions.
Causes that belong to the service's own machinery keep their detail for the
operator: clients are told `Internal error`.
-/
namespace Crowdlending

/-- What is wrong with a value that a caller sent. -/
inductive InputFault where
  | required (field : String)
  | notDecimal (field : String)
  | tooManyPlaces (field : String)
  | belowLeast (field : String) (least : String)
  | aboveMost (field : String) (most : String)
  | notPercentage (field : String)
  | badAddress (field : String)
  | loanNumber
  | roleNumber
  | numberOutOfRange (field : String)
  | shortPassword
  | contentType
  | bodySize
  | bodyText
  | bodyShape
  | stated (text : String)
deriving Repr, DecidableEq

def InputFault.message : InputFault → String
  | .required field => field ++ " is required."
  | .notDecimal field => field ++ " must be a decimal number."
  | .tooManyPlaces field => field ++ " must have at most 2 decimal places."
  | .belowLeast field least => field ++ " must be greater than or equal " ++ least ++ "."
  | .aboveMost field most => field ++ " must be lower than or equal " ++ most ++ "."
  | .notPercentage field => field ++ " must be between 0 and 100."
  | .badAddress field => field ++ ": invalid URL."
  | .loanNumber => "loan_id must be greater than or equal 1."
  | .roleNumber => "role_id is invalid."
  | .numberOutOfRange field => field ++ " is out of range."
  | .shortPassword => "password must be at least 8 characters."
  | .contentType => "Expected request with `Content-Type: application/json`"
  | .bodySize => "Failed to buffer the request body: length limit exceeded"
  | .bodyText => "Failed to parse the request body as JSON"
  | .bodyShape => "Failed to deserialize the JSON body into the target type"
  | .stated text => text

/-- Why a token is refused. -/
inductive TokenFault where
  | malformed
  | algorithm
  | unknownKey
  | unsupportedKey
  | unreadableJson
  | unreadableBase64
  | signature
  | missingExpiry
  | expired
  | issuer
  | audience
  | kind
  | presentation
  | tooLarge
  | stated (text : String)
deriving Repr, DecidableEq

def TokenFault.message : TokenFault → String
  | .malformed => "malformed token"
  | .algorithm => "algorithm mismatch"
  | .unknownKey => "kid not found"
  | .unsupportedKey => "unsupported key"
  | .unreadableJson => "JSON error"
  | .unreadableBase64 => "Base64 error"
  | .signature => "InvalidSignature"
  | .missingExpiry => "Missing required claim: exp"
  | .expired => "ExpiredSignature"
  | .issuer => "InvalidIssuer"
  | .audience => "InvalidAudience"
  | .kind => "token type mismatch"
  | .presentation => "invalid authorization format"
  | .tooLarge => "token too large"
  | .stated text => text

/-- What is wrong with the text of a password hash. -/
inductive HashFault where
  | shape (hash : String)
  | version (name : String)
  | costText (text : String)
  | costRange (cost : Nat)
  | base64
deriving Repr, DecidableEq

def HashFault.message : HashFault → String
  | .shape hash => "Invalid hash: " ++ hash
  | .version name => "Invalid Prefix: " ++ name
  | .costText text => "Invalid Cost: " ++ text
  | .costRange cost => "Cost needs to be between 4 and 31, got " ++ toString cost
  | .base64 => "Base64 error"

inductive CryptoFault where
  | hashCost (cost : Nat)
  | verification (fault : HashFault)
  | noSigningKey
  | publicKey
  | privateKey
  | components
  | signing
  | stated (text : String)
deriving Repr, DecidableEq

def CryptoFault.message : CryptoFault → String
  | .hashCost cost => "Invalid bcrypt cost: " ++ toString cost ++ " (must be 4-31)"
  | .verification fault => "Password verification failed: " ++ fault.message
  | .noSigningKey => "no signing key configured"
  | .publicKey => "Invalid RSA public key"
  | .privateKey => "Invalid RSA private key"
  | .components => "Invalid RSA components"
  | .signing => "JWT signing operation failed"
  | .stated text => text

inductive StoreFault where
  | duplicateApproval
  | duplicateDisbursement
  | investedAbovePrincipal
  | unreachable
  | rowMissing
  | poolTimeout
  | poolClosed
  | workerCrashed
  | columnMissing (name : String)
  | protocol (text : String)
  | reported (text : String)
  | stated (text : String)
deriving Repr, DecidableEq

def StoreFault.message : StoreFault → String
  | .duplicateApproval => "duplicate key value violates unique constraint on loan_approvals"
  | .duplicateDisbursement => "duplicate key value violates unique constraint on loan_disbursements"
  | .investedAbovePrincipal => "check constraint loans_invested_le_principal violated"
  | .unreachable => "connection refused"
  | .rowMissing => "no rows returned by a query that expected to return at least one row"
  | .poolTimeout => "pool timed out while waiting for an open connection"
  | .poolClosed => "attempted to acquire a connection on a closed pool"
  | .workerCrashed => "attempted to communicate with a crashed background worker"
  | .columnMissing name => "no column found for name: " ++ name
  | .protocol text => "encountered unexpected or invalid data: " ++ text
  | .reported text => "error returned from database: " ++ text
  | .stated text => text

inductive InternalFault where
  | keySetUnreachable
  | keySetStatus (status : String)
  | keySetUnreadable
  | regression (loan : Int) (current next : Loan.State)
  | sender
  | recipient
  | mailRefused
  | stated (text : String)
deriving Repr, DecidableEq

def InternalFault.message : InternalFault → String
  | .keySetUnreachable => "JWKS fetch failed"
  | .keySetStatus status => "JWKS endpoint returned " ++ status
  | .keySetUnreadable => "JWKS parse failed"
  | .regression loan current next =>
      "refusing loan " ++ toString loan ++ " transition " ++ current.name ++ " -> " ++ next.name
  | .sender => "invalid from address"
  | .recipient => "invalid to address"
  | .mailRefused => "SMTP send failed"
  | .stated text => text

inductive Failure where
  | input (fault : InputFault)
  | noArgument
  | weakPassword
  | malformedEmail
  | identifierKind
  | credentials
  | notFound
  | userNotFound
  | userNotActive
  | userExists
  | permissionDenied
  | unauthenticated
  | token (fault : TokenFault)
  | loanNotProposed
  | loanNotApproved
  | loanNotInvested
  | amountOutOfRange
  | conflict
  | store (fault : StoreFault)
  | crypto (fault : CryptoFault)
  | internal (fault : InternalFault)
deriving Repr, DecidableEq

/-- The status of a remote call. -/
inductive RpcCode where
  | ok
  | cancelled
  | unknown
  | invalidArgument
  | deadlineExceeded
  | notFound
  | alreadyExists
  | permissionDenied
  | resourceExhausted
  | failedPrecondition
  | aborted
  | outOfRange
  | unimplemented
  | internal
  | unavailable
  | dataLoss
  | unauthenticated
deriving Repr, DecidableEq

namespace RpcCode

def all : List RpcCode :=
  [ok, cancelled, unknown, invalidArgument, deadlineExceeded, notFound, alreadyExists,
    permissionDenied, resourceExhausted, failedPrecondition, aborted, outOfRange, unimplemented,
    internal, unavailable, dataLoss, unauthenticated]

/-- The code with a number; a number that none has is `unknown`. -/
def ofNumber (n : Int) : RpcCode :=
  if n < 0 then unknown else (all[n.toNat]?).getD unknown

def label : RpcCode → String
  | ok => "ok"
  | cancelled => "cancelled"
  | unknown => "unknown"
  | invalidArgument => "invalid_argument"
  | deadlineExceeded => "deadline_exceeded"
  | notFound => "not_found"
  | alreadyExists => "already_exists"
  | permissionDenied => "permission_denied"
  | resourceExhausted => "resource_exhausted"
  | failedPrecondition => "failed_precondition"
  | aborted => "aborted"
  | outOfRange => "out_of_range"
  | unimplemented => "unimplemented"
  | internal => "internal"
  | unavailable => "unavailable"
  | dataLoss => "data_loss"
  | unauthenticated => "unauthenticated"

/-- The HTTP status that tells the same as a remote call's code. -/
def httpStatus : RpcCode → Nat
  | invalidArgument => 400
  | failedPrecondition => 422
  | notFound => 404
  | alreadyExists | aborted => 409
  | permissionDenied => 403
  | unauthenticated => 401
  | _ => 500

end RpcCode

namespace Failure

/-- The full text, for the operator. -/
def message : Failure → String
  | input fault => "VALIDATION_ERR: " ++ fault.message
  | noArgument => "No argument given"
  | weakPassword => "Password is too weak"
  | malformedEmail => "Malformed email"
  | identifierKind => "Invalid user ID type"
  | credentials => "Invalid username/password"
  | notFound => "Not found"
  | userNotFound => "User not found"
  | userNotActive => "User is blocked/closed"
  | userExists => "User already exists"
  | permissionDenied => "Permission denied"
  | unauthenticated => "Unauthenticated"
  | token _ => "Invalid/expired token"
  | loanNotProposed => "Loan not proposed"
  | loanNotApproved => "Loan not approved"
  | loanNotInvested => "Loan not fully invested"
  | amountOutOfRange => "Investment amount out of range"
  | conflict => "Concurrent update conflict, please retry"
  | store fault => "Database error: " ++ fault.message
  | crypto fault => "Cryptographic error: " ++ fault.message
  | internal fault => "Internal error: " ++ fault.message

def code : Failure → RpcCode
  | input _ | credentials | malformedEmail | identifierKind => .invalidArgument
  | noArgument | weakPassword | loanNotProposed | loanNotApproved | loanNotInvested
  | amountOutOfRange => .failedPrecondition
  | notFound | userNotFound => .notFound
  | userExists => .alreadyExists
  | permissionDenied | userNotActive => .permissionDenied
  | token _ | unauthenticated => .unauthenticated
  | conflict => .aborted
  | store _ | crypto _ | internal _ => .internal

/-- The detail stays inside the service. -/
def isInternal (f : Failure) : Bool := f.code == .internal

/-- The text a client may see. -/
def clientMessage (f : Failure) : String :=
  if f.isInternal then "Internal error" else f.message

def httpStatus (f : Failure) : Nat := f.code.httpStatus

/-- The word for the failure in an HTTP answer. -/
def errorCode : Failure → String
  | input _ => "VALIDATION_ERROR"
  | noArgument => "NO_ARGUMENT"
  | weakPassword => "PASSWORD_TOO_WEAK"
  | malformedEmail => "MALFORMED_EMAIL"
  | identifierKind => "INVALID_USER_ID_TYPE"
  | credentials => "INVALID_CREDENTIALS"
  | notFound => "NOT_FOUND"
  | userNotFound => "USER_NOT_FOUND"
  | userNotActive => "USER_NOT_ACTIVE"
  | userExists => "USER_ALREADY_EXISTS"
  | permissionDenied => "PERMISSION_DENIED"
  | unauthenticated => "UNAUTHENTICATED"
  | token _ => "INVALID_TOKEN"
  | loanNotProposed => "LOAN_NOT_PROPOSED"
  | loanNotApproved => "LOAN_NOT_APPROVED"
  | loanNotInvested => "LOAN_NOT_FULLY_INVESTED"
  | amountOutOfRange => "INVESTMENT_AMOUNT_OUT_OF_RANGE"
  | conflict => "TRANSACTION_CONFLICT"
  | store _ | crypto _ | internal _ => "INTERNAL_ERROR"

/-- A database's own report: its codes for serialization failure and deadlock mean a conflict. -/
def ofDatabase (sqlState : Option String) (text : String) : Failure :=
  if sqlState = some "40001" ∨ sqlState = some "40P01" then .conflict else .store (.reported text)

end Failure

end Crowdlending
