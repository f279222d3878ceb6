import Crowdlending.Access
import Crowdlending.Account.Email
import Crowdlending.Account.Password
import Crowdlending.Account.Phone
import Crowdlending.Account.Request
import Crowdlending.Loan.Amount
import Crowdlending.Platform.State

/-!
# Account operations

Register, log in, exchange a refresh token, ask whether an account exists, and
close one's own. Emails are trimmed and phone numbers brought to international
form before they are looked up or stored.
-/
namespace Crowdlending.Platform
open Token Account Access

/-- An account was made, or the reasons why it was not. -/
structure Registered where
  succeeded : Bool
  reasons : List String
deriving Repr, DecidableEq

structure Existence where
  known : Bool
  reasons : List String
deriving Repr, DecidableEq

structure Closed where
  user : Int
  status : Status
deriving Repr, DecidableEq

def knownReason (kind : Identifier) (value : String) : String :=
  "user with " ++ kind.label ++ " " ++ value ++ " already exist"

def reasonFor (d : Directory) (kind : Identifier) (value : String) : Except Failure (List String) :=
  if value.isEmpty then .ok []
  else (d.isKnown kind value).map fun known => if known then [knownReason kind value] else []

/-- Why an account with this email and this phone number cannot be made: active users hold them.
Empty values are passed over. -/
def existenceReasons (d : Directory) (email phone : String) : Except Failure (List String) := do
  let byEmail ← reasonFor d .email email
  let byPhone ← reasonFor d .phoneNumber phone
  return byEmail ++ byPhone

/-- A registration that passed all checks but those on the directory. -/
structure Applicant where
  name : String
  email : String
  phone : String
  role : Role
deriving Repr, DecidableEq

def checkRegister (country : String) (caller : Option Claims) (r : RegisterRequest) :
    Except Failure Applicant := do
  match checkPresent "name" r.name with
  | .ok _ => pure ()
  | .error e => throw (.input e)
  let email := Text.trim r.email
  if ¬isEmailText email then throw .malformedEmail
  match checkPresent "phone_number" r.phoneNumber with
  | .ok _ => pure ()
  | .error e => throw (.input e)
  checkPassword r.password
  let role ← registrationRole caller r.roleNumber
  return ⟨Text.trim r.name, email, Phone.international country (Text.trim r.phoneNumber), role⟩

def register (s : Setup) (p : Platform) (call : Call) (caller : Option Claims)
    (r : RegisterRequest) : Outcome Registered :=
  match checkRegister s.countryCode caller r with
  | .error f => .failed p f
  | .ok a => match existenceReasons p.users a.email a.phone with
    | .error f => .failed p f
    | .ok [] => match Crypto.Bcrypt.hash s.hashCore call.salt r.password s.hashCost with
      | .error f => .failed p f
      | .ok passwordHash =>
          match p.users.create
            ⟨a.name, a.email, a.phone, passwordHash, a.role, caller.map Claims.userId⟩ with
          | .error f => .failed p f
          | .ok (users, _) => .done { p with users } ⟨true, []⟩
    | .ok reasons => .done p ⟨false, reasons⟩

/-- What a login identifier is looked up as: an email as it is, else a phone number. -/
def loginIdentifier (country identifier : String) : String :=
  if identifier.toList.contains '@' then identifier else Phone.international country identifier

def checkLogin (r : LoginRequest) : Except InputFault String :=
  let identifier := Text.trim r.identifier
  match checkPresent "user_id" identifier with
  | .error e => .error e
  | .ok _ =>
      if r.password.toList.length < leastPasswordLength then .error .shortPassword
      else .ok identifier

/-- The active user with this identifier and this password. -/
def authenticate (s : Setup) (d : Directory) (r : LoginRequest) : Except Failure User :=
  match checkLogin r with
  | .error e => .error (.input e)
  | .ok identifier => match d.byIdentifier (loginIdentifier s.countryCode identifier) with
    | .error f => .error f
    | .ok u =>
        if u.status ≠ .active then .error .userNotActive
        else match Crypto.Bcrypt.verify s.hashCore r.password u.passwordHash with
          | .error f => .error f
          | .ok true => .ok u
          | .ok false => .error .credentials

def login (s : Setup) (p : Platform) (call : Call) (r : LoginRequest) : Outcome Pair :=
  match authenticate s p.users r with
  | .error f => .failed p f
  | .ok u => p.issuePair s call.now (.ofUser u) r.rememberMe

/-- A new pair for a refresh token; the new refresh token is extended when the old one was. -/
def refresh (s : Setup) (p : Platform) (call : Call) (r : RefreshRequest) : Outcome Pair :=
  let token := Text.trim r.token
  if token.isEmpty then .failed p (.input (.required "refresh_token"))
  else (p.verify s call.now .refresh token).andThen fun p c =>
    p.issuePair s call.now c.toSubject c.extended

def userExists (s : Setup) (p : Platform) (r : ExistenceRequest) : Outcome Existence :=
  let email := Text.trim r.email
  let phone := (Phone.meaningful? (Text.trim r.phoneNumber)).getD ""
  if email.isEmpty ∧ phone.isEmpty then .failed p .noArgument
  else if ¬email.isEmpty ∧ ¬isEmailText email then .failed p .malformedEmail
  else match existenceReasons p.users email (Phone.international s.countryCode phone) with
    | .error f => .failed p f
    | .ok reasons => .done p ⟨!reasons.isEmpty, reasons⟩

/-- Closes the caller's own account. -/
def closeAccount (p : Platform) (caller : Option Claims) : Outcome Closed :=
  match authorize caller .closeAccount with
  | .error f => .failed p f
  | .ok c => match p.users.close c.userId c.userId with
    | .error f => .failed p f
    | .ok (users, u) => .done { p with users } ⟨u.id, u.status⟩

end Crowdlending.Platform
