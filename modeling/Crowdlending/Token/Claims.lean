import Crowdlending.Account.User
import Crowdlending.Json.Printer
import Crowdlending.Json.Shape
import Crowdlending.Number.Numeral

/-!
# Claims

What a token says: who the user is, which kind of token it is, who issued it
and until when it counts. The written form is a JSON record with its fields in
a fixed order.
-/
namespace Crowdlending.Token
open Account Json

inductive Kind where
  | access
  | refresh
deriving Repr, DecidableEq

namespace Kind

def number : Kind → Nat
  | access => 0
  | refresh => 1

def name : Kind → String
  | access => "access"
  | refresh => "refresh"

/-- The name as a log shows it. -/
def logName : Kind → String
  | access => "Access"
  | refresh => "Refresh"

def ofNumber? (n : Nat) : Option Kind := [access, refresh].find? fun k => k.number == n

def unknownMessage (n : Nat) : String := "unknown token type: " ++ toString n

end Kind

structure Claims where
  userId : Int
  name : String
  email : String
  phoneNumber : String
  role : Role
  kind : Kind
  extended : Bool
  issuer : String
  /-- The user's email. -/
  subject : String
  /-- Seconds since 1970. -/
  expiry : Int
deriving Repr, DecidableEq

/-- The user a token is made for. -/
structure Subject where
  userId : Int
  name : String
  email : String
  phoneNumber : String
  role : Role
deriving Repr, DecidableEq

def Subject.ofUser (u : User) : Subject := ⟨u.id, u.name, u.email, u.phoneNumber, u.role⟩

def Claims.toSubject (c : Claims) : Subject := ⟨c.userId, c.name, c.email, c.phoneNumber, c.role⟩

/-- A number of one byte that stands for something. -/
def asNumbered {α : Type} (ofNumber? : Nat → Option α) (d : Doc) : Except Fault α :=
  match d.asNat Number.maxU8 with
  | .error e => .error e
  | .ok n => match ofNumber? n with
    | some a => .ok a
    | none => .error .shape

def asRole : Doc → Except Fault Role := asNumbered Role.ofNumber?
def asKind : Doc → Except Fault Kind := asNumbered Kind.ofNumber?

namespace Claims

def fields : List Field :=
  [.required "user_id" Doc.asInt64, .required "name" Doc.asText, .required "email" Doc.asText,
    .required "phone_number" Doc.asText, .required "role_id" asRole,
    .required "token_type" asKind, .required "extended" Doc.asBool, .required "iss" Doc.asText,
    .required "sub" Doc.asText, .required "exp" Doc.asInt64]

def ofDoc (d : Doc) : Except Fault Claims := do
  let found : Found ← Field.collect fields d
  .ok {
    userId := ← found.value "user_id" Doc.asInt64
    name := ← found.value "name" Doc.asText
    email := ← found.value "email" Doc.asText
    phoneNumber := ← found.value "phone_number" Doc.asText
    role := ← found.value "role_id" asRole
    kind := ← found.value "token_type" asKind
    extended := ← found.value "extended" Doc.asBool
    issuer := ← found.value "iss" Doc.asText
    subject := ← found.value "sub" Doc.asText
    expiry := ← found.value "exp" Doc.asInt64 }

def toDoc (c : Claims) : Doc :=
  .ofMembers
    [("user_id", .int c.userId), ("name", .ofText c.name), ("email", .ofText c.email),
      ("phone_number", .ofText c.phoneNumber), ("role_id", .int c.role.number),
      ("token_type", .int c.kind.number), ("extended", .bool c.extended),
      ("iss", .ofText c.issuer), ("sub", .ofText c.subject), ("exp", .int c.expiry)]

end Claims

end Crowdlending.Token
