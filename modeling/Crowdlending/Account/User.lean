import Crowdlending.Account.Role

/-!
# Users

A user as the directory keeps it, and the two columns by which a user can be
asked for.
-/
namespace Crowdlending.Account

inductive Status where
  | active
  | blocked
  | closed
deriving Repr, DecidableEq

namespace Status

def all : List Status := [active, blocked, closed]

def name : Status → String
  | active => "ACTIVE"
  | blocked => "BLOCKED"
  | closed => "CLOSED"

/-- The name as a log shows it. -/
def logName : Status → String
  | active => "Active"
  | blocked => "Blocked"
  | closed => "Closed"

def ofName? (s : String) : Option Status := all.find? fun st => st.name == s

end Status

/-- What a user is looked up by. -/
inductive Identifier where
  | username
  | email
  | phoneNumber
deriving Repr, DecidableEq

namespace Identifier

def all : List Identifier := [username, email, phoneNumber]

def name : Identifier → String
  | username => "username"
  | email => "email"
  | phoneNumber => "phone_number"

/-- The name in a sentence. -/
def label : Identifier → String
  | username => "username"
  | email => "email"
  | phoneNumber => "phone number"

def ofName? (s : String) : Option Identifier := all.find? fun i => i.name == s

end Identifier

structure User where
  id : Int
  name : String
  email : String
  phoneNumber : String
  passwordHash : String
  status : Status
  role : Role
  emailVerified : Bool
deriving Repr, DecidableEq

/-- A user to be entered into the directory. -/
structure Registration where
  name : String
  email : String
  phoneNumber : String
  passwordHash : String
  role : Role
  createdBy : Option Int
deriving Repr, DecidableEq

end Crowdlending.Account
