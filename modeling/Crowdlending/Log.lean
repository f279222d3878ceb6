import Crowdlending.Account.Request
import Crowdlending.Text.Quoted
import Crowdlending.Token.Issuer

/-!
# What logs show

The texts of values in logs. Names, addresses, passwords and tokens are left out; ids, roles and
issuers are shown.
-/
namespace Crowdlending

namespace Log

def redacted : String := "[REDACTED]"

/-- A value by its name and the fields that are shown. -/
def shown (name : String) (fields : List (String × String)) (rest : Bool) : String :=
  let parts := (fields.map fun f => f.1 ++ ": " ++ f.2) ++ if rest then [".."] else []
  name ++ " \x7b " ++ ", ".intercalate parts ++ " \x7d"

end Log

open Log Text

def Token.Claims.logText (c : Token.Claims) : String :=
  shown "Claims"
    [("user_id", toString c.userId), ("name", quoted redacted), ("email", quoted redacted),
      ("phone_number", quoted redacted), ("role_id", c.role.name), ("token_type", c.kind.logName),
      ("extended", toString c.extended), ("iss", quoted c.issuer), ("sub", quoted redacted),
      ("exp", toString c.expiry)] false

def Token.Subject.logText (s : Token.Subject) : String :=
  shown "TokenSubject" [("user_id", toString s.userId), ("role", s.role.name)] true

def Token.Pair.logText (_ : Token.Pair) : String :=
  shown "TokenPair" [("access_token", quoted redacted), ("refresh_token", quoted redacted)] false

def Token.Issuer.logText (i : Token.Issuer) : String :=
  shown "TokenIssuer"
    [("kid", quoted i.kid), ("access_issuer", quoted i.issuers.access),
      ("refresh_issuer", quoted i.issuers.refresh)] true

def Account.User.logText (u : Account.User) : String :=
  shown "User"
    [("id", toString u.id), ("status", u.status.logName), ("role", u.role.name),
      ("is_email_verified", toString u.emailVerified)] true

def Account.LoginRequest.logText (r : Account.LoginRequest) : String :=
  shown "LoginRequest"
    [("user_id", quoted r.identifier), ("password", "SecretBox<str>(" ++ redacted ++ ")"),
      ("remember_me", toString r.rememberMe)] false

end Crowdlending
