import Crowdlending.Account.Directory
import Crowdlending.Json.Member

/-!
# Users as documents

The written forms of users. Of a password hash only the beginning is shown, which tells its
version and its cost.
-/
namespace Crowdlending.Account
open Json

/-- The beginning of a hash; a text too short for one has none. -/
def shownHash? (hash : String) : Option String :=
  let start := hash.toList.take 7
  if start.length = 7 then some (String.ofList start) else none

def User.members (u : User) : List (String × Doc) :=
  [("id", .int u.id), ("name", .ofText u.name), ("email", .ofText u.email),
    ("phone_number", .ofText u.phoneNumber),
    ("hash_prefix", .ofOption .ofText (shownHash? u.passwordHash)),
    ("status", .ofText u.status.name), ("role", .int u.role.number),
    ("is_email_verified", .bool u.emailVerified)]

def User.toDoc (u : User) : Doc := .ofMembers u.members

namespace Entry

/-- Who made the account, and who changed it last. -/
def audit (e : Entry) : Doc :=
  .list [.ofOption .int e.createdBy, .ofOption .int e.updatedBy]

def toDoc (e : Entry) : Doc := .ofMembers (e.user.members ++ [("audit", e.audit)])

end Entry

def Directory.toDoc (d : Directory) : Doc := .list (d.entries.map Entry.toDoc)

end Crowdlending.Account
