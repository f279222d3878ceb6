import Crowdlending.Json.Document
import Crowdlending.Platform.Accounts
import Crowdlending.Platform.Loans

/-!
# Results as documents

The written forms of what the operations answer.
-/
namespace Crowdlending.Http
open Json Platform

/-- A loan's new state; the field for the date has a name of its own in each operation. -/
def proposalDoc (dateField : String) (r : Proposal) : Doc :=
  .ofMembers
    [("loan_id", .int r.loan), ("state", .ofText r.state.name), (dateField, .ofText r.date.text)]

def investedDoc (r : Invested) : Doc :=
  .ofMembers
    [("loan_id", .int r.loan), ("invested_amount", .ofText r.invested.text),
      ("state", .ofText r.state.name)]

def reasonsDoc (reasons : List String) : Doc := .list (reasons.map Doc.ofText)

def registeredDoc (r : Registered) : Doc :=
  .ofMembers
    [("code", .ofText (if r.succeeded then "SUCCEED" else "FAILED")),
      ("reasons", reasonsDoc r.reasons)]

def existenceDoc (r : Existence) : Doc :=
  .ofMembers [("is_exist", .bool r.known), ("reasons", reasonsDoc r.reasons)]

def closedDoc (r : Closed) : Doc :=
  .ofMembers [("user_id", .int r.user), ("status", .ofText r.status.name)]

def pairDoc (r : Token.Pair) : Doc :=
  .ofMembers [("access_token", .ofText r.access), ("refresh_token", .ofText r.refresh)]

end Crowdlending.Http
