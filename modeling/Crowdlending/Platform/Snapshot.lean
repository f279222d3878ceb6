import Crowdlending.Account.Document
import Crowdlending.Loan.Document
import Crowdlending.Platform.State

/-!
# Snapshots

All that a platform stores, as one document.
-/
namespace Crowdlending
open Json

def Mail.Message.toDoc (m : Mail.Message) : Doc :=
  .ofMembers
    [("from", .ofText m.sender), ("to", .ofText m.recipient), ("subject", .ofText m.subject),
      ("body", .ofText m.body)]

def Mail.Outbox.toDoc (o : Mail.Outbox) : Doc := .list (o.sent.map Mail.Message.toDoc)

def Metrics.toDoc (m : Metrics) : Doc := .ofMembers (m.entries.map fun e => (e.1, .int e.2))

def Platform.snapshot (p : Platform) : Doc :=
  .ofMembers
    [("loans", p.store.ledger.toDoc), ("users", p.users.toDoc), ("mails", p.outbox.toDoc),
      ("commits", .int p.store.commits)]

end Crowdlending
