/-!
# Mail

A plain message, and an outbox that keeps what it accepts and refuses some
recipients.
-/
namespace Crowdlending.Mail

structure Message where
  sender : String
  recipient : String
  subject : String
  body : String
deriving Repr, DecidableEq

structure Outbox where
  /-- In the order of sending. -/
  sent : List Message
  refusing : List String
deriving Repr, DecidableEq

namespace Outbox

def empty : Outbox := ⟨[], []⟩

def refuse (o : Outbox) (recipient : String) : Outbox :=
  { o with refusing := recipient :: o.refusing }

/-- The outbox afterwards, and whether the message was accepted. -/
def send (o : Outbox) (m : Message) : Outbox × Bool :=
  if o.refusing.contains m.recipient then (o, false) else ({ o with sent := o.sent ++ [m] }, true)

end Outbox

end Crowdlending.Mail
