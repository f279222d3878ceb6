import Crowdlending.Failure
import Crowdlending.Mail.Mailbox
import Crowdlending.Mail.Message

/-!
# Where mail goes

Mail is only logged, or it is handed to a relay. A relay is spoken to only when both addresses
are mailboxes; the sender is looked at first. Whether the relay takes the message is a parameter.
-/
namespace Crowdlending.Mail

inductive Sink where
  | log
  | relay
deriving Repr, DecidableEq

def checkAddresses (m : Message) : Except InternalFault Unit :=
  if (Mailbox.ofText? m.sender).isNone then .error .sender
  else if (Mailbox.ofText? m.recipient).isNone then .error .recipient
  else .ok ()

def Sink.send (sink : Sink) (accepts : Message → Bool) (m : Message) : Except Failure Unit :=
  match sink with
  | log => .ok ()
  | relay => match checkAddresses m with
    | .error e => .error (.internal e)
    | .ok _ => if accepts m then .ok () else .error (.internal .mailRefused)

end Crowdlending.Mail
