import Crowdlending.Account.Directory
import Crowdlending.Loan.Ledger
import Crowdlending.Mail.Message
import Crowdlending.Metrics
import Crowdlending.Notification.Queue

/-!
# Mailing investors

For each completed loan every investor known to the directory gets one mail,
however often that investor invested. A mailbox that refuses does not keep the
others from their mail.
-/
namespace Crowdlending.Notification
open Account Mail Loan

def subject : String := "Investment Confirmation"
def body : String := "You have successfully invested"

/-- The distinct investors of a loan, in the directory's order. -/
def recipients (g : Ledger) (d : Directory) (loan : Int) : List User :=
  d.withIds ((g.investmentsOf loan).map Investment.investor)

def confirmation (sender : String) (u : User) : Message := ⟨sender, u.email, subject, body⟩

/-- Outbox, metrics and the number of mails accepted. -/
structure Delivery where
  outbox : Outbox
  metrics : Metrics
  sent : Nat

def deliver (sender : String) (d : Delivery) (u : User) : Delivery :=
  let (outbox, accepted) := d.outbox.send (confirmation sender u)
  ⟨outbox, d.metrics.add (.notification (if accepted then .sent else .error)),
    d.sent + if accepted then 1 else 0⟩

/-- Mails the investors of a loan. -/
def notify (g : Ledger) (users : Directory) (sender : String) (loan : Int) (o : Outbox)
    (m : Metrics) : Delivery :=
  (recipients g users loan).foldl (deliver sender) ⟨o, m, 0⟩

/-- Handles events in turn. -/
def handleAll (g : Ledger) (users : Directory) (sender : String) :
    List Int → Outbox → Metrics → Outbox × Metrics
  | [], o, m => (o, m)
  | e :: r, o, m =>
      let d := notify g users sender e o m
      handleAll g users sender r d.outbox d.metrics

end Crowdlending.Notification
