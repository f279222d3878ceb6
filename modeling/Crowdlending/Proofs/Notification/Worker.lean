import Crowdlending.Notification.Worker
import Crowdlending.Proofs.Account.Directory

/-!
# What an event leads to

The worker writes one letter to each investor of the loan who has an account. Each
letter is sent once, and those that a mailbox takes are counted; a mailbox that
refuses makes no difference to the letters that follow. Who gets one is decided by
the investments and the directory as the worker finds them.
-/
namespace Crowdlending.Mail

/-- The recipient's mailbox takes mail. -/
def Outbox.accepts (o : Outbox) (m : Message) : Bool := !o.refusing.contains m.recipient

theorem Outbox.send_eq (o : Outbox) (m : Message) :
    o.send m = ({ o with sent := o.sent ++ [m].filter o.accepts }, o.accepts m) := by
  by_cases h : m.recipient ∈ o.refusing
  · have hrefuses : o.accepts m = false := by simp [accepts, h]
    simp [send, h, hrefuses]
  · have haccepts : o.accepts m = true := by simp [accepts, h]
    simp [send, h, haccepts]

end Crowdlending.Mail

namespace Crowdlending.Notification
open Account Loan Mail

/-- What the worker writes for a loan. -/
def letters (g : Ledger) (users : Directory) (sender : String) (loan : Int) : List Message :=
  (recipients g users loan).map (confirmation sender)

/-! ## One event -/

section Deliver
variable (sender : String)

theorem deliver_outbox (d : Delivery) (u : User) :
    (deliver sender d u).outbox =
      { d.outbox with
        sent := d.outbox.sent ++ [confirmation sender u].filter d.outbox.accepts } := by
  simp only [deliver, Outbox.send_eq]

theorem deliver_sent (d : Delivery) (u : User) :
    (deliver sender d u).sent =
      d.sent + ([confirmation sender u].filter d.outbox.accepts).length := by
  simp only [deliver, Outbox.send_eq, List.filter_singleton]
  cases d.outbox.accepts (confirmation sender u) <;> rfl

/-- Which mailboxes take mail is the same from the first letter to the last. -/
theorem foldl_deliver (users : List User) (d : Delivery) :
    (users.foldl (deliver sender) d).outbox =
        { d.outbox with
          sent := d.outbox.sent ++ (users.map (confirmation sender)).filter d.outbox.accepts } ∧
      (users.foldl (deliver sender) d).sent =
        d.sent + ((users.map (confirmation sender)).filter d.outbox.accepts).length := by
  induction users generalizing d with
  | nil => simp
  | cons u users ih =>
      obtain ⟨houtbox, hsent⟩ := ih (deliver sender d u)
      have haccepts : (deliver sender d u).outbox.accepts = d.outbox.accepts := by
        rw [deliver_outbox]
        rfl
      rw [haccepts] at houtbox hsent
      have hsplit : ((u :: users).map (confirmation sender)).filter d.outbox.accepts =
          [confirmation sender u].filter d.outbox.accepts ++
            (users.map (confirmation sender)).filter d.outbox.accepts := by
        rw [← List.filter_append]
        rfl
      rw [hsplit, List.foldl_cons]
      constructor
      · rw [houtbox, deliver_outbox, List.append_assoc]
      · rw [hsent, deliver_sent, List.length_append, Nat.add_assoc]

end Deliver

section Notify
variable (g : Ledger) (users : Directory) (sender : String) (loan : Int) (o : Outbox) (m : Metrics)

theorem notify_outbox :
    (notify g users sender loan o m).outbox =
      { o with sent := o.sent ++ (letters g users sender loan).filter o.accepts } :=
  (foldl_deliver sender (recipients g users loan) ⟨o, m, 0⟩).1

theorem notify_sent :
    (notify g users sender loan o m).sent =
      ((letters g users sender loan).filter o.accepts).length := by
  have hsent := (foldl_deliver sender (recipients g users loan) ⟨o, m, 0⟩).2
  rw [Nat.zero_add] at hsent
  exact hsent

end Notify

/-! ## Who gets a letter -/

/-- The ids of the investors of a loan, once for each investment. -/
def investors (g : Ledger) (loan : Int) : List Int :=
  (g.investmentsOf loan).map Investment.investor

theorem mem_recipients {g : Ledger} {users : Directory} {loan : Int} {u : User} :
    u ∈ recipients g users loan ↔ (∃ e ∈ users.entries, e.user = u) ∧ u.id ∈ investors g loan :=
  Directory.mem_withIds

/-- However often somebody invested, there is one letter for him. -/
theorem nodup_recipients {users : Directory} (h : users.Numbered) (g : Ledger) (loan : Int) :
    ((recipients g users loan).map User.id).Nodup :=
  h.nodup_withIds _

section Later
variable {g g' : Ledger} {users users' : Directory} {loan : Int}

/-- With the same investments, a later directory adds letters to accounts that came since. -/
theorem letters_of_continues (hsame : g'.investmentsOf loan = g.investmentsOf loan)
    (husers : users.Continues users') (sender : String) :
    letters g' users' sender loan =
      letters g users sender loan ++ letters g (users'.since users) sender loan := by
  simp only [letters, recipients, hsame]
  exact Directory.map_withIds_of_continues (fun _ _ => rfl) husers _

/-- If all investors had an account, it makes no difference when the letters are written. -/
theorem letters_of_known (hsame : g'.investmentsOf loan = g.investmentsOf loan)
    (husers : users.Continues users') (hnumbered : users'.Numbered)
    (hknown : ∀ id ∈ investors g loan, id ∈ users.ids) (sender : String) :
    letters g' users' sender loan = letters g users sender loan := by
  have hnone : letters g (users'.since users) sender loan = [] := by
    have hwithIds := Directory.withIds_since husers hnumbered hknown
    rw [letters, recipients, ← investors, hwithIds, List.map_nil]
  rw [letters_of_continues hsame husers, hnone, List.append_nil]

end Later

end Crowdlending.Notification
