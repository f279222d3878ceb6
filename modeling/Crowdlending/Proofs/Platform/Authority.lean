import Crowdlending.Proofs.Account.Directory
import Crowdlending.Proofs.Platform.Atomicity

/-!
# Who acts

Whatever changes the ledger or an account that was there is done for a caller whose
role may do so, and in all that is written it is this user who acts: as borrower,
validator, investor or officer, as the one who changed a loan, and as the one whose
account is closed. An account that is added counts as no act on those that were there.

All ways into the platform lead to the same calls, so what they may write is told
once, by call, and kept through whatever changes neither the ledger nor the accounts.
-/
namespace Crowdlending.Loan
open Access

/-- The list goes on with so many new entries, all of this kind. -/
def Adds {α : Type} (xs xs' : List α) (count : ℕ) (kind : α → Prop) : Prop :=
  ∃ new, xs' = xs ++ new ∧ new.length = count ∧ ∀ x ∈ new, kind x

theorem Adds.none {α : Type} (xs : List α) (kind : α → Prop) : Adds xs xs 0 kind :=
  ⟨[], (List.append_nil xs).symm, rfl, fun _ h => absurd h List.not_mem_nil⟩

def Change.operation : Change → Operation
  | approval .. => .approveLoan
  | investment _ => .investInLoan
  | disbursement _ => .disburseLoan

/-- The loan is as it was, or an operation that moves loans changed it and names the actor. -/
def TouchedBy (actor : Int) (op : Operation) (l l' : Loan) : Prop :=
  l' = l ∨ op ∈ [.approveLoan, .investInLoan, .disburseLoan] ∧ l'.updatedBy = some actor ∧
    l'.id = l.id ∧ l'.borrower = l.borrower ∧ l'.createdBy = l.createdBy ∧
    l'.deletedBy = l.deletedBy

namespace Ledger

/-- All that the operation writes into the ledger names the actor. -/
structure WrittenBy (actor : Int) (op : Operation) (g g' : Ledger) : Prop where
  loans : ∃ touched, g.loans.Forall₂ (TouchedBy actor op) touched ∧
    Adds touched g'.loans (if op = .proposeLoan then 1 else 0)
      fun l => l.borrower = actor ∧ l.createdBy = some actor ∧ l.updatedBy = none
  approvals : Adds g.approvals g'.approvals (if op = .approveLoan then 1 else 0)
    fun a => a.validator = actor
  investments : Adds g.investments g'.investments (if op = .investInLoan then 1 else 0)
    fun i => i.investor = actor
  disbursements : Adds g.disbursements g'.disbursements (if op = .disburseLoan then 1 else 0)
    fun d => d.officer = actor

theorem forall₂_touchedBy (actor : Int) (op : Operation) (loans : List Loan) :
    loans.Forall₂ (TouchedBy actor op) loans :=
  List.forall₂_same.mpr fun _ _ => .inl rfl

theorem writtenBy_propose (g : Ledger) (actor : Int) (principal : Decimal) (now : Moment) :
    g.WrittenBy actor .proposeLoan (g.propose actor principal now).1 where
  loans := ⟨g.loans, forall₂_touchedBy .., [_], rfl, rfl, fun l hl => by
    rw [List.mem_singleton.mp hl]
    exact ⟨rfl, rfl, rfl⟩⟩
  approvals := .none ..
  investments := .none ..
  disbursements := .none ..

theorem writtenBy_transition {g g' : Ledger} {id actor : Int} {c : Change} {now : Moment}
    {l : Loan} (h : g.transition id actor c now = .ok (g', l)) :
    g.WrittenBy actor c.operation g' := by
  obtain ⟨found, next, g₁, -, -, hrecord, rfl, hupdate⟩ := transition_eq_ok h
  rw [record_eq_ok hrecord] at hupdate
  unfold update at hupdate
  split at hupdate
  · cases hupdate
  · split at hupdate
    · cases hupdate
    · cases hupdate
      have hop : c.operation ∈ [Operation.approveLoan, .investInLoan, .disburseLoan] := by
        cases c <;> simp [Change.operation]
      constructor
      case loans =>
        refine ⟨_, ?_, [], (List.append_nil _).symm, by cases c <;> rfl, by simp⟩
        rw [mapLoan, List.forall₂_map_right_iff]
        refine List.forall₂_same.mpr fun k _ => ?_
        split
        · exact .inr ⟨hop, rfl, rfl, rfl, rfl, rfl⟩
        · exact .inl rfl
      all_goals
        exact ⟨_, rfl, by cases c <;> rfl,
          by cases c <;> simp [Change.approvals, Change.investments, Change.disbursements]⟩

end Ledger

end Crowdlending.Loan

namespace Crowdlending.Platform
open Token Account Loan Access

/-! ## Loan calls -/

namespace Order

def operation : Order → Operation
  | propose .. => .proposeLoan
  | change _ _ c => c.operation

def actor : Order → Int
  | propose borrower _ => borrower
  | change _ actor _ => actor

theorem operation_ne_closeAccount (o : Order) : o.operation ≠ .closeAccount := by
  cases o with
  | propose borrower principal => simp [operation]
  | change loan actor c => cases c <;> simp [operation, Change.operation]

end Order

theorem authorized_of_check {caller : Option Claims} {r : LoanRequest} {o : Order}
    (h : r.check caller = .ok o) :
    ∃ c, caller = some c ∧ c.role ∈ o.operation.roles ∧ o.actor = c.userId := by
  cases r with
  | create r =>
      obtain ⟨a, ha, rfl⟩ := Result.map_eq_ok.mp h
      obtain ⟨hcaller, hrole⟩ := authorize_eq_ok (checkCreate_eq_ok ha).1
      exact ⟨a.1, hcaller, hrole, rfl⟩
  | approve r =>
      obtain ⟨⟨c, ch⟩, ha, rfl⟩ := Result.map_eq_ok.mp h
      obtain ⟨hc, link, rate, roi, rfl, -, -⟩ := checkApprove_eq_ok ha
      obtain ⟨hcaller, hrole⟩ := authorize_eq_ok hc
      exact ⟨c, hcaller, hrole, rfl⟩
  | invest r =>
      obtain ⟨a, ha, rfl⟩ := Result.map_eq_ok.mp h
      obtain ⟨hcaller, hrole⟩ := authorize_eq_ok (checkInvest_eq_ok ha).1
      exact ⟨a.1, hcaller, hrole, rfl⟩
  | disburse r =>
      obtain ⟨⟨c, ch⟩, ha, rfl⟩ := Result.map_eq_ok.mp h
      obtain ⟨hc, link, rfl⟩ := checkDisburse_eq_ok ha
      obtain ⟨hcaller, hrole⟩ := authorize_eq_ok hc
      exact ⟨c, hcaller, hrole, rfl⟩

theorem writtenBy_of_execute (s : Store) (now : Moment) (o : Order) :
    (o.execute s now).1.ledger = s.ledger ∨
      s.ledger.WrittenBy o.actor o.operation (o.execute s now).1.ledger := by
  cases o with
  | propose borrower principal => exact .inr (s.ledger.writtenBy_propose borrower principal now)
  | change loan actor c =>
      rcases execute_change s now loan actor c with ⟨f, -, hledger⟩ | ⟨l, -, ht⟩
      · exact .inl hledger
      · exact .inr (Ledger.writtenBy_transition ht)

theorem dispatch_frame (p : Platform) (loan : Int) :
    ∃ metrics, p.dispatch loan = { p with queue := (p.queue.dispatch loan).1, metrics } := by
  unfold dispatch
  simp only
  split
  · exact ⟨p.metrics, rfl⟩
  · exact ⟨_, rfl⟩

/-- A loan call touches the store, the queue and the counts. -/
theorem loan_perform_frame (p : Platform) (now : Moment) (caller : Option Claims)
    (r : LoanRequest) :
    ∃ store queue metrics,
      (r.perform p now caller).platform = { p with store, queue, metrics } := by
  cases r with
  | create r =>
      rw [LoanRequest.perform, map_platform, createLoan]
      split <;> exact ⟨_, _, _, rfl⟩
  | approve r =>
      rw [LoanRequest.perform, map_platform, approveLoan]
      split <;> exact ⟨_, _, _, rfl⟩
  | invest r =>
      rw [LoanRequest.perform, map_platform, investInLoan]
      split
      · exact ⟨_, _, _, rfl⟩
      · unfold Outcome.andThen
        split
        · exact ⟨_, _, _, rfl⟩
        · simp only [noteInvestment, Outcome.done]
          split
          · obtain ⟨metrics, hdispatch⟩ := dispatch_frame _ r.loan
            rw [hdispatch]
            exact ⟨_, _, _, rfl⟩
          · exact ⟨_, _, _, rfl⟩
  | disburse r =>
      rw [LoanRequest.perform, map_platform, disburseLoan]
      split <;> exact ⟨_, _, _, rfl⟩

theorem loan_perform_users (p : Platform) (now : Moment) (caller : Option Claims)
    (r : LoanRequest) : (r.perform p now caller).platform.users = p.users := by
  obtain ⟨store, queue, metrics, h⟩ := loan_perform_frame p now caller r
  rw [h]

/-! ## All calls -/

/-- The entry is the actor's, and is closed by him. -/
def ClosedBy (actor : Int) (e e' : Entry) : Prop :=
  e.user.id = actor ∧
    e' = { e with user := { e.user with status := .closed }, updatedBy := some actor }

/-- All that the operation writes into the ledger names the actor. Of the accounts that were there
only the actor's own is changed, when it is closed, and then nothing else. -/
structure WrittenBy (actor : Int) (op : Operation) (p p' : Platform) : Prop where
  ledger : p.store.ledger.WrittenBy actor op p'.store.ledger
  closing : op = .closeAccount → p'.store.ledger = p.store.ledger
  users : p.users.entries.Forall₂ (fun e e' => e' = e ∨ op = .closeAccount ∧ ClosedBy actor e e')
    p'.users.entries
  lastUser : p'.users.lastId = p.users.lastId

/-- The ledger is another than before, or an account is. Accounts that are new do not count. -/
def Acts (p p' : Platform) : Prop :=
  p'.store.ledger ≠ p.store.ledger ∨ ¬p.users.entries <+: p'.users.entries

theorem not_acts_of_same {p p' : Platform} (hledger : p'.store.ledger = p.store.ledger)
    (husers : p'.users = p.users) : ¬Acts p p' := by
  rintro (h | h)
  · exact h hledger
  · exact h (husers ▸ List.prefix_rfl)

theorem writtenBy_close {p : Platform} {id : Int} {users : Directory} {u : User}
    (h : p.users.close id id = .ok (users, u)) :
    p.WrittenBy id .closeAccount { p with users } := by
  unfold Directory.close at h
  split at h
  · cases h
  · cases h
    refine ⟨⟨⟨_, Ledger.forall₂_touchedBy .., .none ..⟩, .none .., .none .., .none ..⟩,
      fun _ => rfl, ?_, rfl⟩
    refine (Directory.forall₂_mapFirst id _ p.users.entries).imp fun e e' hentry => ?_
    exact hentry.imp_right fun hclosed => ⟨rfl, hclosed⟩

/-- The user acts, by an operation that his role allows. -/
def InNameOf (c : Claims) (p p' : Platform) : Prop :=
  ∃ op, c.role ∈ op.roles ∧ p.WrittenBy c.userId op p'

/-- A call acts by an authorised caller and in his name, or not at all. -/
def ActsAuthorized (caller : Option Claims) (p p' : Platform) : Prop :=
  ¬Acts p p' ∨ ∃ c, caller = some c ∧ InNameOf c p p'

theorem actsAuthorized_loan (p : Platform) (now : Moment) (caller : Option Claims)
    (r : LoanRequest) : ActsAuthorized caller p (r.perform p now caller).platform := by
  have husers := loan_perform_users p now caller r
  cases hcheck : r.check caller with
  | error f =>
      rw [perform_of_refused hcheck]
      exact .inl (not_acts_of_same rfl rfl)
  | ok o =>
      obtain ⟨hstore, -⟩ := @perform_of_checked p now caller r o hcheck
      obtain ⟨c, hcaller, hrole, hactor⟩ := authorized_of_check hcheck
      rcases writtenBy_of_execute p.store now o with hsame | hwritten
      · exact .inl (not_acts_of_same (by rw [hstore, hsame]) husers)
      · rw [hactor, ← hstore] at hwritten
        refine .inr ⟨c, hcaller, o.operation, hrole, hwritten, fun h => ?_, ?_, by rw [husers]⟩
        · exact absurd h o.operation_ne_closeAccount
        · rw [husers]
          exact List.forall₂_same.mpr fun _ _ => .inl rfl

theorem actsAuthorized_of_kept {caller : Option Claims} {p p' : Platform} (h : p.Kept p') :
    ActsAuthorized caller p p' := .inl (not_acts_of_same h.ledger h.users)

/-- A registration adds an account, which counts as no act on those that were there. -/
theorem actsAuthorized_register (s : Setup) (p : Platform) (call : Call) (caller : Option Claims)
    (r : RegisterRequest) : ActsAuthorized caller p (p.register s call caller r).platform := by
  rcases register_cases s p call caller r with hsame | ⟨a, hash, users, u, -, hu, hdone⟩
  · rw [hsame]
    exact actsAuthorized_of_kept (.refl p)
  · rw [hdone]
    left
    rintro (h | h)
    · exact h rfl
    · obtain ⟨-, rfl⟩ := Directory.create_eq_ok hu
      exact h (List.prefix_append _ _)

theorem actsAuthorized_closeAccount (p : Platform) (caller : Option Claims) :
    ActsAuthorized caller p (p.closeAccount caller).platform := by
  rcases closeAccount_cases p caller with ⟨f, hfailed⟩ | ⟨c, users, u, hc, hclose, hdone⟩
  · rw [hfailed]
    exact actsAuthorized_of_kept (.refl p)
  · obtain ⟨hcaller, hrole⟩ := authorize_eq_ok hc
    rw [hdone]
    exact .inr ⟨c, hcaller, .closeAccount, hrole, writtenBy_close hclose⟩

/-- What is kept before a call and after it makes no difference to who acts. -/
theorem ActsAuthorized.of_kept {caller : Option Claims} {p q q' p' : Platform} (h : p.Kept q)
    (hq : ActsAuthorized caller q q') (h' : q'.Kept p') : ActsAuthorized caller p p' := by
  rcases hq with hnot | ⟨c, hcaller, op, hrole, hwritten⟩
  · left
    rwa [Acts, h'.ledger, h'.users, ← h.ledger, ← h.users]
  · refine .inr ⟨c, hcaller, op, hrole, ?_, ?_, ?_, ?_⟩
    · rw [h'.ledger, ← h.ledger]
      exact hwritten.ledger
    · rw [h'.ledger, ← h.ledger]
      exact hwritten.closing
    · rw [h'.users, ← h.users]
      exact hwritten.users
    · rw [h'.users, ← h.users]
      exact hwritten.lastUser

/-- What is done once the caller is known acts as it would on the platform before. -/
theorem actsAuthorized_andThen {α : Type} {who : Option Claims} {p : Platform}
    {o : Outcome (Option Claims)} {f : Platform → Option Claims → Outcome α}
    (hkept : p.Kept o.platform) (hwho : ∀ w, o.result = .ok w → w = who)
    (hf : ∀ q, ActsAuthorized who q (f q who).platform) :
    ActsAuthorized who p (o.andThen f).platform := by
  unfold Outcome.andThen
  split
  · exact actsAuthorized_of_kept hkept
  · next w hw =>
      rw [hwho w hw]
      exact (hf o.platform).of_kept hkept (.refl _)

end Crowdlending.Platform
