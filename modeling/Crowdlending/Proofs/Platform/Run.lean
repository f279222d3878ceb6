import Crowdlending.Platform.Accounts
import Crowdlending.Platform.Loans
import Crowdlending.Proofs.Loan.Reachable
import Crowdlending.Proofs.Token.KeySource

/-!
# Runs of the platform

A run is any list of actions: calls to the loan and the account operations with
any caller and any arguments, conflicts set to come, loans deleted, the worker at
work. A loan call is judged first, by its caller and its arguments alone; what is
left is an order to the ledger, and all that a call does to the store and all
that it answers is what carrying out its order gives. So every run leads through
reachable ledgers.
-/
namespace Crowdlending.Platform
open Token Account Loan

/-! ## Loan calls -/

inductive LoanRequest where
  | create (r : CreateRequest)
  | approve (r : ApproveRequest)
  | invest (r : InvestRequest)
  | disburse (r : DisburseRequest)
deriving DecidableEq

inductive LoanReply where
  | proposal (p : Proposal)
  | invested (i : Platform.Invested)
deriving DecidableEq

/-- The loan that a call is about; a proposal is about none yet. -/
def LoanRequest.target? : LoanRequest → Option Int
  | create _ => none
  | approve r => some r.loan
  | invest r => some r.loan
  | disburse r => some r.loan

/-- What a call asks of the ledger once its caller and its arguments have passed. -/
inductive Order where
  | propose (borrower : Int) (principal : Decimal)
  | change (loan actor : Int) (c : Change)
deriving DecidableEq

namespace LoanRequest

def perform (p : Platform) (now : Moment) (caller : Option Claims) :
    LoanRequest → Outcome LoanReply
  | create r => (p.createLoan now caller r).map .proposal
  | approve r => (p.approveLoan now caller r).map .proposal
  | invest r => (p.investInLoan now caller r).map .invested
  | disburse r => (p.disburseLoan now caller r).map .proposal

def check (caller : Option Claims) : LoanRequest → Except Failure Order
  | create r => (checkCreate caller r).map fun a => .propose a.1.userId a.2
  | approve r => (checkApprove caller r).map fun a => .change r.loan a.1.userId a.2
  | invest r => (checkInvest caller r).map fun a => .change r.loan a.1.userId (.investment a.2)
  | disburse r => (checkDisburse caller r).map fun a => .change r.loan a.1.userId a.2

end LoanRequest

/-- The answer about the loan that a change left. -/
def changeReply (c : Change) (loan : Int) (now : Moment) (l : Loan) : LoanReply :=
  match c with
  | .investment _ => .invested ⟨loan, l.invested, l.state⟩
  | _ => .proposal ⟨loan, l.state, now⟩

namespace Order

def execute (s : Store) (now : Moment) : Order → Store × Except Failure LoanReply
  | propose borrower principal =>
      let (ledger, l) := s.ledger.propose borrower principal now
      ({ s with ledger }, .ok (.proposal ⟨l.id, l.state, l.createdAt⟩))
  | change loan actor c =>
      let r := s.change loan actor c now
      (r.state, r.result.map (changeReply c loan now))

/-- The arguments of the order passed their checks. -/
def IsChecked : Order → Prop
  | propose _ principal => IsPrincipal principal
  | change _ _ c => c.IsChecked

end Order

section Calls
variable {p : Platform} {now : Moment} {caller : Option Claims}

theorem input_eq_ok {α : Type} {x : Except InputFault α} {a : α} (h : input x = .ok a) :
    x = .ok a := by
  cases x with
  | error e => cases h
  | ok b => cases h; rfl

theorem dispatch_store (p : Platform) (loan : Int) : (p.dispatch loan).store = p.store := by
  unfold dispatch
  simp only
  split <;> rfl

theorem noteInvestment_store (p : Platform) (loan : Int) (amount : Decimal) (l : Loan) :
    (p.noteInvestment loan amount l).1.store = p.store := by
  unfold noteInvestment
  simp only
  split
  · rw [dispatch_store]
  · rfl

theorem checkCreate_eq_ok {r : CreateRequest} {a : Claims × Decimal}
    (h : checkCreate caller r = .ok a) :
    Access.authorize caller .proposeLoan = .ok a.1 ∧ readPrincipal r.principal = .ok a.2 := by
  obtain ⟨c, hc, h⟩ := Result.bind_eq_ok.mp h
  obtain ⟨d, hd, h⟩ := Result.bind_eq_ok.mp h
  cases h
  exact ⟨hc, input_eq_ok hd⟩

theorem checkApprove_eq_ok {r : ApproveRequest} {a : Claims × Change}
    (h : checkApprove caller r = .ok a) :
    Access.authorize caller .approveLoan = .ok a.1 ∧ ∃ link rate roi,
      a.2 = .approval link rate roi ∧ IsPercentage rate ∧ IsPercentage roi := by
  obtain ⟨c, hc, h⟩ := Result.bind_eq_ok.mp h
  obtain ⟨_, -, h⟩ := Result.bind_eq_ok.mp h
  obtain ⟨link, -, h⟩ := Result.bind_eq_ok.mp h
  obtain ⟨rate, hrate, h⟩ := Result.bind_eq_ok.mp h
  obtain ⟨roi, hroi, h⟩ := Result.bind_eq_ok.mp h
  cases h
  exact ⟨hc, link, rate, roi, rfl, isPercentage_of_readPercentage (input_eq_ok hrate),
    isPercentage_of_readPercentage (input_eq_ok hroi)⟩

theorem checkInvest_eq_ok {r : InvestRequest} {a : Claims × Decimal}
    (h : checkInvest caller r = .ok a) :
    Access.authorize caller .investInLoan = .ok a.1 ∧ readDecimal "amount" r.amount = .ok a.2 := by
  obtain ⟨c, hc, h⟩ := Result.bind_eq_ok.mp h
  obtain ⟨_, -, h⟩ := Result.bind_eq_ok.mp h
  obtain ⟨d, hd, h⟩ := Result.bind_eq_ok.mp h
  cases h
  exact ⟨hc, input_eq_ok hd⟩

theorem checkDisburse_eq_ok {r : DisburseRequest} {a : Claims × Change}
    (h : checkDisburse caller r = .ok a) :
    Access.authorize caller .disburseLoan = .ok a.1 ∧ ∃ link, a.2 = .disbursement link := by
  obtain ⟨c, hc, h⟩ := Result.bind_eq_ok.mp h
  obtain ⟨_, -, h⟩ := Result.bind_eq_ok.mp h
  obtain ⟨link, -, h⟩ := Result.bind_eq_ok.mp h
  cases h
  exact ⟨hc, link, rfl⟩

/-- An order carries arguments that passed and the user who gave it. -/
theorem isChecked_of_check {r : LoanRequest} {o : Order} (h : r.check caller = .ok o) :
    o.IsChecked := by
  cases r with
  | create r =>
      obtain ⟨a, ha, rfl⟩ := Result.map_eq_ok.mp h
      exact isPrincipal_of_readPrincipal (checkCreate_eq_ok ha).2
  | approve r =>
      obtain ⟨⟨c, ch⟩, ha, rfl⟩ := Result.map_eq_ok.mp h
      obtain ⟨-, link, rate, roi, rfl, hrate, hroi⟩ := checkApprove_eq_ok ha
      exact ⟨hrate, hroi⟩
  | invest r =>
      obtain ⟨a, ha, rfl⟩ := Result.map_eq_ok.mp h
      exact places_of_readDecimal (checkInvest_eq_ok ha).2
  | disburse r =>
      obtain ⟨⟨c, ch⟩, ha, rfl⟩ := Result.map_eq_ok.mp h
      obtain ⟨-, link, rfl⟩ := checkDisburse_eq_ok ha
      trivial

/-- An order is given by the caller, about the loan that the call names. -/
theorem order_of_check {r : LoanRequest} {o : Order} (h : r.check caller = .ok o) :
    ∃ c, caller = some c ∧ match o with
      | .propose borrower _ => borrower = c.userId ∧ r.target? = none
      | .change loan actor _ => actor = c.userId ∧ r.target? = some loan := by
  cases r with
  | create r =>
      obtain ⟨a, ha, rfl⟩ := Result.map_eq_ok.mp h
      exact ⟨a.1, (Access.authorize_eq_ok (checkCreate_eq_ok ha).1).1, rfl, rfl⟩
  | approve r =>
      obtain ⟨a, ha, rfl⟩ := Result.map_eq_ok.mp h
      exact ⟨a.1, (Access.authorize_eq_ok (checkApprove_eq_ok ha).1).1, rfl, rfl⟩
  | invest r =>
      obtain ⟨a, ha, rfl⟩ := Result.map_eq_ok.mp h
      exact ⟨a.1, (Access.authorize_eq_ok (checkInvest_eq_ok ha).1).1, rfl, rfl⟩
  | disburse r =>
      obtain ⟨a, ha, rfl⟩ := Result.map_eq_ok.mp h
      exact ⟨a.1, (Access.authorize_eq_ok (checkDisburse_eq_ok ha).1).1, rfl, rfl⟩

/-- A refused call answers with the refusal and leaves everything as it was. -/
theorem perform_of_refused {r : LoanRequest} {f : Failure} (h : r.check caller = .error f) :
    r.perform p now caller = .failed p f := by
  cases r with
  | create r =>
      simp only [LoanRequest.perform, createLoan, Result.map_eq_error.mp h]
      rfl
  | approve r =>
      simp only [LoanRequest.perform, approveLoan, Result.map_eq_error.mp h]
      rfl
  | invest r =>
      simp only [LoanRequest.perform, investInLoan, Result.map_eq_error.mp h]
      rfl
  | disburse r =>
      simp only [LoanRequest.perform, disburseLoan, Result.map_eq_error.mp h]
      rfl

theorem investInLoan_of_checked {r : InvestRequest} {c : Claims} {amount : Decimal}
    (h : checkInvest caller r = .ok (c, amount)) :
    (p.investInLoan now caller r).platform.store =
        (p.store.change r.loan c.userId (.investment amount) now).state ∧
      (p.investInLoan now caller r).result =
        ((p.store.change r.loan c.userId (.investment amount) now).result.map
          fun l => ⟨r.loan, l.invested, l.state⟩).mapError .failure := by
  simp only [investInLoan, h, change, Outcome.andThen]
  cases (p.store.change r.loan c.userId (.investment amount) now).result with
  | error f => exact ⟨rfl, rfl⟩
  | ok l => exact ⟨noteInvestment_store _ _ _ _, rfl⟩

/-- What a call does to the store, and what it answers, is what its order does. -/
theorem perform_of_checked {r : LoanRequest} {o : Order} (h : r.check caller = .ok o) :
    (r.perform p now caller).platform.store = (o.execute p.store now).1 ∧
      (r.perform p now caller).result = (o.execute p.store now).2.mapError .failure := by
  cases r with
  | create r =>
      obtain ⟨a, ha, rfl⟩ := Result.map_eq_ok.mp h
      simp only [LoanRequest.perform, createLoan, ha]
      exact ⟨rfl, rfl⟩
  | approve r =>
      obtain ⟨⟨c, ch⟩, ha, rfl⟩ := Result.map_eq_ok.mp h
      obtain ⟨-, link, rate, roi, rfl, -, -⟩ := checkApprove_eq_ok ha
      simp only [LoanRequest.perform, approveLoan, ha, change, Order.execute]
      refine ⟨rfl, ?_⟩
      cases (p.store.change r.loan c.userId (.approval link rate roi) now).result <;> rfl
  | invest r =>
      obtain ⟨⟨c, amount⟩, ha, rfl⟩ := Result.map_eq_ok.mp h
      obtain ⟨hstore, hresult⟩ := @investInLoan_of_checked p now caller r c amount ha
      refine ⟨hstore, ?_⟩
      simp only [LoanRequest.perform, Outcome.map, hresult, Order.execute]
      cases (p.store.change r.loan c.userId (.investment amount) now).result <;> rfl
  | disburse r =>
      obtain ⟨⟨c, ch⟩, ha, rfl⟩ := Result.map_eq_ok.mp h
      obtain ⟨-, link, rfl⟩ := checkDisburse_eq_ok ha
      simp only [LoanRequest.perform, disburseLoan, ha, change, Order.execute]
      refine ⟨rfl, ?_⟩
      cases (p.store.change r.loan c.userId (.disbursement link) now).result <;> rfl

end Calls

/-! ## Account calls -/

inductive AccountRequest where
  | register (r : RegisterRequest)
  | login (r : LoginRequest)
  | refresh (r : RefreshRequest)
  | exists (r : ExistenceRequest)
  | close
deriving DecidableEq

inductive AccountReply where
  | registered (r : Registered)
  | issued (r : Pair)
  | existence (r : Existence)
  | closed (r : Closed)

def AccountRequest.perform (s : Setup) (p : Platform) (call : Call) (caller : Option Claims) :
    AccountRequest → Outcome AccountReply
  | register r => (p.register s call caller r).map .registered
  | login r => (p.login s call r).map .issued
  | refresh r => (p.refresh s call r).map .issued
  | «exists» r => (p.userExists s r).map .existence
  | close => (p.closeAccount caller).map .closed

theorem issue_store (s : Setup) (p : Platform) (now : Moment) (u : Subject) (kind : Kind)
    (extended : Bool) : (p.issue s now u kind extended).platform.store = p.store := by
  unfold issue
  split
  · rfl
  · unfold sign Outcome.ofExcept
    simp only
    split <;> rfl

theorem issuePair_store (s : Setup) (p : Platform) (now : Moment) (u : Subject)
    (remember : Bool) : (p.issuePair s now u remember).platform.store = p.store := by
  unfold issuePair Outcome.andThen
  split
  · exact issue_store s p now u .access false
  · simp only [Outcome.map, issue_store]

theorem map_platform {α β : Type} (f : α → β) (o : Outcome α) : (o.map f).platform = o.platform :=
  rfl

theorem ofExcept_platform {α : Type} (p : Platform) (r : Except Failure α) :
    (Outcome.ofExcept p r).platform = p := by
  cases r <;> rfl

theorem verify_store (s : Setup) (p : Platform) (now : Moment) (kind : Kind) (token : String) :
    (p.verify s now kind token).platform.store = p.store := by
  obtain ⟨source, -, h⟩ := verify_eq s p now kind token
  rw [h, ofExcept_platform]
  rfl

/-- Accounts have no part in the store of loans. -/
theorem account_perform_store (s : Setup) (p : Platform) (call : Call) (caller : Option Claims)
    (r : AccountRequest) : (r.perform s p call caller).platform.store = p.store := by
  cases r with
  | register r =>
      rw [AccountRequest.perform, map_platform, register]
      repeat' split
      all_goals rfl
  | login r =>
      rw [AccountRequest.perform, map_platform, login]
      cases authenticate s p.users r with
      | error f => rfl
      | ok u => rw [issuePair_store]
  | refresh r =>
      rw [AccountRequest.perform, map_platform, refresh]
      split
      · rfl
      · unfold Outcome.andThen
        split
        · rw [verify_store]
        · dsimp only
          rw [issuePair_store, verify_store]
  | «exists» r =>
      rw [AccountRequest.perform, map_platform, userExists]
      repeat' split
      all_goals rfl
  | close =>
      rw [AccountRequest.perform, map_platform, closeAccount]
      repeat' split
      all_goals rfl

/-! ## Runs -/

inductive Action where
  | loan (now : Moment) (caller : Option Claims) (r : LoanRequest)
  | account (call : Call) (caller : Option Claims) (r : AccountRequest)
  | setConflicts (n : Nat)
  | deleteLoan (now : Moment) (target deletedBy : Int)
  | runWorker

def Action.perform (s : Setup) (p : Platform) : Action → Platform
  | .loan now caller r => (r.perform p now caller).platform
  | .account call caller r => (r.perform s p call caller).platform
  | .setConflicts n => { p with store := { p.store with conflicts := n } }
  | .deleteLoan now target deletedBy =>
      { p with store := { p.store with ledger := p.store.ledger.softDelete target deletedBy now } }
  | .runWorker => p.runWorker s

def run (s : Setup) (p : Platform) (actions : List Action) : Platform :=
  actions.foldl (Action.perform s) p

theorem run_append (s : Setup) (p : Platform) (a b : List Action) :
    p.run s (a ++ b) = (p.run s a).run s b := List.foldl_append

/-- The change that an order asks for is refused and nothing is written, or all of it is. -/
theorem execute_change (s : Store) (now : Moment) (loan actor : Int) (c : Change) :
    (∃ f, (Order.execute s now (.change loan actor c)).2 = .error f ∧
      (Order.execute s now (.change loan actor c)).1.ledger = s.ledger) ∨
    ∃ l, (Order.execute s now (.change loan actor c)).2 = .ok (changeReply c loan now l) ∧
      s.ledger.transition loan actor c now =
        .ok ((Order.execute s now (.change loan actor c)).1.ledger, l) := by
  have hanswer : (Order.execute s now (.change loan actor c)).2 =
      (s.change loan actor c now).result.map (changeReply c loan now) := rfl
  have hstore : (Order.execute s now (.change loan actor c)).1 =
      (s.change loan actor c now).state := rfl
  rw [hanswer, hstore]
  rcases s.change_cases loan actor c now with
    ⟨f, hf, n, -, hstate⟩ | ⟨g, l, ht, hl, hstate⟩
  · rw [hf, hstate]
    exact .inl ⟨f, rfl, rfl⟩
  · rw [hl, hstate]
    exact .inr ⟨l, rfl, ht⟩

/-- The user who moves the loan with this call: one whose approval, investment or disbursement is
answered with success. -/
def Action.mover? (p : Platform) (id : Int) : Action → Option Int
  | .loan now caller r =>
      if r.target? = some id ∧ (r.perform p now caller).result.isOk then
        caller.map Claims.userId
      else none
  | _ => none

/-- What an action does to the ledger, and whom each loan is moved by. -/
inductive Effect (g : Ledger) : Ledger → (Int → Option Int) → Prop
  | nothing : Effect g g fun _ => none
  | propose (borrower : Int) {principal : Decimal} (now : Moment) : IsPrincipal principal →
      Effect g (g.propose borrower principal now).1 fun _ => none
  | change {g' : Ledger} {loan actor : Int} {c : Change} {now : Moment} {l : Loan} :
      c.IsChecked → g.transition loan actor c now = .ok (g', l) →
        Effect g g' fun id => if id = loan then some actor else none
  | delete (id deletedBy : Int) (now : Moment) :
      Effect g (g.softDelete id deletedBy now) fun _ => none

theorem Effect.step {g g' : Ledger} {mover : Int → Option Int} (h : Effect g g' mover) :
    g' = g ∨ g.Step g' := by
  cases h with
  | nothing => exact .inl rfl
  | propose borrower now hp => exact .inr (.propose g borrower now hp)
  | change hc ht => exact .inr (.change hc ht)
  | delete id deletedBy now => exact .inr (.delete g id deletedBy now)

theorem perform_effect_of_order {p : Platform} {now : Moment} {caller : Option Claims}
    {r : LoanRequest} {o : Order} (h : r.check caller = .ok o) :
    Effect p.store.ledger (r.perform p now caller).platform.store.ledger
      fun id => Action.mover? p id (.loan now caller r) := by
  obtain ⟨hstore, hresult⟩ := @perform_of_checked p now caller r o h
  have hchecked := isChecked_of_check h
  obtain ⟨c, hcaller, ho⟩ := order_of_check h
  simp only [Action.mover?, hresult]
  rw [hstore]
  cases o with
  | propose borrower principal =>
      obtain ⟨-, htarget⟩ := ho
      simp only [htarget, reduceCtorEq, false_and, if_false]
      exact .propose borrower now hchecked
  | change loan actor ch =>
      obtain ⟨rfl, htarget⟩ := ho
      rcases execute_change p.store now loan c.userId ch with ⟨f, hf, hledger⟩ | ⟨l, hl, ht⟩
      · rw [hledger]
        simp only [hf, Except.mapError, Except.isOk, Except.toBool, Bool.false_eq_true, and_false,
          if_false]
        exact .nothing
      · simp only [hl, htarget, hcaller, Except.mapError, Except.isOk, Except.toBool,
          Option.some.injEq, and_true, Option.map_some, eq_comm (a := loan)]
        exact .change hchecked ht

theorem perform_effect (s : Setup) (p : Platform) (a : Action) :
    Effect p.store.ledger (a.perform s p).store.ledger fun id => a.mover? p id := by
  cases a with
  | loan now caller r =>
      cases hcheck : r.check caller with
      | ok o => exact perform_effect_of_order hcheck
      | error f =>
          simp only [Action.perform, Action.mover?, perform_of_refused hcheck, Outcome.failed,
            Except.isOk, Except.toBool, Bool.false_eq_true, and_false, if_false]
          exact .nothing
  | account call caller r =>
      simp only [Action.perform, Action.mover?, account_perform_store]
      exact .nothing
  | setConflicts n => exact .nothing
  | deleteLoan now target deletedBy => exact .delete target deletedBy now
  | runWorker => exact .nothing

/-- What every step keeps of the ledger is kept by every run. -/
theorem run_induct (s : Setup) {motive : Ledger → Prop} {p : Platform}
    (h : motive p.store.ledger) (step : ∀ {g g'}, motive g → g.Step g' → motive g')
    (actions : List Action) : motive (p.run s actions).store.ledger := by
  induction actions generalizing p with
  | nil => exact h
  | cons a actions ih =>
      refine ih (p := a.perform s p) ?_
      rcases (perform_effect s p a).step with heq | hstep
      · rw [heq]; exact h
      · exact step h hstep

theorem reachable_run (s : Setup) {p : Platform} (h : p.store.ledger.Reachable)
    (actions : List Action) : (p.run s actions).store.ledger.Reachable :=
  run_induct s (motive := Ledger.Reachable) h Ledger.Reachable.step actions

/-- The ledger that a platform is left with by a run from its start. -/
def ledgerAfter (s : Setup) (capacity : Nat) (actions : List Action) : Ledger :=
  ((start capacity).run s actions).store.ledger

theorem reachable_start (s : Setup) (capacity : Nat) (actions : List Action) :
    (ledgerAfter s capacity actions).Reachable :=
  reachable_run s (p := start capacity) Relation.ReflTransGen.refl actions

/-! ## A sample run -/

/-- The time of a sample call: so many seconds into an evening of the year 2023. -/
def clock (seconds : ℕ) : Moment := ⟨1700000000 + seconds⟩

def sampleIssuers : Token.Issuers := ⟨"lending-access-test", "lending-refresh-test"⟩

/-- What a run of loan calls alone needs of its setup, which is nothing. -/
def bareSetup : Setup where
  scheme := ⟨fun _ _ => none, fun _ _ _ _ => false⟩
  hashCore := fun _ salt _ => salt
  hashCost := 4
  issuer := ⟨"key", [], sampleIssuers, 900, 3600, 604800⟩
  keys := ⟨[]⟩
  issuers := sampleIssuers
  countryCode := "62"
  sender := "lending@example.com"

def sampleUser (id : Int) (role : Role) : Claims where
  userId := id
  name := "Test"
  email := "test@example.com"
  phoneNumber := "+62811000000"
  role := role
  kind := .access
  extended := false
  issuer := sampleIssuers.access
  subject := "test@example.com"
  expiry := 4102444800

/-- User 1 proposes a loan of 1500, user 2 approves it, and user 3 invests 1000 in it. -/
def partlyFunded : List Action :=
  [.loan (clock 1) (some (sampleUser 1 .borrower)) (.create ⟨"1500"⟩),
    .loan (clock 2) (some (sampleUser 2 .fieldValidator))
      (.approve ⟨1, "http://[::1]/proof", "12", "8"⟩),
    .loan (clock 3) (some (sampleUser 3 .investor)) (.invest ⟨1, "1000"⟩)]

end Crowdlending.Platform
