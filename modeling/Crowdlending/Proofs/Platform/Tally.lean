import Crowdlending.Platform.Together
import Crowdlending.Proofs.Metrics
import Crowdlending.Proofs.Platform.Settled

/-!
# The counters of transitions

A transition that succeeds adds one row to one table of the ledger, and one to its counter; one that
fails adds no row, and one to the counter of its failures when its last try is over. Nothing else
adds rows or moves these counters. So over a run the counters have grown by what the tables have
grown, also when investments are started together and are tried in turns.
-/
namespace Crowdlending

namespace Loan

/-- The ids of the rows that a transition adds to. -/
def Ledger.rowIds (g : Ledger) : Metrics.Transition → List Int
  | .create => g.loans.map Loan.id
  | .approve => g.approvals.map Approval.id
  | .invest => g.investments.map Investment.id
  | .disburse => g.disbursements.map Disbursement.id

/-- One row, in the table of its transition. -/
def row (kind : Metrics.Transition) (id : Int) (k : Metrics.Transition) : List Int :=
  if k = kind then [id] else []

/-- How many of the rows were added by a commit. -/
def childRows (rows : Metrics.Transition → List Int) : ℕ :=
  (rows .approve).length + (rows .invest).length + (rows .disburse).length

namespace Ledger
variable (g : Ledger)

theorem rowIds_softDelete (id deletedBy : Int) (now : Moment) :
    (g.softDelete id deletedBy now).rowIds = g.rowIds := by
  funext k
  cases k with
  | create => exact ids_mapLoan g id fun _ => rfl
  | _ => rfl

theorem rowIds_propose (borrower : Int) (principal : Decimal) (now : Moment)
    (k : Metrics.Transition) :
    (g.propose borrower principal now).1.rowIds k =
      g.rowIds k ++ row .create (g.lastLoan + 1) k := by
  cases k <;> simp [propose, proposed, rowIds, row]

theorem rowIds_transition {g g' : Ledger} {loan actor : Int} {c : Change} {now : Moment} {l : Loan}
    (h : g.transition loan actor c now = .ok (g', l)) (k : Metrics.Transition) :
    g'.rowIds k = g.rowIds k ++ row c.kind (g.lastRecord + 1) k := by
  obtain ⟨l₀, next, g₁, -, -, hrecord, -, hupdate⟩ := transition_eq_ok h
  have hupdated : g'.rowIds = g₁.rowIds := by
    unfold update at hupdate
    split at hupdate
    · cases hupdate
    · split at hupdate
      · cases hupdate
      · cases hupdate
        funext k
        cases k with
        | create => exact ids_mapLoan g₁ _ fun _ => rfl
        | _ => rfl
  rw [hupdated, record_eq_ok hrecord]
  cases k <;> cases c <;>
    simp [rowIds, row, Change.kind, Change.approvals, Change.investments, Change.disbursements]

end Ledger

end Loan

namespace Platform
open Token Account Loan Notification

/-! ## What moves the counters, and what does not -/

def SameCounts (p q : Platform) : Prop :=
  ∀ k success, q.metrics.count (.transition k success) = p.metrics.count (.transition k success)

/-- What was added on the way from one platform to another: the rows of each transition, with its
successes and the commits, and the failures of each transition. -/
structure Tallied (p q : Platform) (added : Metrics.Transition → List Int)
    (failures : Metrics.Transition → ℕ) : Prop where
  rows : ∀ k, q.store.ledger.rowIds k = p.store.ledger.rowIds k ++ added k
  succeeded : ∀ k, q.metrics.count (.transition k true) =
    p.metrics.count (.transition k true) + (added k).length
  failed : ∀ k, q.metrics.count (.transition k false) =
    p.metrics.count (.transition k false) + failures k
  commits : q.store.commits = p.store.commits + childRows added

section Tallied
variable {p q r : Platform} {added added' : Metrics.Transition → List Int}
  {failures failures' : Metrics.Transition → ℕ}

theorem tallied_of_same (hrows : q.store.ledger.rowIds = p.store.ledger.rowIds)
    (hcommits : q.store.commits = p.store.commits) (hcounts : p.SameCounts q) :
    p.Tallied q (fun _ => []) fun _ => 0 where
  rows k := by rw [hrows, List.append_nil]
  succeeded k := hcounts k true
  failed k := hcounts k false
  commits := hcommits

theorem Tallied.trans (h : p.Tallied q added failures) (h' : q.Tallied r added' failures') :
    p.Tallied r (fun k => added k ++ added' k) fun k => failures k + failures' k where
  rows k := by rw [h'.rows, h.rows, List.append_assoc]
  succeeded k := by rw [h'.succeeded, h.succeeded, List.length_append, Nat.add_assoc]
  failed k := by rw [h'.failed, h.failed, Nat.add_assoc]
  commits := by
    rw [h'.commits, h.commits]
    simp only [childRows, List.length_append]
    omega

/-- What neither adds rows nor counts transitions may come after. -/
theorem Tallied.of_same (h : p.Tallied q added failures) (hstore : r.store = q.store)
    (hcounts : q.SameCounts r) : p.Tallied r added failures where
  rows k := by rw [hstore, h.rows]
  succeeded k := (hcounts k true).trans (h.succeeded k)
  failed k := (hcounts k false).trans (h.failed k)
  commits := by rw [hstore, h.commits]

end Tallied

section Same
variable (s : Setup) (p : Platform)

theorem SameCounts.refl : p.SameCounts p := fun _ _ => rfl

theorem SameCounts.trans {p q r : Platform} (h : p.SameCounts q) (h' : q.SameCounts r) :
    p.SameCounts r := fun k success => (h' k success).trans (h k success)

theorem sameCounts_count {c : Metrics.Counter} (hc : ∀ k success, c ≠ .transition k success) :
    p.SameCounts (p.count c) := by
  intro k success
  rw [count, Metrics.count_add, if_neg (hc k success), Nat.add_zero]

theorem sameCounts_dispatch (loan : Int) : p.SameCounts (p.dispatch loan) := by
  unfold dispatch
  simp only
  split
  · exact .refl p
  · exact sameCounts_count _ (by simp)

theorem sameCounts_note (o : Order) (answer : Except Failure LoanReply) :
    p.SameCounts (p.note o answer) := by
  unfold note
  split
  · simp only
    split
    · exact sameCounts_dispatch _ _
    · exact .refl p
  · exact .refl p

theorem sameCounts_noteInvestment (loan : Int) (amount : Decimal) (l : Loan) :
    p.SameCounts (p.noteInvestment loan amount l).1 := by
  unfold noteInvestment
  simp only
  split
  · exact sameCounts_dispatch _ _
  · exact .refl p

theorem count_foldl_deliver (sender : String) (users : List User) (d : Delivery)
    (k : Metrics.Transition) (success : Bool) :
    (users.foldl (deliver sender) d).metrics.count (.transition k success) =
      d.metrics.count (.transition k success) := by
  induction users generalizing d with
  | nil => rfl
  | cons u users ih =>
      rw [List.foldl_cons, ih]
      simp [deliver]

theorem count_handleAll (g : Ledger) (users : Directory) (sender : String) (events : List Int)
    (o : Mail.Outbox) (m : Metrics) (k : Metrics.Transition) (success : Bool) :
    (handleAll g users sender events o m).2.count (.transition k success) =
      m.count (.transition k success) := by
  induction events generalizing o m with
  | nil => rfl
  | cons e events ih =>
      simp only [handleAll, ih]
      exact count_foldl_deliver sender _ ⟨o, m, 0⟩ k success

/-- The worker counts mails. -/
theorem sameCounts_runWorker : p.SameCounts (p.runWorker s) := fun k success =>
  count_handleAll p.store.ledger p.users s.sender p.queue.events p.outbox p.metrics k success

theorem SameCounts.andThen {α β : Type} {p : Platform} {o : Outcome α}
    {f : Platform → α → Outcome β} (h : p.SameCounts o.platform)
    (hf : ∀ (q : Platform) (a : α), q.SameCounts (f q a).platform) :
    p.SameCounts (o.andThen f).platform := by
  unfold Outcome.andThen
  split
  · exact h
  · exact h.trans (hf _ _)

theorem sameCounts_verify (now : Moment) (kind : Kind) (token : String) :
    p.SameCounts (p.verify s now kind token).platform := by
  obtain ⟨source, -, h⟩ := verify_eq s p now kind token
  rw [h, ofExcept_platform]
  exact sameCounts_count { p with source } (by simp)

theorem sameCounts_issue (now : Moment) (u : Subject) (kind : Kind) (extended : Bool) :
    p.SameCounts (p.issue s now u kind extended).platform := by
  unfold issue
  split
  · exact .refl p
  · rw [sign, ofExcept_platform]
    exact sameCounts_count p (by simp)

theorem sameCounts_issuePair (now : Moment) (u : Subject) (remember : Bool) :
    p.SameCounts (p.issuePair s now u remember).platform :=
  (sameCounts_issue s p now u .access false).andThen
    fun q _ => sameCounts_issue s q now u .refresh remember

/-- Account calls count tokens. -/
theorem sameCounts_account (call : Call) (caller : Option Claims) (r : AccountRequest) :
    p.SameCounts (r.perform s p call caller).platform := by
  cases r with
  | register r =>
      rw [AccountRequest.perform, map_platform]
      rcases register_cases s p call caller r with hsame | ⟨a, hash, users, u, -, -, hdone⟩
      · rw [hsame]
        exact .refl p
      · rw [hdone]
        exact .refl p
  | login r =>
      rw [AccountRequest.perform, map_platform, login]
      split
      · exact .refl p
      · exact sameCounts_issuePair s p _ _ _
  | refresh r =>
      rw [AccountRequest.perform, map_platform, refresh]
      split
      · exact .refl p
      · exact (sameCounts_verify s p _ _ _).andThen fun q _ => sameCounts_issuePair s q _ _ _
  | «exists» r =>
      have hsame : (p.userExists s r).platform = p := by
        unfold userExists
        simp only
        split_ifs
        · rfl
        · rfl
        · split <;> rfl
      rw [AccountRequest.perform, map_platform, hsame]
      exact .refl p
  | close =>
      rw [AccountRequest.perform, map_platform]
      rcases closeAccount_cases p caller with ⟨f, hfailed⟩ | ⟨c, users, u, -, -, hdone⟩
      · rw [hfailed]
        exact .refl p
      · rw [hdone]
        exact .refl p

end Same

/-! ## One transition -/

/-- A transition that ends without a result is one failure. -/
def failure {ε α : Type} (kind : Metrics.Transition) (result : Except ε α)
    (k : Metrics.Transition) : ℕ :=
  if k = kind ∧ result.isOk = false then 1 else 0

@[simp] theorem failure_ok {ε α : Type} (kind : Metrics.Transition) (a : α) :
    failure kind (.ok a : Except ε α) = fun _ => 0 := by
  funext k
  simp [failure, Except.isOk, Except.toBool]

@[simp] theorem failure_error {ε α : Type} (kind : Metrics.Transition) (e : ε) :
    failure kind (.error e : Except ε α) = fun k => if k = kind then 1 else 0 := by
  funext k
  simp [failure, Except.isOk, Except.toBool]

section Transition
variable (p : Platform)

/-- A transition that failed: no row was added. -/
theorem tallied_failed (store : Store) (hledger : store.ledger = p.store.ledger)
    (hcommits : store.commits = p.store.commits) (kind : Metrics.Transition) :
    p.Tallied ({ p with store }.count (.transition kind false)) (fun _ => [])
      fun k => if k = kind then 1 else 0 where
  rows k := by
    rw [List.append_nil]
    exact congrArg (fun g => g.rowIds k) hledger
  succeeded k := by simp [count]
  failed k := by simp [count, eq_comm]
  commits := hcommits

/-- A transition that succeeded: it added one row. -/
theorem tallied_succeeded (store : Store) (kind : Metrics.Transition) (id : Int)
    (hrows : ∀ k, store.ledger.rowIds k = p.store.ledger.rowIds k ++ row kind id k)
    (hcommits : store.commits = p.store.commits + childRows (row kind id)) :
    p.Tallied ({ p with store }.count (.transition kind true)) (row kind id) (fun _ => 0) where
  rows := hrows
  succeeded k := by
    simp only [count, Metrics.count_add, Metrics.Counter.transition.injEq, and_true, row]
    by_cases hk : kind = k
    · simp [hk]
    · simp [hk, Ne.symm hk]
  failed k := by simp [count]
  commits := hcommits

theorem childRows_change (c : Change) (id : Int) : childRows (row c.kind id) = 1 := by
  cases c <;> rfl

theorem tallied_settle (o : Order) (now : Moment) :
    ∃ added, p.Tallied (p.settle o (o.execute p.store now).1 (o.execute p.store now).2) added
      (failure o.kind (o.execute p.store now).2) := by
  suffices h : ∃ added, p.Tallied ({ p with store := (o.execute p.store now).1 }.count
      (.transition o.kind (o.execute p.store now).2.isOk)) added
      (failure o.kind (o.execute p.store now).2) by
    obtain ⟨added, h⟩ := h
    exact ⟨added, h.of_same (note_store _ _) (sameCounts_note _ _ _)⟩
  cases o with
  | propose borrower principal =>
      refine ⟨row .create (p.store.ledger.lastLoan + 1), ?_⟩
      simp only [Order.execute, failure_ok]
      exact tallied_succeeded p _ _ _
        (p.store.ledger.rowIds_propose borrower principal now) rfl
  | change loan actor c =>
      have hkind : (Order.change loan actor c).kind = c.kind := rfl
      simp only [Order.execute, hkind]
      rcases p.store.change_cases loan actor c now with
        ⟨f, hf, n, -, hstate⟩ | ⟨g, l, ht, hl, hstate⟩
      · rw [hf, hstate]
        simp only [Except.map, failure_error]
        exact ⟨_, tallied_failed p { p.store with conflicts := n } rfl rfl c.kind⟩
      · rw [hl, hstate]
        simp only [Except.map, failure_ok]
        refine ⟨_, tallied_succeeded p _ c.kind _ (Ledger.rowIds_transition ht) ?_⟩
        rw [childRows_change]

end Transition

/-! ## Investments started together -/

/-- So many failures, all of investments. -/
def investFailures (n : ℕ) (k : Metrics.Transition) : ℕ := if k = .invest then n else 0

theorem investFailures_zero : investFailures 0 = fun _ => 0 := by
  funext k
  simp [investFailures]

theorem investFailures_add (m n : ℕ) (k : Metrics.Transition) :
    investFailures m k + investFailures n k = investFailures (m + n) k := by
  unfold investFailures
  split <;> rfl

/-- No investment was made, and none failed. -/
theorem tallied_idle {p q : Platform} (hledger : q.store.ledger = p.store.ledger)
    (hcommits : q.store.commits = p.store.commits) (hmetrics : q.metrics = p.metrics) :
    p.Tallied q (fun _ => []) (investFailures 0) := by
  rw [investFailures_zero]
  refine tallied_of_same (by rw [hledger]) hcommits fun k success => ?_
  rw [hmetrics]

namespace Pending

def failed : Pending → ℕ
  | settled (.error _) => 1
  | _ => 0

/-- What is settled stays as it is. -/
def Keeps (a b : Pending) : Prop := a.isWaiting = false → b = a

def Ends (a : Pending) (result : Except Failure Invested) : Prop :=
  a.isWaiting = false → result = a.result

theorem Keeps.ends {a b : Pending} {result : Except Failure Invested} (h : a.Keeps b)
    (h' : b.Ends result) : a.Ends result := by
  intro ha
  have hb := h ha
  subst hb
  exact h' ha

theorem keeps_attempt (now : Moment) (last : Bool) (p : Platform) (a : Pending) :
    a.Keeps (a.attempt now last p).2 := by
  intro ha
  cases a with
  | settled result => rfl
  | waiting actor loan amount => cases ha

end Pending

def failedOf (items : List Pending) : ℕ := (items.map Pending.failed).sum

def errorsOf (results : List (Except Failure Invested)) : ℕ := results.countP fun r => !r.isOk

/-- A failed try counts once it is the last one of its call. -/
theorem tallied_attempt (now : Moment) (last : Bool) (p : Platform) (a : Pending) :
    ∃ added n, p.Tallied (a.attempt now last p).1 added (investFailures n) ∧
      (a.attempt now last p).2.failed = a.failed + n ∧
      (last = true → (a.attempt now last p).2.isWaiting = false) := by
  cases a with
  | settled result => exact ⟨_, 0, tallied_idle rfl rfl rfl, rfl, fun _ => rfl⟩
  | waiting actor loan amount =>
      cases ht : p.store.ledger.transition loan actor (.investment amount) now with
      | error f =>
          simp only [Pending.attempt, Store.attempt_of_error ht]
          split
          · next h => cases h
          · next h =>
              cases h
              exact absurd ht (Ledger.transition_ne_conflict _ _ _ _ _)
          · exact ⟨_, 1, tallied_failed p p.store rfl rfl .invest, rfl, fun _ => rfl⟩
      | ok r =>
          obtain ⟨g, l⟩ := r
          cases hn : p.store.conflicts with
          | zero =>
              simp only [Pending.attempt, Store.attempt_of_ok ht hn]
              refine ⟨row .invest (p.store.ledger.lastRecord + 1), 0, ?_, rfl, fun _ => rfl⟩
              rw [investFailures_zero]
              have hrow := tallied_succeeded p
                { p.store with ledger := g, commits := p.store.commits + 1 } .invest _
                (Ledger.rowIds_transition ht) rfl
              exact hrow.of_same (noteInvestment_store _ _ _ _) (sameCounts_noteInvestment _ _ _ _)
          | succ n =>
              simp only [Pending.attempt, Store.attempt_of_conflict ht hn]
              cases last with
              | true =>
                  have htally := tallied_failed p { p.store with conflicts := n } rfl rfl .invest
                  exact ⟨_, 1, htally, rfl, fun _ => rfl⟩
              | false =>
                  exact ⟨_, 0, tallied_idle rfl rfl rfl, rfl, fun h => absurd h Bool.false_ne_true⟩

theorem tallied_attemptEach (now : Moment) (last : Bool) (p : Platform) (items : List Pending) :
    ∃ added n, p.Tallied (attemptEach now last p items).1 added (investFailures n) ∧
      failedOf (attemptEach now last p items).2 = failedOf items + n ∧
      (last = true → ∀ b ∈ (attemptEach now last p items).2, b.isWaiting = false) ∧
      items.Forall₂ Pending.Keeps (attemptEach now last p items).2 := by
  induction items generalizing p with
  | nil =>
      exact ⟨_, 0, tallied_idle rfl rfl rfl, rfl, fun _ _ hb => absurd hb List.not_mem_nil, .nil⟩
  | cons a items ih =>
      obtain ⟨added, n, htally, hfailed, hlast⟩ := tallied_attempt now last p a
      obtain ⟨added', n', htally', hfailed', hlast', hkeeps⟩ := ih (a.attempt now last p).1
      refine ⟨fun k => added k ++ added' k, n + n', ?_, ?_, ?_,
        .cons (a.keeps_attempt now last p) hkeeps⟩
      · have hboth := htally.trans htally'
        simp only [investFailures_add] at hboth
        exact hboth
      · simp only [failedOf, attemptEach, List.map_cons, List.sum_cons] at hfailed' ⊢
        omega
      · intro h b hb
        rcases List.mem_cons.mp hb with rfl | hb
        · exact hlast h
        · exact hlast' h b hb

/-- With nothing left to wait for, the results are those of the items. -/
theorem ends_results {items : List Pending} (h : ∀ a ∈ items, a.isWaiting = false) :
    items.Forall₂ Pending.Ends (items.map Pending.result) ∧
      errorsOf (items.map Pending.result) = failedOf items := by
  induction items with
  | nil => exact ⟨.nil, rfl⟩
  | cons a items ih =>
      obtain ⟨hends, herrors⟩ := ih fun b hb => h b (List.mem_cons_of_mem a hb)
      refine ⟨.cons (fun _ => rfl) hends, ?_⟩
      rw [errorsOf] at herrors
      simp only [errorsOf, failedOf, List.map_cons, List.countP_cons, List.sum_cons, herrors]
      have ha := h a List.mem_cons_self
      cases a with
      | waiting actor loan amount => cases ha
      | settled result =>
          cases result <;>
            simp [Pending.result, Pending.failed, Except.isOk, Except.toBool, Nat.add_comm]

theorem ends_of_keeps {items items' : List Pending} {results : List (Except Failure Invested)}
    (h : items.Forall₂ Pending.Keeps items') (h' : items'.Forall₂ Pending.Ends results) :
    items.Forall₂ Pending.Ends results := by
  induction h generalizing results with
  | nil =>
      cases h'
      exact .nil
  | cons hkeeps _ ih =>
      cases h' with
      | cons hends h' => exact .cons (hkeeps.ends hends) (ih h')

theorem tallied_rounds (now : Moment) (left pause waited : ℕ) (p : Platform)
    (items : List Pending) :
    ∃ results added n, (investRounds now left pause waited p items).result = .ok results ∧
      p.Tallied (investRounds now left pause waited p items).platform added (investFailures n) ∧
      errorsOf results = failedOf items + n ∧ items.Forall₂ Pending.Ends results := by
  induction left generalizing pause waited p items with
  | zero =>
      obtain ⟨added, n, htally, hfailed, hlast, hkeeps⟩ := tallied_attemptEach now true p items
      obtain ⟨hends, herrors⟩ := ends_results (hlast rfl)
      exact ⟨_, added, n, rfl, htally, herrors.trans hfailed, ends_of_keeps hkeeps hends⟩
  | succ left ih =>
      obtain ⟨added, n, htally, hfailed, -, hkeeps⟩ := tallied_attemptEach now false p items
      simp only [investRounds]
      split
      · obtain ⟨results, added', n', hresult, htally', herrors, hends⟩ :=
          ih (2 * pause) (waited + pause) (attemptEach now false p items).1
            (attemptEach now false p items).2
        refine ⟨results, fun k => added k ++ added' k, n + n', hresult, ?_, by omega,
          ends_of_keeps hkeeps hends⟩
        have hboth := htally.trans htally'
        simp only [investFailures_add] at hboth
        exact hboth
      · next hsettled =>
          have hall : ∀ b ∈ (attemptEach now false p items).2, b.isWaiting = false := by
            simpa using hsettled
          obtain ⟨hends, herrors⟩ := ends_results hall
          exact ⟨_, added, n, rfl, htally, herrors.trans hfailed, ends_of_keeps hkeeps hends⟩

/-- An investment that passed its checks and then failed. -/
def isFailedCall (x : (Option Claims × InvestRequest) × Except Failure Invested) : Bool :=
  (checkInvest x.1.1 x.1.2).isOk && !x.2.isOk

/-- A call without success was refused by the checks, or it is a failure. -/
theorem failed_start {i : Option Claims × InvestRequest} {result : Except Failure Invested}
    (h : (Pending.start i.1 i.2).Ends result) :
    (if !result.isOk then 1 else 0) =
      (Pending.start i.1 i.2).failed + if isFailedCall (i, result) then 1 else 0 := by
  cases hcheck : checkInvest i.1 i.2 with
  | error f =>
      have hstart : Pending.start i.1 i.2 = .settled (.error f) := by
        simp only [Pending.start, hcheck]
      rw [hstart] at h ⊢
      have hresult : result = .error f := h rfl
      simp [hresult, hcheck, isFailedCall, Pending.failed, Except.isOk, Except.toBool]
  | ok a =>
      have hstart : Pending.start i.1 i.2 = .waiting a.1.userId i.2.loan a.2 := by
        simp only [Pending.start, hcheck]
      rw [hstart]
      simp [hcheck, isFailedCall, Pending.failed, Except.isOk, Except.toBool]

theorem errorsOf_eq {items : List (Option Claims × InvestRequest)}
    {results : List (Except Failure Invested)}
    (h : (items.map fun i => Pending.start i.1 i.2).Forall₂ Pending.Ends results) :
    errorsOf results = failedOf (items.map fun i => Pending.start i.1 i.2) +
      (items.zip results).countP isFailedCall := by
  induction items generalizing results with
  | nil =>
      cases h
      rfl
  | cons i items ih =>
      cases h with
      | cons hends h =>
          have hhead := failed_start hends
          have hrest := ih h
          simp only [errorsOf, failedOf, List.map_cons, List.sum_cons, List.countP_cons,
            List.zip_cons_cons] at hrest ⊢
          omega

/-- One call after the other, and investments that are started together. -/
inductive Move where
  | one (a : Action)
  | together (now : Moment) (items : List (Option Claims × InvestRequest))

namespace Move

def perform (s : Setup) (p : Platform) : Move → Platform
  | one a => a.perform s p
  | together now items => (p.investTogether now items).platform

/-- The calls of a transition that passed authorisation and the checks of their arguments, and then
failed. -/
def failures (p : Platform) (k : Metrics.Transition) : Move → ℕ
  | one (.loan now caller r) => match r.check caller with
    | .ok o => failure o.kind (r.perform p now caller).result k
    | .error _ => 0
  | one _ => 0
  | together now items => match (p.investTogether now items).result with
    | .ok results => investFailures ((items.zip results).countP isFailedCall) k
    | .error _ => 0

end Move

def proceed (s : Setup) (p : Platform) (moves : List Move) : Platform :=
  moves.foldl (Move.perform s) p

def failures (s : Setup) (k : Metrics.Transition) : Platform → List Move → ℕ
  | _, [] => 0
  | p, m :: moves => m.failures p k + failures s k (m.perform s p) moves

section Move
variable (s : Setup) (p : Platform)

theorem tallied_action (a : Action) :
    ∃ added, p.Tallied (a.perform s p) added fun k => (Move.one a).failures p k := by
  cases a with
  | loan now caller r =>
      cases hcheck : r.check caller with
      | error f =>
          refine ⟨fun _ => [], ?_⟩
          simp only [Move.failures, hcheck, Action.perform, perform_of_refused hcheck]
          exact tallied_of_same rfl rfl (.refl p)
      | ok o =>
          obtain ⟨-, hresult⟩ := @perform_of_checked p now caller r o hcheck
          have hfailure : failure o.kind (r.perform p now caller).result =
              failure o.kind (o.execute p.store now).2 := by
            rw [hresult]
            cases (o.execute p.store now).2 <;> simp [Except.mapError]
          simp only [Move.failures, hcheck, Action.perform, settle_of_checked hcheck, hfailure]
          exact tallied_settle p o now
  | account call caller r =>
      refine ⟨_, tallied_of_same ?_ ?_ (sameCounts_account s p call caller r)⟩
      · rw [Action.perform, account_perform_store]
      · rw [Action.perform, account_perform_store]
  | setConflicts n => exact ⟨_, tallied_of_same rfl rfl (.refl p)⟩
  | deleteLoan now target deletedBy =>
      exact ⟨_, tallied_of_same (Ledger.rowIds_softDelete _ target deletedBy now) rfl (.refl p)⟩
  | runWorker => exact ⟨_, tallied_of_same rfl rfl (sameCounts_runWorker s p)⟩

theorem tallied_together (now : Moment) (items : List (Option Claims × InvestRequest)) :
    ∃ added, p.Tallied (p.investTogether now items).platform added
      fun k => (Move.together now items).failures p k := by
  obtain ⟨results, added, n, hresult, htally, herrors, hends⟩ :=
    tallied_rounds now (mostAttempts - 1) firstPause 0 p (items.map fun i => .start i.1 i.2)
  have hn : n = (items.zip results).countP isFailedCall := by
    have heq := errorsOf_eq hends
    omega
  refine ⟨added, ?_⟩
  rw [hn] at htally
  have hresult : (p.investTogether now items).result = .ok results := hresult
  simp only [Move.failures, hresult]
  exact htally

/-- Over any run the tables of the ledger, the counters of the transitions and the number of commits
have grown alike: a success for each row that was added, a commit for each that is not a loan, and a
failure for each call that passed authorisation and the checks of its arguments and then failed. -/
theorem transitions_tallied (moves : List Move) :
    ∃ added, p.Tallied (p.proceed s moves) added fun k => failures s k p moves := by
  induction moves generalizing p with
  | nil => exact ⟨_, tallied_of_same rfl rfl (.refl p)⟩
  | cons m moves ih =>
      have hone : ∃ added, p.Tallied (m.perform s p) added fun k => m.failures p k := by
        cases m with
        | one a => exact tallied_action s p a
        | together now items => exact tallied_together p now items
      obtain ⟨added, h⟩ := hone
      obtain ⟨added', h'⟩ := ih (m.perform s p)
      exact ⟨_, h.trans h'⟩

end Move

/-- Two investments that cannot both be made, and one whose amount is no number. The former two meet
conflicts again and again, and in the end the second comes first. -/
def contested : List Move :=
  [.one (.loan (clock 1) (some (sampleUser 1 .borrower)) (.create ⟨"1500"⟩)),
    .one (.loan (clock 2) (some (sampleUser 2 .fieldValidator))
      (.approve ⟨1, "http://[::1]/proof", "12", "8"⟩)),
    .one (.setConflicts 7),
    .together (clock 3)
      [(some (sampleUser 3 .investor), ⟨1, "1000"⟩), (some (sampleUser 4 .investor), ⟨1, "1000"⟩),
        (some (sampleUser 5 .investor), ⟨1, "many"⟩)]]

theorem transitions_tallied_of_contested :
    let q := (start 4).proceed bareSetup contested
    (∃ added, (start 4).Tallied q added fun k => failures bareSetup k (start 4) contested) ∧
      q.store.ledger.rowIds .invest = [2] ∧ failures bareSetup .invest (start 4) contested = 1 ∧
      q.metrics.count (.transition .invest true) = 1 ∧
      q.metrics.count (.transition .invest false) = 1 ∧ q.store.commits = 2 := by
  refine ⟨transitions_tallied bareSetup (start 4) contested, ?_, ?_, ?_, ?_, ?_⟩ <;>
    decide +kernel

end Platform

end Crowdlending
