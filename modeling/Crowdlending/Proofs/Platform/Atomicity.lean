import Crowdlending.Proofs.Platform.Interleaving

/-!
# Calls that fail leave no trace

A call that ends in an error, and a registration that is answered with reasons
against it, leave the ledger with its counters, the commits, the users, the queue and
the mails as they were. What may change is how many conflicts still wait, for a try
uses one up, and the metrics, which count calls and tokens but no amounts. A loan
call leaves the guard of the ledger free wherever it fails: at its check, in the
middle of a try, at the commit or after its last try.

Where a call can fail is told by two inversions. A change is refused or committed, and
only a registration and a closing write the directory, each in one place.
-/
namespace Crowdlending.Platform
open Token Account Loan

inductive ServiceCall where
  | loan (r : LoanRequest)
  | account (r : AccountRequest)

inductive ServiceReply where
  | loan (r : LoanReply)
  | account (r : AccountReply)

def ServiceCall.perform (s : Setup) (p : Platform) (call : Call) (caller : Option Claims) :
    ServiceCall → Outcome ServiceReply
  | loan r => (r.perform p call.now caller).map .loan
  | account r => (r.perform s p call caller).map .account

/-- The call has no result, or it registered nobody. -/
def Failed (result : Except Abort ServiceReply) : Prop :=
  (∃ e, result = .error e) ∨
    ∃ reasons, result = .ok (.account (.registered ⟨false, reasons⟩))

/-- All that a platform holds is as before, but for conflicts used up, for what is counted and for
keys that were fetched. -/
structure Kept (p p' : Platform) : Prop where
  ledger : p'.store.ledger = p.store.ledger
  commits : p'.store.commits = p.store.commits
  available : p'.store.available = p.store.available
  conflicts : p'.store.conflicts ≤ p.store.conflicts
  users : p'.users = p.users
  queue : p'.queue = p.queue
  outbox : p'.outbox = p.outbox
  ready : p'.ready = p.ready
  amounts : p'.metrics.amounts = p.metrics.amounts
  source : p.source = .published → p'.source = .published

section Kept
variable {p p' p'' : Platform}

theorem Kept.refl (p : Platform) : p.Kept p :=
  ⟨rfl, rfl, rfl, le_rfl, rfl, rfl, rfl, rfl, rfl, id⟩

theorem Kept.trans (h : p.Kept p') (h' : p'.Kept p'') : p.Kept p'' where
  ledger := h'.ledger.trans h.ledger
  commits := h'.commits.trans h.commits
  available := h'.available.trans h.available
  conflicts := h'.conflicts.trans h.conflicts
  users := h'.users.trans h.users
  queue := h'.queue.trans h.queue
  outbox := h'.outbox.trans h.outbox
  ready := h'.ready.trans h.ready
  amounts := h'.amounts.trans h.amounts
  source := h'.source ∘ h.source

theorem kept_count (p : Platform) (c : Metrics.Counter) : p.Kept (p.count c) :=
  ⟨rfl, rfl, rfl, le_rfl, rfl, rfl, rfl, rfl, rfl, id⟩

theorem Kept.andThen {α β : Type} {o : Outcome α} {f : Platform → α → Outcome β}
    (h : p.Kept o.platform) (hf : ∀ (q : Platform) (a : α), q.Kept (f q a).platform) :
    p.Kept (o.andThen f).platform := by
  unfold Outcome.andThen
  split
  · exact h
  · exact h.trans (hf _ _)

end Kept

/-! ## Account calls -/

section Accounts
variable (s : Setup) (p : Platform) (call : Call) (caller : Option Claims)

theorem kept_verify (now : Moment) (kind : Kind) (token : String) :
    p.Kept (p.verify s now kind token).platform := by
  obtain ⟨source, hpublished, h⟩ := verify_eq s p now kind token
  rw [h, ofExcept_platform]
  exact ⟨rfl, rfl, rfl, le_rfl, rfl, rfl, rfl, rfl, rfl, hpublished⟩

theorem verify_of_result {s : Setup} {p : Platform} {now : Moment} {kind : Kind} {token : String}
    {c : Claims} (h : (p.verify s now kind token).result = .ok c) :
    Token.verify s.scheme (p.findKey s now) s.issuers now.seconds kind token = .ok c := by
  obtain ⟨source, -, heq⟩ := verify_eq s p now kind token
  simp only [heq, Outcome.ofExcept] at h
  split at h
  · next hc => cases h; exact hc
  · cases h

theorem kept_issue (now : Moment) (u : Subject) (kind : Kind) (extended : Bool) :
    p.Kept (p.issue s now u kind extended).platform := by
  unfold issue
  split
  · exact .refl p
  · rw [sign, ofExcept_platform]
    exact p.kept_count _

theorem kept_issuePair (now : Moment) (u : Subject) (remember : Bool) :
    p.Kept (p.issuePair s now u remember).platform :=
  (kept_issue s p now u .access false).andThen fun q _ => kept_issue s q now u .refresh remember

theorem kept_login (r : LoginRequest) : p.Kept (p.login s call r).platform := by
  unfold login
  split
  · exact .refl p
  · exact kept_issuePair s p _ _ _

theorem kept_refresh (r : RefreshRequest) : p.Kept (p.refresh s call r).platform := by
  unfold refresh
  simp only
  split
  · exact .refl p
  · exact (kept_verify s p _ _ _).andThen fun q _ => kept_issuePair s q _ _ _

theorem kept_userExists (r : ExistenceRequest) : p.Kept (p.userExists s r).platform := by
  unfold userExists
  simp only
  split_ifs
  · exact .refl p
  · exact .refl p
  · split <;> exact .refl p

/-- A registration that succeeds enters the applicant who passed the checks; any other one leaves
the platform as it was. -/
theorem register_cases (r : RegisterRequest) :
    (p.register s call caller r).platform = p ∨
    ∃ a hash users u, checkRegister s.countryCode caller r = .ok a ∧
      p.users.create ⟨a.name, a.email, a.phone, hash, a.role, caller.map Claims.userId⟩ =
        .ok (users, u) ∧
      p.register s call caller r = .done { p with users } ⟨true, []⟩ := by
  unfold register
  split
  · exact .inl rfl
  · next a ha =>
      split
      · exact .inl rfl
      · split
        · exact .inl rfl
        · next hash _ =>
            split
            · exact .inl rfl
            · next users u hu => exact .inr ⟨a, hash, users, u, ha, hu, rfl⟩
      · exact .inl rfl

/-- An account is closed by its own user, or nothing happens. -/
theorem closeAccount_cases :
    (∃ f, p.closeAccount caller = .failed p f) ∨
    ∃ c users u, Access.authorize caller .closeAccount = .ok c ∧
      p.users.close c.userId c.userId = .ok (users, u) ∧
      p.closeAccount caller = .done { p with users } ⟨u.id, u.status⟩ := by
  unfold closeAccount
  split
  · next f _ => exact .inl ⟨f, rfl⟩
  · next c hc =>
      split
      · next f _ => exact .inl ⟨f, rfl⟩
      · next users u hu => exact .inr ⟨c, users, u, hc, hu, rfl⟩

theorem kept_of_account_failed (r : AccountRequest)
    (h : Failed ((ServiceCall.account r).perform s p call caller).result) :
    p.Kept (r.perform s p call caller).platform := by
  cases r with
  | register r =>
      rcases register_cases s p call caller r with hsame | ⟨a, hash, users, u, -, -, hdone⟩
      · rw [AccountRequest.perform, map_platform, hsame]
        exact .refl p
      · simp [Failed, ServiceCall.perform, AccountRequest.perform, hdone, Outcome.map,
          Outcome.done, Except.map] at h
  | login r =>
      rw [AccountRequest.perform, map_platform]
      exact kept_login s p call r
  | refresh r =>
      rw [AccountRequest.perform, map_platform]
      exact kept_refresh s p call r
  | «exists» r =>
      rw [AccountRequest.perform, map_platform]
      exact kept_userExists s p r
  | close =>
      rcases closeAccount_cases p caller with ⟨f, hfailed⟩ | ⟨c, users, u, -, -, hdone⟩
      · rw [AccountRequest.perform, map_platform, hfailed]
        exact .refl p
      · simp [Failed, ServiceCall.perform, AccountRequest.perform, hdone, Outcome.map,
          Outcome.done, Except.map] at h

end Accounts

/-! ## Loan calls -/

section Loans
variable {p : Platform} {now : Moment} {caller : Option Claims}

theorem kept_of_change_error {kind : Metrics.Transition} {loan actor : Int} {c : Change}
    {e : Abort} (h : (p.change now kind loan actor c).result = .error e) :
    p.Kept (p.change now kind loan actor c).platform := by
  rcases p.store.change_cases loan actor c now with ⟨f, -, n, hn, hstate⟩ | ⟨g, l, -, hl, -⟩
  · simp only [change, hstate]
    exact ⟨rfl, rfl, rfl, hn, rfl, rfl, rfl, rfl, rfl, id⟩
  · simp only [change, hl, Except.mapError] at h
    cases h

theorem kept_of_loan_error {r : LoanRequest} {e : Abort}
    (h : (r.perform p now caller).result = .error e) :
    p.Kept (r.perform p now caller).platform := by
  cases hcheck : r.check caller with
  | error f =>
      rw [perform_of_refused hcheck]
      exact .refl p
  | ok o =>
      cases r with
      | create r =>
          obtain ⟨a, ha, -⟩ := Result.map_eq_ok.mp hcheck
          simp only [LoanRequest.perform, createLoan, ha] at h
          cases h
      | approve r =>
          obtain ⟨a, ha, -⟩ := Result.map_eq_ok.mp hcheck
          simp only [LoanRequest.perform, approveLoan, ha] at h ⊢
          exact kept_of_change_error (Result.map_eq_error.mp (Result.map_eq_error.mp h))
      | invest r =>
          obtain ⟨a, ha, -⟩ := Result.map_eq_ok.mp hcheck
          simp only [LoanRequest.perform, investInLoan, ha, Outcome.map, Outcome.andThen] at h ⊢
          split at h
          · next he' => exact kept_of_change_error he'
          · cases h
      | disburse r =>
          obtain ⟨a, ha, -⟩ := Result.map_eq_ok.mp hcheck
          simp only [LoanRequest.perform, disburseLoan, ha] at h ⊢
          exact kept_of_change_error (Result.map_eq_error.mp (Result.map_eq_error.mp h))

end Loans

end Crowdlending.Platform

namespace Crowdlending.Interleaving
open Token Loan Platform

variable {ι : Type} [DecidableEq ι] (calls : Calls ι) {w : World ι} {i : ι} (now : Moment)

theorem run_of_returned {answer : Answer} (h : w.phase i = .returned answer) (n : ℕ) :
    w.run calls (List.replicate n (.task i now)) = w := by
  induction n with
  | zero => rfl
  | succ n ih =>
      rw [List.replicate_succ', World.run_append, ih]
      exact World.advance_returned h

/-- Whenever a task that runs alone has returned, it has dropped the guard and left what the
operation leaves. -/
theorem released_of_returned (hcalled : w.phase i = .called) (hfree : w.guard = none)
    {p : Platform} (hp : p.store = w.store) {n : ℕ}
    (h : ((w.run calls (List.replicate n (.task i now))).phase i).isReturned = true) :
    (w.run calls (List.replicate n (.task i now))).guard = none ∧
      (w.run calls (List.replicate n (.task i now))).store =
        ((calls i).2.perform p now (calls i).1).platform.store := by
  obtain ⟨m, answer, hphase, hguard, hstore, -⟩ :=
    @alone_performs ι _ calls w i now hcalled hfree p hp
  obtain ⟨answer', hphase'⟩ :
      ∃ answer', (w.run calls (List.replicate n (.task i now))).phase i = .returned answer' := by
    cases hphase' : (w.run calls (List.replicate n (.task i now))).phase i with
    | returned answer' => exact ⟨answer', rfl⟩
    | _ => rw [hphase'] at h; cases h
  -- Steps after the return do nothing, so both runs end where the longer of them ends.
  have hsame : w.run calls (List.replicate n (.task i now)) =
      w.run calls (List.replicate m (.task i now)) := by
    rw [← run_of_returned calls now hphase' m, ← World.run_append,
      List.replicate_append_replicate, Nat.add_comm, ← List.replicate_append_replicate,
      World.run_append, run_of_returned calls now hphase n]
  rw [hsame]
  exact ⟨hguard, hstore⟩

/-- Step by step the call comes to its end, and there the guard is free and the store is as the
operation leaves it. -/
def ReleasesGuard (p : Platform) (now : Moment) (caller : Option Claims) (r : LoanRequest) :
    Prop :=
  let steps (n : ℕ) : World Unit :=
    (World.start p.store).run (fun _ => (caller, r)) (List.replicate n (.task () now))
  (∃ n, ((steps n).phase ()).isReturned = true) ∧
    ∀ n, ((steps n).phase ()).isReturned = true →
      (steps n).guard = none ∧ (steps n).store = (r.perform p now caller).platform.store

theorem releasesGuard (p : Platform) (now : Moment) (caller : Option Claims) (r : LoanRequest) :
    ReleasesGuard p now caller r := by
  constructor
  · obtain ⟨n, answer, hphase, -⟩ := @alone_performs Unit _ (fun _ => (caller, r))
      (World.start p.store) () now rfl rfl p rfl
    exact ⟨n, by rw [hphase]; rfl⟩
  · intro n hn
    exact released_of_returned (w := World.start p.store) (fun _ : Unit => (caller, r)) now rfl rfl
      rfl hn

end Crowdlending.Interleaving

namespace Crowdlending.Platform
open Token Account Loan Interleaving

/-- Whoever calls, and whatever is asked for: what fails leaves no trace. -/
theorem kept_of_failed (s : Setup) (p : Platform) (call : Call) (caller : Option Claims)
    (c : ServiceCall) (h : Failed (c.perform s p call caller).result) :
    p.Kept (c.perform s p call caller).platform ∧
      ∀ r, c = .loan r → ReleasesGuard p call.now caller r := by
  refine ⟨?_, fun r _ => releasesGuard p call.now caller r⟩
  cases c with
  | account r => exact kept_of_account_failed s p call caller r h
  | loan r =>
      rcases h with ⟨e, he⟩ | ⟨reasons, hreasons⟩
      · exact kept_of_loan_error (Result.map_eq_error.mp he)
      · obtain ⟨reply, -, hreply⟩ := Result.map_eq_ok.mp hreasons
        cases hreply

/-- Seven conflicts wait: an investment is refused after five tries, and two are left. -/
theorem kept_of_conflicts :
    (((start 4).run bareSetup (partlyFunded.take 2 ++ [.setConflicts 7])).store.conflicts = 7) ∧
      ((ServiceCall.loan (.invest ⟨1, "1000"⟩)).perform bareSetup
        ((start 4).run bareSetup (partlyFunded.take 2 ++ [.setConflicts 7])) ⟨clock 3, []⟩
        (some (sampleUser 3 .investor))).platform.store.conflicts = 2 ∧
      ((start 4).run bareSetup (partlyFunded.take 2 ++ [.setConflicts 7])).Kept
        ((ServiceCall.loan (.invest ⟨1, "1000"⟩)).perform bareSetup
          ((start 4).run bareSetup (partlyFunded.take 2 ++ [.setConflicts 7])) ⟨clock 3, []⟩
          (some (sampleUser 3 .investor))).platform := by
  refine ⟨rfl, by rfl, ?_⟩
  exact (kept_of_failed bareSetup _ _ _ _ (.inl ⟨.failure .conflict, by rfl⟩)).1

end Crowdlending.Platform
