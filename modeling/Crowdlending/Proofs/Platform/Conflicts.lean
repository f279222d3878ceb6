import Crowdlending.Proofs.Platform.Tally
import Crowdlending.Proofs.Platform.Unaffected

/-!
# Conflicts that nobody notices

An operation is tried until a try does not end in a conflict, five times at most, with a pause
between two tries that is twice as long as the one before. A conflict leaves nothing behind, so a
call about a loan that meets fewer than five conflicts ends as it does without any: the answer is
the same and so is the platform, and only time has passed. A call that would be refused is
refused at the first try, however many conflicts wait.
-/
namespace Crowdlending.Loan

/-! ## Tries one after the other -/

section Tries
variable {σ α : Type} (attempt : σ → σ × Except Failure α)

/-- What is left after some tries. -/
def afterTries (s : σ) (tries : ℕ) : σ := (fun s => (attempt s).1)^[tries] s

/-- How the next try ends after so many others. -/
def endOfTry (s : σ) (before : ℕ) : Except Failure α := (attempt (afterTries attempt s before)).2

theorem afterTries_succ (s : σ) (tries : ℕ) :
    afterTries attempt s (tries + 1) = afterTries attempt (attempt s).1 tries := rfl

theorem endOfTry_succ (s : σ) (before : ℕ) :
    endOfTry attempt s (before + 1) = endOfTry attempt (attempt s).1 before := rfl

/-- The try after which no other follows: it is the first without a conflict, or the last of all. -/
structure IsLastTry (s : σ) (left before : ℕ) : Prop where
  within : before ≤ left
  conflicts : ∀ i < before, endOfTry attempt s i = .error .conflict
  settled : before < left → endOfTry attempt s before ≠ .error .conflict

variable {attempt}

theorem IsLastTry.succ {s : σ} {left before : ℕ} (h : IsLastTry attempt (attempt s).1 left before)
    (hconflict : (attempt s).2 = .error .conflict) :
    IsLastTry attempt s (left + 1) (before + 1) where
  within := Nat.succ_le_succ h.within
  conflicts i hi := by
    cases i with
    | zero => exact hconflict
    | succ i => exact h.conflicts i (by omega)
  settled hlt := h.settled (by omega)

variable (attempt)

theorem retryFrom_eq (s : σ) (left tried pause waited : ℕ) :
    ∃ before, IsLastTry attempt s left before ∧
      retryFrom attempt left tried pause waited s =
        ⟨afterTries attempt s (before + 1), endOfTry attempt s before, tried + before + 1,
          waited + pause * (2 ^ before - 1)⟩ := by
  induction left generalizing s tried pause waited with
  | zero =>
      refine ⟨0, ⟨le_rfl, fun i hi => absurd hi (Nat.not_lt_zero i), fun hlt => absurd hlt
        (lt_irrefl 0)⟩, ?_⟩
      rw [retryFrom_of_last]
      simp only [Nat.add_zero, pow_zero, Nat.sub_self, Nat.mul_zero]
      rfl
  | succ left ih =>
      by_cases hconflict : (attempt s).2 = .error .conflict
      · obtain ⟨before, hlast, heq⟩ := ih (attempt s).1 (tried + 1) (2 * pause) (waited + pause)
        refine ⟨before + 1, hlast.succ hconflict, ?_⟩
        rw [retryFrom_of_conflict hconflict, heq, pauses_succ, afterTries_succ, endOfTry_succ]
        congr 1
        omega
      · refine ⟨0,
          ⟨Nat.zero_le _, fun i hi => absurd hi (Nat.not_lt_zero i), fun _ => hconflict⟩, ?_⟩
        rw [retryFrom_of_settled hconflict]
        simp only [Nat.add_zero, pow_zero, Nat.sub_self, Nat.mul_zero]
        rfl

end Tries

/-- An operation that ends as the script says, and counts how often it was called. -/
def scripted {α : Type} (script : ℕ → Except Failure α) (calls : ℕ) : ℕ × Except Failure α :=
  (calls + 1, script calls)

/-- The script was followed up to its call number `k`: the first that is no conflict, or the
fifth. -/
structure FollowedTo {α : Type} (script : ℕ → Except Failure α) (k : ℕ) (r : Retried ℕ α) :
    Prop where
  least : 1 ≤ k
  most : k ≤ 5
  conflicts : ∀ i < k - 1, script i = .error .conflict
  settled : k < 5 → script (k - 1) ≠ .error .conflict
  calls : r.state = k
  attempts : r.attempts = k
  result : r.result = script (k - 1)
  waited : r.waited = 10 * (2 ^ (k - 1) - 1)

section Script
variable {α : Type} (script : ℕ → Except Failure α)

theorem afterTries_scripted (calls tries : ℕ) :
    afterTries (scripted script) calls tries = calls + tries := by
  induction tries generalizing calls with
  | zero => rfl
  | succ tries ih =>
      rw [afterTries_succ, ih]
      simp only [scripted]
      omega

theorem endOfTry_scripted (before : ℕ) : endOfTry (scripted script) 0 before = script before := by
  simp only [endOfTry, afterTries_scripted, scripted, Nat.zero_add]

theorem followedTo_retry : ∃ k, FollowedTo script k (retry (scripted script) 0) := by
  obtain ⟨before, hlast, heq⟩ :=
    retryFrom_eq (scripted script) 0 (mostAttempts - 1) 0 firstPause 0
  have hwithin : before ≤ 4 := hlast.within
  refine ⟨before + 1, ?_⟩
  rw [retry, heq]
  exact {
    least := Nat.succ_pos before
    most := by omega
    conflicts := fun i hi => (endOfTry_scripted script i).symm.trans (hlast.conflicts i hi)
    settled := fun hlt => by
      rw [Nat.add_sub_cancel, ← endOfTry_scripted script before]
      exact hlast.settled (show before < 4 by omega)
    calls := (afterTries_scripted script 0 (before + 1)).trans (Nat.zero_add _)
    attempts := by simp only [Nat.zero_add]
    result := endOfTry_scripted script before
    waited := by simp only [Nat.zero_add]; rfl }

end Script

end Crowdlending.Loan

namespace Crowdlending.Platform
open Token Loan

/-! ## Calls about a loan -/

/-- The platform with so many conflicts to come. -/
def withConflicts (p : Platform) (n : ℕ) : Platform :=
  { p with store := { p.store with conflicts := n } }

section Calls
variable {p : Platform} {now : Moment} {caller : Option Claims}

/-- A call pauses as long as its order does. -/
theorem waited_of_checked {r : LoanRequest} {loan actor : Int} {c : Change}
    (h : r.check caller = .ok (.change loan actor c)) :
    (r.perform p now caller).waited = (p.store.change loan actor c now).waited := by
  cases r with
  | create r =>
      obtain ⟨a, -, horder⟩ := Result.map_eq_ok.mp h
      cases horder
  | approve r =>
      obtain ⟨a, ha, horder⟩ := Result.map_eq_ok.mp h
      cases horder
      simp only [LoanRequest.perform, approveLoan, ha]
      rfl
  | disburse r =>
      obtain ⟨a, ha, horder⟩ := Result.map_eq_ok.mp h
      cases horder
      simp only [LoanRequest.perform, disburseLoan, ha]
      rfl
  | invest r =>
      obtain ⟨a, ha, horder⟩ := Result.map_eq_ok.mp h
      cases horder
      simp only [LoanRequest.perform, investInLoan, ha, Outcome.map, Outcome.andThen, change]
      cases (p.store.change r.loan a.1.userId (.investment a.2) now).result <;> rfl

/-- A call is carried out as its order is. -/
theorem perform_of_change {r : LoanRequest} {loan actor : Int} {c : Change}
    (h : r.check caller = .ok (.change loan actor c)) :
    r.perform p now caller =
      ⟨p.settle (.change loan actor c) (p.store.change loan actor c now).state
          ((p.store.change loan actor c now).result.map (changeReply c loan now)),
        ((p.store.change loan actor c now).result.map (changeReply c loan now)).mapError .failure,
        (p.store.change loan actor c now).waited⟩ := by
  have hplatform := @settle_of_checked p now caller r _ h
  have hresult := (@perform_of_checked p now caller r _ h).2
  have hwaited := @waited_of_checked p now caller r loan actor c h
  rw [← hwaited]
  exact congrArg₂ (fun platform result => Outcome.mk platform result _) hplatform hresult

theorem target?_of_check {r : LoanRequest} {loan : Int} (htarget : r.target? = some loan)
    {o : Order} (h : r.check caller = .ok o) : ∃ actor c, o = .change loan actor c := by
  obtain ⟨_, -, ho⟩ := order_of_check h
  cases o with
  | propose borrower principal => rw [ho.2] at htarget; cases htarget
  | change target actor c =>
      rw [ho.2] at htarget
      cases htarget
      exact ⟨actor, c, rfl⟩

end Calls

/-- How a call ends that finds `n` conflicts waiting, compared with how it ends at the same platform
if none wait. -/
structure Unnoticed (p : Platform) (n : ℕ) (quiet tried : Outcome LoanReply) : Prop where
  /-- It is refused for the same cause, and no conflict is used up. -/
  refused : ∀ e, quiet.result = .error e →
    tried.result = .error e ∧ tried.platform.store = { p.store with conflicts := n } ∧
      tried.waited = 0
  waited : ∀ reply, quiet.result = .ok reply → tried.waited = 10 * (2 ^ min n 4 - 1)
  answered : ∀ reply, quiet.result = .ok reply → n ≤ 4 →
    tried.result.map LoanReply.undated = .ok reply.undated
  /-- The ledger is the same, with one row more in one of the tables of records. -/
  ledger : ∀ reply, quiet.result = .ok reply → n ≤ 4 →
    tried.platform.store.ledger.undated = quiet.platform.store.ledger.undated ∧
      ∃ kind ≠ .create, ∀ k, tried.platform.store.ledger.rowIds k =
        p.store.ledger.rowIds k ++ row kind (p.store.ledger.lastRecord + 1) k
  conflicts : ∀ reply, quiet.result = .ok reply → n ≤ 4 → tried.platform.store.conflicts = 0
  givenUp : ∀ reply, quiet.result = .ok reply → 5 ≤ n →
    tried.result = .error (.failure .conflict) ∧
      tried.platform.store = { p.store with conflicts := n - 5 }

theorem changeReply_undated {c : Change} {loan : Int} {now now' : Moment} {l l' : Loan}
    (h : l'.undated = l.undated) :
    (changeReply c loan now' l').undated = (changeReply c loan now l).undated := by
  have hinvested : l'.undated.invested = l.undated.invested := by rw [h]
  have hstate : l'.undated.state = l.undated.state := by rw [h]
  cases c with
  | investment amount =>
      exact congrArg₂ (fun invested state => LoanReply.invested ⟨loan, invested, state⟩) hinvested
        hstate
  | _ => exact congrArg (fun state => LoanReply.proposal ⟨loan, state, .erased⟩) hstate

section Calls
variable {p : Platform} {r : LoanRequest} {loan actor : Int} {c : Change} {caller : Option Claims}

theorem unnoticed_of_refused {f : Failure} (h : r.check caller = .error f) (n : ℕ)
    (now now' : Moment) :
    Unnoticed p n (r.perform (p.withConflicts 0) now caller)
      (r.perform (p.withConflicts n) now' caller) := by
  rw [perform_of_refused h, perform_of_refused h]
  exact {
    refused := fun e he => ⟨he, rfl, rfl⟩
    waited := fun _ hreply => nomatch hreply
    answered := fun _ hreply => nomatch hreply
    ledger := fun _ hreply => nomatch hreply
    conflicts := fun _ hreply => nomatch hreply
    givenUp := fun _ hreply => nomatch hreply }

/-- A change that is refused for a cause of its own never comes to the commit. -/
theorem perform_of_error (h : r.check caller = .ok (.change loan actor c)) {now : Moment}
    {f : Failure} (ht : p.store.ledger.transition loan actor c now = .error f) (n : ℕ) :
    (r.perform (p.withConflicts n) now caller).result = .error (.failure f) ∧
      (r.perform (p.withConflicts n) now caller).platform.store = (p.withConflicts n).store ∧
      (r.perform (p.withConflicts n) now caller).waited = 0 := by
  have hchange : (p.withConflicts n).store.change loan actor c now = _ := Store.change_of_error ht
  rw [perform_of_change h, hchange]
  exact ⟨rfl, settle_store _ _ _, rfl⟩

/-- The platform after a change that left this ledger and this loan. -/
def changed (p : Platform) (loan actor : Int) (c : Change) (now : Moment) (g : Ledger) (l : Loan) :
    Platform :=
  p.settle (.change loan actor c)
    { p.store with ledger := g, conflicts := 0, commits := p.store.commits + 1 }
    (.ok (changeReply c loan now l))

theorem perform_of_few (h : r.check caller = .ok (.change loan actor c)) {now : Moment}
    {g : Ledger} {l : Loan} (ht : p.store.ledger.transition loan actor c now = .ok (g, l)) {n : ℕ}
    (hn : n < mostAttempts) :
    r.perform (p.withConflicts n) now caller =
      ⟨p.changed loan actor c now g l, .ok (changeReply c loan now l),
        firstPause * (2 ^ n - 1)⟩ := by
  have hchange : (p.withConflicts n).store.change loan actor c now = _ :=
    (Store.change_of_ok (s := (p.withConflicts n).store) ht).trans (if_pos hn)
  rw [perform_of_change h, hchange]
  rfl

theorem perform_of_many (h : r.check caller = .ok (.change loan actor c)) {now : Moment}
    {g : Ledger} {l : Loan} (ht : p.store.ledger.transition loan actor c now = .ok (g, l)) {n : ℕ}
    (hn : mostAttempts ≤ n) :
    (r.perform (p.withConflicts n) now caller).result = .error (.failure .conflict) ∧
      (r.perform (p.withConflicts n) now caller).platform.store =
        { p.store with conflicts := n - mostAttempts } ∧
      (r.perform (p.withConflicts n) now caller).waited =
        firstPause * (2 ^ (mostAttempts - 1) - 1) := by
  have hchange : (p.withConflicts n).store.change loan actor c now = _ :=
    (Store.change_of_ok (s := (p.withConflicts n).store) ht).trans (if_neg (Nat.not_lt.mpr hn))
  rw [perform_of_change h, hchange]
  exact ⟨rfl, settle_store _ _ _, rfl⟩

theorem unnoticed_of_change (h : r.check caller = .ok (.change loan actor c)) (n : ℕ)
    (now now' : Moment) :
    Unnoticed p n (r.perform (p.withConflicts 0) now caller)
      (r.perform (p.withConflicts n) now' caller) := by
  rcases p.store.ledger.transition_moments loan actor c now now' with
    ⟨f, hquiet, htried⟩ | ⟨⟨g, l⟩, ⟨g', l'⟩, hquiet, htried, hledger, hloan⟩
  · obtain ⟨hresult, -, -⟩ := perform_of_error h hquiet 0
    obtain ⟨hresult', hstore', hwaited'⟩ := perform_of_error h htried n
    have hnever : ∀ {reply}, (r.perform (p.withConflicts 0) now caller).result ≠ .ok reply := by
      intro reply hreply
      rw [hresult] at hreply
      cases hreply
    exact {
      refused := fun e he => ⟨by rw [hresult', ← hresult, he], hstore', hwaited'⟩
      waited := fun _ hreply => absurd hreply hnever
      answered := fun _ hreply => absurd hreply hnever
      ledger := fun _ hreply => absurd hreply hnever
      conflicts := fun _ hreply => absurd hreply hnever
      givenUp := fun _ hreply => absurd hreply hnever }
  · rw [perform_of_few h hquiet (show 0 < mostAttempts by decide)]
    rcases Nat.lt_or_ge n mostAttempts with hfew | hmany
    · have hn : n < 5 := hfew
      rw [perform_of_few h htried hfew]
      exact {
        refused := fun e he => nomatch he
        waited := fun _ _ => by rw [min_eq_left (by omega)]; rfl
        answered := fun reply hreply _ => by
          cases hreply
          exact congrArg Except.ok (changeReply_undated hloan)
        ledger := fun _ _ _ => by
          simp only [changed, settle_store]
          refine ⟨hledger, c.kind, by cases c <;> simp [Change.kind], fun k => ?_⟩
          exact Ledger.rowIds_transition htried k
        conflicts := fun _ _ _ => by simp only [changed, settle_store]
        givenUp := fun _ _ hn' => absurd hn' (by omega) }
    · have hn : 5 ≤ n := hmany
      obtain ⟨hresult, hstore, hwaited⟩ := perform_of_many h htried hmany
      exact {
        refused := fun e he => nomatch he
        waited := fun _ _ => by rw [hwaited, min_eq_right (by omega)]; rfl
        answered := fun _ _ hn' => absurd hn' (by omega)
        ledger := fun _ _ hn' => absurd hn' (by omega)
        conflicts := fun _ _ hn' => absurd hn' (by omega)
        givenUp := fun _ _ _ => ⟨hresult, hstore⟩ }

end Calls

/-- Whether conflicts wait makes no difference to a call about a loan, as long as they are fewer
than five: then it ends as at the platform without any, and if the clock is the same, all that it
leaves is the same, with a longer pause. Trying again follows any script up to the first outcome
that is no conflict, or to the fifth. -/
theorem unnoticed_of_conflicts {r : LoanRequest} {loan : Int} (h : r.target? = some loan)
    (p : Platform) (n : ℕ) (now now' : Moment) (caller : Option Claims) :
    Unnoticed p n (r.perform (p.withConflicts 0) now caller)
        (r.perform (p.withConflicts n) now' caller) ∧
      (∀ reply, (r.perform (p.withConflicts 0) now caller).result = .ok reply → n ≤ 4 →
        r.perform (p.withConflicts n) now caller =
          { r.perform (p.withConflicts 0) now caller with waited := 10 * (2 ^ n - 1) }) ∧
      ∀ {α : Type} (script : ℕ → Except Failure α),
        ∃ k, FollowedTo script k (retry (scripted script) 0) := by
  refine ⟨?_, fun reply hreply hn => ?_, fun script => followedTo_retry script⟩
  · cases hcheck : r.check caller with
    | error f => exact unnoticed_of_refused hcheck n now now'
    | ok o =>
        obtain ⟨actor, c, rfl⟩ := target?_of_check h hcheck
        exact unnoticed_of_change hcheck n now now'
  · cases hcheck : r.check caller with
    | error f =>
        rw [perform_of_refused hcheck] at hreply
        cases hreply
    | ok o =>
        obtain ⟨actor, c, rfl⟩ := target?_of_check h hcheck
        cases ht : p.store.ledger.transition loan actor c now with
        | error f =>
            rw [(perform_of_error hcheck ht 0).1] at hreply
            cases hreply
        | ok gl =>
            have hfew : n < mostAttempts := Nat.lt_succ_of_le hn
            rw [perform_of_few hcheck ht hfew,
              perform_of_few hcheck ht (show 0 < mostAttempts by decide)]
            rfl

/-- The first investment in a loan, when four conflicts wait, and when seven wait. -/
theorem unnoticed_of_partlyFunded :
    (LoanRequest.invest ⟨1, "1000"⟩).target? = some 1 ∧ ∃ reply,
      ((LoanRequest.invest ⟨1, "1000"⟩).perform
        (((start 4).run bareSetup (partlyFunded.take 2)).withConflicts 0) (clock 3)
        (some (sampleUser 3 .investor))).result = .ok reply ∧
      ((LoanRequest.invest ⟨1, "1000"⟩).perform
        (((start 4).run bareSetup (partlyFunded.take 2)).withConflicts 4) (clock 9)
        (some (sampleUser 3 .investor))).result.map LoanReply.undated = .ok reply.undated ∧
      ((LoanRequest.invest ⟨1, "1000"⟩).perform
        (((start 4).run bareSetup (partlyFunded.take 2)).withConflicts 4) (clock 9)
        (some (sampleUser 3 .investor))).waited = 150 ∧
      ((LoanRequest.invest ⟨1, "1000"⟩).perform
        (((start 4).run bareSetup (partlyFunded.take 2)).withConflicts 7) (clock 9)
        (some (sampleUser 3 .investor))).result = .error (.failure .conflict) := by
  obtain ⟨reply, hreply⟩ : ∃ reply, ((LoanRequest.invest ⟨1, "1000"⟩).perform
      (((start 4).run bareSetup (partlyFunded.take 2)).withConflicts 0) (clock 3)
      (some (sampleUser 3 .investor))).result = .ok reply := ⟨_, by rfl⟩
  obtain ⟨hfour, -, -⟩ := unnoticed_of_conflicts (r := .invest ⟨1, "1000"⟩) rfl
    ((start 4).run bareSetup (partlyFunded.take 2)) 4 (clock 3) (clock 9)
    (some (sampleUser 3 .investor))
  obtain ⟨hseven, -, -⟩ := unnoticed_of_conflicts (r := .invest ⟨1, "1000"⟩) rfl
    ((start 4).run bareSetup (partlyFunded.take 2)) 7 (clock 3) (clock 9)
    (some (sampleUser 3 .investor))
  exact ⟨rfl, reply, hreply, hfour.answered reply hreply le_rfl, hfour.waited reply hreply,
    (hseven.givenUp reply hreply (by omega)).1⟩

end Crowdlending.Platform
