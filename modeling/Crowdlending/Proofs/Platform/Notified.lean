import Crowdlending.Proofs.Platform.Turns

/-!
# Each investor is told once

A loan is announced by the one call that makes it full, so as long as the queue has
room, what was handled and what still waits are together the full loans, each once.
The worker may take an event whenever it likes: it reads investments that no longer
change, and a directory in which every account that there was still is. What it can
miss is only an account that is made after it wrote its letters. Such an account can
be an investor's, for an investment is made in the name that a token states, and
nobody asks whether this user is in the directory.
-/
namespace Crowdlending.Platform
open Token Account Loan Notification

/-! ## What is announced -/

/-- The loan that is announced, if there is one, was not full; it is now, and no other one has
become so. -/
structure Announces (announced : Option Int) (g g' : Ledger) : Prop where
  fresh : ∀ id ∈ announced, ¬g.IsFull id
  full : ∀ id, g'.IsFull id ↔ g.IsFull id ∨ id ∈ announced

theorem announces_none {g g' : Ledger} (h : ∀ id, g'.IsFull id ↔ g.IsFull id) :
    Announces none g g' :=
  ⟨fun _ hid => (by cases hid), fun id => by simp [h]⟩

theorem announced?_changeReply {c : Change} {l : Loan} {next : State} (hplan : c.plan l = .ok next)
    (loan actor : Int) (now : Moment) :
    (changeReply c loan now (c.outcome l next actor now)).announced? =
      if next = .invested then some loan else none := by
  cases c with
  | approval link rate roi =>
      obtain ⟨-, rfl⟩ := Change.plan_approval_eq_ok hplan
      rfl
  | disbursement link =>
      obtain ⟨-, rfl⟩ := Change.plan_disbursement_eq_ok hplan
      rfl
  | investment amount => rfl

theorem announces_transition {g g' : Ledger} {id actor : Int} {c : Change} {now : Moment}
    {l' : Loan} (hids : (g.loans.map Loan.id).Nodup)
    (h : g.transition id actor c now = .ok (g', l')) :
    Announces (changeReply c id now l').announced? g g' := by
  obtain ⟨l, next, ha, rfl⟩ := Ledger.transition_accepted hids h
  rw [announced?_changeReply ha.plan]
  split
  · next hnext =>
      constructor
      · intro k hk
        obtain rfl : id = k := Option.some.inj hk
        exact ha.not_isFull hids hnext
      · intro k
        rw [ha.isFull_iff hids]
        simp [hnext, eq_comm]
  · next hnext =>
      refine announces_none fun k => ?_
      rw [ha.isFull_iff hids]
      simp [hnext]

theorem announces_execute {st : Store} (hreach : st.ledger.Reachable) (now : Moment) (o : Order) :
    Announces ((o.execute st now).2.toOption.bind LoanReply.announced?) st.ledger
      (o.execute st now).1.ledger := by
  cases o with
  | propose borrower principal =>
      exact announces_none fun id => Ledger.isFull_propose st.ledger borrower principal now
  | change loan actor c =>
      rcases execute_change st now loan actor c with ⟨f, hf, hledger⟩ | ⟨l, hl, ht⟩
      · rw [hf, hledger]
        exact announces_none fun _ => Iff.rfl
      · rw [hl]
        exact announces_transition hreach.numbered.nodup ht

/-- Whatever conflicts a call met, it announces a loan exactly if it made this loan full. -/
theorem announces_turn (s : Setup) {p : Platform} (h : p.Sound) (t : Turn) :
    Announces (t.announced? p) p.store.ledger (t.perform s p).store.ledger := by
  cases t with
  | loan now caller r =>
      rw [Turn.announced?, Turn.perform]
      cases hcheck : r.check caller with
      | error f =>
          rw [perform_of_refused hcheck]
          exact announces_none fun _ => Iff.rfl
      | ok o =>
          obtain ⟨hstore, hresult⟩ := @perform_of_checked p now caller r o hcheck
          have hannounced := announces_execute h.ledger now o
          rw [hstore, hresult]
          cases hreply : (o.execute p.store now).2 with
          | error f => rw [hreply] at hannounced; exact hannounced
          | ok reply => rw [hreply] at hannounced; exact hannounced
  | deleteLoan now target deletedBy =>
      exact announces_none fun id => Ledger.isFull_softDelete p.store.ledger target deletedBy now
  | account call caller r =>
      exact announces_none fun id => by rw [Turn.perform, account_perform_store]
  | seed r =>
      refine announces_none fun id => ?_
      rw [Turn.perform]
      split <;> exact Iff.rfl
  | setStatus id status => exact announces_none fun _ => Iff.rfl
  | setConflicts n => exact announces_none fun _ => Iff.rfl
  | refuse recipient => exact announces_none fun _ => Iff.rfl
  | handle =>
      obtain ⟨queue, outbox, metrics, heq⟩ := handleNext_frame s p
      exact announces_none fun id => by rw [Turn.perform, heq]

/-! ## What waits, and what was handled -/

/-- What is announced in this turn finds room in the queue. -/
def Turn.hasRoom (p : Platform) (t : Turn) : Bool := (t.announced? p).all fun _ => p.queue.accepts

/-- The queue is never full when a loan is announced. -/
def hasRoom (s : Setup) : Platform → List Turn → Bool
  | _, [] => true
  | p, t :: turns => t.hasRoom p && hasRoom s (t.perform s p) turns

/-- All loans that were announced: those that were handled and those that wait. -/
def Journal.announced (j : Journal) : List Int :=
  j.handled.map Handled.loan ++ j.platform.queue.events

section Queue
variable (s : Setup) {p : Platform}

theorem dispatch_of_accepts {q : Queue} (h : q.accepts = true) (e : Int) :
    (q.dispatch e).1 = { q with events := q.events ++ [e] } := by
  rw [Queue.dispatch, if_pos h]

/-- A turn that is not the worker's adds to the queue what it announces, and mails nobody. -/
theorem queue_turn {t : Turn} (ht : t.isHandle = false) (hroom : t.hasRoom p = true) :
    (t.perform s p).queue.events = p.queue.events ++ (t.announced? p).toList ∧
      (t.perform s p).outbox.sent = p.outbox.sent := by
  cases t with
  | loan now caller r =>
      rw [Turn.perform, loan_perform_queue, loan_perform_outbox]
      refine ⟨?_, rfl⟩
      rw [Turn.hasRoom] at hroom
      cases hannounced : (Turn.loan now caller r).announced? p with
      | none => exact (List.append_nil _).symm
      | some e =>
          rw [hannounced] at hroom
          exact congrArg Queue.events (dispatch_of_accepts hroom e)
  | account call caller r =>
      obtain ⟨hqueue, houtbox, -⟩ := account_perform_effect s p call caller r
      rw [Turn.perform, hqueue, houtbox]
      exact ⟨(List.append_nil _).symm, rfl⟩
  | seed r =>
      rw [Turn.perform]
      split <;> exact ⟨(List.append_nil _).symm, rfl⟩
  | setStatus id status => exact ⟨(List.append_nil _).symm, rfl⟩
  | setConflicts n => exact ⟨(List.append_nil _).symm, rfl⟩
  | deleteLoan now target deletedBy => exact ⟨(List.append_nil _).symm, rfl⟩
  | refuse recipient => exact ⟨(List.append_nil _).symm, rfl⟩
  | handle => cases ht

theorem handled_of_call {t : Turn} (ht : t.isHandle = false) : t.handled s p = [] := by
  cases t with
  | handle => cases ht
  | _ => rfl

theorem handled_of_handle {h : Handled} (hh : h ∈ Turn.handle.handled s p) :
    (∃ events, p.queue.events = h.loan :: events) ∧ h.found = p ∧
      h.sent = (p.mailsFor s h.loan).length := by
  rw [Turn.handled] at hh
  cases hevents : p.queue.events with
  | nil => rw [hevents] at hh; cases hh
  | cons e events =>
      rw [hevents] at hh
      rw [List.mem_singleton.mp hh]
      exact ⟨⟨events, rfl⟩, rfl, notify_sent ..⟩

end Queue

/-! ## The journal -/

/-- What holds of a journal at any moment of a run in which the queue has room. -/
structure Journal.Notified (s : Setup) (j : Journal) : Prop where
  once : j.announced.Nodup
  full : ∀ id, id ∈ j.announced ↔ j.platform.store.ledger.IsFull id
  mails : j.platform.outbox.sent = j.handled.flatMap fun h => h.found.mailsFor s h.loan
  sent : ∀ h ∈ j.handled, h.sent = (h.found.mailsFor s h.loan).length
  found : ∀ h ∈ j.handled,
    h.found.Sound ∧ h.found.store.ledger.IsFull h.loan ∧ h.found.Later j.platform

namespace Journal
variable {s : Setup} {j : Journal}

theorem notified_start (s : Setup) (capacity : ℕ) : (start capacity).Notified s where
  once := List.nodup_nil
  full id := ⟨fun h => (by cases h), fun h => absurd h (Ledger.not_isFull_empty id)⟩
  mails := rfl
  sent _ h := by cases h
  found _ h := by cases h

theorem announced_turn {t : Turn} (hroom : t.hasRoom j.platform = true) :
    (j.turn s t).announced = j.announced ++ (t.announced? j.platform).toList := by
  cases hhandle : t.isHandle with
  | false =>
      obtain ⟨hevents, -⟩ := queue_turn s hhandle hroom
      rw [announced, turn, handled_of_call s hhandle, List.append_nil, hevents, announced,
        List.append_assoc]
  | true =>
      cases t with
      | handle =>
          cases hevents : j.platform.queue.events with
          | nil =>
              simp [announced, turn, Turn.handled, Turn.perform, Turn.announced?, hevents,
                handleNext_nil s j.platform hevents]
          | cons e events =>
              obtain ⟨metrics, heq⟩ := handleNext_cons s j.platform hevents
              simp [announced, turn, Turn.handled, Turn.perform, Turn.announced?, hevents, heq]
      | _ => cases hhandle

/-- The worker mails what the event it takes leads to; others mail nothing. -/
theorem mails_turn {t : Turn} (hroom : t.hasRoom j.platform = true)
    (h : j.platform.outbox.sent = j.handled.flatMap fun h => h.found.mailsFor s h.loan) :
    (j.turn s t).platform.outbox.sent =
      (j.turn s t).handled.flatMap fun h => h.found.mailsFor s h.loan := by
  cases hhandle : t.isHandle with
  | false =>
      obtain ⟨-, hsent⟩ := queue_turn s hhandle hroom
      simp only [turn, handled_of_call s hhandle, List.append_nil, hsent]
      exact h
  | true =>
      cases t with
      | handle =>
          cases hevents : j.platform.queue.events with
          | nil =>
              simp only [turn, Turn.handled, Turn.perform, hevents, List.append_nil,
                handleNext_nil s j.platform hevents]
              exact h
          | cons e events =>
              obtain ⟨metrics, heq⟩ := handleNext_cons s j.platform hevents
              simp [turn, Turn.handled, Turn.perform, hevents, heq, h]
      | _ => cases hhandle

theorem Notified.turn (h : j.Notified s) (hsound : j.platform.Sound) {t : Turn}
    (hroom : t.hasRoom j.platform = true) : (j.turn s t).Notified s := by
  have hannounces := announces_turn s hsound t
  have hannounced := announced_turn (s := s) hroom
  have hnew : ∀ h' ∈ t.handled s j.platform,
      h'.found = j.platform ∧ h'.sent = (j.platform.mailsFor s h'.loan).length ∧
        h'.loan ∈ j.announced := by
    intro h' hh'
    cases hhandle : t.isHandle with
    | false => rw [handled_of_call s hhandle] at hh'; cases hh'
    | true =>
        cases t with
        | handle =>
            obtain ⟨⟨events, hevents⟩, hfound, hsent⟩ := handled_of_handle s hh'
            refine ⟨hfound, hsent, List.mem_append_right _ ?_⟩
            rw [hevents]
            exact List.mem_cons_self
        | _ => cases hhandle
  constructor
  case once =>
    rw [hannounced]
    refine List.nodup_append.mpr ⟨h.once, by cases t.announced? j.platform <;> simp, ?_⟩
    rintro a ha b hb rfl
    exact hannounces.fresh a (Option.mem_toList.mp hb) ((h.full a).mp ha)
  case full =>
    intro id
    rw [hannounced, List.mem_append, Option.mem_toList, h.full id]
    exact (hannounces.full id).symm
  case mails => exact mails_turn hroom h.mails
  case sent =>
    intro h' hh'
    rcases List.mem_append.mp hh' with hold | hlast
    · exact h.sent h' hold
    · obtain ⟨hfound, hsent, -⟩ := hnew h' hlast
      rw [hfound]
      exact hsent
  case found =>
    intro h' hh'
    have hlater := hsound.later_turn (s := s) t
    rcases List.mem_append.mp hh' with hold | hlast
    · obtain ⟨hs, hfull, hfound⟩ := h.found h' hold
      exact ⟨hs, hfull, hfound.trans hlater⟩
    · obtain ⟨hfound, -, hmem⟩ := hnew h' hlast
      rw [hfound]
      exact ⟨hsound, (h.full _).mp hmem, hlater⟩

theorem Notified.play (h : j.Notified s) (hsound : j.platform.Sound) {turns : List Turn}
    (hroom : hasRoom s j.platform turns = true) : (j.play s turns).Notified s := by
  induction turns generalizing j with
  | nil => exact h
  | cons t turns ih =>
      obtain ⟨hfirst, hrest⟩ := Bool.and_eq_true_iff.mp hroom
      exact ih (h.turn hsound hfirst) (hsound.turn t) hrest

end Journal

/-! ## When the worker comes -/

/-- Calls meet the same loans, conflicts and accounts on both platforms. -/
structure Alike (p q : Platform) : Prop where
  store : p.store = q.store
  users : p.users = q.users

/-- The turns that are not the worker's. -/
def calls (turns : List Turn) : List Turn := turns.filter fun t => !t.isHandle

section Alike
variable {s : Setup} {p q : Platform}

theorem account_users_congr (h : p.users = q.users) (call : Call) (caller : Option Claims)
    (r : AccountRequest) :
    (r.perform s p call caller).platform.users = (r.perform s q call caller).platform.users := by
  cases r with
  | register r =>
      simp only [AccountRequest.perform, map_platform, register, h]
      repeat' split
      all_goals first | exact h | rfl
  | login r =>
      simp only [AccountRequest.perform, map_platform]
      rw [(kept_login s p call r).users, (kept_login s q call r).users, h]
  | refresh r =>
      simp only [AccountRequest.perform, map_platform]
      rw [(kept_refresh s p call r).users, (kept_refresh s q call r).users, h]
  | «exists» r =>
      simp only [AccountRequest.perform, map_platform]
      rw [(kept_userExists s p r).users, (kept_userExists s q r).users, h]
  | close =>
      simp only [AccountRequest.perform, map_platform, closeAccount, h]
      repeat' split
      all_goals first | exact h | rfl

/-- Calls do not notice whether the worker has been there. -/
theorem Alike.call (h : p.Alike q) {t : Turn} (ht : t.isHandle = false) :
    (t.perform s p).Alike (t.perform s q) := by
  obtain ⟨hstore, husers⟩ := h
  cases t with
  | loan now caller r =>
      constructor
      · simp only [Turn.perform]
        cases hcheck : r.check caller with
        | error f =>
            rw [perform_of_refused hcheck, perform_of_refused hcheck]
            exact hstore
        | ok o => rw [(perform_of_checked hcheck).1, (perform_of_checked hcheck).1, hstore]
      · simp only [Turn.perform, loan_perform_users, husers]
  | account call caller r =>
      constructor
      · simp only [Turn.perform, account_perform_store, hstore]
      · exact account_users_congr husers call caller r
  | seed r =>
      simp only [Turn.perform, husers]
      split
      · exact ⟨hstore, rfl⟩
      · exact ⟨hstore, husers⟩
  | setStatus id status => exact ⟨hstore, congrArg (Directory.setStatus · id status) husers⟩
  | setConflicts n => exact ⟨by simp only [Turn.perform, hstore], husers⟩
  | deleteLoan now target deletedBy => exact ⟨by simp only [Turn.perform, hstore], husers⟩
  | refuse recipient => exact ⟨hstore, husers⟩
  | handle => cases ht

theorem Alike.handle (h : p.Alike q) : (Turn.handle.perform s p).Alike q := by
  obtain ⟨queue, outbox, metrics, heq⟩ := handleNext_frame s p
  rw [Turn.perform, heq]
  exact ⟨h.store, h.users⟩

theorem alike_calls {j j' : Journal} (h : j.platform.Alike j'.platform) (turns : List Turn) :
    (j.play s turns).platform.Alike (j'.play s (calls turns)).platform := by
  induction turns generalizing j j' with
  | nil => exact h
  | cons t turns ih =>
      cases hhandle : t.isHandle with
      | false =>
          have hkept : calls (t :: turns) = t :: calls turns := by simp [calls, hhandle]
          rw [hkept]
          exact ih (h.call hhandle)
      | true =>
          have hdropped : calls (t :: turns) = calls turns := by simp [calls, hhandle]
          rw [hdropped]
          cases t with
          | handle => exact ih h.handle
          | _ => cases hhandle

/-- Two runs of the same calls end with the same loans and accounts, wherever the worker's turns
are. -/
theorem alike_of_calls {turns turns' : List Turn} (h : calls turns' = calls turns) (j : Journal) :
    (j.play s turns').platform.Alike (j.play s turns).platform := by
  have hsame : j.platform.Alike j.platform := ⟨rfl, rfl⟩
  have hfirst := alike_calls (s := s) hsame turns'
  have hsecond := alike_calls (s := s) hsame turns
  rw [h] at hfirst
  exact ⟨hfirst.store.trans hsecond.store.symm, hfirst.users.trans hsecond.users.symm⟩

end Alike

namespace Handled

/-- Each investor of the loan had an account when its event was handled. -/
def KnowsInvestors (h : Handled) : Prop :=
  ∀ id ∈ investors h.found.store.ledger h.loan, id ∈ h.found.users.ids

/-- The letters that were written. -/
def letters (s : Setup) (h : Handled) : List Mail.Message :=
  Notification.letters h.found.store.ledger h.found.users s.sender h.loan

/-- Of those investors of the loan who had an account each was written to once, and every letter
that a mailbox took was sent and counted. Now there would be the same letters, and further ones to
accounts that were made since. -/
structure ToldInvestors (s : Setup) (h : Handled) (now : Platform) : Prop where
  one : ((recipients h.found.store.ledger h.found.users h.loan).map User.id).Nodup
  all : ∀ u, u ∈ recipients h.found.store.ledger h.found.users h.loan ↔
    (∃ e ∈ h.found.users.entries, e.user = u) ∧
      ∃ i ∈ now.store.ledger.investmentsOf h.loan, i.investor = u.id
  mails : h.found.mailsFor s h.loan =
    ((recipients h.found.store.ledger h.found.users h.loan).map (confirmation s.sender)).filter
      fun m => !h.found.outbox.refusing.contains m.recipient
  sent : h.sent = (h.found.mailsFor s h.loan).length
  late : Notification.letters now.store.ledger now.users s.sender h.loan =
    h.letters s ++ Notification.letters now.store.ledger (now.users.since h.found.users) s.sender
      h.loan

end Handled

section Told
variable {s : Setup} {j : Journal} {h : Handled}

theorem Journal.Notified.toldInvestors (hj : j.Notified s) (hh : h ∈ j.handled) :
    h.ToldInvestors s j.platform := by
  obtain ⟨hsound, hfull, hlater⟩ := hj.found h hh
  obtain ⟨-, hsame⟩ := hlater.full h.loan hfull
  constructor
  case one => exact nodup_recipients hsound.users _ _
  case all =>
    intro u
    rw [mem_recipients, investors, hsame, List.mem_map]
  case mails => rfl
  case sent => exact hj.sent h hh
  case late =>
    have hletters := letters_of_continues hsame hlater.users s.sender
    have hsince : Notification.letters j.platform.store.ledger
        (j.platform.users.since h.found.users) s.sender h.loan =
        Notification.letters h.found.store.ledger (j.platform.users.since h.found.users) s.sender
          h.loan := by
      simp only [Notification.letters, recipients, hsame]
    rw [hsince]
    exact hletters

/-- Letters to investors who all had an account are those that would be written now. -/
theorem Journal.Notified.letters_now (hj : j.Notified s) (hnow : j.platform.users.Numbered)
    (hh : h ∈ j.handled) (hknown : h.KnowsInvestors) :
    Notification.letters j.platform.store.ledger j.platform.users s.sender h.loan =
      h.letters s := by
  obtain ⟨-, hfull, hlater⟩ := hj.found h hh
  obtain ⟨-, hsame⟩ := hlater.full h.loan hfull
  exact letters_of_known hsame hlater.users hnow hknown s.sender

end Told

/-- In every run in which the queue has room, what was handled and what waits are the full loans,
each once; nothing else was mailed than what each handled event led to; and each such event told
the loan's investors. When the events were handled makes no difference to the letters, provided
that the investors had their accounts. To handle all that waits is to handle one event after the
other. -/
theorem notified_of_play (s : Setup) (capacity : ℕ) (turns : List Turn)
    (hroom : hasRoom s (start capacity) turns = true) :
    let j := (Journal.start capacity).play s turns
    (j.announced.Nodup ∧ ∀ id, id ∈ j.announced ↔ j.platform.store.ledger.IsFull id) ∧
    (j.platform.queue.events = [] → (j.handled.map Handled.loan).Nodup ∧
      ∀ id, id ∈ j.handled.map Handled.loan ↔ j.platform.store.ledger.IsFull id) ∧
    j.platform.outbox.sent = (j.handled.flatMap fun h => h.found.mailsFor s h.loan) ∧
    (∀ h ∈ j.handled, h.ToldInvestors s j.platform) ∧
    (∀ turns', calls turns' = calls turns → hasRoom s (start capacity) turns' = true →
      ∀ h ∈ j.handled, ∀ h' ∈ ((Journal.start capacity).play s turns').handled,
        h'.loan = h.loan → h.KnowsInvestors → h'.KnowsInvestors → h'.letters s = h.letters s) ∧
    j.platform.runWorker s = (handleNext s)^[j.platform.queue.events.length] j.platform := by
  intro j
  have hsound := sound_start capacity
  have hnotified : ∀ {turns}, hasRoom s (start capacity) turns = true →
      ((Journal.start capacity).play s turns).Notified s :=
    fun h => (Journal.notified_start s capacity).play hsound h
  have hnumbered : ∀ turns, ((Journal.start capacity).play s turns).platform.users.Numbered :=
    fun turns => (Journal.sound_play (s := s) (j := .start capacity) hsound turns).users
  have hj : j.Notified s := hnotified hroom
  refine ⟨⟨hj.once, hj.full⟩, fun hidle => ?_, hj.mails, fun h hh => hj.toldInvestors hh, ?_,
    runWorker_eq s j.platform⟩
  · have hannounced : j.announced = j.handled.map Handled.loan := by
      rw [Journal.announced, hidle, List.append_nil]
    exact ⟨hannounced ▸ hj.once, hannounced ▸ hj.full⟩
  · intro turns' hcalls hroom' h hh h' hh' hloan hknown hknown'
    obtain ⟨hstore, husers⟩ := alike_of_calls (s := s) hcalls (Journal.start capacity)
    have hfirst := hj.letters_now (hnumbered turns) hh hknown
    have hsecond := (hnotified hroom').letters_now (hnumbered turns') hh' hknown'
    rw [← hfirst, ← hsecond, hstore, husers, hloan]

/-! ## A loan whose investor has no account yet -/

/-- User 1 proposes a loan of 1500, user 2 approves it, and user 1 invests all of it. -/
def funded : List Turn :=
  [.loan (clock 1) (some (sampleUser 1 .borrower)) (.create ⟨"1500"⟩),
    .loan (clock 2) (some (sampleUser 2 .fieldValidator))
      (.approve ⟨1, "http://[::1]/proof", "12", "8"⟩),
    .loan (clock 3) (some (sampleUser 1 .investor)) (.invest ⟨1, "1500"⟩)]

/-- The journal of a sample run from the start. -/
def sampleJournal (turns : List Turn) : Journal := (Journal.start 4).play bareSetup turns

/-- With the account made first, the worker tells its user. -/
theorem notified_of_funded :
    hasRoom bareSetup (start 4) (registration :: funded ++ [.handle]) = true ∧
      1 ∈ (sampleJournal (registration :: funded ++ [.handle])).handled.map Handled.loan ∧
      ((sampleJournal (registration :: funded ++ [.handle])).handled.map Handled.loan).Nodup ∧
      (∀ h ∈ (sampleJournal (registration :: funded ++ [.handle])).handled, h.KnowsInvestors ∧
        h.ToldInvestors bareSetup
          (sampleJournal (registration :: funded ++ [.handle])).platform) ∧
      (sampleJournal (registration :: funded ++ [.handle])).platform.outbox.sent =
        [⟨"lending@example.com", "first@example.com", subject, body⟩] := by
  have hroom : hasRoom bareSetup (start 4) (registration :: funded ++ [.handle]) = true := by
    decide +kernel
  obtain ⟨-, hidle, -, htold, -⟩ := notified_of_play bareSetup 4 _ hroom
  obtain ⟨hnodup, hhandled⟩ := hidle (by decide +kernel)
  have hfull : (sampleJournal
      (registration :: funded ++ [.handle])).platform.store.ledger.IsFull 1 := by
    obtain ⟨l, hl, hid, hstate⟩ := Ledger.exists_of_find?
      (sampleJournal (registration :: funded ++ [.handle])).platform.store.ledger 1
      (fun l => l.state == .invested) (by decide +kernel)
    exact ⟨l, hl, hid, .inl (beq_iff_eq.mp hstate)⟩
  have hknown : ∀ h ∈ (sampleJournal (registration :: funded ++ [.handle])).handled,
      ∀ id ∈ investors h.found.store.ledger h.loan, id ∈ h.found.users.ids := by
    decide +kernel
  exact ⟨hroom, (hhandled 1).mpr hfull, hnodup, fun h hh => ⟨hknown h hh, htold h hh⟩,
    by decide +kernel⟩

/-- The same calls, with the worker's turn before the registration and after it. Both runs end with
the same accounts and no event waiting, and the user who registered is an investor of the loan; in
the one he is not mailed, in the other he is. -/
theorem mails_depend_on_turn :
    calls (funded ++ [.handle, registration]) = calls (funded ++ [registration, .handle]) ∧
      hasRoom bareSetup (start 4) (funded ++ [.handle, registration]) = true ∧
      hasRoom bareSetup (start 4) (funded ++ [registration, .handle]) = true ∧
      (sampleJournal (funded ++ [.handle, registration])).platform.queue.events = [] ∧
      (sampleJournal (funded ++ [registration, .handle])).platform.queue.events = [] ∧
      (sampleJournal (funded ++ [.handle, registration])).platform.users =
        (sampleJournal (funded ++ [registration, .handle])).platform.users ∧
      investors (sampleJournal (funded ++ [.handle, registration])).platform.store.ledger 1 =
        (sampleJournal (funded ++ [.handle, registration])).platform.users.ids ∧
      (sampleJournal (funded ++ [.handle, registration])).platform.outbox.sent = [] ∧
      (sampleJournal (funded ++ [registration, .handle])).platform.outbox.sent =
        [⟨"lending@example.com", "first@example.com", subject, body⟩] := by
  refine ⟨rfl, ?_, ?_, ?_, ?_, ?_, ?_, ?_, ?_⟩ <;> decide +kernel

end Crowdlending.Platform
