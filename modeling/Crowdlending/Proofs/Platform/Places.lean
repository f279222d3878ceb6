import Crowdlending.Json.Member
import Crowdlending.Proofs.Decimal.Scale
import Crowdlending.Proofs.Loan.Amount
import Crowdlending.Proofs.Loan.Numbering
import Crowdlending.Proofs.Platform.Arrival
import Crowdlending.Proofs.Platform.Run
import Crowdlending.Rpc.Document

/-!
# The places of money

Amounts and rates have two places that count at most, wherever they are: none is accepted with more,
and what is added up has no more than its parts. How many digits they are written with is another
matter. A decimal keeps the places that it came with, zeros at the end too, and nothing takes them
off, so the ledger and the answers have as many digits after the point as the calls had.
-/
namespace Crowdlending.Loan
open Decimal Text

/-- The number nothing has it, and a sum has it with its summands. -/
structure IsAdditive (P : Decimal → Prop) : Prop where
  zero : P .zero
  sum : ∀ {a b c}, P a → P b → a.add? b = some c → P c

theorem isAdditive_significantPlaces (n : ℕ) : IsAdditive fun d => d.significantPlaces ≤ n :=
  ⟨Nat.zero_le n, significantPlaces_of_add?⟩

theorem isAdditive_scale (n : ℕ) : IsAdditive fun d => d.scale ≤ n :=
  ⟨Nat.zero_le n, scale_le_of_add?⟩

/-- The numbers of a loan. -/
def decimals (l : Loan) : List Decimal := [l.principal, l.interestRate, l.roi, l.invested]

def Change.decimals : Change → List Decimal
  | approval _ interestRate roi => [interestRate, roi]
  | investment amount => [amount]
  | disbursement _ => []

namespace Ledger
variable {P : Decimal → Prop} {g g' : Ledger}

/-- The principals and rates, what is invested, and the amounts of all investments. -/
def decimals (g : Ledger) : List Decimal :=
  g.loans.flatMap Loan.decimals ++ g.investments.map Investment.amount

theorem forall_decimals_iff : (∀ d ∈ g.decimals, P d) ↔
    (∀ l ∈ g.loans, ∀ d ∈ l.decimals, P d) ∧ ∀ i ∈ g.investments, P i.amount := by
  simp only [decimals, List.mem_append, List.mem_flatMap, List.mem_map]
  constructor
  · intro h
    exact ⟨fun l hl d hd => h d (.inl ⟨l, hl, hd⟩), fun i hi => h _ (.inr ⟨i, hi, rfl⟩)⟩
  · rintro ⟨hloans, hinvestments⟩ d (⟨l, hl, hd⟩ | ⟨i, hi, rfl⟩)
    · exact hloans l hl d hd
    · exact hinvestments i hi

theorem forall_outcome (hP : IsAdditive P) {c : Change} {l : Loan} (hl : ∀ d ∈ l.decimals, P d)
    (hc : ∀ d ∈ c.decimals, P d) (next : State) (actor : Int) (now : Moment) :
    ∀ d ∈ (c.outcome l next actor now).decimals, P d := by
  simp only [Loan.decimals, List.forall_mem_cons] at hl ⊢
  obtain ⟨hprincipal, hrate, hroi, hinvested, hnone⟩ := hl
  cases c with
  | approval link rate roi =>
      simp only [Change.decimals, List.forall_mem_cons] at hc
      exact ⟨hprincipal, hc.1, hc.2.1, hinvested, hnone⟩
  | investment amount =>
      refine ⟨hprincipal, hrate, hroi, ?_, hnone⟩
      simp only [Change.outcome, Change.write]
      cases hsum : l.invested.add? amount with
      | none => exact hinvested
      | some total => exact hP.sum hinvested (hc _ List.mem_cons_self) hsum
  | disbursement link => exact ⟨hprincipal, hrate, hroi, hinvested, hnone⟩

theorem forall_propose (hP : IsAdditive P) (h : ∀ d ∈ g.decimals, P d) {principal : Decimal}
    (hprincipal : P principal) (borrower : Int) (now : Moment) :
    ∀ d ∈ (g.propose borrower principal now).1.decimals, P d := by
  obtain ⟨hloans, hinvestments⟩ := forall_decimals_iff.mp h
  refine forall_decimals_iff.mpr ⟨List.forall_mem_append.mpr ⟨hloans, ?_⟩, hinvestments⟩
  simp only [Loan.decimals, proposed, List.forall_mem_cons, hprincipal, hP.zero]
  simp

theorem forall_softDelete (h : ∀ d ∈ g.decimals, P d) (id deletedBy : Int) (now : Moment) :
    ∀ d ∈ (g.softDelete id deletedBy now).decimals, P d := by
  obtain ⟨hloans, hinvestments⟩ := forall_decimals_iff.mp h
  refine forall_decimals_iff.mpr ⟨List.forall_mem_map.mpr fun l hl => ?_, hinvestments⟩
  split_ifs <;> exact hloans l hl

/-- An accepted change writes what it brings, and one sum. -/
theorem Accepted.forall_decimals {id actor : Int} {c : Change} {now : Moment} {l : Loan}
    {next : State} (ha : g.Accepted id actor c now l next g') (hP : IsAdditive P)
    (h : ∀ d ∈ g.decimals, P d) (hc : ∀ d ∈ c.decimals, P d) :
    (∀ d ∈ g'.decimals, P d) ∧ P (c.outcome l next actor now).invested := by
  obtain ⟨hloans, hinvestments⟩ := forall_decimals_iff.mp h
  obtain ⟨hl, -, -⟩ := visible?_eq_some ha.visible
  have houtcome := forall_outcome hP (hloans l hl) hc next actor now
  refine ⟨forall_decimals_iff.mpr ⟨?_, ?_⟩, houtcome _ (by simp [Loan.decimals])⟩
  · rw [ha.loans]
    refine List.forall_mem_map.mpr fun k hk => ?_
    split_ifs
    · exact houtcome
    · exact hloans k hk
  · rw [ha.investments]
    refine List.forall_mem_append.mpr ⟨hinvestments, fun i hi => ?_⟩
    cases c with
    | approval link rate roi => cases hi
    | investment amount =>
        rw [List.mem_singleton.mp hi]
        exact hc _ List.mem_cons_self
    | disbursement link => cases hi

end Ledger

end Crowdlending.Loan

namespace Crowdlending.Platform
open Token Loan Decimal Text

/-! ## Calls -/

def Order.decimals : Order → List Decimal
  | propose _ principal => [principal]
  | change _ _ c => c.decimals

/-- The texts of a call that are to be read as decimals. -/
def LoanRequest.texts : LoanRequest → List String
  | create r => [r.principal]
  | approve r => [r.interestRate, r.roi]
  | invest r => [r.amount]
  | disburse _ => []

def Action.texts : Action → List String
  | loan _ _ r => r.texts
  | _ => []

/-- What can be read from the text with the places of money has the property. -/
def Gives (P : Decimal → Prop) (text : String) : Prop :=
  ∀ field d, readDecimal field text = .ok d → P d

section Calls
variable {P : Decimal → Prop} {p : Platform} {now : Moment} {caller : Option Claims}

/-- An order has the decimals that its call has the texts of. -/
theorem decimals_of_check {r : LoanRequest} {o : Order} (h : r.check caller = .ok o)
    (hr : ∀ text ∈ r.texts, Gives P text) : ∀ d ∈ o.decimals, P d := by
  cases r with
  | create r =>
      obtain ⟨a, ha, rfl⟩ := Result.map_eq_ok.mp h
      obtain ⟨-, hread⟩ := checkCreate_eq_ok ha
      have hprincipal := hr _ List.mem_cons_self _ _ (readPrincipal_eq_ok_iff.mp hread).1
      simpa [Order.decimals] using hprincipal
  | approve r =>
      obtain ⟨a, ha, rfl⟩ := Result.map_eq_ok.mp h
      obtain ⟨c, -, ha⟩ := Result.bind_eq_ok.mp ha
      obtain ⟨_, -, ha⟩ := Result.bind_eq_ok.mp ha
      obtain ⟨link, -, ha⟩ := Result.bind_eq_ok.mp ha
      obtain ⟨rate, hrate, ha⟩ := Result.bind_eq_ok.mp ha
      obtain ⟨roi, hroi, ha⟩ := Result.bind_eq_ok.mp ha
      cases ha
      have hrate := (readPercentage_eq_ok_iff.mp (input_eq_ok hrate)).1
      have hroi := (readPercentage_eq_ok_iff.mp (input_eq_ok hroi)).1
      simp only [LoanRequest.texts, List.forall_mem_cons] at hr
      simp [Order.decimals, Change.decimals, hr.1 _ _ hrate, hr.2.1 _ _ hroi]
  | invest r =>
      obtain ⟨a, ha, rfl⟩ := Result.map_eq_ok.mp h
      have hamount := hr _ List.mem_cons_self _ _ (checkInvest_eq_ok ha).2
      simpa [Order.decimals, Change.decimals] using hamount
  | disburse r =>
      obtain ⟨a, ha, rfl⟩ := Result.map_eq_ok.mp h
      obtain ⟨-, link, hlink⟩ := checkDisburse_eq_ok ha
      rw [hlink]
      exact fun d hd => by cases hd

/-- The loan reply tells of an invested amount, if of any, that has the property. -/
def LoanReply.Tells (P : Decimal → Prop) : LoanReply → Prop
  | proposal _ => True
  | invested i => P i.invested

theorem decimals_of_execute (hP : IsAdditive P) {store : Store}
    (hids : (store.ledger.loans.map Loan.id).Nodup) (h : ∀ d ∈ store.ledger.decimals, P d)
    {o : Order} (ho : ∀ d ∈ o.decimals, P d) :
    (∀ d ∈ (o.execute store now).1.ledger.decimals, P d) ∧
      ∀ reply, (o.execute store now).2 = .ok reply → reply.Tells P := by
  cases o with
  | propose borrower principal =>
      refine ⟨Ledger.forall_propose hP h (ho _ List.mem_cons_self) borrower now, ?_⟩
      rintro _ ⟨⟩
      trivial
  | change loan actor c =>
      rcases execute_change store now loan actor c with ⟨f, hf, hledger⟩ | ⟨l, hl, ht⟩
      · rw [hledger, hf]
        exact ⟨h, fun reply hreply => by cases hreply⟩
      · obtain ⟨k, next, ha, rfl⟩ := Ledger.transition_accepted hids ht
        obtain ⟨hdecimals, hinvested⟩ := ha.forall_decimals hP h ho
        refine ⟨hdecimals, fun reply hreply => ?_⟩
        cases hl.symm.trans hreply
        cases c with
        | approval link rate roi => trivial
        | investment amount => exact hinvested
        | disbursement link => trivial

/-- A loan call leaves decimals with the property, and tells only of such. -/
theorem decimals_of_perform (hP : IsAdditive P) (hids : (p.store.ledger.loans.map Loan.id).Nodup)
    (h : ∀ d ∈ p.store.ledger.decimals, P d) {r : LoanRequest}
    (hr : ∀ text ∈ r.texts, Gives P text) :
    (∀ d ∈ (r.perform p now caller).platform.store.ledger.decimals, P d) ∧
      ∀ reply, (r.perform p now caller).result = .ok reply → reply.Tells P := by
  cases hcheck : r.check caller with
  | error f =>
      rw [perform_of_refused hcheck]
      exact ⟨h, fun reply hreply => by cases hreply⟩
  | ok o =>
      obtain ⟨hstore, hresult⟩ := @perform_of_checked p now caller r o hcheck
      obtain ⟨hdecimals, htells⟩ :=
        @decimals_of_execute P now hP p.store hids h o (decimals_of_check hcheck hr)
      rw [hstore, hresult]
      refine ⟨hdecimals, fun reply hreply => htells reply ?_⟩
      cases hexecute : (o.execute p.store now).2 with
      | error f => rw [hexecute] at hreply; cases hreply
      | ok reply' => rw [hexecute] at hreply; cases hreply; rfl

theorem decimals_of_action (hP : IsAdditive P) (s : Setup)
    (hids : (p.store.ledger.loans.map Loan.id).Nodup) (h : ∀ d ∈ p.store.ledger.decimals, P d)
    {a : Action} (ha : ∀ text ∈ a.texts, Gives P text) :
    ∀ d ∈ (a.perform s p).store.ledger.decimals, P d := by
  cases a with
  | loan now caller r => exact (decimals_of_perform hP hids h ha).1
  | account call caller r =>
      rw [Action.perform, account_perform_store]
      exact h
  | setConflicts n => exact h
  | deleteLoan now target deletedBy => exact Ledger.forall_softDelete h target deletedBy now
  | runWorker => exact h

theorem decimals_of_run (hP : IsAdditive P) (s : Setup) (hreach : p.store.ledger.Reachable)
    (h : ∀ d ∈ p.store.ledger.decimals, P d) {actions : List Action}
    (hactions : ∀ a ∈ actions, ∀ text ∈ a.texts, Gives P text) :
    ∀ d ∈ (p.run s actions).store.ledger.decimals, P d := by
  induction actions generalizing p with
  | nil => exact h
  | cons a actions ih =>
      obtain ⟨ha, hrest⟩ := List.forall_mem_cons.mp hactions
      exact ih (p := a.perform s p) (reachable_run s hreach [a])
        (decimals_of_action hP s hreach.numbered.nodup h ha) hrest

theorem invested_of_investInLoan (hP : IsAdditive P)
    (hids : (p.store.ledger.loans.map Loan.id).Nodup) (h : ∀ d ∈ p.store.ledger.decimals, P d)
    {r : InvestRequest} (hr : Gives P r.amount) {reply : Platform.Invested}
    (hreply : (p.investInLoan now caller r).result = .ok reply) : P reply.invested := by
  have hperform : ((LoanRequest.invest r).perform p now caller).result = .ok (.invested reply) := by
    simp only [LoanRequest.perform, Outcome.map, hreply, Except.map]
  exact (decimals_of_perform hP hids h (by simpa [LoanRequest.texts] using hr)).2 _ hperform

end Calls

/-! ## Answers -/

/-- The text has no exponent, and `n` digits after its point at most. -/
def IsWrittenWithin (n : ℕ) (text : String) : Prop :=
  (∀ c ∈ trimChars text.toList, ¬IsMark c) ∧ writtenPlaces (trimChars text.toList) ≤ n

theorem gives_significantPlaces (text : String) :
    Gives (fun d => d.significantPlaces ≤ moneyPlaces) text :=
  fun _ _ h => places_of_readDecimal h

theorem gives_scale {n : ℕ} {text : String} (h : IsWrittenWithin n text) :
    Gives (fun d => d.scale ≤ n) text :=
  fun _ _ hread => (scale_le_of_read? h.1 (readDecimal_eq_ok_iff.mp hread).1).trans h.2

end Crowdlending.Platform

namespace Crowdlending.Http
open Json Platform Token Loan Decimal

/-- What the response tells to be invested, if it tells so, has at most `n` digits after the
point. -/
def Response.IsWithin (n : ℕ) (response : Response) : Prop :=
  ∀ doc, response.body = .json doc → writtenPlaces (doc.textAt "invested_amount").toList ≤ n

theorem textAt_investedDoc (i : Platform.Invested) :
    (investedDoc i).textAt "invested_amount" = i.invested.text := rfl

theorem isWithin_ofFailure (n : ℕ) (f : Failure) : (Response.ofFailure f).IsWithin n := by
  intro doc h
  cases h
  exact Nat.zero_le n

section Invest
variable {n : ℕ} {p : Platform} {call : Call} {r : Request} {segment : String}

theorem isWithin_act (s : Setup) {who : Option Claims}
    (h : ∀ q, readBody r InvestRequest.ofDoc = .ok q → ∀ loan reply,
      (investInLoan p call.now who { q with loan }).result = .ok reply → reply.invested.scale ≤ n)
    {response : Response}
    (hresponse : (act s p call r who (.investInLoan segment)).result = .ok response) :
    response.IsWithin n := by
  simp only [act, onLoan] at hresponse
  split at hresponse
  · cases hresponse
    exact fun doc hdoc => by cases hdoc
  · next loan hloan =>
      unfold answer at hresponse
      split at hresponse
      · cases hresponse
      · next q hq =>
          obtain ⟨reply, hreply, rfl⟩ := Result.map_eq_ok.mp hresponse
          intro doc hdoc
          cases hdoc
          rw [textAt_investedDoc, writtenPlaces_text]
          exact h q hq loan reply hreply

/-- Whoever is let in, and by whatever method: the response is that of an investment on a platform
with the same ledger, or tells of none. -/
theorem isWithin_handle (site : Site)
    (hroute : Route.ofPath r.path = .action (.investInLoan segment))
    (h : ∀ p', p.Kept p' → ∀ who q, readBody r InvestRequest.ofDoc = .ok q → ∀ loan reply,
      (investInLoan p' call.now who { q with loan }).result = .ok reply → reply.invested.scale ≤ n)
    {freshId : String} {response : Response}
    (hresponse : (handle site p call freshId r).result = .ok response) : response.IsWithin n := by
  have hrespond : ∀ response, (respond site p call r (.action (.investInLoan segment))).result =
      .ok response → response.IsWithin n := by
    intro response hresponse
    have hkept := kept_caller site.setup p call.now r.authorization
    simp only [respond, Route.isGuarded, if_true, Outcome.andThen] at hresponse
    split at hresponse
    · cases hresponse
    · next who hwho =>
        dsimp only at hresponse
        split at hresponse
        · exact isWithin_act site.setup (h _ hkept who) hresponse
        · cases hresponse
          exact fun doc hdoc => by cases hdoc
  simp only [handle, hroute, finish, Except.ok.injEq] at hresponse
  subst hresponse
  split
  · next given hgiven => exact hrespond given hgiven
  · next f hf => exact isWithin_ofFailure n f
  · exact fun doc hdoc => by cases hdoc

end Invest

end Crowdlending.Http

namespace Crowdlending.Rpc
open Platform Token Loan Decimal

/-- What a remote call is answered to be invested comes from an investment on a platform with the
same ledger. -/
theorem within_handleAt {n : ℕ} {s : Setup} {p : Platform} {call : Call}
    {openMethods : List String} {target : String} {header : Option String} {loan : ℕ}
    {amount : String}
    (h : ∀ p', p.Kept p' → ∀ who (loan : Int) reply,
      (investInLoan p' call.now who ⟨loan, amount⟩).result = .ok reply → reply.invested.scale ≤ n)
    {reply : Reply}
    (hreply : (handleAt s p call openMethods target header (.investInLoan loan amount)).result =
      .ok reply) :
    writtenPlaces ((reply.toDoc (.investInLoan loan amount)).textAt "invested_amount").toList ≤
      n := by
  have hkept := kept_identify s p call.now openMethods target header
  unfold handleAt at hreply
  split at hreply
  · cases hreply
  · next q who hq =>
      rw [hq] at hkept
      unfold Answer.ofOutcome at hreply
      split at hreply
      · next given hgiven =>
          cases hreply
          simp only [run, onRequest] at hgiven
          split at hgiven
          · cases hgiven
          · next id hid =>
              obtain ⟨i, hi, rfl⟩ := Result.map_eq_ok.mp hgiven
              change writtenPlaces ((Http.investedDoc _).textAt "invested_amount").toList ≤ n
              rw [Http.textAt_investedDoc, writtenPlaces_text]
              exact h q hkept who id i hi
      · cases hreply
      · cases hreply

end Crowdlending.Rpc

namespace Crowdlending.Platform
open Token Loan Decimal Text

/-- In whatever the platform holds, and in whatever it answers to an investment whose amount has no
more, there are `n` digits after the point at most. -/
structure Within (n : ℕ) (site : Http.Site) (p : Platform) : Prop where
  stored : ∀ d ∈ p.store.ledger.decimals, writtenPlaces d.text.toList ≤ n
  returned : ∀ now caller (r : InvestRequest), IsWrittenWithin n r.amount → ∀ reply,
    (p.investInLoan now caller r).result = .ok reply → writtenPlaces reply.invested.text.toList ≤ n
  web : ∀ call freshId r segment, Http.Route.ofPath r.path = .action (.investInLoan segment) →
    (∀ q, Http.readBody r InvestRequest.ofDoc = .ok q → IsWrittenWithin n q.amount) →
    ∀ response, (Http.handle site p call freshId r).result = .ok response → response.IsWithin n
  remote : ∀ call openMethods target header loan amount, IsWrittenWithin n amount → ∀ reply,
    (Rpc.handleAt site.setup p call openMethods target header (.investInLoan loan amount)).result =
      .ok reply →
    writtenPlaces
      ((reply.toDoc (.investInLoan loan amount)).textAt "invested_amount").toList ≤ n

theorem within_of_scale {n : ℕ} {site : Http.Site} {p : Platform}
    (hids : (p.store.ledger.loans.map Loan.id).Nodup)
    (h : ∀ d ∈ p.store.ledger.decimals, d.scale ≤ n) : Within n site p := by
  have hinvest : ∀ p', p.Kept p' → ∀ now who (r : InvestRequest), IsWrittenWithin n r.amount →
      ∀ reply, (p'.investInLoan now who r).result = .ok reply → reply.invested.scale ≤ n := by
    intro p' hkept now who r hr reply hreply
    rw [← hkept.ledger] at hids h
    exact invested_of_investInLoan (isAdditive_scale n) hids h (gives_scale hr) hreply
  constructor
  case stored =>
    intro d hd
    rw [writtenPlaces_text]
    exact h d hd
  case returned =>
    intro now caller r hr reply hreply
    rw [writtenPlaces_text]
    exact hinvest p (.refl p) now caller r hr reply hreply
  case web =>
    intro call freshId r segment hroute hbody response hresponse
    exact Http.isWithin_handle site hroute (fun p' hkept who q hq loan reply =>
      hinvest p' hkept call.now who { q with loan } (hbody q hq) reply) hresponse
  case remote =>
    intro call openMethods target header loan amount hamount reply hreply
    exact Rpc.within_handleAt (fun p' hkept who loan reply =>
      hinvest p' hkept call.now who ⟨loan, amount⟩ hamount reply) hreply

/-- After every run, whatever the ledger holds and whatever an investment is answered with has two
places that count at most. If no text of the run has more than `n` digits after its point, what the
ledger holds and what an investment is answered with is written with no more, by both ways in. -/
theorem places_of_run (site : Http.Site) (capacity : ℕ) (actions : List Action) :
    let p := (start capacity).run site.setup actions
    (∀ d ∈ p.store.ledger.decimals, HasTwoPlaces d.value) ∧
      (∀ now caller r reply, (p.investInLoan now caller r).result = .ok reply →
        HasTwoPlaces reply.invested.value) ∧
      ∀ n, (∀ a ∈ actions, ∀ text ∈ a.texts, IsWrittenWithin n text) → Within n site p := by
  intro p
  have hstart : (start capacity).store.ledger.Reachable := Relation.ReflTransGen.refl
  have hnone {P : Decimal → Prop} : ∀ d ∈ (start capacity).store.ledger.decimals, P d :=
    fun d hd => by cases hd
  have hids := (reachable_start site.setup capacity actions).numbered.nodup
  have hplaces := decimals_of_run (isAdditive_significantPlaces moneyPlaces) site.setup hstart hnone
    fun (a : Action) (_ : a ∈ actions) text _ => gives_significantPlaces text
  refine ⟨fun d hd => (hasTwoPlaces_iff d).mpr (hplaces d hd), fun now caller r reply hreply => ?_,
    fun n hactions => ?_⟩
  · exact (hasTwoPlaces_iff _).mpr (invested_of_investInLoan
      (isAdditive_significantPlaces moneyPlaces) hids hplaces (gives_significantPlaces _) hreply)
  · exact within_of_scale hids (decimals_of_run (isAdditive_scale n) site.setup hstart hnone
      fun a ha text htext => gives_scale (hactions a ha text htext))

/-- Only whole numbers are sent, and only whole numbers are held. -/
theorem places_of_partlyFunded :
    (∀ a ∈ partlyFunded, ∀ text ∈ a.texts, IsWrittenWithin 0 text) ∧
      Within 0 ⟨bareSetup, fun _ => ""⟩ ((start 4).run bareSetup partlyFunded) ∧
      ∃ d ∈ (ledgerAfter bareSetup 4 partlyFunded).decimals, d.text = "1000" ∧
        HasTwoPlaces d.value := by
  have hwhole : ∀ a ∈ partlyFunded, ∀ text ∈ a.texts, IsWrittenWithin 0 text := by
    simp [partlyFunded, Action.texts, LoanRequest.texts, IsWrittenWithin, IsMark, trimChars,
      isBlank, writtenPlaces]
  obtain ⟨hvalues, -, hwithin⟩ := places_of_run ⟨bareSetup, fun _ => ""⟩ 4 partlyFunded
  have hinvested : ∃ d ∈ (ledgerAfter bareSetup 4 partlyFunded).decimals, d.text = "1000" := by
    decide +kernel
  obtain ⟨d, hd, htext⟩ := hinvested
  exact ⟨hwhole, hwithin 0 hwhole, d, hd, htext, hvalues d hd⟩

/-- User 1 proposes a loan of 1500, and user 2 approves it. -/
def beforeInvestment : List Action := partlyFunded.take 2

/-- Zeros after the last digit that counts are kept and told. -/
theorem three_places_of_zeros :
    let o := ((start 4).run bareSetup beforeInvestment).investInLoan (clock 3)
      (some (sampleUser 3 .investor)) ⟨1, "1000.500"⟩
    (∃ d ∈ o.platform.store.ledger.decimals, d.text = "1000.500") ∧
      ∃ reply, o.result = .ok reply ∧ reply.invested.text = "1000.500" ∧
        writtenPlaces reply.invested.text.toList = 3 := by
  intro o
  have hstored : ∃ d ∈ o.platform.store.ledger.decimals, d.text = "1000.500" := by decide +kernel
  have htext : (Decimal.text ⟨1000500, 3, by decide, by decide⟩) = "1000.500" := by decide +kernel
  exact ⟨hstored, _, rfl, htext, writtenPlaces_text _⟩

end Crowdlending.Platform
