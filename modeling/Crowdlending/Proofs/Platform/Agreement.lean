import Crowdlending.Proofs.Http.Errand
import Crowdlending.Proofs.Platform.Arrival
import Crowdlending.Proofs.Platform.Turns
import Crowdlending.Proofs.Token.Genuine

/-!
# Both ways lead to the same

An errand that is done by the gateway and by a remote call, at the same time and on the
same platform, leaves the same loans, accounts, events and mails, and is answered alike:
with the same fields, or with a code and the status that tells the same as this code.

Both ways verify the authorization value by the same keys, so they let in the same callers.
If the keys come from an endpoint that is out of reach, the gateway owns to a failure of its own,
and a remote call puts it down to the token; the two are compared where that does not happen.
Without a value a remote call is turned away at once, unless its method is open; the
gateway lets it in without a caller, and the operation turns it away with the same code.
What a remote call tells of a fault in a token is less than what the gateway counts it as,
but the code is the same. Numbers of loans and accounts are sent without a sign, and
lose nothing by it, for they are counted from one.
-/
namespace Crowdlending.Outcome

theorem done_andThen {α β : Type} (p : Platform) (a : α) (f : Platform → α → Outcome β) :
    (Outcome.done p a).andThen f = f p a := by
  simp only [Outcome.andThen, Outcome.done, Nat.zero_add]

theorem failed_andThen {α β : Type} (p : Platform) (g : Failure) (f : Platform → α → Outcome β) :
    (Outcome.failed p g : Outcome α).andThen f = .failed p g := rfl

/-- Two ways to write a result come to the same if they do for the result that there is. -/
theorem map_eq_map_map {α β γ : Type} {o : Outcome α} {f : α → γ} {g : α → β} {h : β → γ}
    (hsame : ∀ a, o.result = .ok a → f a = h (g a)) : o.map f = (o.map g).map h := by
  unfold Outcome.map
  cases hresult : o.result with
  | error e => rfl
  | ok a => simp only [Except.map, hsame a hresult]

end Crowdlending.Outcome

namespace Crowdlending.Rpc

theorem readId_of_le {n : ℕ} (h : n ≤ Number.maxI64) : readId n = .ok (n : Int) := if_pos h

theorem sentId_of_nonneg {n : Int} (h : 0 ≤ n) : (sentId n : Int) = n := Int.toNat_of_nonneg h

end Crowdlending.Rpc

namespace Crowdlending.Platform
open Token Account Loan Http

/-! ## Who is let in -/

/-- What the authorization value lets through, on both ways. A remote call does not tell why nobody
is let through, whether it was for a fault of the token or for want of keys. -/
theorem arrival_cases (s : Setup) (p : Platform) (now : Moment) (openMethods : List String)
    (target : String) (authorization : Option String) :
    (authorization = none ∧ Http.caller s p now authorization = .done p none ∧
      ((Rpc.identify s p now openMethods target authorization = (p, .ok none)) ∨
        Rpc.identify s p now openMethods target authorization = (p, .error .unauthenticated))) ∨
    ∃ value q, authorization = some value ∧ p.Kept q ∧
      ((∃ f, credential? s p now authorization = none ∧
        (IsDecided s p now authorization → ∃ fault, f = .token fault) ∧
        Http.caller s p now authorization = .failed q f ∧
        Rpc.identify s p now openMethods target authorization = (q, .error .unauthenticated)) ∨
      ∃ c, credential? s p now authorization = some c ∧
        Http.caller s p now authorization = .done q (some c) ∧
        Rpc.identify s p now openMethods target authorization = (q, .ok (some c))) := by
  cases authorization with
  | none =>
      refine .inl ⟨rfl, rfl, ?_⟩
      unfold Rpc.identify
      dsimp only
      split
      · exact .inl rfl
      · exact .inr rfl
  | some value =>
      refine .inr ?_
      cases htoken : presented value with
      | error fault =>
          refine ⟨value, p, rfl, .refl p, .inl ⟨.token fault, ?_, fun _ => ⟨fault, rfl⟩, ?_, ?_⟩⟩
          · simp only [credential?, Option.bind_some, htoken]
          · simp only [Http.caller, htoken]
          · simp only [Rpc.identify, htoken]
      | ok token =>
          have hkept := kept_verify s p now .access token
          obtain ⟨source, -, hoverall⟩ := p.verify_eq s now .access token
          cases hverify : Token.verify s.scheme (p.findKey s now) s.issuers now.seconds .access
              token with
          | error f =>
              rw [hverify] at hoverall
              refine ⟨value, _, rfl, hkept,
                .inl ⟨f, ?_, fun h => h value token f rfl htoken hverify, ?_, ?_⟩⟩
              · rw [credential?_of_presented htoken, hverify]
                rfl
              · simp only [Http.caller, htoken, hoverall]
                rfl
              · simp only [Rpc.identify, htoken, hoverall]
                rfl
          | ok c =>
              rw [hverify] at hoverall
              refine ⟨value, _, rfl, hkept, .inr ⟨c, ?_, ?_, ?_⟩⟩
              · rw [credential?_of_presented htoken, hverify]
                rfl
              · simp only [Http.caller, htoken, hoverall]
                rfl
              · simp only [Rpc.identify, htoken, hoverall]
                rfl

/-! ## What is counted from one -/

structure Counted (p : Platform) : Prop where
  loans : 0 ≤ p.store.ledger.lastLoan
  users : p.users.Counted

theorem counted_play (s : Setup) (capacity : ℕ) (source : KeySource) (turns : List Turn) :
    ((Journal.start capacity source).play s turns).platform.Counted := by
  constructor
  · exact (Journal.sound_play (sound_start capacity source) turns).ledger.numbered.lastLoan
  · refine Journal.play_induct s (motive := fun j => j.platform.users.Counted)
      Directory.counted_empty (fun j t hj => ?_) turns
    rcases t.users_step s j.platform with hsame | hstep
    · exact hsame ▸ hj
    · exact hj.step hstep

theorem Counted.of_kept {p q : Platform} (h : p.Counted) (hkept : p.Kept q) : q.Counted := by
  constructor
  · rw [hkept.ledger]
    exact h.loans
  · rw [hkept.users]
    exact h.users

/-- A loan call is always answered, if only with its failure. -/
theorem failure_of_perform {p : Platform} {now : Moment} {who : Option Claims} {r : LoanRequest}
    {a : Abort} (h : (r.perform p now who).result = .error a) : ∃ f, a = .failure f := by
  cases hcheck : r.check who with
  | error f =>
      rw [perform_of_refused hcheck] at h
      cases h
      exact ⟨f, rfl⟩
  | ok o =>
      rw [(perform_of_checked hcheck).2] at h
      cases hexecute : (o.execute p.store now).2 with
      | error f =>
          rw [hexecute] at h
          cases h
          exact ⟨f, rfl⟩
      | ok reply =>
          rw [hexecute] at h
          cases h

section Answers
variable {p : Platform} {now : Moment} {who : Option Claims}

theorem loan_of_createLoan {q : CreateRequest} {b : Proposal}
    (h : (p.createLoan now who q).result = .ok b) : b.loan = p.store.ledger.lastLoan + 1 := by
  unfold createLoan at h
  split at h <;> cases h
  rfl

theorem loan_of_approveLoan {q : ApproveRequest} {b : Proposal}
    (h : (p.approveLoan now who q).result = .ok b) : b.loan = q.loan := by
  unfold approveLoan at h
  split at h
  · cases h
  · obtain ⟨l, -, rfl⟩ := Result.map_eq_ok.mp h
    rfl

theorem loan_of_investInLoan {q : InvestRequest} {b : Platform.Invested}
    (h : (p.investInLoan now who q).result = .ok b) : b.loan = q.loan := by
  unfold investInLoan at h
  split at h
  · cases h
  · unfold Outcome.andThen at h
    split at h <;> cases h
    rfl

theorem loan_of_disburseLoan {q : DisburseRequest} {b : Proposal}
    (h : (p.disburseLoan now who q).result = .ok b) : b.loan = q.loan := by
  unfold disburseLoan at h
  split at h
  · cases h
  · obtain ⟨l, -, rfl⟩ := Result.map_eq_ok.mp h
    rfl

theorem user_of_closeAccount {b : Closed} (h : (p.closeAccount who).result = .ok b) :
    b.user ∈ p.users.ids := by
  rcases closeAccount_cases p who with ⟨f, hfailed⟩ | ⟨c, users, u, -, hclose, hdone⟩
  · rw [hfailed] at h
    cases h
  · rw [hdone] at h
    cases h
    exact Directory.mem_ids_of_close hclose

end Answers

end Crowdlending.Platform

namespace Crowdlending.Http

/-- At the address of an action, whoever is let in is served. -/
theorem respond_of_action {r : Request} {a : Action} (hmethod : r.method = "POST")
    (hroute : Route.ofPath r.path = .action a) (site : Site) (p : Platform) (call : Call) :
    respond site p call r (Route.ofPath r.path) =
      (caller site.setup p call.now r.authorization).andThen fun p who =>
        act site.setup p call r who a := by
  have hallowed : ((Route.action a).methods.contains r.method || Route.action a == .unknown) =
      true := by
    rw [hmethod]
    rfl
  rw [hroute, respond]
  simp only [hallowed, if_true, Route.isGuarded]
  rfl

theorem handle_of_respond {site : Site} {p : Platform} {call : Call} {freshId : String}
    {r : Request} {o : Outcome Response} (h : respond site p call r (Route.ofPath r.path) = o) :
    handle site p call freshId r =
      ⟨o.platform, .ok (finish r freshId (Route.ofPath r.path) o), o.waited⟩ := by
  simp only [handle, h]

end Crowdlending.Http

namespace Crowdlending.Errand
open Platform Token Account Loan Http

/-! ## One operation behind both ways -/

/-- The status with which the gateway answers an errand that is done. -/
def status : Errand → ℕ
  | create _ => 201
  | _ => 200

/-- The response that has the fields of the reply. -/
def response (e : Errand) (reply : Rpc.Reply) : Response := .ofDoc e.status (reply.toDoc e.message)

/-- What an errand comes to on the platform. -/
def outcome (e : Errand) (p : Platform) (call : Call) (who : Option Claims) : Outcome Rpc.Reply :=
  match e with
  | close => (p.closeAccount who).map .closed
  | create principal => (p.createLoan call.now who ⟨principal⟩).map .proposal
  | approve loan proofLink interestRate roi =>
      (p.approveLoan call.now who ⟨loan, proofLink, interestRate, roi⟩).map .proposal
  | invest loan amount => (p.investInLoan call.now who ⟨loan, amount⟩).map .invested
  | disburse loan agreementLink =>
      (p.disburseLoan call.now who ⟨loan, agreementLink⟩).map .proposal

section Run
variable {e : Errand} {r : Request} {p : Platform} {call : Call} {who : Option Claims}

theorem isAction_of_isAddressed (h : e.IsAddressed r) :
    ∃ a, Route.ofPath r.path = .action a := by
  obtain ⟨-, h⟩ := h
  cases e with
  | close => exact ⟨_, h⟩
  | create principal => exact ⟨_, h⟩
  | approve loan proofLink interestRate roi => exact ⟨_, h.choose_spec.1⟩
  | invest loan amount => exact ⟨_, h.choose_spec.1⟩
  | disburse loan agreementLink => exact ⟨_, h.choose_spec.1⟩

/-- A remote call for an errand loses nothing of the number of its loan. -/
theorem run_message (s : Setup) (hfits : e.Fits) :
    Rpc.run s p call who e.message = e.outcome p call who := by
  cases e with
  | close => rfl
  | create principal => rfl
  | approve loan proofLink interestRate roi =>
      simp only [message, Rpc.run, Rpc.readId_of_le (hfits loan rfl)]
      rfl
  | invest loan amount =>
      simp only [message, Rpc.run, Rpc.readId_of_le (hfits loan rfl)]
      rfl
  | disburse loan agreementLink =>
      simp only [message, Rpc.run, Rpc.readId_of_le (hfits loan rfl)]
      rfl

/-- The gateway does the same, and writes the reply into the body. -/
theorem serve_eq_outcome (site : Site) (hcounted : p.Counted) (haddressed : e.IsAddressed r)
    (hstated : e.IsStated r) :
    serve site p call r who (Route.ofPath r.path) = (e.outcome p call who).map e.response := by
  obtain ⟨-, hroute⟩ := haddressed
  cases e with
  | close =>
      have hroute : Route.ofPath r.path = .action .closeAccount := hroute
      rw [hroute]
      refine Outcome.map_eq_map_map fun b hb => ?_
      have huser := hcounted.users.pos _ (user_of_closeAccount hb)
      simp only [response, status, Rpc.Reply.toDoc, Rpc.sentId_of_nonneg huser.le]
  | create principal =>
      have hroute : Route.ofPath r.path = .action .createLoan := hroute
      have hbody : readBody r CreateRequest.ofDoc = .ok ⟨principal⟩ := hstated
      rw [hroute]
      simp only [serve, act, answer, hbody]
      refine Outcome.map_eq_map_map fun b hb => ?_
      have hloan : 0 ≤ b.loan := by
        rw [loan_of_createLoan hb]
        exact Int.add_nonneg hcounted.loans Int.one_nonneg
      simp only [response, status, message, Rpc.Reply.toDoc, Rpc.Message.dateField,
        Rpc.sentId_of_nonneg hloan]
  | approve loan proofLink interestRate roi =>
      obtain ⟨segment, hroute, hread⟩ := hroute
      obtain ⟨named, hbody⟩ := hstated
      rw [hroute]
      simp only [serve, act, onLoan, hread, answer, hbody]
      refine Outcome.map_eq_map_map fun b hb => ?_
      have hloan : 0 ≤ b.loan := loan_of_approveLoan hb ▸ Int.natCast_nonneg loan
      simp only [response, status, message, Rpc.Reply.toDoc, Rpc.Message.dateField,
        Rpc.sentId_of_nonneg hloan]
  | invest loan amount =>
      obtain ⟨segment, hroute, hread⟩ := hroute
      obtain ⟨named, hbody⟩ := hstated
      rw [hroute]
      simp only [serve, act, onLoan, hread, answer, hbody]
      refine Outcome.map_eq_map_map fun b hb => ?_
      have hloan : 0 ≤ b.loan := loan_of_investInLoan hb ▸ Int.natCast_nonneg loan
      simp only [response, status, Rpc.Reply.toDoc, Rpc.sentId_of_nonneg hloan]
  | disburse loan agreementLink =>
      obtain ⟨segment, hroute, hread⟩ := hroute
      obtain ⟨named, hbody⟩ := hstated
      rw [hroute]
      simp only [serve, act, onLoan, hread, answer, hbody]
      refine Outcome.map_eq_map_map fun b hb => ?_
      have hloan : 0 ≤ b.loan := loan_of_disburseLoan hb ▸ Int.natCast_nonneg loan
      simp only [response, status, message, Rpc.Reply.toDoc, Rpc.Message.dateField,
        Rpc.sentId_of_nonneg hloan]

/-- An errand never stops the service. -/
theorem failure_of_outcome {a : Abort} (h : (e.outcome p call who).result = .error a) :
    ∃ f, a = .failure f := by
  cases e with
  | close =>
      have hclose : (p.closeAccount who).result = .error a := Result.map_eq_error.mp h
      rcases closeAccount_cases p who with ⟨f, hfailed⟩ | ⟨c, users, u, -, -, hdone⟩
      · rw [hfailed] at hclose
        cases hclose
        exact ⟨f, rfl⟩
      · rw [hdone] at hclose
        cases hclose
  | create principal =>
      exact failure_of_perform (r := .create ⟨principal⟩)
        (Result.map_eq_error.mpr (Result.map_eq_error.mp h))
  | approve loan proofLink interestRate roi =>
      exact failure_of_perform (r := .approve ⟨loan, proofLink, interestRate, roi⟩)
        (Result.map_eq_error.mpr (Result.map_eq_error.mp h))
  | invest loan amount =>
      exact failure_of_perform (r := .invest ⟨loan, amount⟩)
        (Result.map_eq_error.mpr (Result.map_eq_error.mp h))
  | disburse loan agreementLink =>
      exact failure_of_perform (r := .disburse ⟨loan, agreementLink⟩)
        (Result.map_eq_error.mpr (Result.map_eq_error.mp h))

/-- Nobody may do an errand. -/
theorem outcome_of_nobody : e.outcome p call none = .failed p .unauthenticated := by
  cases e <;> rfl

end Run

/-! ## Agreement -/

/-- The response tells what the remote call is answered with: the fields of its reply, or a failure
with its code. -/
def IsToldBy (e : Errand) (response : Response) : Except Rpc.Status Rpc.Reply → Prop
  | .ok reply => response.status = e.status ∧ response.body = .json (reply.toDoc e.message)
  | .error status => response.status = status.code.httpStatus ∧
      ∃ f : Failure, f.code = status.code ∧ response.body = (Response.ofFailure f).body

/-- The request and the remote call leave the same behind, and are answered alike. -/
structure Agree (e : Errand) (web : Outcome Response) (remote : Rpc.Answer) : Prop where
  store : web.platform.store = remote.platform.store
  users : web.platform.users = remote.platform.users
  queue : web.platform.queue = remote.platform.queue
  outbox : web.platform.outbox = remote.platform.outbox
  answer : ∃ response, web.result = .ok response ∧ e.IsToldBy response remote.result

section Agree
variable {e : Errand} {r : Request} {site : Site} {p q : Platform} {call : Call}
  {freshId target : String} {openMethods : List String} {authorization : Option String}

/-- At an address of an errand, whoever is let in is served. -/
theorem respond_of_isAddressed (h : e.IsAddressed r) (site : Site) (p : Platform) (call : Call) :
    respond site p call r (Route.ofPath r.path) =
      (Http.caller site.setup p call.now r.authorization).andThen fun p who =>
        serve site p call r who (Route.ofPath r.path) := by
  obtain ⟨a, ha⟩ := isAction_of_isAddressed h
  rw [respond_of_action h.1 ha, ha]
  rfl

/-- Who is let in and what is asked for decide all that follows; how the request says it does
not. -/
theorem respond_eq_outcome (hcounted : p.Counted) (hasked : e.IsAskedBy r) (site : Site)
    (call : Call) :
    respond site p call r (Route.ofPath r.path) =
      (Http.caller site.setup p call.now r.authorization).andThen fun p who =>
        (e.outcome p call who).map e.response := by
  have hkept := hcounted.of_kept (kept_caller site.setup p call.now r.authorization)
  rw [respond_of_isAddressed hasked.1, Outcome.andThen, Outcome.andThen]
  split
  · rfl
  · rw [serve_eq_outcome site hkept hasked.1 hasked.2]

/-- The same outcome, told by both ways. -/
theorem agree_of_outcome {o : Outcome Rpc.Reply}
    (hfail : ∀ a, o.result = .error a → ∃ f, a = .failure f)
    (h : respond site p call r (Route.ofPath r.path) = o.map e.response) :
    e.Agree (Http.handle site p call freshId r) (.ofOutcome o) := by
  rw [handle_of_respond h]
  obtain ⟨q, result, waited⟩ := o
  cases result with
  | ok reply => exact ⟨rfl, rfl, rfl, rfl, _, rfl, rfl, rfl⟩
  | error a =>
      obtain ⟨f, rfl⟩ := hfail a rfl
      exact ⟨rfl, rfl, rfl, rfl, _, rfl, rfl, f, rfl, rfl⟩

theorem agree_of_failed {f : Failure} {status : Rpc.Status} (hcode : f.code = status.code)
    (h : respond site p call r (Route.ofPath r.path) = .failed q f) :
    e.Agree (Http.handle site p call freshId r) ⟨q, .error status, 0⟩ := by
  rw [handle_of_respond h]
  exact ⟨rfl, rfl, rfl, rfl, _, rfl, congrArg RpcCode.httpStatus hcode, f, hcode, rfl⟩

/-- What the remote call does, the request must not refuse. -/
theorem not_agree_of_status {web : Outcome Response} {remote : Rpc.Answer} {response : Response}
    {reply : Rpc.Reply} (hweb : web.result = .ok response) (hremote : remote.result = .ok reply)
    (hstatus : response.status ≠ e.status) : ¬e.Agree web remote := by
  intro hagree
  obtain ⟨told, htold, hsame⟩ := hagree.answer
  rw [hweb] at htold
  cases htold
  rw [hremote] at hsame
  exact hstatus hsame.1

/-- An errand that is asked for by both ways, with the same authorization value. -/
theorem agree_of_isAskedBy (hcounted : p.Counted) (hasked : e.IsAskedBy r)
    (hauthorization : r.authorization = authorization)
    (hdecided : IsDecided site.setup p call.now authorization) :
    e.Agree (Http.handle site p call freshId r)
      (Rpc.handleAt site.setup p call openMethods target authorization e.message) := by
  have hfits := fits_of_isAddressed hasked.1
  have hrespond := respond_eq_outcome hcounted hasked site call
  rw [hauthorization] at hrespond
  rcases arrival_cases site.setup p call.now openMethods target authorization with
    ⟨-, hcaller, hidentify⟩ | ⟨value, q, -, -, hcases⟩
  · rw [hcaller, Outcome.done_andThen] at hrespond
    rcases hidentify with hidentify | hidentify
    · simp only [Rpc.handleAt, hidentify, run_message _ hfits]
      exact agree_of_outcome (fun _ => failure_of_outcome) hrespond
    · -- The remote call is not run, and at the gateway nobody may do an errand.
      rw [outcome_of_nobody] at hrespond
      simp only [Rpc.handleAt, hidentify]
      exact agree_of_failed rfl hrespond
  · rcases hcases with ⟨f, -, hfault, hcaller, hidentify⟩ | ⟨c, -, hcaller, hidentify⟩
    · obtain ⟨fault, rfl⟩ := hfault hdecided
      rw [hcaller, Outcome.failed_andThen] at hrespond
      simp only [Rpc.handleAt, hidentify]
      exact agree_of_failed rfl hrespond
    · rw [hcaller, Outcome.done_andThen] at hrespond
      simp only [Rpc.handleAt, hidentify, run_message _ hfits]
      exact agree_of_outcome (fun _ => failure_of_outcome) hrespond

/-- Two requests for an errand, with the same authorization value, are one. -/
theorem handle_eq_of_isAskedBy {r' : Request} (hcounted : p.Counted) (h : e.IsAskedBy r)
    (h' : e.IsAskedBy r') (hauthorization : r.authorization = r'.authorization)
    (hrequestId : r.requestId = r'.requestId) :
    Http.handle site p call freshId r = Http.handle site p call freshId r' := by
  have hrespond : respond site p call r (Route.ofPath r.path) =
      respond site p call r' (Route.ofPath r'.path) := by
    rw [respond_eq_outcome hcounted h, respond_eq_outcome hcounted h', hauthorization]
  have hmethods : (Route.ofPath r.path).methods = (Route.ofPath r'.path).methods := by
    obtain ⟨a, ha⟩ := isAction_of_isAddressed h.1
    obtain ⟨a', ha'⟩ := isAction_of_isAddressed h'.1
    rw [ha, ha']
    rfl
  have hmethod : r.method = r'.method := h.1.1.trans h'.1.1.symm
  simp only [Http.handle, hrespond, finish, hrequestId, hmethods, hmethod]

/-! ## Requests that name no loan -/

theorem serve_of_isMisnumbered {who : Option Claims} (site : Site) (p : Platform) (call : Call)
    (haddressed : e.IsAddressed r) (hloan : e.loan?.isSome = true) (h : IsMisnumbered r) :
    ∃ fault, serve site p call r who (Route.ofPath r.path) = .failed p (.input fault) := by
  obtain ⟨-, hroute⟩ := haddressed
  cases e with
  | close => cases hloan
  | create principal => cases hloan
  | approve loan proofLink interestRate roi =>
      obtain ⟨segment, hroute, hread⟩ := hroute
      obtain ⟨fault, hbody⟩ : ∃ fault, readBody r ApproveRequest.ofDoc = .error (.input fault) :=
        readBody_of_misnumbered h (approve loan proofLink interestRate roi) fun _ => rfl
      refine ⟨fault, ?_⟩
      simp only [hroute, serve, act, onLoan, hread, answer, hbody]
  | invest loan amount =>
      obtain ⟨segment, hroute, hread⟩ := hroute
      obtain ⟨fault, hbody⟩ : ∃ fault, readBody r InvestRequest.ofDoc = .error (.input fault) :=
        readBody_of_misnumbered h (invest loan amount) fun _ => rfl
      refine ⟨fault, ?_⟩
      simp only [hroute, serve, act, onLoan, hread, answer, hbody]
  | disburse loan agreementLink =>
      obtain ⟨segment, hroute, hread⟩ := hroute
      obtain ⟨fault, hbody⟩ : ∃ fault, readBody r DisburseRequest.ofDoc = .error (.input fault) :=
        readBody_of_misnumbered h (disburse loan agreementLink) fun _ => rfl
      refine ⟨fault, ?_⟩
      simp only [hroute, serve, act, onLoan, hread, answer, hbody]

/-- The request changes nothing. It is turned away for its authorization value if this is invalid,
and else for its body. -/
structure IsTurnedAway (s : Setup) (p : Platform) (now : Moment) (authorization : Option String)
    (web : Outcome Response) : Prop where
  kept : p.Kept web.platform
  answer : ∃ response, web.result = .ok response ∧ response.status =
    if authorization.isSome ∧ credential? s p now authorization = none then 401 else 400

theorem isTurnedAway_of_failed {f : Failure} (hkept : p.Kept q)
    (h : respond site p call r (Route.ofPath r.path) = .failed q f)
    (hstatus : f.httpStatus =
      if authorization.isSome ∧ credential? site.setup p call.now authorization = none then 401
      else 400) :
    IsTurnedAway site.setup p call.now authorization (Http.handle site p call freshId r) := by
  rw [handle_of_respond h]
  exact ⟨hkept, _, rfl, hstatus⟩

/-- Where the action refuses the request whoever asks, it changes nothing. -/
theorem isTurnedAway_of_refused {a : Http.Action} (hmethod : r.method = "POST")
    (hroute : Route.ofPath r.path = .action a)
    (hrefused : ∀ q who, ∃ fault, act site.setup q call r who a = .failed q (.input fault))
    (hauthorization : r.authorization = authorization)
    (hdecided : IsDecided site.setup p call.now authorization) :
    IsTurnedAway site.setup p call.now authorization (Http.handle site p call freshId r) := by
  have hrespond := respond_of_action hmethod hroute site p call
  rw [hauthorization] at hrespond
  rcases arrival_cases site.setup p call.now [] "" authorization with
    ⟨rfl, hcaller, -⟩ | ⟨value, q, rfl, hkept, hcases⟩
  · obtain ⟨fault, hact⟩ := hrefused p none
    rw [hcaller, Outcome.done_andThen, hact] at hrespond
    exact isTurnedAway_of_failed (.refl p) hrespond rfl
  · rcases hcases with ⟨f, hnobody, hfault, hcaller, -⟩ | ⟨c, hcredential, hcaller, -⟩
    · obtain ⟨fault, rfl⟩ := hfault hdecided
      rw [hcaller, Outcome.failed_andThen] at hrespond
      exact isTurnedAway_of_failed hkept hrespond (by rw [hnobody]; rfl)
    · obtain ⟨fault, hact⟩ := hrefused q (some c)
      rw [hcaller, Outcome.done_andThen, hact] at hrespond
      exact isTurnedAway_of_failed hkept hrespond (by rw [hcredential]; rfl)

theorem isTurnedAway_of_isMisnumbered (haddressed : e.IsAddressed r)
    (hloan : e.loan?.isSome = true) (h : IsMisnumbered r)
    (hauthorization : r.authorization = authorization)
    (hdecided : IsDecided site.setup p call.now authorization) :
    IsTurnedAway site.setup p call.now authorization (Http.handle site p call freshId r) := by
  obtain ⟨a, ha⟩ := isAction_of_isAddressed haddressed
  refine isTurnedAway_of_refused haddressed.1 ha (fun q who => ?_) hauthorization hdecided
  obtain ⟨fault, hserve⟩ : ∃ fault, serve site q call r who (Route.ofPath r.path) =
      .failed q (.input fault) := serve_of_isMisnumbered site q call haddressed hloan h
  rw [ha] at hserve
  exact ⟨fault, hserve⟩

/-- Whatever happened before: an errand that is asked for by both ways, at the same time and with
the same authorization value, leaves the same behind and is answered alike, and on two requests for
it the gateway does the same. Every errand whose loan has a number that the gateway can read can be
written as a request, unless its texts are too long for a body, with any number of 64 bits for a
loan in the body, or none. A request that has anything else there is turned away. Where keys come
from an endpoint that is out of reach the answers may differ, but never among the published keys.
-/
theorem agree_of_asked (site : Site) (capacity : ℕ) (source : KeySource) (turns : List Turn)
    (call : Call) (freshId : String) (openMethods : List String) (target : String)
    (authorization : Option String) (e : Errand) :
    let p := ((Journal.start capacity source).play site.setup turns).platform
    (source = .published → IsDecided site.setup p call.now authorization) ∧
    (∀ r, e.IsAskedBy r → r.authorization = authorization →
      IsDecided site.setup p call.now authorization →
        e.Agree (Http.handle site p call freshId r)
          (Rpc.handleAt site.setup p call openMethods target authorization e.message)) ∧
    (∀ r r', e.IsAskedBy r → e.IsAskedBy r' → r.authorization = r'.authorization →
      r.requestId = r'.requestId →
        Http.handle site p call freshId r = Http.handle site p call freshId r') ∧
    (e.Fits → ∀ named : Option Int, (∀ n ∈ named, IsInt64 n) →
      (e.written authorization (named.map Json.Doc.int)).body.length ≤ mostBodyBytes →
        e.IsAskedBy (e.written authorization (named.map Json.Doc.int))) ∧
    ∀ r, e.IsAddressed r → e.loan?.isSome = true → IsMisnumbered r →
      r.authorization = authorization → IsDecided site.setup p call.now authorization →
        IsTurnedAway site.setup p call.now authorization (Http.handle site p call freshId r) := by
  intro p
  have hcounted := counted_play site.setup capacity source turns
  refine ⟨fun hsource => ?_, fun r hasked => agree_of_isAskedBy hcounted hasked,
    fun r r' h h' hsame hid => handle_eq_of_isAskedBy hcounted h h' hsame hid,
    fun hfits named hnamed hsize => ?_,
    fun r haddressed hloan h => isTurnedAway_of_isMisnumbered haddressed hloan h⟩
  · subst hsource
    exact isDecided_of_published (Journal.published_play rfl turns) call.now _
  · exact ⟨isAddressed_written hfits authorization _, isStated_written hnamed e authorization hsize⟩

end Agree

/-! ## A sample errand -/

def sealedSite : Site := ⟨sealedSetup, fun _ => ""⟩

/-- A loan of 1500 is proposed and approved. -/
def approvedLoan : Platform :=
  ((Journal.start 4).play sealedSetup
    [.loan (clock 1) (some (sampleUser 1 .borrower)) (.create ⟨"1500"⟩),
      .loan (clock 2) (some (sampleUser 2 .fieldValidator))
        (.approve ⟨1, "http://[::1]/proof", "12", "8"⟩)]).platform

theorem published_approvedLoan : approvedLoan.source = .published :=
  Journal.published_play rfl _

def investorValue : String := "Bearer " ++ sealedText (sampleUser 3 .investor)

def sampleInvestment : Errand := .invest 1 "1000"

theorem fits_sampleInvestment : sampleInvestment.Fits := by
  intro loan hloan
  cases hloan
  decide

theorem issued_investor :
    Issued sealedSetup (clock 3) (sampleUser 3 .investor)
      (sealedText (sampleUser 3 .investor)) := by
  have hclaims : (sampleUser 3 .investor).toDoc.print.utf8ByteSize ≤ 400 := by decide +kernel
  have huserId : IsInt64 (sampleUser 3 .investor).userId := by unfold IsInt64; decide
  have hexpiry : IsInt64 (sampleUser 3 .investor).expiry := by unfold IsInt64; decide
  exact issued_sealedText sealedSetup.hashCore hclaims huserId hexpiry (by decide) (by decide) rfl

/-- The request for the investment, with this document as number of the loan in its body. -/
def sampleRequest (named : Json.Doc) : Request :=
  sampleInvestment.written (some investorValue) (some named)

def webInvestment (named : Json.Doc) : Outcome Response :=
  Http.handle sealedSite approvedLoan ⟨clock 3, []⟩ "id" (sampleRequest named)

def remoteInvestment : Rpc.Answer :=
  Rpc.handleAt sealedSetup approvedLoan ⟨clock 3, []⟩ [] "/lending.v1.LoanService/InvestInLoan"
    (some investorValue) sampleInvestment.message

/-- The remote call is answered with what is invested now. -/
theorem invested_of_remoteInvestment :
    ∃ i, remoteInvestment.result = .ok (.invested i) ∧ i.loan = 1 ∧ i.invested.text = "1000" := by
  rw [remoteInvestment, investorValue,
    Rpc.handleAt_of_issued issued_investor rfl published_approvedLoan]
  exact ⟨_, rfl, rfl, by decide +kernel⟩

/-- The body names loan 7, the path loan 1. The investment is made in loan 1, as by the remote
call. -/
theorem agree_of_other_number :
    sampleInvestment.Fits ∧ sampleInvestment.IsAskedBy (sampleRequest (.int 7)) ∧
      sampleInvestment.Agree (webInvestment (.int 7)) remoteInvestment ∧
      ∃ i, remoteInvestment.result = .ok (.invested i) ∧ i.loan = 1 ∧ i.invested.text = "1000" := by
  obtain ⟨hdecided, hagree, -, hwritten, -⟩ := agree_of_asked sealedSite 4 .published
    [.loan (clock 1) (some (sampleUser 1 .borrower)) (.create ⟨"1500"⟩),
      .loan (clock 2) (some (sampleUser 2 .fieldValidator))
        (.approve ⟨1, "http://[::1]/proof", "12", "8"⟩)] ⟨clock 3, []⟩ "id" []
    "/lending.v1.LoanService/InvestInLoan" (some investorValue) sampleInvestment
  have hasked : sampleInvestment.IsAskedBy (sampleRequest (.int 7)) :=
    hwritten fits_sampleInvestment (some 7) (fun n hn => by cases hn; unfold IsInt64; decide)
      (by decide +kernel)
  exact ⟨fits_sampleInvestment, hasked, hagree _ hasked rfl (hdecided rfl),
    invested_of_remoteInvestment⟩

/-- The body names a loan by a text. The remote call succeeds all the same, and the request is
turned away. -/
theorem disagree_of_text_number :
    sampleInvestment.IsAddressed (sampleRequest (.ofText "abc")) ∧
      (∃ i, remoteInvestment.result = .ok (.invested i) ∧ i.loan = 1 ∧ i.invested.text = "1000") ∧
      (∃ response, (webInvestment (.ofText "abc")).result = .ok response ∧
        response.status = 400) ∧
      ¬sampleInvestment.Agree (webInvestment (.ofText "abc")) remoteInvestment := by
  have haddressed : sampleInvestment.IsAddressed (sampleRequest (.ofText "abc")) :=
    isAddressed_written fits_sampleInvestment _ _
  have hmisnumbered : IsMisnumbered (sampleRequest (.ofText "abc")) :=
    isMisnumbered_written _ _ (.text "abc") fun n hn => by cases hn
  have haway : IsTurnedAway sealedSite.setup approvedLoan (Call.now ⟨clock 3, []⟩)
      (some investorValue) (webInvestment (.ofText "abc")) :=
    isTurnedAway_of_isMisnumbered haddressed rfl hmisnumbered rfl
      (isDecided_of_published published_approvedLoan _ _)
  have hvalid : credential? sealedSite.setup approvedLoan (Call.now ⟨clock 3, []⟩)
      (some investorValue) = some (sampleUser 3 .investor) :=
    issued_investor.credential? rfl (knowsOwnKey_of_published published_approvedLoan _)
  obtain ⟨response, hresponse, hstatus⟩ := haway.answer
  have hstatus : response.status = 400 := by
    rw [hstatus, hvalid]
    exact if_neg fun h => Option.some_ne_none _ h.2
  obtain ⟨i, hremote, hi⟩ := invested_of_remoteInvestment
  refine ⟨haddressed, ⟨i, hremote, hi⟩, ⟨response, hresponse, hstatus⟩, ?_⟩
  refine not_agree_of_status hresponse hremote ?_
  rw [hstatus]
  decide

end Crowdlending.Errand
