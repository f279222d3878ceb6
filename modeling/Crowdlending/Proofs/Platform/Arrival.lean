import Crowdlending.Http.Gateway
import Crowdlending.Proofs.Platform.Authority
import Crowdlending.Proofs.Platform.Credential
import Crowdlending.Rpc.Service

/-!
# The two ways in

Requests come in by two ways: to the gateway, or as remote calls, where a list of
open methods tells which calls need no token. On both, the caller is known by the
authorization value alone, so whatever acts came with the access token of a user whose
role may do so, and acts in the name of this user. An open method makes no exception:
a call that it lets in without a value has no caller, and does nothing that needs one.
-/
namespace Crowdlending.Http
open Platform Token Json Account Loan

theorem kept_caller (s : Setup) (p : Platform) (now : Moment) (authorization : Option String) :
    p.Kept (caller s p now authorization).platform := by
  unfold caller
  split
  · exact .refl p
  · split
    · exact .refl p
    · exact kept_verify s p _ _ _

theorem caller_eq_ok {s : Setup} {p : Platform} {now : Moment} {authorization : Option String}
    {who : Option Claims} (h : (caller s p now authorization).result = .ok who) :
    who = credential? s p now authorization := by
  cases authorization with
  | none => cases h; rfl
  | some value =>
      simp only [caller] at h
      split at h
      · cases h
      · next token htoken =>
          obtain ⟨c, hc, rfl⟩ := Result.map_eq_ok.mp h
          rw [credential?_of_verify htoken hc]

section Act
variable (s : Setup) (p : Platform) (call : Call) (r : Request) (who : Option Claims)

/-- An answer acts as the operation does whose result it writes. -/
theorem actsAuthorized_answer {α β : Type} (read : Doc → Except Fault α) (status : ℕ)
    (write : β → Doc) {run : α → Outcome β} (h : ∀ a, ActsAuthorized who p (run a).platform) :
    ActsAuthorized who p (answer p r read status write run).platform := by
  unfold answer
  split
  · exact actsAuthorized_of_kept (.refl p)
  · exact h _

theorem actsAuthorized_onLoan (segment : String) {run : Int → Outcome Response}
    (h : ∀ loan, ActsAuthorized who p (run loan).platform) :
    ActsAuthorized who p (onLoan p segment run).platform := by
  unfold onLoan
  split
  · exact actsAuthorized_of_kept (.refl p)
  · exact h _

theorem actsAuthorized_act (a : Http.Action) :
    ActsAuthorized who p (act s p call r who a).platform := by
  cases a with
  | register =>
      exact actsAuthorized_answer _ _ _ _ _ _ fun q => actsAuthorized_register s p call who q
  | login =>
      exact actsAuthorized_answer _ _ _ _ _ _ fun q =>
        actsAuthorized_of_kept (kept_login s p call q)
  | refresh =>
      exact actsAuthorized_answer _ _ _ _ _ _ fun q =>
        actsAuthorized_of_kept (kept_refresh s p call q)
  | userExists =>
      exact actsAuthorized_answer _ _ _ _ _ _ fun q =>
        actsAuthorized_of_kept (kept_userExists s p q)
  | closeAccount => exact actsAuthorized_closeAccount p who
  | createLoan =>
      exact actsAuthorized_answer _ _ _ _ _ _ fun q =>
        actsAuthorized_loan p call.now who (.create q)
  | approveLoan segment =>
      exact actsAuthorized_onLoan _ _ _ fun loan => actsAuthorized_answer _ _ _ _ _ _ fun q =>
        actsAuthorized_loan p call.now who (.approve { q with loan })
  | investInLoan segment =>
      exact actsAuthorized_onLoan _ _ _ fun loan => actsAuthorized_answer _ _ _ _ _ _ fun q =>
        actsAuthorized_loan p call.now who (.invest { q with loan })
  | disburseLoan segment =>
      exact actsAuthorized_onLoan _ _ _ fun loan => actsAuthorized_answer _ _ _ _ _ _ fun q =>
        actsAuthorized_loan p call.now who (.disburse { q with loan })

end Act

theorem actsAuthorized_serve (site : Site) (p : Platform) (call : Call) (r : Request)
    (who : Option Claims) (route : Route) :
    ActsAuthorized who p (serve site p call r who route).platform := by
  cases route with
  | page page => exact actsAuthorized_of_kept (.refl p)
  | action a => exact actsAuthorized_act site.setup p call r who a
  | unknown => exact actsAuthorized_of_kept (.refl p)

theorem actsAuthorized_guarded (site : Site) (p : Platform) (call : Call) (r : Request)
    {route : Route} (hroute : route.isGuarded = true) :
    ActsAuthorized (credential? site.setup p call.now r.authorization) p
      (respond site p call r route).platform := by
  unfold respond
  rw [if_pos hroute]
  refine actsAuthorized_andThen (kept_caller ..) (fun w hw => caller_eq_ok hw) fun q => ?_
  split
  · exact actsAuthorized_serve site q call r _ route
  · exact actsAuthorized_of_kept (.refl q)

/-- A page is served to nobody, and all else to the one whom the authorization value stands
for. -/
theorem actsAuthorized_handle (site : Site) (p : Platform) (call : Call) (freshId : String)
    (r : Request) :
    ActsAuthorized (credential? site.setup p call.now r.authorization) p
      (handle site p call freshId r).platform := by
  -- Finishing the response leaves the platform as it is.
  change ActsAuthorized _ p (respond site p call r (Route.ofPath r.path)).platform
  cases Route.ofPath r.path with
  | page page =>
      have hsame : (respond site p call r (.page page)).platform = p := by
        simp only [respond, Route.isGuarded, Bool.false_eq_true, if_false, caller, Outcome.andThen,
          Outcome.done]
        split <;> rfl
      rw [hsame]
      exact actsAuthorized_of_kept (.refl p)
  | action a => exact actsAuthorized_guarded site p call r rfl
  | unknown => exact actsAuthorized_guarded site p call r rfl

end Crowdlending.Http

namespace Crowdlending.Rpc
open Platform Token Account Loan

/-- Answers a call that is sent to this target. -/
def handleAt (s : Setup) (p : Platform) (call : Call) (openMethods : List String)
    (target : String) (header : Option String) (m : Message) : Answer :=
  match identify s p call.now openMethods target header with
  | (p, .error status) => ⟨p, .error status, 0⟩
  | (p, .ok who) => .ofOutcome (run s p call who m)

theorem handle_eq_handleAt (s : Setup) (p : Platform) (call : Call) (openMethods : List String)
    (header : Option String) (m : Message) :
    handle s p call openMethods header m = handleAt s p call openMethods m.method header m := rfl

section Run
variable (s : Setup) (p : Platform) (call : Call) (who : Option Claims)

theorem actsAuthorized_onRequest {α β : Type} (request : Except Failure α) (reply : β → Reply)
    {run : α → Outcome β} (h : ∀ a, ActsAuthorized who p (run a).platform) :
    ActsAuthorized who p (onRequest p request reply run).platform := by
  unfold onRequest
  split
  · exact actsAuthorized_of_kept (.refl p)
  · exact h _

theorem actsAuthorized_run (m : Message) : ActsAuthorized who p (run s p call who m).platform := by
  cases m <;> rw [run]
  case register user =>
    exact actsAuthorized_onRequest _ _ _ _ fun q => actsAuthorized_register s p call who q
  case login r =>
    exact actsAuthorized_onRequest _ _ _ _ fun q => actsAuthorized_of_kept (kept_login s p call q)
  case refreshToken r =>
    exact actsAuthorized_onRequest _ _ _ _ fun q => actsAuthorized_of_kept (kept_refresh s p call q)
  case userExists r =>
    exact actsAuthorized_onRequest _ _ _ _ fun q => actsAuthorized_of_kept (kept_userExists s p q)
  case closeAccount => exact actsAuthorized_closeAccount p who
  case createLoan r =>
    exact actsAuthorized_onRequest _ _ _ _ fun q => actsAuthorized_loan p call.now who (.create q)
  case approveLoan loan proofLink interestRate roi =>
    exact actsAuthorized_onRequest _ _ _ _ fun loan =>
      actsAuthorized_loan p call.now who (.approve ⟨loan, proofLink, interestRate, roi⟩)
  case investInLoan loan amount =>
    exact actsAuthorized_onRequest _ _ _ _ fun loan =>
      actsAuthorized_loan p call.now who (.invest ⟨loan, amount⟩)
  case disburseLoan loan agreementLink =>
    exact actsAuthorized_onRequest _ _ _ _ fun loan =>
      actsAuthorized_loan p call.now who (.disburse ⟨loan, agreementLink⟩)

end Run

theorem kept_ofOutcome (o : Outcome Reply) : o.platform.Kept (Answer.ofOutcome o).platform := by
  unfold Answer.ofOutcome
  split
  · exact .refl _
  · exact kept_count _ _
  · exact .refl _

theorem kept_identify (s : Setup) (p : Platform) (now : Moment) (openMethods : List String)
    (target : String) (header : Option String) :
    p.Kept (identify s p now openMethods target header).1 := by
  unfold identify
  split
  · exact .refl p
  · split
    · exact .refl p
    · exact kept_verify s p _ _ _

/-- Whoever is let through is the one whom the authorization value stands for, on an open method
as on any other. -/
theorem identify_eq_ok {s : Setup} {p : Platform} {now : Moment} {openMethods : List String}
    {target : String} {header : Option String} {who : Option Claims}
    (h : (identify s p now openMethods target header).2 = .ok who) :
    who = credential? s p now header := by
  cases header with
  | none =>
      simp only [identify] at h
      split at h <;> cases h
      rfl
  | some value =>
      simp only [identify] at h
      split at h
      · cases h
      · next token htoken =>
          split at h
          · next c hc =>
              cases h
              rw [credential?_of_verify htoken hc]
          · cases h

/-- With a token that the platform issued, a call is run as its user's. -/
theorem handleAt_of_issued {s : Setup} {call : Call} {c : Claims} {token : String}
    (h : Issued s call.now c token) (hkind : c.kind = .access) {p : Platform}
    (hpublished : p.source = .published) (openMethods : List String) (target : String)
    (m : Message) :
    handleAt s p call openMethods target (some ("Bearer " ++ token)) m =
      .ofOutcome (run s (p.count (.validation true)) call (some c) m) := by
  have hverify : p.verify s call.now .access token = .done (p.count (.validation true)) c := by
    obtain ⟨source, hsource, hverify⟩ := p.verify_eq s call.now .access token
    have haccepts := h.verify_find (knowsOwnKey_of_published hpublished call.now)
    rw [hkind] at haccepts
    rw [hverify, haccepts, hsource hpublished, ← hpublished]
    rfl
  simp only [handleAt, identify, h.presented, hverify]
  rfl

theorem actsAuthorized_handleAt (s : Setup) (p : Platform) (call : Call)
    (openMethods : List String) (target : String) (header : Option String) (m : Message) :
    ActsAuthorized (credential? s p call.now header) p
      (handleAt s p call openMethods target header m).platform := by
  have hkept := kept_identify s p call.now openMethods target header
  unfold handleAt
  split
  · next q status hq =>
      rw [hq] at hkept
      exact actsAuthorized_of_kept hkept
  · next q who hq =>
      rw [hq] at hkept
      have hwho : who = credential? s p call.now header := identify_eq_ok (congrArg Prod.snd hq)
      rw [← hwho]
      exact (actsAuthorized_run s q call who m).of_kept hkept (kept_ofOutcome _)

end Crowdlending.Rpc

namespace Crowdlending.Platform
open Token Account Loan Access

/-- A request by either way in. A remote call is sent to any target. -/
inductive Arrival where
  | web (freshId : String) (r : Http.Request)
  | remote (openMethods : List String) (target : String) (header : Option String)
      (m : Rpc.Message)

namespace Arrival

def authorization : Arrival → Option String
  | web _ r => r.authorization
  | remote _ _ header _ => header

/-- What the platform is after the request. -/
def answered (site : Http.Site) (p : Platform) (call : Call) : Arrival → Platform
  | web freshId r => (Http.handle site p call freshId r).platform
  | remote openMethods target header m =>
      (Rpc.handleAt site.setup p call openMethods target header m).platform

end Arrival

theorem actsAuthorized_answered (site : Http.Site) (p : Platform) (call : Call) (a : Arrival) :
    ActsAuthorized (credential? site.setup p call.now a.authorization) p
      (a.answered site p call) := by
  cases a with
  | web freshId r => exact Http.actsAuthorized_handle site p call freshId r
  | remote openMethods target header m =>
      exact Rpc.actsAuthorized_handleAt site.setup p call openMethods target header m

/-- Whatever acts on the ledger or on an account came as `Bearer <token>` with the access token of
an authorised user, in whose name alone it acts. Any other request with the same value, at the same
time, acts in his name too, whatever else it says and whatever platform it finds. -/
theorem authorized_of_acts (site : Http.Site) (p : Platform) (call : Call) (a : Arrival)
    (h : Acts p (a.answered site p call)) :
    ∃ value c, a.authorization = some value ∧ PresentsAccess site.setup p call.now c value ∧
      InNameOf c p (a.answered site p call) ∧
      ∀ (q : Platform) (b : Arrival), b.authorization = some value →
        Acts q (b.answered site q call) → InNameOf c q (b.answered site q call) := by
  obtain ⟨c, hcredential, hname⟩ :=
    (actsAuthorized_answered site p call a).resolve_left (not_not.mpr h)
  obtain ⟨value, hvalue, hpresents⟩ := presentsAccess_of_credential? hcredential
  refine ⟨value, c, hvalue, hpresents, hname, fun q b hb hacts => ?_⟩
  obtain ⟨c', hcredential', hname'⟩ :=
    (actsAuthorized_answered site q call b).resolve_left (not_not.mpr hacts)
  -- The claims are read from the value itself, so they are the same for both requests.
  rw [hb, ← hvalue] at hcredential'
  obtain rfl := credential?_unique hcredential hcredential'
  exact hname'

/-- User 1 proposes a loan, by a method that is open. -/
def sealedProposal : Arrival :=
  .remote ["CreateLoan"] "/lending.v1.LoanService/CreateLoan" (some ("Bearer " ++ sealedToken))
    (.createLoan ⟨"1500"⟩)

theorem authorized_of_sealedProposal :
    Acts (start 4) (sealedProposal.answered ⟨sealedSetup, fun _ => ""⟩ (start 4) ⟨clock 1, []⟩) ∧
      ∃ c, PresentsAccess sealedSetup (start 4) (clock 1) c ("Bearer " ++ sealedToken) ∧
        InNameOf c (start 4)
          (sealedProposal.answered ⟨sealedSetup, fun _ => ""⟩ (start 4) ⟨clock 1, []⟩) := by
  have hacts : Acts (start 4)
      (sealedProposal.answered ⟨sealedSetup, fun _ => ""⟩ (start 4) ⟨clock 1, []⟩) := by
    rw [sealedProposal, Arrival.answered, Rpc.handleAt_of_issued issued_sealedToken rfl rfl]
    left
    intro h
    cases congrArg (fun g => g.loans.length) h
  obtain ⟨value, c, hvalue, hpresents, hname, -⟩ := authorized_of_acts _ _ _ _ hacts
  cases hvalue
  exact ⟨hacts, c, hpresents, hname⟩

end Crowdlending.Platform
