import Crowdlending.Proofs.Number.Numeral
import Crowdlending.Proofs.Platform.Agreement

/-!
# How failures are reported

At the address of an operation every answer is a success or the report of a failure, and the code
in the report tells the status. This holds for what goes wrong with the token, with the body, with
the arguments and in the stores. It does not hold for the number of a loan in the path: where a
caller who is let in writes there what is no number of 64 bits, the answer is a plain text.
-/
namespace Crowdlending.Failure

/-- The status by the code of a failure, without its cause. -/
def statusOf (code : String) : ℕ :=
  if ["VALIDATION_ERROR", "MALFORMED_EMAIL", "INVALID_USER_ID_TYPE",
    "INVALID_CREDENTIALS"].contains code then 400
  else if ["UNAUTHENTICATED", "INVALID_TOKEN"].contains code then 401
  else if ["PERMISSION_DENIED", "USER_NOT_ACTIVE"].contains code then 403
  else if ["NOT_FOUND", "USER_NOT_FOUND"].contains code then 404
  else if ["USER_ALREADY_EXISTS", "TRANSACTION_CONFLICT"].contains code then 409
  else if code = "INTERNAL_ERROR" then 500
  else 422

theorem statusOf_errorCode (f : Failure) : statusOf f.errorCode = f.httpStatus := by
  cases f <;> rfl

end Crowdlending.Failure

namespace Crowdlending.Http
open Platform Token Text Number

/-! ## Reports -/

def errorDoc (code message : String) : Json.Doc :=
  .ofMembers [("error", .ofMembers [("code", .ofText code), ("message", .ofText message)])]

def Response.IsSuccess (response : Response) : Prop :=
  200 ≤ response.status ∧ response.status < 300

/-- The body has a code and a message, and the status is that of all failures with the code. -/
structure Response.Reports (response : Response) (f : Failure) : Prop where
  contentType : response.contentType = some "application/json"
  body : response.body = .json (errorDoc f.errorCode f.clientMessage)
  status : ∀ g : Failure, g.errorCode = f.errorCode → response.status = g.httpStatus

section Finish
variable {r : Request} {freshId : String} {route : Route} {o : Outcome Response}
  {response : Response} {f : Failure}

theorem isSuccess_finish (h : o.result = .ok response) (hsuccess : response.IsSuccess) :
    (finish r freshId route o).IsSuccess := by
  simp only [finish, h]
  exact hsuccess

theorem reports_finish (h : o.result = .error (.failure f)) :
    (finish r freshId route o).Reports f := by
  simp only [finish, h]
  refine ⟨rfl, rfl, fun g hg => ?_⟩
  rw [← g.statusOf_errorCode, hg, f.statusOf_errorCode]
  rfl

/-- Where success alone is an answer, everything else is reported. -/
theorem answered_finish (hserved : o.result ≠ .error .dateOverflow)
    (hsuccess : ∀ response, o.result = .ok response → response.IsSuccess) :
    (finish r freshId route o).IsSuccess ∨ ∃ f, (finish r freshId route o).Reports f := by
  cases h : o.result with
  | ok response => exact .inl (isSuccess_finish h (hsuccess response h))
  | error e => cases e with
    | failure f => exact .inr ⟨f, reports_finish h⟩
    | dateOverflow => exact absurd h hserved

end Finish

/-! ## Loans in paths -/

/-- The segment stands for the number, in digits and with a sign at most, and it has 64 bits. -/
def NamesLoan (segment : String) (loan : Int) : Prop :=
  ∃ text, percentDecodeText? segment = some text ∧ WritesInt text.toList loan ∧ IsInt64 loan

theorem readLoanNumber_eq_ok_iff {segment : String} {loan : Int} :
    readLoanNumber segment = .ok loan ↔ NamesLoan segment loan := by
  have hread : ∀ text : String, readInt64 text.toList = .ok loan ↔
      WritesInt text.toList loan ∧ IsInt64 loan := fun text => by
    rw [readInt64_eq_ok_iff, IsInt64, neg_add']
  unfold readLoanNumber NamesLoan
  cases percentDecodeText? segment with
  | none => simp
  | some text =>
      simp only [Option.some.injEq, exists_eq_left', ← hread text]
      cases readInt64 text.toList <;> simp

/-- Where the path of an action has the number of a loan. -/
def Action.segment? : Action → Option String
  | approveLoan segment | investInLoan segment | disburseLoan segment => some segment
  | _ => none

/-- There is no number of a loan where the path has one. -/
def Action.IsMisnamed (a : Action) : Prop :=
  ∃ segment, a.segment? = some segment ∧ ∀ loan, ¬NamesLoan segment loan

section Act
variable {α β : Type} {s : Setup} {p : Platform} {call : Call} {r : Request} {who : Option Claims}
  {a : Action} {response : Response}

theorem isSuccess_of_answer {read : Json.Doc → Except Json.Fault α} {status : ℕ}
    {write : β → Json.Doc} {run : α → Outcome β} (hstatus : 200 ≤ status ∧ status < 300)
    (h : (answer p r read status write run).result = .ok response) : response.IsSuccess := by
  unfold answer at h
  split at h
  · cases h
  · obtain ⟨b, -, rfl⟩ := Result.map_eq_ok.mp h
    exact hstatus

theorem isSuccess_of_act (hnamed : ¬a.IsMisnamed)
    (h : (act s p call r who a).result = .ok response) : response.IsSuccess := by
  have honLoan : ∀ {segment} {run : Int → Outcome Response}, a.segment? = some segment →
      (onLoan p segment run).result = .ok response → ∃ loan, (run loan).result = .ok response := by
    intro segment run hsegment h
    cases hloan : readLoanNumber segment with
    | ok loan => exact ⟨loan, by simpa only [onLoan, hloan] using h⟩
    | error text =>
        refine absurd ⟨segment, hsegment, fun loan hnames => ?_⟩ hnamed
        rw [readLoanNumber_eq_ok_iff.mpr hnames] at hloan
        cases hloan
  cases a with
  | register => exact isSuccess_of_answer (by decide) h
  | login => exact isSuccess_of_answer (by decide) h
  | refresh => exact isSuccess_of_answer (by decide) h
  | userExists => exact isSuccess_of_answer (by decide) h
  | createLoan => exact isSuccess_of_answer (by decide) h
  | closeAccount =>
      obtain ⟨c, -, rfl⟩ := Result.map_eq_ok.mp h
      exact (by decide : 200 ≤ 200 ∧ 200 < 300)
  | approveLoan segment =>
      obtain ⟨loan, h⟩ := honLoan rfl h
      exact isSuccess_of_answer (by decide) h
  | investInLoan segment =>
      obtain ⟨loan, h⟩ := honLoan rfl h
      exact isSuccess_of_answer (by decide) h
  | disburseLoan segment =>
      obtain ⟨loan, h⟩ := honLoan rfl h
      exact isSuccess_of_answer (by decide) h

theorem act_of_isMisnamed (s : Setup) (p : Platform) (call : Call) (r : Request)
    (who : Option Claims) (h : a.IsMisnamed) : ∃ segment text, a.segment? = some segment ∧
      readLoanNumber segment = .error text ∧ act s p call r who a = .done p (.ofText 400 text) := by
  obtain ⟨segment, hsegment, hnames⟩ := h
  cases hloan : readLoanNumber segment with
  | ok loan => exact absurd (readLoanNumber_eq_ok_iff.mp hloan) (hnames loan)
  | error text =>
      refine ⟨segment, text, hsegment, hloan, ?_⟩
      cases a <;> cases hsegment <;> simp only [act, onLoan, hloan]

end Act

/-! ## Answers -/

/-- A caller is let in, or that is what fails. -/
theorem caller_cases (s : Setup) (p : Platform) (now : Moment) (authorization : Option String) :
    (IsLetIn s p now authorization ∧ ∃ q who, caller s p now authorization = .done q who) ∨
      ¬IsLetIn s p now authorization ∧ ∃ q f, caller s p now authorization = .failed q f := by
  rcases arrival_cases s p now [] "" authorization with
    ⟨rfl, hcaller, -⟩ |
      ⟨value, q, rfl, -, ⟨f, hnobody, -, hcaller, -⟩ | ⟨c, hsome, hcaller, -⟩⟩
  · exact .inl ⟨.inl rfl, p, none, hcaller⟩
  · refine .inr ⟨?_, q, f, hcaller⟩
    rintro (h | h)
    · cases h
    · rw [hnobody] at h
      cases h
  · exact .inl ⟨.inr (by rw [hsome]; rfl), q, some c, hcaller⟩

/-- A plain text neither succeeds nor reports. -/
theorem not_answered_of_text {response : Response} {content : String}
    (hstatus : response.status = 400) (hbody : response.body = .text content) :
    ¬(response.IsSuccess ∨ ∃ f, response.Reports f) := by
  rintro (hsuccess | ⟨f, hreports⟩)
  · exact absurd hsuccess.2 (by rw [hstatus]; decide)
  · rw [hreports.body] at hbody
    cases hbody

/-- At the address of an operation, unless the service stops in the middle of it: the answer is a
success or reports a failure, just if the path does not misname a loan to a caller who is let in.
The other answers are plain texts that say what is wrong with the path. -/
theorem reported_of_action (site : Site) (p : Platform) (call : Call) (freshId : String)
    (r : Request) (a : Action) (hmethod : r.method = "POST")
    (hroute : Route.ofPath r.path = .action a)
    (hserved : (respond site p call r (Route.ofPath r.path)).result ≠ .error .dateOverflow) :
    ∃ response, (handle site p call freshId r).result = .ok response ∧
      ((response.IsSuccess ∨ ∃ f, response.Reports f) ↔
        ¬(a.IsMisnamed ∧ IsLetIn site.setup p call.now r.authorization)) ∧
      (a.IsMisnamed → IsLetIn site.setup p call.now r.authorization →
        ∃ segment text, a.segment? = some segment ∧ readLoanNumber segment = .error text ∧
          response.status = 400 ∧ response.body = .text text) := by
  have hrespond := respond_of_action hmethod hroute site p call
  rcases caller_cases site.setup p call.now r.authorization with
    ⟨hletIn, q, who, hcaller⟩ | ⟨hletIn, q, f, hcaller⟩
  · rw [hcaller, Outcome.done_andThen] at hrespond
    rw [hrespond] at hserved
    rw [handle_of_respond hrespond]
    refine ⟨_, rfl, ?_⟩
    by_cases hnamed : a.IsMisnamed
    · obtain ⟨segment, text, hsegment, hloan, hact⟩ :=
        act_of_isMisnamed site.setup q call r who hnamed
      rw [hact]
      exact ⟨iff_of_false (not_answered_of_text rfl rfl) (not_not.mpr ⟨hnamed, hletIn⟩),
        fun _ _ => ⟨segment, text, hsegment, hloan, rfl, rfl⟩⟩
    · exact ⟨iff_of_true (answered_finish hserved fun _ h => isSuccess_of_act hnamed h)
        fun h => hnamed h.1, fun h => absurd h hnamed⟩
  · rw [hcaller, Outcome.failed_andThen] at hrespond
    rw [handle_of_respond hrespond]
    exact ⟨_, rfl, iff_of_true (.inr ⟨_, reports_finish rfl⟩) fun h => hletIn h.2,
      fun _ h => absurd h hletIn⟩

/-! ## Requests without a token -/

theorem respond_of_nobody {r : Request} {a : Action} (hmethod : r.method = "POST")
    (hroute : Route.ofPath r.path = .action a) (hnobody : r.authorization = none) (site : Site)
    (p : Platform) (call : Call) :
    respond site p call r (Route.ofPath r.path) = act site.setup p call r none a := by
  rw [respond_of_action hmethod hroute, hnobody]
  exact Outcome.done_andThen ..

/-- Nobody asks to approve a loan. -/
def approvalOf (segment : String) : Request :=
  ⟨"POST", "/v1/loans/" ++ segment ++ "/approve", none, some "application/json", none, utf8 "{}"⟩

theorem readLoanNumber_one : readLoanNumber "1" = .ok 1 :=
  readLoanNumber_toString (n := 1) (by decide)

theorem readLoanNumber_abc : readLoanNumber "abc" =
    .error ("Invalid URL: Cannot parse `" ++ quoted "abc" ++ "` to a `i64`") := by
  have hdigits : readInt64 "abc".toList = .error .invalidDigit := rfl
  simp only [readLoanNumber, percentDecodeText?_of_not_mem (s := "abc") (by decide), hdigits]

theorem reported_of_nobody :
    (approvalOf "1").method = "POST" ∧
      Route.ofPath (approvalOf "1").path = .action (.approveLoan "1") ∧
      (respond Errand.sealedSite (start 4) ⟨clock 1, []⟩ (approvalOf "1")
        (Route.ofPath (approvalOf "1").path)).result ≠ .error .dateOverflow ∧
      ∃ response, (handle Errand.sealedSite (start 4) ⟨clock 1, []⟩ "id" (approvalOf "1")).result =
          .ok response ∧
        (response.IsSuccess ∨ ∃ f, response.Reports f) := by
  have hroute : Route.ofPath (approvalOf "1").path = .action (.approveLoan "1") := by
    decide +kernel
  have hserved : (respond Errand.sealedSite (start 4) ⟨clock 1, []⟩ (approvalOf "1")
      (Route.ofPath (approvalOf "1").path)).result ≠ .error .dateOverflow := by
    rw [respond_of_nobody rfl hroute rfl]
    simp only [act, onLoan, readLoanNumber_one, answer]
    intro h
    split at h <;> cases h
  have hnamed : ¬(Action.approveLoan "1").IsMisnamed := by
    rintro ⟨segment, hsegment, hnames⟩
    cases hsegment
    exact hnames 1 (readLoanNumber_eq_ok_iff.mp readLoanNumber_one)
  obtain ⟨response, hresponse, hanswered, -⟩ := reported_of_action Errand.sealedSite (start 4)
    ⟨clock 1, []⟩ "id" (approvalOf "1") _ rfl hroute hserved
  exact ⟨rfl, hroute, hserved, response, hresponse, hanswered.mpr fun h => hnamed h.1⟩

/-- A text where the path has the number of a loan: the answer reports no failure. -/
theorem unreported_of_text_number :
    (approvalOf "abc").method = "POST" ∧
      Route.ofPath (approvalOf "abc").path = .action (.approveLoan "abc") ∧
      (respond Errand.sealedSite (start 4) ⟨clock 1, []⟩ (approvalOf "abc")
        (Route.ofPath (approvalOf "abc").path)).result ≠ .error .dateOverflow ∧
      ∃ response,
        (handle Errand.sealedSite (start 4) ⟨clock 1, []⟩ "id" (approvalOf "abc")).result =
          .ok response ∧
        response.status = 400 ∧ ¬∃ f, response.Reports f := by
  have hroute : Route.ofPath (approvalOf "abc").path = .action (.approveLoan "abc") := by
    decide +kernel
  have hrespond := respond_of_nobody (r := approvalOf "abc") rfl hroute rfl Errand.sealedSite
    (start 4) ⟨clock 1, []⟩
  simp only [act, onLoan, readLoanNumber_abc] at hrespond
  rw [handle_of_respond hrespond, hrespond]
  refine ⟨rfl, hroute, fun h => ?_, _, rfl, rfl, fun h => ?_⟩
  · cases h
  · exact not_answered_of_text rfl rfl (.inr h)

end Crowdlending.Http
