import Crowdlending.Proofs.Http.Signup
import Crowdlending.Proofs.Platform.Agreement
import Crowdlending.Proofs.Platform.Registration

/-!
# Both ways to register

The gateway and the remote call register by the same operation, with the same callers and the same
checks, and each hashes the password with salt of its own. What is left behind differs by this salt
alone, and the answers do not differ.

But they do not read the same registrations. A remote call has 32 bits for the role, and a number
that does not fit into 8 bits goes on to the rules for roles as one that no role has: a caller who
may create accounts of a role is told that it is invalid, and a caller without a token, whose number
is never looked at, becomes a borrower. At the gateway the same number is refused with the body,
before any of these rules. And a body of more than two megabytes is not taken in at all.
-/
namespace Crowdlending.Account
open Crypto

/-! ## Accounts up to salt -/

/-- One account, or the same with hashes of the password with either salt. -/
def Entry.SameUpToSalt (s : Setup) (password : String) (salt salt' : List UInt8)
    (e e' : Entry) : Prop :=
  e = e' ∨ ∃ hash, Bcrypt.hash s.hashCore salt password s.hashCost = .ok e.user.passwordHash ∧
    Bcrypt.hash s.hashCore salt' password s.hashCost = .ok hash ∧
    e' = { e with user := { e.user with passwordHash := hash } }

structure Directory.SameUpToSalt (s : Setup) (password : String) (salt salt' : List UInt8)
    (d d' : Directory) : Prop where
  lastId : d.lastId = d'.lastId
  entries : List.Forall₂ (Entry.SameUpToSalt s password salt salt') d.entries d'.entries

section Salt
variable {s : Setup} {password : String} {salt salt' : List UInt8}

theorem Directory.SameUpToSalt.refl (d : Directory) : d.SameUpToSalt s password salt salt' d :=
  ⟨rfl, List.forall₂_same.mpr fun _ _ => .inl rfl⟩

/-- With hashes of the password with either salt, the same registration is refused, or entered. -/
theorem Directory.create_sameUpToSalt (d : Directory) (r : Registration) {hash hash' : String}
    (h : Bcrypt.hash s.hashCore salt password s.hashCost = .ok hash)
    (h' : Bcrypt.hash s.hashCore salt' password s.hashCost = .ok hash') :
    (∃ f, d.create { r with passwordHash := hash } = .error f ∧
      d.create { r with passwordHash := hash' } = .error f) ∨
    ∃ users u users' u', d.create { r with passwordHash := hash } = .ok (users, u) ∧
      d.create { r with passwordHash := hash' } = .ok (users', u') ∧
      users.SameUpToSalt s password salt salt' users' := by
  unfold create
  split
  · exact .inl ⟨_, rfl, rfl⟩
  · refine .inr ⟨_, _, _, _, rfl, rfl, rfl, ?_⟩
    refine List.rel_append (List.forall₂_same.mpr fun _ _ => .inl rfl) (.cons (.inr ?_) .nil)
    exact ⟨hash', h, h', rfl⟩

end Salt

end Crowdlending.Account

namespace Crowdlending.Outcome

/-- The outcomes differ in the accounts alone, and there by the salt. -/
def SameUpToSalt {α : Type} (s : Setup) (password : String) (salt salt' : List UInt8)
    (o o' : Outcome α) : Prop :=
  ∃ users, o.platform.users.SameUpToSalt s password salt salt' users ∧
    o' = { o with platform := { o.platform with users } }

theorem SameUpToSalt.refl {α : Type} {s : Setup} {password : String} {salt salt' : List UInt8}
    (o : Outcome α) : o.SameUpToSalt s password salt salt' o :=
  ⟨_, .refl _, rfl⟩

end Crowdlending.Outcome

namespace Crowdlending.Platform
open Crypto Token Account

/-! ## One registration with either salt -/

section Register
variable {s : Setup} {p : Platform} {call : Call} {who : Option Claims} {a : Applicant}
  {r : RegisterRequest} {password : String} {salt : List UInt8}

/-- The cost alone decides whether there is a hash, so there is one with both salts or none. -/
theorem enter_sameUpToSalt :
    (Enrolment.enter s p call who a password).SameUpToSalt s password call.salt salt
      (Enrolment.enter s p { call with salt } who a password) := by
  by_cases hcost : Bcrypt.leastCost ≤ s.hashCost ∧ s.hashCost ≤ Bcrypt.mostCost
  · obtain ⟨hash, h⟩ : ∃ hash, Bcrypt.hash s.hashCore call.salt password s.hashCost = .ok hash :=
      ⟨_, if_pos hcost⟩
    obtain ⟨hash', h'⟩ : ∃ hash, Bcrypt.hash s.hashCore salt password s.hashCost = .ok hash :=
      ⟨_, if_pos hcost⟩
    simp only [Enrolment.enter, h, h']
    rcases p.users.create_sameUpToSalt
      ⟨a.name, a.email, a.phone, hash, a.role, who.map Claims.userId⟩ h h' with
      ⟨f, hf, hf'⟩ | ⟨users, u, users', u', hu, hu', hsame⟩
    · rw [hf, hf']
      exact .refl _
    · rw [hu, hu']
      exact ⟨users', hsame, rfl⟩
  · have h (salt : List UInt8) : Bcrypt.hash s.hashCore salt password s.hashCost =
        .error (.crypto (.hashCost s.hashCost)) := if_neg hcost
    simp only [Enrolment.enter, h]
    exact .refl _

/-- The salt of the call decides nothing but the hash that is kept. -/
theorem register_sameUpToSalt (s : Setup) (p : Platform) (call : Call) (salt : List UInt8)
    (who : Option Claims) (r : RegisterRequest) :
    (p.register s call who r).SameUpToSalt s r.password call.salt salt
      (p.register s { call with salt } who r) := by
  cases hcheck : checkRegister s.countryCode who r with
  | error f =>
      simp only [register, hcheck]
      exact .refl _
  | ok a =>
      cases hreasons : existenceReasons p.users a.email a.phone with
      | error f =>
          simp only [register, hcheck, hreasons]
          exact .refl _
      | ok reasons =>
          rw [register_of_reasons hcheck hreasons, register_of_reasons hcheck hreasons]
          split
          · exact enter_sameUpToSalt
          · exact .refl _

/-- A registration is always answered, if only with its failure. -/
theorem failure_of_register {e : Abort} (h : (p.register s call who r).result = .error e) :
    ∃ f, e = .failure f := by
  unfold register at h
  split at h
  · cases h
    exact ⟨_, rfl⟩
  · split at h
    · cases h
      exact ⟨_, rfl⟩
    · split at h
      · cases h
        exact ⟨_, rfl⟩
      · split at h
        · cases h
          exact ⟨_, rfl⟩
        · cases h
    · cases h

end Register

/-! ## Roles that there are not -/

section Roles
variable {n m : ℕ} {who : Option Claims}

/-- A number that no role has is as good as another, and without a caller any number is. -/
theorem registrationRole_eq
    (h : who = none ∨ (Role.ofNumber? n = none ∧ Role.ofNumber? m = none)) :
    Access.registrationRole who n = Access.registrationRole who m := by
  rcases h with rfl | ⟨hn, hm⟩
  · rfl
  · cases who with
    | none => rfl
    | some c => simp only [Access.registrationRole, hn, hm]

theorem register_of_role (s : Setup) (p : Platform) (call : Call) (r : RegisterRequest)
    (h : who = none ∨ (Role.ofNumber? n = none ∧ Role.ofNumber? m = none)) :
    p.register s call who { r with roleNumber := n } =
      p.register s call who { r with roleNumber := m } := by
  simp only [register, checkRegister, registrationRole_eq h]

theorem ofNumber?_min (h : Role.ofNumber? n = none) :
    Role.ofNumber? (min n Number.maxU8) = none := by
  rcases Nat.le_total n Number.maxU8 with hn | hn
  · rwa [Nat.min_eq_left hn]
  · rw [Nat.min_eq_right hn]
    decide

end Roles

end Crowdlending.Platform

namespace Crowdlending.Account.RegisterRequest
open Platform Token Http

/-! ## Agreement -/

/-- The response tells what the remote call is answered with: the status and the reasons of the
registration, or the failure. -/
def IsToldBy (response : Response) : Except Rpc.Status Rpc.Reply → Prop
  | .ok (.registered b) => response.status = 200 ∧ response.body = .json (registeredDoc b)
  | .ok _ => False
  | .error status => ∃ f, status = .ofFailure f ∧ response.status = f.httpStatus ∧
      response.body = (Response.ofFailure f).body

/-- The request and the remote call leave the same behind, but for the salt of a hash, and are
answered alike. -/
structure Agree (s : Setup) (password : String) (salt salt' : List UInt8)
    (web : Outcome Response) (remote : Rpc.Answer) : Prop where
  store : web.platform.store = remote.platform.store
  users : web.platform.users.SameUpToSalt s password salt salt' remote.platform.users
  queue : web.platform.queue = remote.platform.queue
  outbox : web.platform.outbox = remote.platform.outbox
  answer : ∃ response, web.result = .ok response ∧ IsToldBy response remote.result

section Agree
variable {q : RegisterRequest} {r : Request} {site : Site} {p : Platform} {call : Call}
  {salt : List UInt8} {freshId target : String} {openMethods : List String}
  {authorization : Option String}

/-- The remote call brings the role into range, and else asks for the same. -/
theorem run_register (h : q.roleNumber ≤ Number.maxU8) (s : Setup) (who : Option Claims) :
    Rpc.run s p call who (.register (some q)) = (p.register s call who q).map .registered := by
  have hq : Rpc.readUser (some q) = .ok q := by rw [Rpc.readUser, Nat.min_eq_left h]
  simp only [Rpc.run, Rpc.onRequest, hq]

theorem act_register (h : q.IsAskedBy r) (s : Setup) (who : Option Claims) :
    act s p call r who .register =
      (p.register s call who q).map fun b => .ofDoc 200 (registeredDoc b) := by
  rw [act, answer, h.2]

/-- The same outcome up to salt, told by both ways. -/
theorem agree_of_outcomes {s : Setup} {password : String} {o o' : Outcome Registered}
    (hfail : ∀ e, o.result = .error e → ∃ f, e = .failure f)
    (hsame : o.SameUpToSalt s password call.salt salt o')
    (h : respond site p call r (Route.ofPath r.path) =
      o.map fun b => .ofDoc 200 (registeredDoc b)) :
    Agree s password call.salt salt (Http.handle site p call freshId r)
      (.ofOutcome (o'.map .registered)) := by
  obtain ⟨users, husers, rfl⟩ := hsame
  rw [handle_of_respond h]
  obtain ⟨q, result, waited⟩ := o
  cases result with
  | ok b => exact ⟨rfl, husers, rfl, rfl, _, rfl, rfl, rfl⟩
  | error e =>
      obtain ⟨f, rfl⟩ := hfail e rfl
      exact ⟨rfl, husers, rfl, rfl, _, rfl, f, rfl, rfl, rfl⟩

theorem agree_of_invalid_token {s : Setup} {password : String} {q : Platform} {fault : TokenFault}
    (h : respond site p call r (Route.ofPath r.path) = .failed q (.token fault)) :
    Agree s password call.salt salt (Http.handle site p call freshId r)
      ⟨q, .error .unauthenticated, 0⟩ := by
  rw [handle_of_respond h]
  exact ⟨rfl, .refl q.users, rfl, rfl, _, rfl, .token fault, rfl, rfl, rfl⟩

/-- Whoever is let in by one way is let in by the other. -/
theorem agree_of_isAskedBy
    (hopen : authorization = none → openMethods.contains (Rpc.methodOf target) = true)
    (hasked : q.IsAskedBy r) (hauthorization : r.authorization = authorization)
    (hdecided : IsDecided site.setup p call.now authorization) :
    Agree site.setup q.password call.salt salt (Http.handle site p call freshId r)
      (Rpc.handleAt site.setup p { call with salt } openMethods target authorization
        (.register (some q))) := by
  have hrespond := respond_of_action hasked.1.1 hasked.1.2 site p call
  simp only [act_register hasked, hauthorization] at hrespond
  rcases arrival_cases site.setup p call.now openMethods target authorization with
    ⟨rfl, hcaller, -⟩ | ⟨value, p', -, -, ⟨f, -, hfault, hcaller, hidentify⟩ |
      ⟨c, -, hcaller, hidentify⟩⟩
  · have hidentify : Rpc.identify site.setup p call.now openMethods target none =
        (p, .ok none) := by
      simp only [Rpc.identify, hopen rfl, if_true]
    rw [hcaller, Outcome.done_andThen] at hrespond
    simp only [Rpc.handleAt, hidentify, run_register hasked.roleNumber_le]
    exact agree_of_outcomes (fun e => failure_of_register) (register_sameUpToSalt ..) hrespond
  · obtain ⟨fault, rfl⟩ := hfault hdecided
    rw [hcaller, Outcome.failed_andThen] at hrespond
    simp only [Rpc.handleAt, hidentify]
    exact agree_of_invalid_token hrespond
  · rw [hcaller, Outcome.done_andThen] at hrespond
    simp only [Rpc.handleAt, hidentify, run_register hasked.roleNumber_le]
    exact agree_of_outcomes (fun e => failure_of_register) (register_sameUpToSalt ..) hrespond

/-- A body without a role of 8 bits is refused, whoever asks, and so is one that is too long. -/
theorem isTurnedAway_of_refusedBody (haddressed : IsAddressed r)
    (h : IsMisranked r ∨ mostBodyBytes < r.body.length)
    (hauthorization : r.authorization = authorization)
    (hdecided : IsDecided site.setup p call.now authorization) :
    Errand.IsTurnedAway site.setup p call.now authorization
      (Http.handle site p call freshId r) := by
  obtain ⟨fault, hbody⟩ := h.elim IsMisranked.readBody fun hlarge => readBody_of_large hlarge ofDoc
  refine Errand.isTurnedAway_of_refused haddressed.1 haddressed.2 (fun p' who => ⟨fault, ?_⟩)
    hauthorization hdecided
  rw [act, answer, hbody]

/-- The remote call does not tell numbers apart that no role has, and without a token it tells none
apart. -/
theorem handleAt_of_role (s : Setup) {n : ℕ} (h : authorization = none ∨
      (Role.ofNumber? q.roleNumber = none ∧ Role.ofNumber? n = none)) :
    Rpc.handleAt s p call openMethods target authorization (.register (some q)) =
      Rpc.handleAt s p call openMethods target authorization
        (.register (some { q with roleNumber := n })) := by
  unfold Rpc.handleAt
  split
  · rfl
  · next p' who hwho =>
      have hcaller : who = credential? s p call.now authorization :=
        Rpc.identify_eq_ok (congrArg Prod.snd hwho)
      have hrole : who = none ∨ (Role.ofNumber? (min q.roleNumber Number.maxU8) = none ∧
          Role.ofNumber? (min n Number.maxU8) = none) := by
        rcases h with rfl | ⟨hq, hn⟩
        · exact .inl hcaller
        · exact .inr ⟨ofNumber?_min hq, ofNumber?_min hn⟩
      simp only [Rpc.run, Rpc.onRequest, Rpc.readUser]
      rw [register_of_role s p' call q hrole]

/-- Without a token only borrowers are made, whatever role is asked for. -/
theorem roles_handleAt_of_nobody (s : Setup) (q : RegisterRequest) :
    ∃ created, (Rpc.handleAt s p call openMethods target none
        (.register (some q))).platform.users.roles = p.users.roles ++ created ∧
      ∀ role ∈ created, role = .borrower := by
  have hkept := Rpc.kept_identify s p call.now openMethods target none
  unfold Rpc.handleAt
  split
  · next p' status hp =>
      rw [hp] at hkept
      exact ⟨[], by rw [hkept.users, List.append_nil], fun _ h => by cases h⟩
  · next p' who hp =>
      rw [hp] at hkept
      obtain rfl : who = none := Rpc.identify_eq_ok (congrArg Prod.snd hp)
      obtain ⟨created, hroles, hgranted⟩ := @roles_register s p' call none (fun _ => False)
        (fun c hc => by cases hc) { q with roleNumber := min q.roleNumber Number.maxU8 }
      refine ⟨created, ?_, fun role hrole => ?_⟩
      · rw [(Rpc.kept_ofOutcome _).users, ← hkept.users, ← hroles]
        rfl
      · rcases hgranted role hrole with h | ⟨creator, h, -⟩
        · exact h
        · exact h.elim

end Agree

/-- Whatever accounts there are, and whoever calls, unless a token is refused for want of keys: a
registration that is asked for by both ways, at the same time and with the same authorization
value, leaves the same accounts behind up to salt, and is answered alike. Every registration whose
role has 8 bits can be written as a request, unless its texts are too long for a body. A request
with any other role or a longer body is turned away, while the remote call does what it does, which
is the same for every number that no role has; and without a token it makes borrowers only. -/
theorem agree_of_register (site : Site) (p : Platform) (call : Call) (salt : List UInt8)
    (freshId : String) (openMethods : List String) (target : String)
    (authorization : Option String)
    (hopen : authorization = none → openMethods.contains (Rpc.methodOf target) = true)
    (q : RegisterRequest) :
    let remote (q : RegisterRequest) := Rpc.handleAt site.setup p { call with salt } openMethods
      target authorization (.register (some q))
    (IsLetIn site.setup p call.now authorization ∨ p.source = .published →
      IsDecided site.setup p call.now authorization) ∧
    (∀ r, q.IsAskedBy r → r.authorization = authorization →
      IsDecided site.setup p call.now authorization →
        Agree site.setup q.password call.salt salt (Http.handle site p call freshId r)
          (remote q)) ∧
    (q.roleNumber ≤ 255 → (q.written authorization).body.length ≤ 2097152 →
      q.IsAskedBy (q.written authorization)) ∧
    (255 < q.roleNumber → IsAddressed (q.written authorization) ∧
      IsMisranked (q.written authorization)) ∧
    (∀ r, IsAddressed r → IsMisranked r ∨ 2097152 < r.body.length →
      r.authorization = authorization → IsDecided site.setup p call.now authorization →
        Errand.IsTurnedAway site.setup p call.now authorization
          (Http.handle site p call freshId r)) ∧
    (∀ n, authorization = none ∨ (Role.ofNumber? q.roleNumber = none ∧ Role.ofNumber? n = none) →
      remote q = remote { q with roleNumber := n }) ∧
    (authorization = none → ∃ created,
      (remote q).platform.users.roles = p.users.roles ++ created ∧
        ∀ role ∈ created, role = .borrower) := by
  intro remote
  refine ⟨fun h => ?_, fun r => agree_of_isAskedBy hopen,
    fun hrole hsize => isAskedBy_written hrole hsize,
    fun hrole => ⟨isAddressed_written q authorization, isMisranked_written hrole authorization⟩,
    fun r => isTurnedAway_of_refusedBody, fun n hn => handleAt_of_role site.setup hn, ?_⟩
  · rcases h with hletIn | hpublished
    · exact isDecided_of_isLetIn hletIn
    · exact isDecided_of_published hpublished call.now authorization
  · rintro rfl
    exact roles_handleAt_of_nobody site.setup q

/-! ## Registering without a token -/

def hashedSite : Site := ⟨hashedSetup, fun _ => ""⟩

/-- Somebody asks for an account, and for a role by its number. -/
def requestFor (roleNumber : ℕ) : RegisterRequest :=
  { requestBy "first@example.com" "0811000001" with roleNumber }

def webRegistration (roleNumber : ℕ) : Outcome Response :=
  Http.handle hashedSite (start 4) ⟨clock 4, List.replicate 16 0⟩ "id"
    ((requestFor roleNumber).written none)

def remoteRegistration (roleNumber : ℕ) : Rpc.Answer :=
  Rpc.handleAt hashedSetup (start 4) ⟨clock 4, List.replicate 16 1⟩ ["Register"]
    "/lending.v1.AuthService/Register" none (.register (some (requestFor roleNumber)))

theorem isRegistrable_requestFor (roleNumber : ℕ) : IsRegistrable (requestFor roleNumber) := by
  have h : IsRegistrable (requestBy "first@example.com" "0811000001") :=
    ⟨by decide +kernel, by decide +kernel, by decide +kernel, by decide +kernel⟩
  exact ⟨h.name, h.email, h.password, h.phoneNumber⟩

theorem isOpen_register : (none : Option String) = none →
    ["Register"].contains (Rpc.methodOf "/lending.v1.AuthService/Register") = true :=
  fun _ => by decide +kernel

/-- The remote call registers a borrower, whatever role is asked for. -/
theorem registered_of_remoteRegistration (roleNumber : ℕ) :
    (remoteRegistration roleNumber).result = .ok (.registered ⟨true, []⟩) ∧
      (remoteRegistration roleNumber).platform.users.roles = [.borrower] := by
  have hzero : remoteRegistration roleNumber = remoteRegistration 0 := handleAt_of_role _ (.inl rfl)
  have hregister : ((start 4).register hashedSetup ⟨clock 4, List.replicate 16 1⟩ none
      (requestFor 0)).result = .ok ⟨true, []⟩ :=
    result_register_start (by decide) 4 (isRegistrable_requestFor 0)
  have hresult : (((start 4).register hashedSetup ⟨clock 4, List.replicate 16 1⟩ none
      (requestFor 0)).map Rpc.Reply.registered).result = .ok (.registered ⟨true, []⟩) := by
    rw [Outcome.map, hregister]
    rfl
  have hrole : (requestFor 0).roleNumber ≤ Number.maxU8 := by decide
  refine hzero ▸ ⟨?_, by decide +kernel⟩
  simp only [remoteRegistration, Rpc.handleAt, Rpc.identify, isOpen_register rfl, if_true,
    run_register hrole, Rpc.Answer.ofOutcome, hresult]

/-- Without a token and without a role, both ways make a borrower. -/
theorem agree_of_no_role :
    ((none : Option String) = none →
        ["Register"].contains (Rpc.methodOf "/lending.v1.AuthService/Register") = true) ∧
      (requestFor 0).IsAskedBy ((requestFor 0).written none) ∧
      Agree hashedSetup "Secret-123" (List.replicate 16 0) (List.replicate 16 1)
        (webRegistration 0) (remoteRegistration 0) ∧
      (remoteRegistration 0).result = .ok (.registered ⟨true, []⟩) ∧
      (remoteRegistration 0).platform.users.roles = [.borrower] := by
  obtain ⟨hdecided, hagree, hwritten, -⟩ := agree_of_register hashedSite (start 4)
    ⟨clock 4, List.replicate 16 0⟩ (List.replicate 16 1) "id" ["Register"]
    "/lending.v1.AuthService/Register" none isOpen_register (requestFor 0)
  have hasked : (requestFor 0).IsAskedBy ((requestFor 0).written none) :=
    hwritten (by decide) (by decide +kernel)
  exact ⟨isOpen_register, hasked, hagree _ hasked rfl (hdecided (.inl (.inl rfl))),
    registered_of_remoteRegistration 0⟩

/-- Role 300 is asked for without a token. The remote call makes a borrower all the same, and the
request is turned away. -/
theorem disagree_of_wide_role :
    ((remoteRegistration 300).result = .ok (.registered ⟨true, []⟩) ∧
        (remoteRegistration 300).platform.users.roles = [.borrower]) ∧
      ((∃ response, (webRegistration 300).result = .ok response ∧ response.status = 400) ∧
        (webRegistration 300).platform.users.roles = []) ∧
      ¬Agree hashedSetup "Secret-123" (List.replicate 16 0) (List.replicate 16 1)
        (webRegistration 300) (remoteRegistration 300) := by
  have hremote := registered_of_remoteRegistration 300
  have haway : Errand.IsTurnedAway hashedSite.setup (start 4)
      (Call.now ⟨clock 4, List.replicate 16 0⟩) none (webRegistration 300) :=
    isTurnedAway_of_refusedBody (isAddressed_written _ _)
      (.inl (isMisranked_written (by decide) _)) rfl (isDecided_of_isLetIn (.inl rfl))
  obtain ⟨response, hresponse, hstatus⟩ := haway.answer
  have hroles : (webRegistration 300).platform.users.roles = [] := by
    rw [haway.kept.users]
    rfl
  refine ⟨hremote, ⟨⟨response, hresponse, hstatus⟩, hroles⟩, fun hagree => ?_⟩
  obtain ⟨told, htold, hsame⟩ := hagree.answer
  rw [hresponse] at htold
  cases htold
  rw [hremote.1] at hsame
  exact absurd (hstatus.symm.trans hsame.1) (by decide)

end Crowdlending.Account.RegisterRequest
