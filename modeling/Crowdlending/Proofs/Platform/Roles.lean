import Crowdlending.Proofs.Account.Directory
import Crowdlending.Proofs.Platform.Credential

/-!
# Where roles come from

A role goes from the directory into the tokens of a login, from a token into those
that it is exchanged for, and from the caller's token into the right to register.
On the first two ways it is copied; on the third a new account gets the role of a
borrower or one that the caller's may create. So roles never leave a set that holds
the borrower's and whatever its own may create, as long as nobody forges a token.

What a token states is read from its text, for that is all that a caller presents.
-/
namespace Crowdlending.Account.Directory
variable {d d' : Directory}

/-- The roles of all users, in the order in which these came. -/
def roles (d : Directory) : List Role := d.entries.map fun e => e.user.role

theorem roles_create {r : Registration} {u : User} (h : d.create r = .ok (d', u)) :
    d'.roles = d.roles ++ [r.role] := by
  obtain ⟨rfl, rfl⟩ := create_eq_ok h
  simp [roles]

theorem roles_close {id closedBy : Int} {u : User} (h : d.close id closedBy = .ok (d', u)) :
    d'.roles = d.roles := by
  obtain ⟨f, hf, -, rfl⟩ := close_eq_ok h
  exact map_mapFirst (fun e => by rw [(hf e).user]) id d.entries

end Crowdlending.Account.Directory

namespace Crowdlending.Platform
open Token Account Access

/-! ## Users and issued tokens -/

/-- Who is logged in is active, holds the identifier and knows the password. -/
theorem authenticate_eq_ok {s : Setup} {d : Directory} {r : LoginRequest} {u : User}
    (h : authenticate s d r = .ok u) :
    u.status = .active ∧ Crypto.Bcrypt.verify s.hashCore r.password u.passwordHash = .ok true ∧
      ∃ e ∈ d.entries, e.user = u ∧
        e.holds (loginIdentifier s.countryCode (Text.trim r.identifier)) = true := by
  unfold authenticate at h
  split at h
  · cases h
  · next identifier hcheck =>
      have hidentifier : identifier = Text.trim r.identifier := by
        simp only [checkLogin] at hcheck
        split at hcheck
        · cases hcheck
        · split at hcheck <;> cases hcheck
          rfl
      split at h
      · cases h
      · next hfound =>
          split at h
          · cases h
          · next hactive =>
              split at h <;> cases h
              next hpassword =>
                rw [hidentifier] at hfound
                exact ⟨Decidable.not_not.mp hactive, hpassword,
                  Directory.holds_of_byIdentifier hfound⟩

section Issue
variable {s : Setup} {p : Platform} {now : Moment} {u : Subject}

theorem issue_eq_ok {kind : Kind} {extended : Bool} {token : String}
    (h : (p.issue s now u kind extended).result = .ok token) :
    ∃ c, s.issuer.claimsFor? now.seconds u kind extended = some c ∧
      s.issuer.sign s.scheme c = .ok token := by
  unfold issue at h
  split at h
  · cases h
  · next c hc =>
      refine ⟨c, hc, ?_⟩
      simp only [sign, Outcome.ofExcept] at h
      split at h
      · next hsign => cases h; exact hsign
      · cases h

theorem andThen_eq_ok {α β : Type} {o : Outcome α} {f : Platform → α → Outcome β} {b : β}
    (h : (o.andThen f).result = .ok b) :
    ∃ a, o.result = .ok a ∧ (f o.platform a).result = .ok b := by
  unfold Outcome.andThen at h
  split at h
  · cases h
  · next a ha => exact ⟨a, ha, h⟩

/-- What the platform signs for a user, it gives out. -/
theorem issuePair_of_sign {remember : Bool} {access refresh : Claims} {pair : Pair}
    (haccess : s.issuer.claimsFor? now.seconds u .access false = some access)
    (hrefresh : s.issuer.claimsFor? now.seconds u .refresh remember = some refresh)
    (hsigned : s.issuer.sign s.scheme access = .ok pair.access)
    (hsigned' : s.issuer.sign s.scheme refresh = .ok pair.refresh) :
    (p.issuePair s now u remember).result = .ok pair := by
  simp only [issuePair, issue, sign, haccess, hrefresh, hsigned, hsigned']
  rfl

/-- Both tokens of a pair state the user whom they were issued to. -/
theorem toSubject_of_issuePair {remember : Bool} {pair : Pair}
    (h : (p.issuePair s now u remember).result = .ok pair) {token : String}
    (htoken : token ∈ [pair.access, pair.refresh]) {c : Claims} (hc : stated? token = some c) :
    c.toSubject = u := by
  have hissued : ∃ kind extended claims,
      s.issuer.claimsFor? now.seconds u kind extended = some claims ∧
        s.issuer.sign s.scheme claims = .ok token := by
    obtain ⟨access, haccess, h⟩ := andThen_eq_ok h
    obtain ⟨refresh, hrefresh, rfl⟩ := Result.map_eq_ok.mp h
    simp only [List.mem_cons, List.not_mem_nil, or_false] at htoken
    rcases htoken with rfl | rfl
    · exact ⟨.access, false, issue_eq_ok haccess⟩
    · exact ⟨.refresh, remember, issue_eq_ok hrefresh⟩
  obtain ⟨kind, extended, claims, hclaims, hsign⟩ := hissued
  obtain ⟨expiry, -, rfl⟩ := Option.map_eq_some_iff.mp hclaims
  rw [eq_of_stated?_sign hsign hc]
  rfl

end Issue

/-! ## Registration -/

/-- Only a superadmin and an admin create accounts for others, of no other roles than these two. -/
theorem creatable_cases {creator r : Role} (h : r ∈ creator.creatable) :
    (creator = .superadmin ∧ (r = .superadmin ∨ r = .admin)) ∨ (creator = .admin ∧ r = .admin) := by
  cases creator <;> simp_all [Role.creatable]

theorem registrationRole_cases {caller : Option Claims} {requested : ℕ} {r : Role}
    (h : registrationRole caller requested = .ok r) :
    (caller = none ∧ r = .borrower) ∨ ∃ c, caller = some c ∧ r ∈ c.role.creatable := by
  cases caller with
  | none => cases h; exact .inl ⟨rfl, rfl⟩
  | some c =>
      right
      simp only [registrationRole] at h
      split at h
      · cases h
      · split at h
        · cases h
        · split at h
          · next hr => cases h; exact ⟨c, rfl, by simpa using hr⟩
          · cases h

/-- Whoever passes the checks has a name, an email, a phone number, a good password and the right to
his role, and nothing else is asked. -/
theorem checkRegister_eq_ok_iff {country : String} {caller : Option Claims} {r : RegisterRequest}
    {a : Applicant} :
    checkRegister country caller r = .ok a ↔
      checkPresent "name" r.name = .ok () ∧ isEmailText (Text.trim r.email) = true ∧
        checkPresent "phone_number" r.phoneNumber = .ok () ∧ checkPassword r.password = .ok () ∧
        ∃ role, registrationRole caller r.roleNumber = .ok role ∧
          a = ⟨Text.trim r.name, Text.trim r.email,
            Phone.international country (Text.trim r.phoneNumber), role⟩ := by
  constructor
  · intro h
    simp only [checkRegister] at h
    split at h
    · next hname =>
        rw [Result.throw_if_eq_ok] at h
        obtain ⟨hemail, h⟩ := h
        split at h
        · next hphone =>
            simp only [Result.bind_eq_ok] at h
            obtain ⟨_, hpassword, role, hrole, h⟩ := h
            cases h
            exact ⟨hname, Decidable.not_not.mp hemail, hphone, hpassword, role, hrole, rfl⟩
        · cases h
    · cases h
  · rintro ⟨hname, hemail, hphone, hpassword, role, hrole, rfl⟩
    simp only [checkRegister, hname, hemail, hphone, hpassword, hrole]
    rfl

theorem role_of_checkRegister {country : String} {caller : Option Claims} {r : RegisterRequest}
    {a : Applicant} (h : checkRegister country caller r = .ok a) :
    registrationRole caller r.roleNumber = .ok a.role := by
  obtain ⟨-, -, -, -, role, hrole, rfl⟩ := checkRegister_eq_ok_iff.mp h
  exact hrole

/-- A role that nobody needs a right for, or that a caller with one of these may create. -/
def IsGranted (known : Role → Prop) (r : Role) : Prop :=
  r = .borrower ∨ ∃ creator, known creator ∧ r ∈ creator.creatable

theorem roles_register (s : Setup) (p : Platform) (call : Call) {caller : Option Claims}
    {known : Role → Prop} (hcaller : ∀ c, caller = some c → known c.role) (r : RegisterRequest) :
    ∃ created, (p.register s call caller r).platform.users.roles = p.users.roles ++ created ∧
      ∀ role ∈ created, IsGranted known role := by
  rcases register_cases s p call caller r with hsame | ⟨a, hash, users, u, ha, hu, hdone⟩
  · rw [hsame]
    exact ⟨[], (List.append_nil _).symm, fun _ h => absurd h List.not_mem_nil⟩
  · rw [hdone]
    refine ⟨[a.role], Directory.roles_create hu, fun role hrole => ?_⟩
    rw [List.mem_singleton.mp hrole]
    rcases registrationRole_cases (role_of_checkRegister ha) with ⟨-, h⟩ | ⟨c, hc, h⟩
    · exact .inl h
    · exact .inr ⟨c.role, hcaller c hc, h⟩

theorem roles_closeAccount (p : Platform) (caller : Option Claims) :
    (p.closeAccount caller).platform.users.roles = p.users.roles := by
  rcases closeAccount_cases p caller with ⟨f, hfailed⟩ | ⟨c, users, u, -, hclose, hdone⟩
  · rw [hfailed]
    rfl
  · rw [hdone]
    exact Directory.roles_close hclose

/-! ## Runs -/

/-- The platform, and the tokens that its callers hold. -/
structure Session where
  platform : Platform
  tokens : List String

/-- An account call, made with a token or without one. -/
structure Visit where
  call : Call
  token : Option String
  request : AccountRequest

def AccountReply.tokens : AccountReply → List String
  | issued pair => [pair.access, pair.refresh]
  | _ => []

namespace Visit

/-- The call is made by the one whom the access token stands for; with another token it is
refused. -/
def outcome (s : Setup) (p : Platform) (v : Visit) : Outcome AccountReply :=
  match v.token with
  | none => v.request.perform s p v.call none
  | some token =>
      (p.verify s v.call.now .access token).andThen fun p c =>
        v.request.perform s p v.call (some c)

/-- The platform that the request meets: keys may have been fetched for the token of the call. -/
def met (s : Setup) (p : Platform) (v : Visit) : Platform :=
  match v.token with
  | none => p
  | some token => (p.verify s v.call.now .access token).platform

def perform (s : Setup) (w : Session) (v : Visit) : Session :=
  let o := v.outcome s w.platform
  ⟨o.platform, w.tokens ++ match o.result with
    | .ok reply => reply.tokens
    | .error _ => []⟩

/-- Nobody forges a token: one that verifies, for the call or in its request, is held. -/
structure IsHonest (s : Setup) (w : Session) (v : Visit) : Prop where
  access : ∀ token c, v.token = some token →
    Token.verify s.scheme (w.platform.findKey s v.call.now) s.issuers v.call.now.seconds .access
      token = .ok c → token ∈ w.tokens
  refresh : ∀ r c, v.request = .refresh r →
    Token.verify s.scheme ((v.met s w.platform).findKey s v.call.now) s.issuers
      v.call.now.seconds .refresh (Text.trim r.token) = .ok c → Text.trim r.token ∈ w.tokens

end Visit

namespace Session

def run (s : Setup) (w : Session) (visits : List Visit) : Session :=
  visits.foldl (Visit.perform s) w

def IsHonest (s : Setup) : Session → List Visit → Prop
  | _, [] => True
  | w, v :: visits => v.IsHonest s w ∧ (v.perform s w).IsHonest s visits

/-- All accounts, and all that tokens state, are of known roles. -/
structure Knows (w : Session) (known : Role → Prop) : Prop where
  accounts : ∀ r ∈ w.platform.users.roles, known r
  tokens : ∀ token ∈ w.tokens, ∀ c, stated? token = some c → known c.role

end Session

section Visit
variable {s : Setup} {w : Session} {known : Role → Prop}

/-- What a call adds: accounts whose roles were granted, and tokens that state known roles. -/
structure Grants (known : Role → Prop) (p : Platform) (o : Outcome AccountReply) : Prop where
  accounts : ∃ created, o.platform.users.roles = p.users.roles ++ created ∧
    ∀ r ∈ created, IsGranted known r
  tokens : ∀ reply, o.result = .ok reply → ∀ token ∈ reply.tokens, ∀ c, stated? token = some c →
    known c.role

theorem grants_of_silent {α : Type} {p : Platform} {o : Outcome α} {f : α → AccountReply}
    (hroles : ∃ created, o.platform.users.roles = p.users.roles ++ created ∧
      ∀ r ∈ created, IsGranted known r)
    (hsilent : ∀ a, (f a).tokens = []) : Grants known p (o.map f) := by
  refine ⟨hroles, fun reply hreply token htoken => ?_⟩
  obtain ⟨a, -, rfl⟩ := Result.map_eq_ok.mp hreply
  rw [hsilent a] at htoken
  cases htoken

theorem grants_nothing {p q : Platform} (h : q.users.roles = p.users.roles) :
    ∃ created, q.users.roles = p.users.roles ++ created ∧ ∀ r ∈ created, IsGranted known r :=
  ⟨[], by rw [h, List.append_nil], fun _ hr => absurd hr List.not_mem_nil⟩

theorem grants_issued {p : Platform} {o : Outcome Pair} (hkept : p.Kept o.platform)
    (hpair : ∀ pair, o.result = .ok pair → ∀ token ∈ [pair.access, pair.refresh],
      ∀ c, stated? token = some c → known c.role) :
    Grants known p (o.map .issued) := by
  refine ⟨grants_nothing (congrArg Directory.roles hkept.users), fun reply hreply => ?_⟩
  obtain ⟨pair, ho, rfl⟩ := Result.map_eq_ok.mp hreply
  exact hpair pair ho

theorem grants_perform {p : Platform} (haccounts : ∀ r ∈ p.users.roles, known r) (call : Call)
    {caller : Option Claims} (hcaller : ∀ c, caller = some c → known c.role) (r : AccountRequest)
    (hrefresh : ∀ q c, r = .refresh q →
      Token.verify s.scheme (p.findKey s call.now) s.issuers call.now.seconds .refresh
        (Text.trim q.token) = .ok c → known c.role) :
    Grants known p (r.perform s p call caller) := by
  cases r with
  | register q =>
      rw [AccountRequest.perform]
      exact grants_of_silent (roles_register s p call hcaller q) fun _ => rfl
  | login q =>
      rw [AccountRequest.perform]
      refine grants_issued (kept_login s p call q) fun pair hpair token htoken c hc => ?_
      unfold login at hpair
      split at hpair
      · cases hpair
      · next u hu =>
          have hsubject := toSubject_of_issuePair hpair htoken hc
          obtain ⟨-, -, e, he, rfl, -⟩ := authenticate_eq_ok hu
          have hrole : c.role = e.user.role := congrArg Subject.role hsubject
          rw [hrole]
          exact haccounts _ (List.mem_map_of_mem he)
  | refresh q =>
      -- No account is looked up: the role is the one that the old token states.
      rw [AccountRequest.perform]
      refine grants_issued (kept_refresh s p call q) fun pair hpair token htoken c hc => ?_
      simp only [refresh] at hpair
      split at hpair
      · cases hpair
      · obtain ⟨old, hold, hpair⟩ := andThen_eq_ok hpair
        have hsubject := toSubject_of_issuePair hpair htoken hc
        have hrole : c.role = old.role := congrArg Subject.role hsubject
        rw [hrole]
        exact hrefresh q old rfl (verify_of_result hold)
  | «exists» q =>
      rw [AccountRequest.perform]
      have husers := (kept_userExists s p q).users
      exact grants_of_silent (grants_nothing (congrArg Directory.roles husers)) fun _ => rfl
  | close =>
      rw [AccountRequest.perform]
      exact grants_of_silent (grants_nothing (roles_closeAccount p caller)) fun _ => rfl

theorem grants_outcome (hw : w.Knows known) {v : Visit} (hv : v.IsHonest s w) :
    Grants known w.platform (v.outcome s w.platform) := by
  have hrefresh : ∀ q c, v.request = .refresh q →
      Token.verify s.scheme ((v.met s w.platform).findKey s v.call.now) s.issuers
        v.call.now.seconds .refresh (Text.trim q.token) = .ok c → known c.role := fun q c hq hc =>
    hw.tokens _ (hv.refresh q c hq hc) c (stated?_of_verify hc)
  unfold Visit.outcome
  split
  · next hnone =>
      rw [Visit.met, hnone] at hrefresh
      exact grants_perform hw.accounts v.call (fun c hc => by cases hc) v.request hrefresh
  · next token htoken =>
      rw [Visit.met, htoken] at hrefresh
      have husers := (kept_verify s w.platform v.call.now .access token).users
      unfold Outcome.andThen
      split
      · exact ⟨grants_nothing (congrArg Directory.roles husers),
          fun reply hreply => by cases hreply⟩
      · next c hc =>
          have hverify := verify_of_result hc
          have hrole : known c.role :=
            hw.tokens token (hv.access token c htoken hverify) c (stated?_of_verify hverify)
          have hgrants : Grants known (w.platform.verify s v.call.now .access token).platform
              (v.request.perform s (w.platform.verify s v.call.now .access token).platform v.call
                (some c)) :=
            grants_perform (by rw [husers]; exact hw.accounts) v.call
              (fun c' hc' => by cases hc'; exact hrole) v.request hrefresh
          exact ⟨by simpa only [husers] using hgrants.accounts, hgrants.tokens⟩

theorem grants_visit (hw : w.Knows known) {v : Visit} (hv : v.IsHonest s w) :
    (∃ created, (v.perform s w).platform.users.roles = w.platform.users.roles ++ created ∧
      ∀ r ∈ created, IsGranted known r) ∧
    ∀ token ∈ (v.perform s w).tokens, token ∈ w.tokens ∨
      ∀ c, stated? token = some c → known c.role := by
  have hgrants := grants_outcome hw hv
  refine ⟨hgrants.accounts, fun token htoken => ?_⟩
  rcases List.mem_append.mp htoken with h | h
  · exact .inl h
  · right
    cases hresult : (v.outcome s w.platform).result with
    | error e => rw [hresult] at h; cases h
    | ok reply =>
        rw [hresult] at h
        exact hgrants.tokens reply hresult token h

/-- Known roles stay the only ones if whatever they may create is known. -/
theorem knows_visit (hborrower : known .borrower)
    (hcreatable : ∀ creator, known creator → ∀ r ∈ creator.creatable, known r) (hw : w.Knows known)
    {v : Visit} (hv : v.IsHonest s w) : (v.perform s w).Knows known := by
  obtain ⟨⟨created, hroles, hcreated⟩, htokens⟩ := grants_visit hw hv
  constructor
  · intro r hr
    rw [hroles] at hr
    rcases List.mem_append.mp hr with hr | hr
    · exact hw.accounts r hr
    · rcases hcreated r hr with rfl | ⟨creator, hcreator, hr⟩
      · exact hborrower
      · exact hcreatable creator hcreator r hr
  · intro token htoken c hc
    rcases htokens token htoken with hold | hissued
    · exact hw.tokens token hold c hc
    · exact hissued c hc

/-- Over a whole run the known roles stay the only ones, and every new account has a role that was
granted by one of them. -/
theorem knows_run (hborrower : known .borrower)
    (hcreatable : ∀ creator, known creator → ∀ r ∈ creator.creatable, known r) (hw : w.Knows known)
    {visits : List Visit} (h : w.IsHonest s visits) :
    (w.run s visits).Knows known ∧
      ∃ created, (w.run s visits).platform.users.roles = w.platform.users.roles ++ created ∧
        ∀ r ∈ created, IsGranted known r := by
  -- Which roles are known is fixed for the whole run, so each visit finds the same ones.
  induction visits generalizing w with
  | nil => exact ⟨hw, [], (List.append_nil _).symm, fun _ h => absurd h List.not_mem_nil⟩
  | cons v visits ih =>
      obtain ⟨⟨first, hfirst, hgranted⟩, -⟩ := grants_visit hw h.1
      obtain ⟨hknows, later, hlater, hgranted'⟩ :=
        ih (knows_visit hborrower hcreatable hw h.1) h.2
      refine ⟨hknows, first ++ later, ?_, fun r hr => ?_⟩
      · rw [← List.append_assoc, ← hfirst]
        exact hlater
      · exact (List.mem_append.mp hr).elim (hgranted r) (hgranted' r)

end Visit

/-- Neither an account nor a token has the role. -/
def Session.Lacks (w : Session) (r : Role) : Prop := w.Knows (· ≠ r)

section Lacks
variable {s : Setup} {w : Session} {visits : List Visit}

theorem lacks_superadmin_run (hlacks : w.Lacks .superadmin) (h : w.IsHonest s visits) :
    (w.run s visits).Lacks .superadmin := by
  refine (knows_run (by decide) (fun creator hcreator r hr => ?_) hlacks h).1
  rcases creatable_cases hr with ⟨rfl, -⟩ | ⟨-, rfl⟩
  · exact absurd rfl hcreator
  · decide

theorem not_mem_creatable {creator r : Role} (h : creator ≠ .superadmin ∧ creator ≠ .admin) :
    r ∉ creator.creatable := by
  intro hr
  rcases creatable_cases hr with ⟨hsuper, -⟩ | ⟨hadmin, -⟩
  · exact h.1 hsuper
  · exact h.2 hadmin

/-- Where nobody may create a role, only borrowers are added. -/
theorem borrowers_run (hsuper : w.Lacks .superadmin) (hadmin : w.Lacks .admin)
    (h : w.IsHonest s visits) :
    ∃ created, (w.run s visits).platform.users.roles = w.platform.users.roles ++ created ∧
      ∀ r ∈ created, r = .borrower := by
  have hneither : w.Knows fun r => r ≠ .superadmin ∧ r ≠ .admin :=
    ⟨fun r hr => ⟨hsuper.accounts r hr, hadmin.accounts r hr⟩,
      fun token htoken c hc => ⟨hsuper.tokens token htoken c hc, hadmin.tokens token htoken c hc⟩⟩
  obtain ⟨-, created, hroles, hcreated⟩ := knows_run (by decide)
    (fun creator hcreator r hr => absurd hr (not_mem_creatable hcreator)) hneither h
  refine ⟨created, hroles, fun r hr => ?_⟩
  rcases hcreated r hr with hborrower | ⟨creator, hcreator, hr⟩
  · exact hborrower
  · exact absurd hr (not_mem_creatable hcreator)

/-- Whoever registers an account, it is no field validator's and no investor's. -/
theorem created_run (h : w.IsHonest s visits) :
    ∃ created, (w.run s visits).platform.users.roles = w.platform.users.roles ++ created ∧
      ∀ r ∈ created, r ≠ .fieldValidator ∧ r ≠ .investor := by
  have hall : w.Knows fun _ => True := ⟨fun _ _ => trivial, fun _ _ _ _ => trivial⟩
  obtain ⟨-, created, hroles, hcreated⟩ := knows_run trivial (fun _ _ _ _ => trivial) hall h
  refine ⟨created, hroles, fun r hr => ?_⟩
  rcases hcreated r hr with rfl | ⟨creator, -, hr⟩
  · decide
  · rcases creatable_cases hr with ⟨-, rfl | rfl⟩ | ⟨-, rfl⟩ <;> decide

end Lacks

/-- Where nobody is a superadmin from the start, nobody ever is; where nobody is an admin either,
only borrowers are added; and field validators and investors are never added. -/
theorem roles_of_run (s : Setup) (w : Session) (visits : List Visit) (h : w.IsHonest s visits) :
    (w.Lacks .superadmin → (w.run s visits).Lacks .superadmin) ∧
    ∃ created, (w.run s visits).platform.users.roles = w.platform.users.roles ++ created ∧
      (w.Lacks .superadmin → w.Lacks .admin → ∀ r ∈ created, r = .borrower) ∧
      ∀ r ∈ created, r ≠ .fieldValidator ∧ r ≠ .investor := by
  obtain ⟨created, hroles, hcreated⟩ := created_run h
  refine ⟨fun hlacks => lacks_superadmin_run hlacks h, created, hroles, ?_, hcreated⟩
  intro hsuper hadmin
  obtain ⟨created', hroles', hborrowers⟩ := borrowers_run hsuper hadmin h
  obtain rfl : created = created' := List.append_cancel_left (hroles.symm.trans hroles')
  exact hborrowers

def sealedSession : Session := ⟨start 4, [sealedToken]⟩

/-- Somebody, and then user 1, a borrower, asks for the role of a superadmin. -/
def askedRoles : List Visit :=
  [⟨⟨clock 1, []⟩, none, .register ⟨"First", "first@example.com", "0811000001", "Secret-123", 1⟩⟩,
    ⟨⟨clock 1, []⟩, some sealedToken,
      .register ⟨"Second", "second@example.com", "0811000002", "Secret-123", 1⟩⟩]

theorem roles_of_askedRoles :
    (sealedSession.run sealedSetup (askedRoles.take 1)).platform.users.roles = [.borrower] ∧
      sealedSession.IsHonest sealedSetup askedRoles ∧
      (sealedSession.run sealedSetup askedRoles).Lacks .superadmin ∧
      ∀ r ∈ (sealedSession.run sealedSetup askedRoles).platform.users.roles, r = .borrower := by
  have hhonest : sealedSession.IsHonest sealedSetup askedRoles := by
    refine ⟨⟨fun token c h => ?_, fun r c h => ?_⟩, ⟨fun token c h _ => ?_, fun r c h => ?_⟩,
      trivial⟩
    · cases h
    · cases h
    · cases h
      exact List.mem_append_left _ (List.mem_singleton_self _)
    · cases h
  have hlacks : ∀ r, r ≠ .borrower → sealedSession.Lacks r := by
    intro r hr
    constructor
    · exact fun r hr => absurd hr List.not_mem_nil
    · intro token htoken c hc
      rw [List.mem_singleton.mp htoken] at hc
      rw [eq_of_stated?_sign issued_sealedToken.signed hc]
      exact hr.symm
  obtain ⟨hsuper, created, hroles, hborrower, -⟩ :=
    roles_of_run sealedSetup sealedSession askedRoles hhonest
  refine ⟨by decide +kernel, hhonest, hsuper (hlacks _ (by decide)), fun r hr => ?_⟩
  rw [hroles] at hr
  exact hborrower (hlacks _ (by decide)) (hlacks _ (by decide)) r hr

end Crowdlending.Platform
