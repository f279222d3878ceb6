import Crowdlending.Proofs.Crypto.Bcrypt
import Crowdlending.Proofs.Platform.Acceptance
import Crowdlending.Proofs.Platform.Registration

/-!
# Logging in with what was registered

A user is stored under the email and the phone number that he gave, one trimmed and the other in
international form, and is looked up by what he types at the login. Both bring what he types to one
form by rules of their own. They agree on every email, and on every phone number but those with an
at sign in them: it is no separator and stays where it is, and the login takes whatever has one for
an email.

Identifiers stand for one active user at most, whatever calls came before, so nobody else is found.
-/
namespace Crowdlending.Platform
open Token Account Crypto

/-! ## Directories that arise -/

section Run
variable {s : Setup} {p : Platform}

theorem runWorker_users (s : Setup) (p : Platform) : (p.runWorker s).users = p.users := rfl

theorem Action.users_step (s : Setup) (p : Platform) (a : Action) :
    (a.perform s p).users = p.users ∨ p.users.Step (a.perform s p).users := by
  cases a with
  | loan now caller r => exact .inl (loan_perform_users p now caller r)
  | account call caller r => exact (account_perform_effect s p call caller r).2.2.2
  | setConflicts n => exact .inl rfl
  | deleteLoan now target deletedBy => exact .inl rfl
  | runWorker => exact .inl (runWorker_users s p)

theorem continues_users_run (s : Setup) (p : Platform) (actions : List Action) :
    p.users.Continues (p.run s actions).users := by
  induction actions generalizing p with
  | nil => exact .refl _
  | cons a actions ih =>
      have hrest := ih (a.perform s p)
      rcases a.users_step s p with hsame | hstep
      · rw [hsame] at hrest
        exact hrest
      · exact hstep.continues.trans hrest

theorem unambiguous_register (hcountry : '.' ∉ s.countryCode.toList) (h : p.users.Unambiguous)
    (call : Call) (caller : Option Claims) (r : RegisterRequest) :
    (p.register s call caller r).platform.users.Unambiguous := by
  rcases register_cases s p call caller r with hsame | ⟨a, hash, users, u, ha, hu, hdone⟩
  · rw [hsame]
    exact h
  · rw [hdone]
    exact h.create hu (Enrolment.isSeparated_of_checkRegister hcountry ha)

theorem unambiguous_action (hcountry : '.' ∉ s.countryCode.toList) (h : p.users.Unambiguous)
    (a : Action) : (a.perform s p).users.Unambiguous := by
  cases a with
  | loan now caller r =>
      rw [Action.perform, loan_perform_users]
      exact h
  | account call caller r =>
      rw [Action.perform]
      by_cases hr : ∃ q, r = .register q
      · obtain ⟨q, rfl⟩ := hr
        exact unambiguous_register hcountry h call caller q
      · exact Enrolment.unambiguous_perform h (fun q hq => hr ⟨q, hq⟩) call caller
  | setConflicts n => exact h
  | deleteLoan now target deletedBy => exact h
  | runWorker => exact h

theorem unambiguous_run (hcountry : '.' ∉ s.countryCode.toList) (h : p.users.Unambiguous)
    (actions : List Action) : (p.run s actions).users.Unambiguous := by
  induction actions generalizing p with
  | nil => exact h
  | cons a actions ih => exact ih (unambiguous_action hcountry h a)

end Run

/-! ## Who registered -/

/-- The user is stored with what the request said. -/
structure Stores (s : Setup) (salt : List UInt8) (r : RegisterRequest) (u : User) : Prop where
  email : u.email = Text.trim r.email
  isEmail : isEmailText u.email = true
  phoneNumber : u.phoneNumber = Phone.international s.countryCode (Text.trim r.phoneNumber)
  present : Text.trimChars r.phoneNumber.toList ≠ []
  password : checkPassword r.password = .ok ()
  passwordHash : Bcrypt.hash s.hashCore salt r.password s.hashCost = .ok u.passwordHash

section Registered
variable {s : Setup} {p : Platform} {call : Call} {caller : Option Claims} {r : RegisterRequest}

/-- A registration that succeeds found nobody in the way. -/
theorem register_eq_ok {reasons : List String}
    (h : (p.register s call caller r).result = .ok ⟨true, reasons⟩) :
    ∃ a passwordHash users u, checkRegister s.countryCode caller r = .ok a ∧
      Bcrypt.hash s.hashCore call.salt r.password s.hashCost = .ok passwordHash ∧
      p.users.create ⟨a.name, a.email, a.phone, passwordHash, a.role, caller.map Claims.userId⟩ =
        .ok (users, u) ∧
      p.register s call caller r = .done { p with users } ⟨true, []⟩ := by
  unfold register at h
  split at h
  · cases h
  · next a ha =>
      split at h
      · cases h
      · next hreasons =>
          split at h
          · cases h
          · next passwordHash hhash =>
              split at h
              · cases h
              · next users u hu =>
                  refine ⟨a, passwordHash, users, u, ha, hhash, hu, ?_⟩
                  simp only [register, ha, hreasons, hhash, hu]
      · cases h

/-- Whoever is registered comes last in the directory, and is active. -/
theorem stores_of_register {reasons : List String}
    (h : (p.register s call caller r).result = .ok ⟨true, reasons⟩) :
    ∃ u, (p.register s call caller r).platform.users.entries =
        p.users.entries ++ [⟨u, caller.map Claims.userId, none⟩] ∧
      u.id = p.users.lastId + 1 ∧ u.status = .active ∧ Stores s call.salt r u := by
  obtain ⟨a, passwordHash, users, u, ha, hhash, hcreate, hdone⟩ := register_eq_ok h
  obtain ⟨-, hemail, hphone, hpassword, role, -, rfl⟩ := checkRegister_eq_ok_iff.mp ha
  obtain ⟨rfl, rfl⟩ := Directory.create_eq_ok hcreate
  rw [hdone]
  exact ⟨_, rfl, rfl, rfl, rfl, hemail, rfl, checkPresent_eq_ok_iff.mp hphone, hpassword, hhash⟩

end Registered

/-! ## Logging in -/

section Login
variable {s : Setup} {p : Platform} {r : RegisterRequest} {q : LoginRequest} {e : Entry}
  {salt : List UInt8}

theorem checkLogin_eq_ok (hidentifier : Text.trimChars q.identifier.toList ≠ [])
    (hpassword : checkPassword q.password = .ok ()) :
    checkLogin q = .ok (Text.trim q.identifier) := by
  have hpresent : checkPresent "user_id" (Text.trim q.identifier) = .ok () := by
    rw [checkPresent_eq_ok_iff, Text.trim, String.toList_ofList]
    exact Text.trimChars_trimChars_ne_nil hidentifier
  have hlong : ¬q.password.toList.length < leastPasswordLength := by
    unfold checkPassword isStrong at hpassword
    split at hpassword
    · next hstrong =>
        simp only [Bool.and_eq_true, decide_eq_true_eq] at hstrong
        omega
    · cases hpassword
  simp only [checkLogin, hpresent, if_neg hlong]

theorem loginIdentifier_of_mem (country : String) {identifier : String}
    (h : '@' ∈ identifier.toList) : loginIdentifier country identifier = identifier := by
  rw [loginIdentifier, if_pos (List.contains_iff_mem.mpr h)]

theorem loginIdentifier_of_not_mem (country : String) {identifier : String}
    (h : '@' ∉ identifier.toList) :
    loginIdentifier country identifier = Phone.international country identifier := by
  rw [loginIdentifier, if_neg fun hmem => h (List.contains_iff_mem.mp hmem)]

/-- The email that was given stands for its holder. -/
theorem Stores.holds_email (h : Stores s salt r e.user) :
    Text.trimChars r.email.toList ≠ [] ∧
      e.holds (loginIdentifier s.countryCode (Text.trim r.email)) = true := by
  have hmem := mem_at_of_isEmailText h.isEmail
  rw [h.email] at hmem
  constructor
  · rw [Text.trim, String.toList_ofList] at hmem
    exact List.ne_nil_of_mem hmem
  · rw [loginIdentifier_of_mem _ hmem, Entry.holds_iff]
    exact .inl h.email

/-- The phone number has no at sign in it, or it is stored as it was typed, or the email is. -/
def SaysPhone (r : RegisterRequest) (u : User) : Prop :=
  '@' ∉ r.phoneNumber.toList ∨ Text.trim r.phoneNumber = u.phoneNumber ∨
    Text.trim r.phoneNumber = u.email

theorem Stores.holds_phone_iff (h : Stores s salt r e.user) :
    e.holds (loginIdentifier s.countryCode (Text.trim r.phoneNumber)) = true ↔
      SaysPhone r e.user := by
  have hat : Text.isBlank '@' = false := by decide
  rw [Entry.holds_iff, SaysPhone]
  by_cases hmem : '@' ∈ r.phoneNumber.toList
  · rw [loginIdentifier_of_mem _ ((Text.mem_trim_iff hat _).mpr hmem)]
    simp only [hmem, not_true_eq_false, false_or]
    exact ⟨fun h => h.symm.imp Eq.symm Eq.symm, fun h => h.symm.imp Eq.symm Eq.symm⟩
  · rw [loginIdentifier_of_not_mem _ fun hmem' => hmem ((Text.mem_trim_iff hat _).mp hmem')]
    simp only [hmem, not_false_eq_true, true_or, iff_true]
    exact .inr h.phoneNumber

theorem Stores.continues {e' : Entry} (h : Stores s salt r e.user) (hlater : e.Continues e') :
    Stores s salt r e'.user := by
  rw [hlater.user]
  exact ⟨h.email, h.isEmail, h.phoneNumber, h.present, h.password, h.passwordHash⟩

/-- Whoever is active, and is stored with the request, is logged in by what he holds if the digest
of his password is the stored one. -/
theorem result_login (husers : p.users.Unambiguous) (he : e ∈ p.users.entries)
    (hactive : e.isActive = true) (hstores : Stores s salt r e.user)
    (hsized : Bcrypt.IsSized s.hashCore s.hashCost salt r.password)
    (hidentifier : Text.trimChars q.identifier.toList ≠ [])
    (hholds : e.holds (loginIdentifier s.countryCode (Text.trim q.identifier)) = true)
    (hpassword : checkPassword q.password = .ok ()) (call : Call) :
    (p.login s call q).result =
      if Bcrypt.digest s.hashCore s.hashCost salt q.password =
        Bcrypt.digest s.hashCore s.hashCost salt r.password then
          (p.issuePair s call.now (.ofUser e.user) q.rememberMe).result
      else .error (.failure .credentials) := by
  have hfound := (husers.looksUp _).active e he hactive hholds
  have hstatus : e.user.status = .active := by simpa [Entry.isActive] using hactive
  have hverify := Bcrypt.verify_of_hash hstores.passwordHash hsized q.password
  simp only [login, authenticate, checkLogin_eq_ok hidentifier hpassword, hfound, hstatus, ne_eq,
    not_true_eq_false, if_false, hverify]
  by_cases hsame : Bcrypt.digest s.hashCore s.hashCost salt q.password =
      Bcrypt.digest s.hashCore s.hashCost salt r.password
  · rw [if_pos hsame, hsame, beq_self_eq_true]
  · rw [if_neg hsame, beq_eq_false_iff_ne.mpr hsame]
    rfl

end Login

/-- The login gives out a pair that speaks of the user. -/
def LogsIn (s : Setup) (p : Platform) (call : Call) (q : LoginRequest) (u : User) : Prop :=
  ∃ pair, (p.login s call q).result = .ok pair ∧
    PairFor s call.now (.ofUser u) q.rememberMe pair

section Main
variable {s : Setup} {call later : Call} {r : RegisterRequest}

theorem logsIn_of_result {p : Platform} {q : LoginRequest} {u : User} (hkeyed : Keyed s)
    (hlifetimes : LifetimesCount s.issuer) (hdates : InDates s later.now)
    (h : (p.login s later q).result = (p.issuePair s later.now (.ofUser u) q.rememberMe).result) :
    LogsIn s p later q u := by
  obtain ⟨pair, hpair⟩ := exists_pair_of_keyed hkeyed hlifetimes hdates (.ofUser u) q.rememberMe p
  exact ⟨pair, h.trans hpair, pairFor_of_issuePair hlifetimes hpair⟩

/-- Whatever happened before, whoever has just been registered can log in with the same password by
the email that he gave, and by the phone number as he typed it unless an at sign makes it pass for
an email. Then it finds him only if it is, as it was typed, his stored number or his email. -/
theorem login_of_registered (hkeyed : Keyed s) (hlifetimes : LifetimesCount s.issuer)
    (hcountry : '.' ∉ s.countryCode.toList) (capacity : ℕ) (actions : List Action)
    (hsized : Bcrypt.IsSized s.hashCore s.hashCost call.salt r.password) {reasons : List String}
    (h : (((start capacity).run s actions).register s call none r).result = .ok ⟨true, reasons⟩)
    (hdates : InDates s later.now) (remember : Bool) :
    let before := (start capacity).run s actions
    let after := (before.register s call none r).platform
    ∃ u, after.users.entries = before.users.entries ++ [⟨u, none, none⟩] ∧
      LogsIn s after later ⟨r.email, r.password, remember⟩ u ∧
      (SaysPhone r u → LogsIn s after later ⟨r.phoneNumber, r.password, remember⟩ u) ∧
      (¬SaysPhone r u →
        ∀ u', authenticate s after.users ⟨r.phoneNumber, r.password, remember⟩ = .ok u' →
          u'.id ≠ u.id) := by
  intro before after
  obtain ⟨u, hentries, -, hactive, hstores⟩ := stores_of_register h
  have husers : after.users.Unambiguous :=
    unambiguous_register hcountry (unambiguous_run hcountry Directory.unambiguous_empty actions)
      call none r
  obtain ⟨e, he, rfl⟩ : ∃ e ∈ after.users.entries, e.user = u := by
    rw [hentries]
    exact ⟨_, List.mem_append_right _ (List.mem_singleton_self _), rfl⟩
  have hlogs (identifier : String) (hsome : Text.trimChars identifier.toList ≠ [])
      (hholds : e.holds (loginIdentifier s.countryCode (Text.trim identifier)) = true) :
      LogsIn s after later ⟨identifier, r.password, remember⟩ e.user := by
    have hresult := result_login (q := ⟨identifier, r.password, remember⟩) husers he
      (by simp [Entry.isActive, hactive]) hstores hsized hsome hholds hstores.password later
    rw [if_pos rfl] at hresult
    exact logsIn_of_result hkeyed hlifetimes hdates hresult
  refine ⟨e.user, hentries, hlogs r.email hstores.holds_email.1 hstores.holds_email.2,
    fun hsays => hlogs r.phoneNumber hstores.present (hstores.holds_phone_iff.mpr hsays),
    fun hsays u' hauthentic hid => ?_⟩
  obtain ⟨-, -, e', he', rfl, hholds⟩ := authenticate_eq_ok hauthentic
  obtain rfl := husers.eq_of_id he' he hid
  exact hsays (hstores.holds_phone_iff.mp hholds)

end Main

/-! Real digests, of two passwords alone. -/

/-- The digests at cost 4, with a salt of zero bytes. -/
def knownCore : Bcrypt.Core := fun _ _ key =>
  if key = Bcrypt.keyOf "Secret-123" then
    [207, 99, 95, 42, 215, 187, 168, 148, 2, 231, 238, 102, 98, 120, 108, 108, 138, 36, 240, 71,
      107, 195, 216, 245]
  else if key = Bcrypt.keyOf "Secret-124" then
    [219, 173, 119, 25, 97, 61, 12, 214, 33, 71, 52, 252, 237, 123, 168, 208, 153, 226, 23, 161,
      166, 130, 181, 233]
  else []

def coreSetup (core : Bcrypt.Core) : Setup := { leastSetup with hashCore := core, hashCost := 4 }

/-- The call that registers, and the call that logs in. -/
def early : Call := ⟨clock 4, List.replicate 16 0⟩
def late : Call := ⟨clock 5, []⟩

theorem keyed_coreSetup (core : Bcrypt.Core) :
    Keyed (coreSetup core) ∧ LifetimesCount (coreSetup core).issuer ∧
      InDates (coreSetup core) late.now :=
  ⟨⟨keyed_leastSetup.1.named, keyed_leastSetup.1.key, keyed_leastSetup.1.issuers⟩,
    keyed_leastSetup.2, ⟨inDates_leastSetup.nonneg, inDates_leastSetup.ends⟩⟩

/-- Somebody types his phone number with separators and a leading zero, and logs in by it. -/
theorem login_of_spaced_phone :
    let s := coreSetup knownCore
    let r := requestBy "first@example.com" "0811 000.001"
    ((start 4).register s early none r).result = .ok ⟨true, []⟩ ∧
      Keyed s ∧ LifetimesCount s.issuer ∧ InDates s late.now ∧ '.' ∉ s.countryCode.toList ∧
      ∃ u, LogsIn s ((start 4).register s early none r).platform late
        ⟨"0811 000.001", "Secret-123", false⟩ u := by
  intro s r
  obtain ⟨hkeyed, hlifetimes, hdates⟩ := keyed_coreSetup knownCore
  have hcountry : '.' ∉ s.countryCode.toList := by decide +kernel
  have hregister : ((start 4).register s early none r).result = .ok ⟨true, []⟩ := by decide +kernel
  have hplain : '@' ∉ r.phoneNumber.toList := by decide +kernel
  obtain ⟨u, -, -, hphone, -⟩ := login_of_registered hkeyed hlifetimes hcountry 4 []
    ⟨by decide, by decide +kernel⟩ hregister hdates false
  exact ⟨hregister, hkeyed, hlifetimes, hdates, hcountry, u, hphone (.inl hplain)⟩

/-- Somebody types an at sign into his phone number. Nobody is found by what he typed. -/
theorem unfound_of_typed_phone :
    let r := requestBy "first@example.com" "0811@1"
    ((start 4).register Enrolment.plusSetup early none r).result = .ok ⟨true, []⟩ ∧
      (((start 4).register Enrolment.plusSetup early none r).platform.login Enrolment.plusSetup late
        ⟨"0811@1", "Secret-123", false⟩).result = .error (.failure .userNotFound) := by
  decide +kernel

end Crowdlending.Platform
