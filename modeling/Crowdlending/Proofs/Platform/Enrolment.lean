import Mathlib.Logic.Function.Iterate
import Crowdlending.Proofs.Account.Holders
import Crowdlending.Proofs.Platform.Identity

/-!
# Registrations at the same time

Any number of account calls, each a task of its own, and a schedule that says whose step comes
next. A registration is not one step: it is checked, its email and its phone number are looked for,
in either order, then its password is hashed, and only then it is entered; accounts may come and
go between any two of these steps. What was looked for may be out of date when the account is
entered, so the directory looks once more, and this alone keeps identifiers unambiguous. Every
other call is one step.

The steps are those of the operations themselves: run alone, a task leaves the platform and gives
the answer that its operation does.
-/
namespace Crowdlending.Enrolment
open Platform Token Account

abbrev Answer := Except Abort AccountReply

structure Task where
  call : Call
  caller : Option Claims
  request : AccountRequest

/-- How far a task has come. -/
inductive Phase where
  | called
  /-- The applicant is looked for; the reasons against him, where a column has been looked at. -/
  | seeking (a : Applicant) (password : String) (byEmail byPhone : Option (List String))
  | hashing (a : Applicant) (password : String)
  | entering (a : Applicant) (passwordHash : String)
  | returned (answer : Answer)

namespace Phase

def refused (f : Failure) : Phase := returned (.error (.failure f))

/-- Goes on with a result. -/
def andThen {α : Type} : Except Failure α → (α → Phase) → Phase
  | .error f, _ => refused f
  | .ok x, next => next x

/-- With both columns looked at, the applicant goes on if there is no reason against him. -/
def judged (a : Applicant) (password : String) : List String → Phase
  | [] => hashing a password
  | reasons => returned (.ok (.registered ⟨false, reasons⟩))

end Phase

def seekEmail (d : Directory) (a : Applicant) (password : String)
    (byPhone : Option (List String)) : Phase :=
  .andThen (reasonFor d .email a.email) fun byEmail => .seeking a password (some byEmail) byPhone

def seekPhone (d : Directory) (a : Applicant) (password : String)
    (byEmail : Option (List String)) : Phase :=
  .andThen (reasonFor d .phoneNumber a.phone) fun byPhone =>
    .seeking a password byEmail (some byPhone)

/-- One step of a task: the platform and its phase afterwards. Where both columns are still to be
looked at, it may begin with either. -/
def Task.work (s : Setup) (t : Task) (phoneFirst : Bool) : Platform × Phase → Platform × Phase
  | (p, .called) =>
      match t.request with
      | .register r => (p, .andThen (checkRegister s.countryCode t.caller r) fun a =>
          .seeking a r.password none none)
      | r =>
          let o := r.perform s p t.call t.caller
          (o.platform, .returned o.result)
  | (p, .seeking a password (some byEmail) (some byPhone)) =>
      (p, .judged a password (byEmail ++ byPhone))
  | (p, .seeking a password none (some byPhone)) =>
      (p, seekEmail p.users a password (some byPhone))
  | (p, .seeking a password (some byEmail) none) =>
      (p, seekPhone p.users a password (some byEmail))
  | (p, .seeking a password none none) =>
      (p, if phoneFirst then seekPhone p.users a password none
        else seekEmail p.users a password none)
  | (p, .hashing a password) =>
      (p, .andThen (Crypto.Bcrypt.hash s.hashCore t.call.salt password s.hashCost) fun hash =>
        .entering a hash)
  | (p, .entering a passwordHash) =>
      match p.users.create
        ⟨a.name, a.email, a.phone, passwordHash, a.role, t.caller.map Claims.userId⟩ with
      | .error f => (p, .refused f)
      | .ok (users, _) => ({ p with users }, .returned (.ok (.registered ⟨true, []⟩)))
  | (p, .returned answer) => (p, .returned answer)

/-- The platform, and how far each task has come. -/
structure World (ι : Type) where
  platform : Platform
  phase : ι → Phase

namespace World
variable {ι : Type} [DecidableEq ι]

def start (capacity : ℕ) : World ι := ⟨Platform.start capacity, fun _ => .called⟩

def advance (s : Setup) (tasks : ι → Task) (w : World ι) (next : ι × Bool) : World ι :=
  let r := (tasks next.1).work s next.2 (w.platform, w.phase next.1)
  ⟨r.1, Function.update w.phase next.1 r.2⟩

/-- The world after the steps of these tasks, with the column that each begins with if it may. -/
def run (s : Setup) (tasks : ι → Task) (w : World ι) (schedule : List (ι × Bool)) : World ι :=
  schedule.foldl (advance s tasks) w

end World

/-! ## A task alone -/

section Work
variable {s : Setup} {t : Task} {phoneFirst : Bool} {p : Platform}

theorem iterate_returned (answer : Answer) (n : ℕ) :
    (t.work s phoneFirst)^[n] (p, .returned answer) = (p, .returned answer) :=
  Function.iterate_fixed rfl n

theorem reasonFor_eq_ok (d : Directory) {kind : Identifier} (hkind : kind ≠ .username)
    (value : String) : ∃ reasons, reasonFor d kind value = .ok reasons := by
  unfold reasonFor
  split
  · exact ⟨[], rfl⟩
  · cases kind with
    | username => exact absurd rfl hkind
    | email => exact ⟨_, rfl⟩
    | phoneNumber => exact ⟨_, rfl⟩

/-- Whichever column comes first, three steps look at both and judge by them. -/
theorem iterate_seeking (s : Setup) (t : Task) (phoneFirst : Bool) (p : Platform) (a : Applicant)
    (password : String) :
    ∃ reasons, existenceReasons p.users a.email a.phone = .ok reasons ∧
      (t.work s phoneFirst)^[3] (p, .seeking a password none none) =
        (p, .judged a password reasons) := by
  obtain ⟨byEmail, hemail⟩ := reasonFor_eq_ok p.users (by decide : Identifier.email ≠ .username)
    a.email
  obtain ⟨byPhone, hphone⟩ :=
    reasonFor_eq_ok p.users (by decide : Identifier.phoneNumber ≠ .username) a.phone
  refine ⟨byEmail ++ byPhone, ?_, ?_⟩
  · simp only [existenceReasons, hemail, hphone]
    rfl
  · cases phoneFirst <;>
      simp [Function.iterate_succ, Task.work, seekEmail, seekPhone, hemail, hphone, Phase.andThen]

/-- The end of a registration, when nobody was in the way. -/
def enter (s : Setup) (p : Platform) (call : Call) (caller : Option Claims) (a : Applicant)
    (password : String) : Outcome Registered :=
  match Crypto.Bcrypt.hash s.hashCore call.salt password s.hashCost with
  | .error f => .failed p f
  | .ok passwordHash => match p.users.create
      ⟨a.name, a.email, a.phone, passwordHash, a.role, caller.map Claims.userId⟩ with
    | .error f => .failed p f
    | .ok (users, _) => .done { p with users } ⟨true, []⟩

/-- With nobody in the way, two steps enter the applicant. -/
theorem iterate_hashing (a : Applicant) (password : String) :
    (t.work s phoneFirst)^[2] (p, .judged a password []) =
      ((enter s p t.call t.caller a password).platform,
        .returned ((enter s p t.call t.caller a password).result.map .registered)) := by
  rw [Function.iterate_succ_apply, Function.iterate_one, enter]
  simp only [Phase.judged, Task.work]
  cases Crypto.Bcrypt.hash s.hashCore t.call.salt password s.hashCost with
  | error f => rfl
  | ok passwordHash =>
      simp only [Phase.andThen]
      split <;> rfl

/-- Six steps bring a task to its end, whichever column it begins with: it does what its operation
does. -/
theorem iterate_work (s : Setup) (t : Task) (phoneFirst : Bool) (p : Platform) :
    (t.work s phoneFirst)^[6] (p, .called) =
      ((t.request.perform s p t.call t.caller).platform,
        .returned (t.request.perform s p t.call t.caller).result) := by
  rw [show 6 = 5 + 1 from rfl, Function.iterate_succ_apply]
  cases hrequest : t.request with
  | register r =>
      have hstep : t.work s phoneFirst (p, .called) =
          (p, .andThen (checkRegister s.countryCode t.caller r) fun a =>
            .seeking a r.password none none) := by
        simp only [Task.work, hrequest]
      rw [hstep, AccountRequest.perform, register]
      cases hcheck : checkRegister s.countryCode t.caller r with
      | error f => exact iterate_returned _ _
      | ok a =>
          obtain ⟨reasons, hreasons, hseek⟩ := iterate_seeking s t phoneFirst p a r.password
          rw [Phase.andThen, show 5 = 2 + 3 from rfl, Function.iterate_add_apply, hseek]
          cases reasons with
          | cons reason reasons =>
              simp only [hreasons]
              exact iterate_returned _ _
          | nil =>
              simp only [hreasons]
              exact iterate_hashing a r.password
  | _ =>
      have hstep : t.work s phoneFirst (p, .called) =
          ((t.request.perform s p t.call t.caller).platform,
            .returned (t.request.perform s p t.call t.caller).result) := by
        simp only [Task.work, hrequest]
      rw [hstep, hrequest]
      exact iterate_returned _ _

end Work

section Alone
variable {ι : Type} [DecidableEq ι] {s : Setup} {tasks : ι → Task}

theorem run_replicate (w : World ι) (i : ι) (phoneFirst : Bool) (n : ℕ) :
    w.run s tasks (List.replicate n (i, phoneFirst)) =
      let r := ((tasks i).work s phoneFirst)^[n] (w.platform, w.phase i)
      ⟨r.1, Function.update w.phase i r.2⟩ := by
  induction n generalizing w with
  | zero => simp [World.run]
  | succ n ih =>
      rw [List.replicate_succ, World.run, List.foldl_cons]
      change World.run s tasks (w.advance s tasks (i, phoneFirst)) _ = _
      rw [ih]
      simp [World.advance, Function.iterate_succ_apply]

/-- Run alone, a task does what its operation does, and gives the same answer. -/
theorem performs_alone (w : World ι) (i : ι) (hcalled : w.phase i = .called) (phoneFirst : Bool) :
    let o := (tasks i).request.perform s w.platform (tasks i).call (tasks i).caller
    w.run s tasks (List.replicate 6 (i, phoneFirst)) =
      ⟨o.platform, Function.update w.phase i (.returned o.result)⟩ := by
  rw [run_replicate, hcalled, iterate_work]

end Alone

/-! ## What the steps keep -/

/-- The applicant, if it is one who was checked and is not entered yet. -/
def Phase.applicant? : Phase → Option Applicant
  | called | returned _ => none
  | seeking a _ _ _ | hashing a _ | entering a _ => some a

def IsSeparated (a : Applicant) : Prop := '.' ∈ a.email.toList ∧ '.' ∉ a.phone.toList

/-- The email of whoever passes the checks has a point in it, and the phone number has none. -/
theorem isSeparated_of_checkRegister {country : String} (hcountry : '.' ∉ country.toList)
    {caller : Option Claims} {r : RegisterRequest} {a : Applicant}
    (h : checkRegister country caller r = .ok a) : IsSeparated a := by
  obtain ⟨-, hemail, -, -, role, -, rfl⟩ := checkRegister_eq_ok_iff.mp h
  exact ⟨mem_of_isEmailText hemail, Phone.not_mem_international hcountry _⟩

section Steps
variable {s : Setup} {p : Platform} {ph : Phase}

theorem applicant?_andThen {α : Type} {x : Except Failure α} {next : α → Phase} {a : Applicant}
    (h : (Phase.andThen x next).applicant? = some a) :
    ∃ y, x = .ok y ∧ (next y).applicant? = some a := by
  cases x with
  | error f => cases h
  | ok y => exact ⟨y, rfl, h⟩

/-- What may come to be of the platform and the phase. -/
structure Orderly (p : Platform) (ph : Phase) : Prop where
  users : p.users.Unambiguous
  applicant : ∀ a, ph.applicant? = some a → IsSeparated a

/-- A call that registers nobody enters nobody. -/
theorem unambiguous_perform (h : p.users.Unambiguous) {r : AccountRequest}
    (hr : ∀ q, r ≠ .register q) (call : Call) (caller : Option Claims) :
    (r.perform s p call caller).platform.users.Unambiguous := by
  cases r with
  | register q => exact absurd rfl (hr q)
  | login r =>
      rw [AccountRequest.perform, map_platform, (kept_login s p call r).users]
      exact h
  | refresh r =>
      rw [AccountRequest.perform, map_platform, (kept_refresh s p call r).users]
      exact h
  | «exists» r =>
      rw [AccountRequest.perform, map_platform, (kept_userExists s p r).users]
      exact h
  | close =>
      rw [AccountRequest.perform, map_platform]
      rcases closeAccount_cases p caller with ⟨f, hfailed⟩ | ⟨c, users, u, -, hclose, hdone⟩
      · rw [hfailed]
        exact h
      · rw [hdone]
        exact h.close hclose

/-- Looking does not change who is looked for. -/
theorem applicant?_seek {d : Directory} {a b : Applicant} {password : String}
    {reasons : Option (List String)}
    (h : (seekEmail d a password reasons).applicant? = some b ∨
      (seekPhone d a password reasons).applicant? = some b) : b = a := by
  rcases h with h | h
  · obtain ⟨_, -, hsome⟩ := applicant?_andThen h
    exact (Option.some.inj hsome).symm
  · obtain ⟨_, -, hsome⟩ := applicant?_andThen h
    exact (Option.some.inj hsome).symm

theorem applicant?_judged {a b : Applicant} {password : String} {reasons : List String}
    (h : (Phase.judged a password reasons).applicant? = some b) : b = a := by
  cases reasons with
  | nil => exact (Option.some.inj h).symm
  | cons reason reasons => cases h

/-- No step makes an identifier ambiguous, whatever happened since the step before. -/
theorem Orderly.work (hcountry : '.' ∉ s.countryCode.toList) (h : Orderly p ph) (t : Task)
    (phoneFirst : Bool) :
    Orderly (t.work s phoneFirst (p, ph)).1 (t.work s phoneFirst (p, ph)).2 := by
  cases ph with
  | called =>
      simp only [Task.work]
      split
      · refine ⟨h.users, fun a ha => ?_⟩
        obtain ⟨checked, hcheck, hsome⟩ := applicant?_andThen ha
        cases hsome
        exact isSeparated_of_checkRegister hcountry hcheck
      · next hother => exact ⟨unambiguous_perform h.users hother _ _, fun _ h => by cases h⟩
  | seeking a password byEmail byPhone =>
      have ha := h.applicant a rfl
      cases byEmail with
      | none =>
          cases byPhone with
          | none =>
              refine ⟨h.users, fun b hb => ?_⟩
              cases phoneFirst with
              | true => rw [applicant?_seek (.inr hb)]; exact ha
              | false => rw [applicant?_seek (.inl hb)]; exact ha
          | some reasons =>
              refine ⟨h.users, fun b hb => ?_⟩
              rw [applicant?_seek (.inl hb)]
              exact ha
      | some reasons =>
          cases byPhone with
          | none =>
              refine ⟨h.users, fun b hb => ?_⟩
              rw [applicant?_seek (.inr hb)]
              exact ha
          | some reasons' =>
              refine ⟨h.users, fun b hb => ?_⟩
              rw [applicant?_judged hb]
              exact ha
  | hashing a password =>
      refine ⟨h.users, fun b hb => ?_⟩
      obtain ⟨_, -, hsome⟩ := applicant?_andThen hb
      cases hsome
      exact h.applicant a rfl
  | entering a passwordHash =>
      simp only [Task.work]
      split
      · exact ⟨h.users, fun _ h => by cases h⟩
      · next users u hcreate =>
          exact ⟨h.users.create hcreate (h.applicant a rfl), fun _ h => by cases h⟩
  | returned answer => exact h

end Steps

section Runs
variable {ι : Type} [DecidableEq ι] {s : Setup} {tasks : ι → Task} {w : World ι}

def World.Orderly (w : World ι) : Prop :=
  w.platform.users.Unambiguous ∧ ∀ i, Enrolment.Orderly w.platform (w.phase i)

theorem World.Orderly.advance (hcountry : '.' ∉ s.countryCode.toList) (h : w.Orderly)
    (next : ι × Bool) : (w.advance s tasks next).Orderly := by
  have hstep := (h.2 next.1).work hcountry (tasks next.1) next.2
  refine ⟨hstep.users, fun i => ?_⟩
  by_cases hi : i = next.1
  · subst hi
    simpa [World.advance] using hstep
  · refine ⟨hstep.users, fun a ha => (h.2 i).applicant a ?_⟩
    simpa [World.advance, Function.update_of_ne hi] using ha

theorem World.Orderly.run (hcountry : '.' ∉ s.countryCode.toList) (h : w.Orderly)
    (schedule : List (ι × Bool)) : (w.run s tasks schedule).Orderly := by
  induction schedule generalizing w with
  | nil => exact h
  | cons next schedule ih => exact ih (h.advance hcountry next)

/-- Whatever calls are made, and however the steps of registrations come between each other and
between other calls: active users have neither emails nor phone numbers in common, nobody's phone
number is anybody's email, and the users are numbered in the order in which they came. So every
identifier stands for one active user at most, and finds him; if it has only inactive holders it
finds the newest, and if it has none it finds nobody. Of the country's code it only matters that it
has no point in it. -/
theorem unambiguous_of_schedule (s : Setup) (hcountry : '.' ∉ s.countryCode.toList)
    (tasks : ι → Task) (capacity : ℕ) (schedule : List (ι × Bool)) :
    let d := ((World.start capacity).run s tasks schedule).platform.users
    d.entries.Pairwise Entry.Apart ∧
      (∀ a ∈ d.entries, ∀ b ∈ d.entries, a.user.phoneNumber ≠ b.user.email) ∧
      d.ids = (List.range d.entries.length).map (fun i : ℕ => (i : Int) + 1) ∧
      ∀ identifier,
        (∀ a ∈ d.entries, ∀ b ∈ d.entries, a.isActive = true → b.isActive = true →
          a.holds identifier = true → b.holds identifier = true → a = b) ∧
        d.LooksUp identifier := by
  intro d
  have hstart : (World.start capacity : World ι).Orderly :=
    ⟨Directory.unambiguous_empty, fun _ => ⟨Directory.unambiguous_empty, fun _ h => by cases h⟩⟩
  have hd : d.Unambiguous := (hstart.run hcountry schedule).1
  exact ⟨hd.distinct, fun a ha b hb => hd.phoneNumber_ne_email ha hb, hd.ids, fun identifier =>
    ⟨fun a ha b hb haactive hbactive haholds hbholds =>
      hd.eq_of_holds ha hb haactive hbactive haholds hbholds, hd.looksUp identifier⟩⟩

end Runs

def plusSetup : Setup := { hashedSetup with countryCode := "+62" }

/-- Two people register under one email, but with phone numbers of their own. -/
def rivals (first : Bool) : Task where
  call := ⟨clock 4, List.replicate 16 0⟩
  caller := none
  request := .register ⟨"First", "first@example.com",
    if first then "0811000001" else "0811000002", "Secret-123", 0⟩

/-- Both look while there is nobody yet, and the second one is entered first. -/
def race : List (Bool × Bool) :=
  List.replicate 5 (true, false) ++ List.replicate 5 (false, true) ++
    [(false, false), (true, false)]

/-- The first one is refused in the end, and the email finds the second one. -/
theorem unambiguous_of_race :
    let d := ((World.start 4).run plusSetup rivals race).platform.users
    '.' ∉ plusSetup.countryCode.toList ∧
      d.entries.map (fun e => (e.user.id, e.user.phoneNumber)) = [(1, "+62811000002")] ∧
      ∃ e ∈ d.entries, d.byIdentifier "first@example.com" = .ok e.user := by
  intro d
  have hcountry : '.' ∉ plusSetup.countryCode.toList := by decide
  have hentries : d.entries.map (fun e => (e.user.id, e.user.phoneNumber)) =
      [(1, "+62811000002")] := by
    decide +kernel
  have hactive : ∃ e ∈ d.entries, e.isActive = true ∧ e.holds "first@example.com" = true := by
    decide +kernel
  obtain ⟨-, -, -, hidentifiers⟩ := unambiguous_of_schedule plusSetup hcountry rivals 4 race
  obtain ⟨e, he, hactive, hholds⟩ := hactive
  exact ⟨hcountry, hentries, e, he, (hidentifiers "first@example.com").2.active e he hactive hholds⟩

end Crowdlending.Enrolment
