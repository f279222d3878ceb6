import Crowdlending.Proofs.Http.Errand

/-!
# Registrations that come as requests

A registration says a role by its number. In a body this is a number of 8 bits, or it is left out
and nothing is asked for; a body with any other number there is none of its form. So a request can
say every registration whose role has 8 bits, and no other.
-/
namespace Crowdlending.Json.Doc

/-- A whole number is read as what it is, unless it is too great. -/
theorem asNat_int_eq_ok_iff {most n m : ℕ} : asNat most (.int n) = .ok m ↔ n ≤ most ∧ n = m := by
  rw [asNat, Result.map_eq_ok]
  simp only [asInt, int, Token.toInt?_ofInt, Int.natCast_nonneg, true_and, Nat.cast_le]
  constructor
  · rintro ⟨i, hi, rfl⟩
    split at hi
    · next hmost =>
        cases hi
        exact ⟨hmost, rfl⟩
    · cases hi
  · rintro ⟨hmost, rfl⟩
    exact ⟨n, if_pos hmost, rfl⟩

theorem le_of_asNat {most n : ℕ} {d : Doc} (h : asNat most d = .ok n) : n ≤ most := by
  obtain ⟨i, hi, rfl⟩ := Result.map_eq_ok.mp h
  unfold asInt at hi
  split at hi
  · split at hi
    · split at hi
      · next hrange =>
          cases hi
          omega
      · cases hi
    · cases hi
  · cases hi

end Crowdlending.Json.Doc

namespace Crowdlending.Account.RegisterRequest
open Json Http

variable {q : RegisterRequest} {r : Request}

/-- The request is sent to where the gateway registers accounts. -/
def IsAddressed (r : Request) : Prop :=
  r.method = "POST" ∧ Route.ofPath r.path = .action .register

/-- The request asks the gateway for the registration. -/
def IsAskedBy (q : RegisterRequest) (r : Request) : Prop :=
  IsAddressed r ∧ readBody r ofDoc = .ok q

/-- The body says a user whose role is something other than a number of 8 bits. -/
def IsMisranked (r : Request) : Prop :=
  ∃ members user d, readFirst r.body = .record members ∧ (some "user", .record user) ∈ members ∧
    (some "role_id", d) ∈ user ∧ ∀ n, asRoleNumber d ≠ .ok n

/-! ## Registrations as a client writes them -/

def userDoc (q : RegisterRequest) : Doc :=
  .ofMembers [("name", .ofText q.name), ("email", .ofText q.email),
    ("phone_number", .ofText q.phoneNumber), ("password", .ofText q.password),
    ("role_id", .int q.roleNumber)]

def toDoc (q : RegisterRequest) : Doc := .ofMembers [("user", q.userDoc)]

def written (q : RegisterRequest) (authorization : Option String) : Request where
  method := "POST"
  path := "/v1/auth/register"
  authorization := authorization
  contentType := some "application/json"
  requestId := none
  body := Text.utf8 q.toDoc.print

theorem isAddressed_written (q : RegisterRequest) (authorization : Option String) :
    IsAddressed (q.written authorization) :=
  ⟨rfl, (by decide +kernel : Route.ofPath "/v1/auth/register" = .action .register)⟩

theorem isPlain_toDoc (q : RegisterRequest) : q.toDoc.IsPlain := by
  have huser : q.userDoc.IsPlain := by
    refine .record fun m hm => ?_
    simp only [List.mem_cons, List.not_mem_nil, or_false] at hm
    rcases hm with rfl | rfl | rfl | rfl | rfl
    · exact .text q.name
    · exact .text q.email
    · exact .text q.phoneNumber
    · exact .text q.password
    · exact .int q.roleNumber
  refine .record fun m hm => ?_
  obtain rfl := List.mem_singleton.mp hm
  exact huser

theorem ofUserDoc_userDoc (h : q.roleNumber ≤ Number.maxU8) : ofUserDoc q.userDoc = .ok q := by
  have hrole : asRoleNumber (.int q.roleNumber) = .ok q.roleNumber :=
    Doc.asNat_int_eq_ok_iff.mpr ⟨h, rfl⟩
  simp [userDoc, ofUserDoc, Doc.ofMembers, Field.collect, Field.byName, Field.required,
    Field.defaulted, hrole, Doc.ofText, Doc.asText, Found.value, Found.valueD, List.lookup,
    Except.map, bind, Except.bind]

theorem ofDoc_toDoc (h : q.roleNumber ≤ Number.maxU8) : ofDoc q.toDoc = .ok q := by
  simp [toDoc, ofDoc, Doc.ofMembers, Field.collect, Field.byName, Field.required,
    ofUserDoc_userDoc h, Found.value, List.lookup, Except.map, bind, Except.bind]

theorem isAskedBy_written (h : q.roleNumber ≤ Number.maxU8) {authorization : Option String}
    (hsize : (q.written authorization).body.length ≤ mostBodyBytes) :
    q.IsAskedBy (q.written authorization) :=
  ⟨isAddressed_written q authorization,
    readBody_of_print rfl rfl hsize q.isPlain_toDoc (ofDoc_toDoc h)⟩

theorem isMisranked_written (h : Number.maxU8 < q.roleNumber) (authorization : Option String) :
    IsMisranked (q.written authorization) := by
  refine ⟨_, _, .int q.roleNumber, readFirst_print q.isPlain_toDoc, List.mem_cons_self, ?_, ?_⟩
  · simp
  · intro n hn
    exact absurd (Doc.asNat_int_eq_ok_iff.mp hn).1 (Nat.not_le.mpr h)

/-! ## What no body says -/

theorem roleNumber_le_of_ofUserDoc {d : Doc} (h : ofUserDoc d = .ok q) :
    q.roleNumber ≤ Number.maxU8 := by
  obtain ⟨found, -, h⟩ := Result.bind_eq_ok.mp h
  simp only [Result.bind_eq_ok] at h
  obtain ⟨name, -, email, -, phoneNumber, -, password, -, n, hn, h⟩ := h
  cases h
  by_cases hzero : n = 0
  · exact hzero ▸ Nat.zero_le _
  · obtain ⟨d, -, hd⟩ := Found.valueD_eq_ok hn hzero
    exact Doc.le_of_asNat hd

/-- No request asks for a role beyond 8 bits. -/
theorem IsAskedBy.roleNumber_le (h : q.IsAskedBy r) : q.roleNumber ≤ Number.maxU8 := by
  obtain ⟨-, -, hread⟩ := readBody_eq_ok_iff.mp h.2
  obtain ⟨found, -, hvalue⟩ := Result.bind_eq_ok.mp hread
  obtain ⟨d, -, hd⟩ := Found.value_eq_ok hvalue
  exact roleNumber_le_of_ofUserDoc hd

/-- The record of the user is not collected, so that of the request is not either. -/
theorem IsMisranked.readBody (h : IsMisranked r) :
    ∃ fault, Http.readBody r ofDoc = .error (.input fault) := by
  obtain ⟨members, user, d, hbody, huser, hd, hnone⟩ := h
  refine readBody_of_unreadable fun q hq => ?_
  obtain ⟨-, -, hread⟩ := readBody_eq_ok_iff.mp hq
  rw [hbody] at hread
  obtain ⟨found, hfound, -⟩ := Result.bind_eq_ok.mp hread
  obtain ⟨q', hq', -⟩ := Result.map_eq_ok.mp (Field.check_of_byName hfound huser rfl)
  obtain ⟨userFound, huserFound, -⟩ := Result.bind_eq_ok.mp hq'
  obtain ⟨n, hn, -⟩ := Result.map_eq_ok.mp (Field.check_of_byName huserFound hd rfl)
  exact hnone n hn

end Crowdlending.Account.RegisterRequest
