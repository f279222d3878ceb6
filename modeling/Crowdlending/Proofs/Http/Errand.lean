import Crowdlending.Http.Gateway
import Crowdlending.Proofs.Number.Numeral
import Crowdlending.Proofs.Json.Fields
import Crowdlending.Proofs.Text.Cut
import Crowdlending.Proofs.Token.Signed
import Crowdlending.Rpc.Document

/-!
# What may be asked for by both ways

A loan is moved on and an account is closed by the gateway as well as by remote calls.
A remote call names the loan by a number; at the gateway its number stands in the path,
in decimal, and the texts stand in the body. The body may name a loan too. If that is
not a number of 64 bits the body is none of its form; if it is one, nothing is made of it.

Whatever a remote call can ask for can be written as a request, and is read from it.
-/
namespace Crowdlending.Text

theorem percentDecode_of_not_mem {bs : List UInt8} (h : 0x25 ∉ bs) : percentDecode bs = bs := by
  fun_induction percentDecode bs with
  | case1 => rfl
  | case2 a b r x y ha hb ih => exact absurd List.mem_cons_self h
  | case3 a b r hnone ih => exact absurd List.mem_cons_self h
  | case4 b r hother ih => rw [ih fun hr => h (List.mem_cons_of_mem _ hr)]

/-- A text without percent signs stands for itself. -/
theorem percentDecodeText?_of_not_mem {s : String} (h : '%' ∉ s.toList) :
    percentDecodeText? s = some s := by
  have hbytes : (0x25 : UInt8) ∉ utf8 s := by
    rw [utf8_eq]
    intro hmem
    obtain ⟨c, hc, hb⟩ := List.mem_flatMap.mp hmem
    by_cases hascii : c.toNat < 128
    · rw [utf8EncodeChar_of_lt hascii, List.mem_singleton] at hb
      have hval : '%'.toNat = c.toNat := by
        change (0x25 : UInt8).toNat = c.toNat
        rw [hb]
        exact Nat.mod_eq_of_lt (by omega)
      exact h (Char.toNat_inj.mp hval ▸ hc)
    · exact absurd (le_of_mem_utf8EncodeChar (Nat.not_lt.mp hascii) hb) (by decide)
  change String.fromUTF8? ⟨(percentDecode (utf8 s)).toArray⟩ = some s
  rw [percentDecode_of_not_mem hbytes, fromUTF8?_utf8]

end Crowdlending.Text

namespace Crowdlending.Http
open Json Text Loan

/-! ## Addresses of loans -/

theorem isDigit_of_mem_toString {n : ℕ} {c : Char} (h : c ∈ (toString n).toList) :
    c.isDigit = true := by
  rw [Nat.toString_eq_ofList_toDigits, String.toList_ofList] at h
  exact Nat.isDigit_of_mem_toDigits (by decide) (by decide) h

theorem isEmpty_toString (n : ℕ) : (toString n).isEmpty = false := by
  rw [Bool.eq_false_iff]
  intro h
  have hnil := congrArg String.toList (String.isEmpty_iff.mp h)
  rw [Nat.toString_eq_ofList_toDigits, String.toList_ofList] at hnil
  exact Nat.toDigits_ne_nil hnil

theorem readLoanNumber_toString {n : ℕ} (h : n ≤ Number.maxI64) :
    readLoanNumber (toString n) = .ok (n : Int) := by
  have hpercent : '%' ∉ (toString n).toList := fun hmem =>
    absurd (isDigit_of_mem_toString hmem) (by decide)
  have hread : Number.readInt64 (toString n).toList = .ok (n : Int) := by
    rw [Nat.toString_eq_ofList_toDigits, String.toList_ofList, Number.readInt64_toDigits h]
  simp only [readLoanNumber, percentDecodeText?_of_not_mem hpercent, hread]

theorem le_of_readLoanNumber {segment : String} {n : ℕ}
    (h : readLoanNumber segment = .ok (n : Int)) : n ≤ Number.maxI64 := by
  unfold readLoanNumber at h
  split at h
  · cases h
  · split at h
    · next hread =>
        cases h
        exact Number.le_of_readInt64 hread
    · cases h

/-- The path of an operation on a loan is cut into its parts. -/
theorem ofPath_loan {segment operation : String} (hsegment : '/' ∉ segment.toList)
    (hoperation : '/' ∉ operation.toList) :
    Route.ofPath ("/v1/loans/" ++ segment ++ "/" ++ operation) =
      Route.ofSegments ["", "v1", "loans", segment, operation] := by
  have hpath : ("/v1/loans/" ++ segment ++ "/" ++ operation).toList =
      [] ++ '/' :: (['v', '1'] ++ '/' :: (['l', 'o', 'a', 'n', 's'] ++ '/' ::
        (segment.toList ++ '/' :: operation.toList))) := by
    simp only [String.toList_append]
    rw [List.append_assoc, List.append_assoc]
    rfl
  rw [Route.ofPath, hpath, cut_append List.not_mem_nil, cut_append (by decide),
    cut_append (by decide), cut_append hsegment, cut_of_not_mem hoperation]
  simp only [List.map_cons, List.map_nil, String.ofList_toList]

/-! ## Bodies -/

section Body
variable {α : Type} {r : Request} {d : Doc} {read : Doc → Except Fault α}

/-- A body is taken in if it is said to be JSON and is not too long, and only then read. -/
theorem readBody_eq_ok_iff {a : α} : readBody r read = .ok a ↔
    (r.contentType.map isJsonType).getD false = true ∧ r.body.length ≤ mostBodyBytes ∧
      read (readFirst r.body) = .ok a := by
  unfold readBody
  split
  · next htype => simp only [htype, false_and, reduceCtorEq]
  · next htype =>
      rw [not_not] at htype
      split
      · next hsize => simp only [Nat.not_le.mpr hsize, false_and, and_false, reduceCtorEq]
      · next hsize =>
          simp only [htype, Nat.not_lt.mp hsize, true_and]
          cases read (readFirst r.body) <;> simp [Except.mapError]

/-- A body that is not read is refused, and no matter why it is a fault of the input. -/
theorem readBody_of_unreadable (h : ∀ a, readBody r read ≠ .ok a) :
    ∃ fault, readBody r read = .error (.input fault) := by
  unfold readBody at h ⊢
  split
  · exact ⟨.contentType, rfl⟩
  · next htype =>
      rw [if_neg htype] at h
      split
      · exact ⟨.bodySize, rfl⟩
      · next hsize =>
          rw [if_neg hsize] at h
          cases hread : read (readFirst r.body) with
          | ok a => exact absurd (by rw [hread]; rfl) (h a)
          | error f => exact ⟨faultOf f, rfl⟩

theorem readBody_of_large (h : mostBodyBytes < r.body.length) (read : Doc → Except Fault α) :
    ∃ fault, readBody r read = .error (.input fault) :=
  readBody_of_unreadable fun _ ha => absurd (readBody_eq_ok_iff.mp ha).2.1 (Nat.not_le.mpr h)

/-- A printed document is read as it was meant. -/
theorem readBody_of_print (htype : r.contentType = some "application/json")
    (hbody : r.body = Text.utf8 d.print) (hsize : r.body.length ≤ mostBodyBytes)
    (hplain : d.IsPlain) {a : α} (hread : read d = .ok a) : readBody r read = .ok a := by
  refine readBody_eq_ok_iff.mpr ⟨?_, hsize, ?_⟩
  · rw [htype]
    exact (by decide +kernel : isJsonType "application/json" = true)
  · rw [hbody, readFirst_print hplain]
    exact hread

end Body

end Crowdlending.Http

namespace Crowdlending
open Json Loan Http

/-! ## Errands -/

/-- What may be asked for by both ways. -/
inductive Errand where
  | close
  | create (principal : String)
  | approve (loan : ℕ) (proofLink interestRate roi : String)
  | invest (loan : ℕ) (amount : String)
  | disburse (loan : ℕ) (agreementLink : String)
deriving DecidableEq

namespace Errand

/-- The remote call for the errand. -/
def message : Errand → Rpc.Message
  | close => .closeAccount
  | create principal => .createLoan ⟨principal⟩
  | approve loan proofLink interestRate roi => .approveLoan loan proofLink interestRate roi
  | invest loan amount => .investInLoan loan amount
  | disburse loan agreementLink => .disburseLoan loan agreementLink

def loan? : Errand → Option ℕ
  | approve loan .. => some loan
  | invest loan _ => some loan
  | disburse loan _ => some loan
  | _ => none

/-- The number of the loan, if one is named, is one that the gateway can read. -/
def Fits (e : Errand) : Prop := ∀ loan ∈ e.loan?, loan ≤ Number.maxI64

/-- The request is sent to where the gateway does the errand. -/
def IsAddressed (e : Errand) (r : Request) : Prop :=
  r.method = "POST" ∧ match e with
    | close => Route.ofPath r.path = .action .closeAccount
    | create _ => Route.ofPath r.path = .action .createLoan
    | approve loan .. => ∃ segment,
        Route.ofPath r.path = .action (.approveLoan segment) ∧ readLoanNumber segment = .ok loan
    | invest loan _ => ∃ segment,
        Route.ofPath r.path = .action (.investInLoan segment) ∧ readLoanNumber segment = .ok loan
    | disburse loan _ => ∃ segment,
        Route.ofPath r.path = .action (.disburseLoan segment) ∧ readLoanNumber segment = .ok loan

/-- The body has the texts of the errand. Whatever loan it names besides is not looked at, and
nothing is read to close an account. -/
def IsStated (e : Errand) (r : Request) : Prop :=
  match e with
  | close => True
  | create principal => readBody r CreateRequest.ofDoc = .ok ⟨principal⟩
  | approve _ proofLink interestRate roi => ∃ named,
      readBody r ApproveRequest.ofDoc = .ok ⟨named, proofLink, interestRate, roi⟩
  | invest _ amount => ∃ named, readBody r InvestRequest.ofDoc = .ok ⟨named, amount⟩
  | disburse _ agreementLink => ∃ named,
      readBody r DisburseRequest.ofDoc = .ok ⟨named, agreementLink⟩

/-- The request asks the gateway for the errand. -/
def IsAskedBy (e : Errand) (r : Request) : Prop := e.IsAddressed r ∧ e.IsStated r

/-! ## Errands as a client writes them -/

def path : Errand → String
  | close => "/v1/users/close"
  | create _ => "/v1/loans"
  | approve loan .. => "/v1/loans/" ++ toString loan ++ "/" ++ "approve"
  | invest loan _ => "/v1/loans/" ++ toString loan ++ "/" ++ "invest"
  | disburse loan _ => "/v1/loans/" ++ toString loan ++ "/" ++ "disburse"

def texts : Errand → List (String × String)
  | close => []
  | create principal => [("principal_amount", principal)]
  | approve _ proofLink interestRate roi =>
      [("photo_proof_link", proofLink), ("interest_rate", interestRate), ("roi", roi)]
  | invest _ amount => [("amount", amount)]
  | disburse _ agreementLink => [("signed_agreement_link", agreementLink)]

/-- The texts of the errand, and before them a document as number of a loan, if one is given. -/
def body (e : Errand) (named : Option Doc) : Doc :=
  .ofMembers ((named.toList.map fun d => ("loan_id", d)) ++ e.texts.map fun t => (t.1, .ofText t.2))

def written (e : Errand) (authorization : Option String) (named : Option Doc) : Request where
  method := "POST"
  path := e.path
  authorization := authorization
  contentType := some "application/json"
  requestId := none
  body := Text.utf8 (e.body named).print

variable {e : Errand} {r : Request}

theorem fits_of_isAddressed (h : e.IsAddressed r) : e.Fits := by
  intro loan hloan
  cases e <;> cases hloan
  all_goals
    obtain ⟨-, segment, -, hread⟩ := h
    exact le_of_readLoanNumber hread

theorem isAddressed_written (h : e.Fits) (authorization : Option String) (named : Option Doc) :
    e.IsAddressed (e.written authorization named) := by
  have hloan : ∀ (loan : ℕ) (operation : String), '/' ∉ operation.toList →
      Route.ofPath ("/v1/loans/" ++ toString loan ++ "/" ++ operation) =
        Route.ofSegments ["", "v1", "loans", toString loan, operation] := fun loan operation =>
    ofPath_loan fun hmem => absurd (isDigit_of_mem_toString hmem) (by decide)
  refine ⟨rfl, ?_⟩
  cases e with
  | close => exact (by decide +kernel : Route.ofPath "/v1/users/close" = .action .closeAccount)
  | create principal => exact (by decide +kernel : Route.ofPath "/v1/loans" = .action .createLoan)
  | approve loan proofLink interestRate roi =>
      refine ⟨toString loan, ?_, readLoanNumber_toString (h loan rfl)⟩
      rw [written, path, hloan _ _ (by decide), Route.ofSegments, isEmpty_toString]
      rfl
  | invest loan amount =>
      refine ⟨toString loan, ?_, readLoanNumber_toString (h loan rfl)⟩
      rw [written, path, hloan _ _ (by decide), Route.ofSegments, isEmpty_toString]
      rfl
  | disburse loan agreementLink =>
      refine ⟨toString loan, ?_, readLoanNumber_toString (h loan rfl)⟩
      rw [written, path, hloan _ _ (by decide), Route.ofSegments, isEmpty_toString]
      rfl

theorem isPlain_body (e : Errand) {named : Option Doc} (h : ∀ d ∈ named, d.IsPlain) :
    (e.body named).IsPlain := by
  refine .record fun m hm => ?_
  rcases List.mem_append.mp hm with hm | hm
  · obtain ⟨d, hd, rfl⟩ := List.mem_map.mp hm
    exact h d (Option.mem_toList.mp hd)
  · obtain ⟨t, -, rfl⟩ := List.mem_map.mp hm
    exact .text t.2

theorem readFirst_written (e : Errand) (authorization : Option String) {named : Option Doc}
    (hnamed : ∀ d ∈ named, d.IsPlain) :
    readFirst (e.written authorization named).body = e.body named :=
  readFirst_print (e.isPlain_body hnamed)

/-! The number of a loan in a body is the first thing read, and takes no part in the rest. -/

section Reading
variable {named : Option Int} (hnamed : ∀ n ∈ named, Token.IsInt64 n)

/-- The fields of a body about a loan. -/
def fields (e : Errand) : List Field :=
  .defaulted "loan_id" Doc.asInt64 :: e.texts.map fun t => .required t.1 Doc.asText

/-- The values of these fields, the last one first. -/
def found (e : Errand) (named : Option Int) : Found :=
  (e.texts.map fun t => (t.1, Doc.ofText t.2)).reverse ++
    named.toList.map fun n => ("loan_id", Doc.int n)

theorem ofDoc_create (principal : String) (named : Option Int) :
    CreateRequest.ofDoc ((create principal).body (named.map Doc.int)) = .ok ⟨principal⟩ := by
  cases named <;>
    simp [body, texts, CreateRequest.ofDoc, Doc.ofMembers, Field.collect, Field.byName,
      Field.required, Doc.isWhole, Doc.int, Doc.ofText, Doc.asText, Found.value, Except.map, bind,
      Except.bind]

include hnamed

theorem collect_body (e : Errand) :
    Field.collect e.fields (e.body (named.map Doc.int)) = .ok (e.found named) := by
  cases named with
  | none =>
      cases e <;>
        simp [body, fields, found, texts, Doc.ofMembers, Field.collect, Field.byName,
          Field.required, Field.defaulted, Doc.ofText, Doc.asText, List.lookup, Except.map]
  | some n =>
      cases e <;>
        simp [body, fields, found, texts, Doc.ofMembers, Field.collect, Field.byName,
          Field.required, Field.defaulted, Token.asInt64_int (hnamed n rfl), Doc.ofText,
          Doc.asText, List.lookup, Except.map]

/-- A reader that goes on with the collected fields gets those that are written. -/
theorem read_body {α : Type} {read : Doc → Except Fault α} {rest : Found → Except Fault α} {a : α}
    (e : Errand) (hread : ∀ d, read d = Field.collect e.fields d >>= rest)
    (hrest : rest (e.found named) = .ok a) : read (e.body (named.map Doc.int)) = .ok a := by
  rw [hread, collect_body hnamed]
  exact hrest

/-- The number is read where one is named; it is 0 where none is. -/
theorem valueD_found (e : Errand) :
    (e.found named).valueD "loan_id" Doc.asInt64 0 = .ok (named.getD 0) := by
  cases named with
  | none => cases e <;> simp [found, texts, Found.valueD, List.lookup]
  | some n =>
      cases e <;>
        simp [found, texts, Found.valueD, List.lookup, Token.asInt64_int (hnamed n rfl)]

theorem isStated_written (e : Errand) (authorization : Option String)
    (hsize : (e.written authorization (named.map Doc.int)).body.length ≤ mostBodyBytes) :
    e.IsStated (e.written authorization (named.map Doc.int)) := by
  have hplain : (e.body (named.map Doc.int)).IsPlain := by
    refine e.isPlain_body fun d hd => ?_
    obtain ⟨n, -, rfl⟩ := Option.map_eq_some_iff.mp hd
    exact .int n
  have hread {α : Type} {read : Doc → Except Fault α} {a : α}
      (h : read (e.body (named.map Doc.int)) = .ok a) :
      readBody (e.written authorization (named.map Doc.int)) read = .ok a :=
    readBody_of_print rfl rfl hsize hplain h
  cases e with
  | close => trivial
  | create principal => exact hread (ofDoc_create principal named)
  | approve loan proofLink interestRate roi =>
      refine ⟨named.getD 0, hread
        (read_body hnamed (approve loan proofLink interestRate roi) (fun _ => rfl) ?_)⟩
      simp only [valueD_found hnamed]
      rfl
  | invest loan amount =>
      refine ⟨named.getD 0, hread (read_body hnamed (invest loan amount) (fun _ => rfl) ?_)⟩
      simp only [valueD_found hnamed]
      rfl
  | disburse loan agreementLink =>
      refine ⟨named.getD 0, hread
        (read_body hnamed (disburse loan agreementLink) (fun _ => rfl) ?_)⟩
      simp only [valueD_found hnamed]
      rfl

end Reading

end Errand

/-! ## Bodies that name no loan -/

namespace Http
variable {r : Request}

/-- The body names a loan by something other than a number of 64 bits. -/
def IsMisnumbered (r : Request) : Prop :=
  ∃ members d, readFirst r.body = .record members ∧ (some "loan_id", d) ∈ members ∧
    ∀ n, d.asInt64 ≠ .ok n

theorem isMisnumbered_written (e : Errand) (authorization : Option String) {d : Doc}
    (hplain : d.IsPlain) (hd : ∀ n, d.asInt64 ≠ .ok n) :
    IsMisnumbered (e.written authorization (some d)) := by
  have hnamed : ∀ d' ∈ some d, d'.IsPlain := fun d' hd' => by
    cases hd'
    exact hplain
  exact ⟨_, d, e.readFirst_written authorization hnamed, List.mem_cons_self, hd⟩

/-- Whatever else the record holds, it is not collected. -/
theorem collect_of_misnumbered (h : IsMisnumbered r) (e : Errand) (found : Found) :
    Field.collect e.fields (readFirst r.body) ≠ .ok found := by
  obtain ⟨members, d, hbody, hd, hnone⟩ := h
  intro hcollect
  rw [hbody] at hcollect
  obtain ⟨n, hn, -⟩ := Result.map_eq_ok.mp (Field.check_of_byName hcollect hd rfl)
  exact hnone n hn

/-- So no reader of requests about loans takes the body. -/
theorem readBody_of_misnumbered {α : Type} (h : IsMisnumbered r) {read : Doc → Except Fault α}
    {rest : Found → Except Fault α} (e : Errand)
    (hread : ∀ d, read d = Field.collect e.fields d >>= rest) :
    ∃ fault, readBody r read = .error (.input fault) := by
  refine readBody_of_unreadable fun a ha => ?_
  obtain ⟨-, -, hbody⟩ := readBody_eq_ok_iff.mp ha
  rw [hread] at hbody
  obtain ⟨found, hfound, -⟩ := Result.bind_eq_ok.mp hbody
  exact collect_of_misnumbered h e found hfound

end Http

end Crowdlending
