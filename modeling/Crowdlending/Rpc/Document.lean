import Crowdlending.Http.Document
import Crowdlending.Json.Member
import Crowdlending.Rpc.Message

/-!
# Messages as documents

The fields of messages by their names. A field that is missing has the value that stands for
nothing: the empty text, zero, or false.
-/
namespace Crowdlending.Rpc
open Json Account Loan

def userOf (d : Doc) : RegisterRequest :=
  ⟨d.textAt "name", d.textAt "email", d.textAt "phone_number", d.textAt "password",
    (d.natAt? "role_id").getD 0⟩

/-- The message with these fields to the method of this name. -/
def Message.ofDoc? (method : String) (d : Doc) : Option Message :=
  let loan := (d.natAt? "loan_id").getD 0
  match method with
  | "Register" => some (.register ((d.member? "user").map userOf))
  | "Login" => some (.login ⟨d.textAt "user_id", d.textAt "password", d.flagAt "remember_me"⟩)
  | "RefreshToken" => some (.refreshToken ⟨d.textAt "refresh_token"⟩)
  | "IsUserExist" => some (.userExists ⟨d.textAt "email", d.textAt "phone_number"⟩)
  | "CloseAccount" => some .closeAccount
  | "CreateLoan" => some (.createLoan ⟨d.textAt "principal_amount"⟩)
  | "ApproveLoan" =>
      some (.approveLoan loan (d.textAt "photo_proof_link") (d.textAt "interest_rate")
        (d.textAt "roi"))
  | "InvestInLoan" => some (.investInLoan loan (d.textAt "amount"))
  | "DisburseLoan" => some (.disburseLoan loan (d.textAt "signed_agreement_link"))
  | _ => none

/-- The field that tells when a message moved a loan on. -/
def Message.dateField : Message → String
  | createLoan _ => "created_at"
  | approveLoan .. => "approval_date"
  | _ => "disbursement_date"

def registrationName (succeeded : Bool) : String :=
  "REGISTER_STATUS_CODE_" ++ if succeeded then "SUCCEED" else "FAILED"

/-- The fields of the reply to a message. -/
def Reply.toDoc (m : Message) : Reply → Doc
  | registered r =>
      .ofMembers
        [("code", .ofText (registrationName r.succeeded)), ("reasons", Http.reasonsDoc r.reasons)]
  | tokens r => Http.pairDoc r
  | existence r => Http.existenceDoc r
  | closed r => Http.closedDoc { r with user := sentId r.user }
  | proposal r => Http.proposalDoc m.dateField { r with loan := sentId r.loan }
  | invested r => Http.investedDoc { r with loan := sentId r.loan }

end Crowdlending.Rpc
