import Crowdlending.Json.Shape

/-!
# What callers ask about loans

The requests and their shapes in JSON. The acting user is never part of a
request: it comes from the caller's claims.
-/
namespace Crowdlending.Loan
open Json

structure CreateRequest where
  principal : String
deriving Repr, DecidableEq

structure ApproveRequest where
  loan : Int
  proofLink : String
  interestRate : String
  roi : String
deriving Repr, DecidableEq

structure InvestRequest where
  loan : Int
  amount : String
deriving Repr, DecidableEq

structure DisburseRequest where
  loan : Int
  agreementLink : String
deriving Repr, DecidableEq

def CreateRequest.ofDoc (d : Doc) : Except Fault CreateRequest := do
  let found : Found ← Field.collect [.required "principal_amount" Doc.asText] d
  .ok ⟨← found.value "principal_amount" Doc.asText⟩

def ApproveRequest.ofDoc (d : Doc) : Except Fault ApproveRequest := do
  let found : Found ← Field.collect
    [.defaulted "loan_id" Doc.asInt64, .required "photo_proof_link" Doc.asText,
      .required "interest_rate" Doc.asText, .required "roi" Doc.asText] d
  .ok {
    loan := ← found.valueD "loan_id" Doc.asInt64 0
    proofLink := ← found.value "photo_proof_link" Doc.asText
    interestRate := ← found.value "interest_rate" Doc.asText
    roi := ← found.value "roi" Doc.asText }

def InvestRequest.ofDoc (d : Doc) : Except Fault InvestRequest := do
  let found : Found ← Field.collect
    [.defaulted "loan_id" Doc.asInt64, .required "amount" Doc.asText] d
  .ok ⟨← found.valueD "loan_id" Doc.asInt64 0, ← found.value "amount" Doc.asText⟩

def DisburseRequest.ofDoc (d : Doc) : Except Fault DisburseRequest := do
  let found : Found ← Field.collect
    [.defaulted "loan_id" Doc.asInt64, .required "signed_agreement_link" Doc.asText] d
  .ok ⟨← found.valueD "loan_id" Doc.asInt64 0, ← found.value "signed_agreement_link" Doc.asText⟩

end Crowdlending.Loan
