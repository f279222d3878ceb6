import Crowdlending.Decimal.Reading
import Crowdlending.Failure
import Crowdlending.Text.Blank

/-!
# Amounts and rates

Amounts of money and percentages are decimals with at most two significant
places; principals and investments lie between 1000 and 100000000.
-/
namespace Crowdlending.Loan
open Text

def leastAmount : Decimal := .ofNat32 1000
def mostAmount : Decimal := .ofNat32 100000000
def hundred : Decimal := .ofNat32 100
def moneyPlaces : Nat := 2

/-- A decimal with at most two significant places. -/
def readDecimal (field value : String) : Except InputFault Decimal :=
  let s := trimChars value.toList
  if s.isEmpty then .error (.required field)
  else match Decimal.read? s with
    | none => .error (.notDecimal field)
    | some d => if d.significantPlaces ≤ moneyPlaces then .ok d else .error (.tooManyPlaces field)

def readPrincipal (value : String) : Except InputFault Decimal := do
  let field := "principal_amount"
  let d ← readDecimal field value
  if d < leastAmount then .error (.belowLeast field leastAmount.text)
  else if mostAmount < d then .error (.aboveMost field mostAmount.text)
  else .ok d

/-- A percentage from 0 to 100. -/
def readPercentage (field value : String) : Except InputFault Decimal := do
  let d ← readDecimal field value
  if d < Decimal.zero ∨ hundred < d then .error (.notPercentage field) else .ok d

def inBounds (d : Decimal) : Bool := decide (leastAmount ≤ d) && decide (d ≤ mostAmount)

/-- Loans are numbered from one. -/
def checkNumber (id : Int) : Except InputFault Unit :=
  if id < 1 then .error .loanNumber else .ok ()

end Crowdlending.Loan

namespace Crowdlending

/-- The field holds more than white space. -/
def checkPresent (field value : String) : Except InputFault Unit :=
  if (Text.trimChars value.toList).isEmpty then .error (.required field) else .ok ()

end Crowdlending
