import Crowdlending.Account.Request
import Crowdlending.Loan.Request
import Crowdlending.Number.Numeral
import Crowdlending.Platform.Accounts
import Crowdlending.Platform.Loans

/-!
# Messages of remote calls

The calls that the service takes, with numbers as they are sent: ids have no sign, roles have 32
bits. Each call is turned into the request that it stands for. How many bytes a message took on its
way is not told.
-/
namespace Crowdlending.Rpc
open Account Loan

inductive Message where
  | register (user : Option RegisterRequest)
  | login (r : LoginRequest)
  | refreshToken (r : RefreshRequest)
  | userExists (r : ExistenceRequest)
  | closeAccount
  | createLoan (r : CreateRequest)
  | approveLoan (loan : Nat) (proofLink interestRate roi : String)
  | investInLoan (loan : Nat) (amount : String)
  | disburseLoan (loan : Nat) (agreementLink : String)
deriving Repr, DecidableEq

namespace Message

def method : Message → String
  | register _ => "Register"
  | login _ => "Login"
  | refreshToken _ => "RefreshToken"
  | userExists _ => "IsUserExist"
  | closeAccount => "CloseAccount"
  | createLoan _ => "CreateLoan"
  | approveLoan .. => "ApproveLoan"
  | investInLoan .. => "InvestInLoan"
  | disburseLoan .. => "DisburseLoan"

end Message

inductive Reply where
  | registered (r : Platform.Registered)
  | tokens (r : Token.Pair)
  | existence (r : Platform.Existence)
  | closed (r : Platform.Closed)
  | proposal (r : Platform.Proposal)
  | invested (r : Platform.Invested)

/-- How a call failed. -/
structure Status where
  code : RpcCode
  message : String
deriving Repr, DecidableEq

def Status.ofFailure (f : Failure) : Status := ⟨f.code, f.clientMessage⟩

/-- Every fault of a token is told alike. -/
def Status.unauthenticated : Status := ⟨.unauthenticated, "Invalid/expired token"⟩

/-- The service stopped in the middle of a call. -/
def Status.stopped : Status := ⟨.internal, "Internal error"⟩

/-- An id as it is kept. -/
def readId (n : Nat) : Except Failure Int :=
  if n ≤ Number.maxI64 then .ok n else .error (.input (.numberOutOfRange "id"))

/-- An id as it is sent. -/
def sentId (id : Int) : Nat := id.toNat

/-- Registration with the role brought into range; one out of range stands for no role. -/
def readUser : Option RegisterRequest → Except Failure RegisterRequest
  | none => .error (.input (.required "user"))
  | some r => .ok { r with roleNumber := min r.roleNumber Number.maxU8 }

end Crowdlending.Rpc
