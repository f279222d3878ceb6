import Crowdlending.Failure
import Crowdlending.Text.Blank
import Crowdlending.Token.Header

/-!
# Bearer tokens

How a caller presents a token: `Bearer <token>`, where the scheme is not case-sensitive.
-/
namespace Crowdlending.Token
open Text

/-- The token of an authorization value. -/
def bearer? (value : String) : Option String :=
  match cutFirst ' ' value.toList with
  | none => none
  | some (scheme, token) =>
      if lowerAscii (String.ofList scheme) = "bearer" then
        let t := trimChars token
        if t.isEmpty then none else some (String.ofList t)
      else none

/-- The characters that a header may show; a tab counts as one. -/
def isShown (c : Char) : Bool := c == '\t' || (32 ≤ c.toNat && c.toNat < 127)

/-- The token of a header, if it is one and not too large to be looked at. -/
def presented (header : String) : Except TokenFault String :=
  match if header.toList.all isShown then bearer? header else none with
  | none => .error .presentation
  | some token => if mostTokenBytes < token.utf8ByteSize then .error .tooLarge else .ok token

end Crowdlending.Token
