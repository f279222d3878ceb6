import Crowdlending.Web.Name.Basic

/-!
# Host names in ASCII

The form in which a host name is sent: each label beyond ASCII is put into its disguise. Every
ASCII character may stand in it; whether a host can have it is for the reader of the form to say.
What is a variant of another character beyond ASCII is left as it is, so the form shows which
labels need a disguise and about how long that is.
-/
namespace Crowdlending.Web.Name
open Text

def sentLabel (l : List Char) : List Char :=
  if l.all isAscii then l else disguise ++ Punycode.encode l

def asciiForm? (s : List Char) : Option (List Char) := do
  let labels ← labelsOf? (cut '.' (strike (← finalForms? s)))
  if areSteady labels then some (['.'].intercalate (labels.map sentLabel)) else none

end Crowdlending.Web.Name
