/-!
# Request targets

What a request is sent to: a path, and after it a query or a fragment.
-/
namespace Crowdlending.Web

def endsPath (c : Char) : Bool := c == '?' || c == '#'

/-- The path, without what follows it. -/
def pathOf (target : String) : String :=
  String.ofList (target.toList.takeWhile fun c => !endsPath c)

end Crowdlending.Web
