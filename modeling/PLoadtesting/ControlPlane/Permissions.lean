import PLoadtesting.Lib.Python

/-!
The shared API token (`config/permissions.py`). A deployment without a token
admits everyone; otherwise the token comes in a header of its own or as a bearer
credential, and the bearer credential wins.

Header values are Latin-1 text, where `lower()` and the ASCII lower case agree
on the letters of `bearer`.
-/

namespace PLoadtesting.ControlPlane

open Python

/-- The two headers; a missing one is empty. -/
structure Headers where
  apiToken : String
  authorization : String

/-- The configuration of a deployment that the API reads. -/
structure Settings where
  apiToken : String
  enableDemoTaskApi : Bool

/-- `s.split(" ", 1)[1]` for a string with a space. -/
def afterFirstSpace (cs : List Char) : List Char := (cs.dropWhile (· ≠ ' ')).drop 1

/-- `s.lower().startswith("bearer ")`. -/
def hasBearerPrefix (s : String) : Bool :=
  "bearer ".toList.isPrefixOf (s.toList.map Char.toLower)

def hasSharedApiToken (settings : Settings) (headers : Headers) : Bool :=
  if settings.apiToken = "" then true
  else
    let providedToken :=
      if hasBearerPrefix headers.authorization then
        strip (String.ofList (afterFirstSpace headers.authorization.toList))
      else headers.apiToken
    decide (providedToken = settings.apiToken)

end PLoadtesting.ControlPlane
