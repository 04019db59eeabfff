import Toolsmith.Web.Url
import Toolsmith.World

/-!
# Exchanges

An exchange is a request to a URL and what comes back for it.
-/

namespace Toolsmith.Url

/-- Sends a request to a URL and waits for what comes back. An answer cannot be used if the URL
does not say of what kind it is. -/
def exchange (network : Network) (url : Url) (request : Request) : Action Reply := do
  match ← Action.send network request with
  | .answer status body =>
    if url.hasKind then pure (.answer status body) else throw (.kindless url.shownText)
  | .failure message => pure (.failure message)

end Toolsmith.Url
