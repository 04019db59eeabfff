import Toolsmith.World

/-!
# Fetching pages

A page is fetched by a request for its address, which is handed to the network as it is.
-/

namespace Toolsmith.Catalog

/-- The request for a page. -/
def pageRequest (address : Json) : Request where
  method := Text.ofString "GET"
  target := address
  authorization := none
  body := none

/-- Asks for the page at an address. A container is no address, which shows only when it has been
asked for. -/
def fetchPage (network : Network) (address : Json) : Action Reply := do
  let reply ← Action.send network (pageRequest address)
  if address.isKey then pure reply else throw .wrongShape

end Toolsmith.Catalog
