import Toolsmith.Catalog.Known
import Toolsmith.Catalog.Links
import Toolsmith.Catalog.Page
import Toolsmith.Workplace

/-!
# The service index

The index lists the services in a file. It is built from the directory page, or from the known
services if the page cannot be had or links to none.
-/

namespace Toolsmith.Catalog

/-- The services that the entries of an index describe. -/
def ofEntries (entries : List Json) : Except Fault (List Service) :=
  entries.mapM Service.ofJson

/-- The services of an index. An object without members and an empty text list none. -/
def ofIndex : Json → Except Fault (List Service)
  | .array entries => ofEntries entries
  | .object [] => .ok []
  | .text [] => .ok []
  | _ => .error .wrongShape

/-- Reads the index (`read_service_index`). -/
def readIndex : Action (List Service) := do
  if ← Action.fileExists Workplace.index then
    Action.ofExcept (ofIndex (← Action.readDocument Workplace.index))
  else
    throw (.indexMissing Workplace.index.name)

/-- The document that lists services. -/
def toIndex (services : List Service) : Json :=
  .array (services.map Service.toJson)

/-- Writes the index (`write_service_index`). -/
def writeIndex (services : List Service) : Action Unit :=
  Action.writeDocument Workplace.index (toIndex services)

/-- The services that an answered directory page links to, if there are any. -/
def linkedIn? : Reply → Option (List Service)
  | .answer status page =>
    if status = 200 ∧ !(linked page).isEmpty then some (linked page) else none
  | .failure _ => none

/-- Fetches the directory page; the services that it links to, if it can be had and there are any
(`scrape_directory`). -/
def scrape (network : Network) (url : Text) : Action (Option (List Service)) := do
  pure (linkedIn? (← fetchPage network (.text url)))

/-- Builds the index and writes it (`build_index`). -/
def build (network : Network) (url : Text) : Action (List Service) := do
  let services := (← scrape network url).getD known
  writeIndex services
  pure services

end Toolsmith.Catalog
