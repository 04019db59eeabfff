import Toolsmith.Service
import Toolsmith.World

/-!
# Places in the working directory

Where the index, the schemas, the tools and the record of publishing are kept.
-/

namespace Toolsmith.Workplace

/-- The service index. -/
def index : Path := [Text.ofString "service-index.json"]

/-- The directory of schemas. -/
def schemas : Path := [Text.ofString "schemas"]

/-- The directory of tools. -/
def tools : Path := [Text.ofString "tools"]

/-- The record of what has been published. -/
def state : Path := [Text.ofString "publish-state.json"]

/-- The file of variables. -/
def envFile : Path := [Text.ofString ".env"]

/-- The summary of the last generation (`SUMMARY_FILE`). -/
def summary : Path := tools ++ [Text.ofString "generation-summary.json"]

/-- The schema of a service (`schema_path`). -/
def schema (service : Service) : Path :=
  Path.within schemas (service.key ++ Text.ofString ".json")

/-- The directory of a service's tools. -/
def toolsOf (service : Service) : Path :=
  Path.within tools service.key

/-- The manifest in a directory of tools (`MANIFEST_FILE`). -/
def manifestIn (directory : Path) : Path :=
  directory ++ [Text.ofString "manifest.json"]

end Toolsmith.Workplace
