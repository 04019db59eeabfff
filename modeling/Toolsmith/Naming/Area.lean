import Toolsmith.Document.Operation
import Toolsmith.Text.Blank
import Toolsmith.Text.Case

/-!
# Areas and resources

The first two parts of a tool's name: the functional area of its service, and the resource of its
path.
-/

namespace Toolsmith.Naming

/-- The area of a service without a display name (`functional_area`). -/
def areaOfService (service : Text) : Text :=
  service.upperFirst

/-- A word of a display name: one in capitals is kept, any other begins with a capital. -/
def areaWord (word : Text) : Text :=
  if word = word.upper ∧ 1 < word.length then word else word.upperFirst

/-- The words of a display name run together; parentheses vanish and hyphens separate words
(`display_name_to_area`). -/
def areaOfDisplayName (name : Text) : Text :=
  let kept := name.filter fun c => c != .char '(' && c != .char ')'
  let spaced := kept.map fun c => if c = .char '-' then .char ' ' else c
  (Text.words spaced).flatMap areaWord

/-- The area that `build_tool_name` takes: from the display name of a service if it has one that is
not empty. -/
def area (service : Text) (displayName : Option Text) : Text :=
  match displayName with
  | some (c :: rest) => areaOfDisplayName (c :: rest)
  | _ => areaOfService service

/-- The parts of a path between slashes that are not empty. -/
def segments (path : Text) : List Text :=
  (Text.splitOn (.char '/') path).filter fun segment => !segment.isEmpty

/-- The first segment of a path that begins with no brace, with a capital; `Root` if there is none
(`extract_resource`). -/
def resource (path : Text) : Text :=
  match (segments path).find? fun segment => segment.head? != some (.char '\x7b') with
  | some segment => segment.upperFirst
  | none => Text.ofString "Root"

end Toolsmith.Naming
