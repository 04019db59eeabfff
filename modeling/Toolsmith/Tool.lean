import Toolsmith.Service
import Toolsmith.Unit.Source

/-!
# Tools

A tool is a named operation with the text of its unit. The tools of a service are listed in a
manifest, one entry for each, in the order of the document.
-/

namespace Toolsmith

/-- A tool: its operation, which bears the tool's name, and its unit. -/
structure Tool where
  operation : Operation
  source : Text

namespace Tool

/-- The name of a tool. -/
def name (tool : Tool) : Text :=
  tool.operation.toolName

/-- The entry of a tool in its service's manifest (`build_service_tools`). -/
def entry (tool : Tool) : Json :=
  let op := tool.operation
  .record [("name", .text op.toolName), ("description", .text op.toolDescription),
    ("schema", Input.schema op), ("method", .text op.method), ("path", .text op.path),
    ("operationId", op.operationId.elim .null .text),
    ("file", .text (Naming.unitFile op.toolName))]

/-- The tool of an operation of a service; its area for the hints is made from the service's
name. -/
def ofOperation (service : Service) (op : Operation) : Except Fault Tool :=
  match Source.ofOperation op, Service.capitalFault? service.name with
  | .error fault, _ => .error fault
  | _, some fault => .error fault
  | .ok source, none => .ok ⟨op, source⟩

/-- The tools of a service whose schema is the document (`build_service_tools`). A document without
operations has none, whatever the service is named. -/
def ofDocument (service : Service) (document : Members) : Except Fault (List Tool) :=
  let operations := Operation.ofDocument document service.name.display service.displayText?
  match operations, service.areaFault? with
  | [], _ => .ok []
  | _, some fault => .error fault
  | operations, none => (Naming.nameAll operations).mapM (ofOperation service)

/-- Puts a unit under a name: in its place if there is one of the name, else at the end. -/
def putUnit (name source : Text) : List (Text × Text) → List (Text × Text)
  | [] => [(name, source)]
  | (other, old) :: rest =>
    if other = name then (other, source) :: rest else (other, old) :: putUnit name source rest

/-- The units of a list of tools by name (`build_service_tools`). Of tools with one name the last
has the unit. -/
def units (tools : List Tool) : List (Text × Text) :=
  tools.foldl (fun units tool => putUnit tool.name tool.source units) []

/-- The manifest of a list of tools (`build_service_tools`). -/
def manifest (tools : List Tool) : Json :=
  .array (tools.map entry)

end Tool

end Toolsmith
