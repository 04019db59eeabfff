import Toolsmith.Unit.Context

/-!
# What is published with a unit

The inputs of a tool as the registry shows them, and the one-line description of the tool.
-/

namespace Toolsmith

/-- An input of a tool as it is published. -/
structure Input where
  name : Text
  type : Text
  description : Json
  required : Bool

namespace Input

/-- The published form of an input. -/
def toJson (input : Input) : Json :=
  .record [("name", .text input.name), ("type", .text input.type),
    ("description", input.description), ("required", .bool input.required)]

/-- A text, or another one if it is empty. -/
def orElse (t other : Text) : Text :=
  if t.isEmpty then other else t

/-- The published form of a parameter, described by its kind and name if by nothing else. -/
def ofParameter (kind : Text) (required : Bool) (p : Parameter) : Input where
  name := p.name
  type := orElse p.type (Text.ofString "string")
  description := .text (orElse p.description (kind ++ Text.ofString " parameter: " ++ p.name))
  required := required

/-- The published form of a body. -/
def ofBody (description : Json) : Input where
  name := Context.bodyName
  type := Text.ofString "string"
  description := if description.isTrue then description else .ofString "JSON request body."
  required := false

/-- The inputs that `build_tool_schema` lists: those of the path, all required, those of the query,
and the body. -/
def ofOperation (op : Operation) : List Input :=
  op.pathParameters.map (ofParameter (Text.ofString "Path") true) ++
    op.queryParameters.map (fun p => ofParameter (Text.ofString "Query") p.required p) ++
    if op.hasBody then [ofBody op.bodyDescription] else []

/-- The published form of an operation's inputs (`build_tool_schema`). -/
def schema (op : Operation) : Json :=
  .array ((ofOperation op).map toJson)

end Input

namespace Operation

/-- The description of an operation's tool (`make_description`). -/
def toolDescription (op : Operation) : Text :=
  let area :=
    match op.displayName with
    | some (c :: rest) => c :: rest
    | _ => Naming.areaOfService op.service
  let head := .char '[' :: area ++ Text.ofString "] " ++ op.method ++ .char ' ' :: op.path
  let dash := Text.ofString " - "
  if !op.summary.isEmpty then head ++ dash ++ op.summary
  else if !op.description.isEmpty then head ++ dash ++ op.description.take 200
  else head

end Operation

end Toolsmith
