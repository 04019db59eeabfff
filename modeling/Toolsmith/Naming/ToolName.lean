import Toolsmith.Naming.Area

/-!
# Tool names

A tool is named after its area, its resource, its method and its operation, joined by hyphens.
Names are made of ASCII letters, digits, underscores and hyphens.
-/

namespace Toolsmith.Naming

/-- An ASCII letter, an ASCII digit or the underscore. -/
def isIdPoint (c : CodePoint) : Bool :=
  c.isAsciiLetter || c.isAsciiDigit || c == .char '_'

/-- The last part of a tool's name: what is left of the operation's identifier, or the method with
the last segment of the path outside placeholders (`_operation_name`). -/
def operationName (method : Text) (operationId : Option Text) (path : Text) : Text :=
  match operationId with
  | some (c :: rest) => (c :: rest).filter isIdPoint
  | _ =>
    let last := (segments (Template.withoutPlaceholders path)).getLast?
    method.lower ++ (last.getD (Text.ofString "root")).upperFirst

/-- The name of a tool before it is cleaned (`build_tool_name`). -/
def rawName (service method : Text) (operationId : Option Text) (path : Text)
    (displayName : Option Text) : Text :=
  Text.join (Text.ofString "-")
    [area service displayName, resource path, method.upper, operationName method operationId path]

/-- The name with an underscore in place of everything that a tool's name cannot hold
(`sanitize_tool_name`). -/
def clean (name : Text) : Text :=
  name.map fun c => if isIdPoint c || c == .char '-' then c else .char '_'

/-- The name of an operation's tool, which another operation may share. -/
def sharedName (op : Operation) : Text :=
  clean (rawName op.service op.method op.operationId op.path op.displayName)

/-- A name of the shape of generated ones: at least four parts between hyphens
(`is_generated_name`). -/
def isGenerated (name : Text) : Bool :=
  4 ≤ (Text.splitOn (.char '-') name).length

/-- The file that holds the unit of a tool (`unit_filename`). -/
def unitFile (name : Text) : Text :=
  name ++ Text.ofString ".py"

end Toolsmith.Naming
