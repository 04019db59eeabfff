import Toolsmith.Document.Pointer
import Toolsmith.Document.Template

/-!
# Parameters of an operation

The parameters that a path and its operation declare, without those that cannot be resolved. A
parameter is known by its name and its location, and the first declaration wins.
-/

namespace Toolsmith

/-- An input of a tool (`Parameter`). -/
structure Parameter where
  name : Text
  type : Text
  description : Text
  required : Bool
deriving DecidableEq, Repr

namespace Parameter

/-- The type that a schema describes, as far as tools tell types apart (`classify_type`). -/
def typeOf (document : Members) (schema : Json) : Text :=
  match ((Pointer.deref? document schema).getD .null).get? (Text.ofString "type") with
  | some (.text type) =>
    if type = Text.ofString "integer" ∨ type = Text.ofString "number" then Text.ofString "number"
    else if type = Text.ofString "boolean" then Text.ofString "boolean"
    else Text.ofString "string"
  | _ => Text.ofString "string"

end Parameter

/-- A declared parameter: its name, its location and everything that its declaration says. -/
structure Declaration where
  name : Text
  location : Text
  members : Members

namespace Declaration

/-- The declaration that a value is or refers to (`_resolve_parameter`). It has a name that is not
empty, and a location. -/
def ofJson? (document : Members) (raw : Json) : Option Declaration :=
  match Pointer.deref? document raw with
  | some (.object members) =>
    match Members.get? members (Text.ofString "name"),
        Members.get? members (Text.ofString "in") with
    | some (.text (c :: rest)), some (.text location) => some ⟨c :: rest, location, members⟩
    | _, _ => none
  | _ => none

/-- Whether two declarations are of the same parameter. -/
def sameParameter (a b : Declaration) : Bool :=
  a.name == b.name && a.location == b.location

/-- The declarations without those of a parameter in `seen` or declared before. -/
def distinctAfter (seen : List Declaration) : List Declaration → List Declaration
  | [] => []
  | d :: rest =>
    if seen.any d.sameParameter then distinctAfter seen rest
    else d :: distinctAfter (d :: seen) rest

/-- The raw declarations in an object's list of parameters. -/
def rawList (node : Members) : List Json :=
  match node.get? (Text.ofString "parameters") with
  | some (.array raw) => raw
  | _ => []

/-- The parameters of a path followed by those of an operation, each at its first declaration
(`_merged_parameters`). -/
def merged (document pathItem operation : Members) : List Declaration :=
  distinctAfter [] ((rawList pathItem ++ rawList operation).filterMap (ofJson? document))

/-- A declaration's description, or one made from its location and name. -/
def describe (d : Declaration) : Text :=
  match d.members.get? (Text.ofString "description") with
  | some (.text (c :: rest)) => c :: rest
  | _ => d.location ++ Text.ofString " parameter: " ++ d.name

/-- Whether the parameter is in the path. -/
def inPath (d : Declaration) : Bool :=
  d.location == Text.ofString "path"

/-- The parameter that a declaration declares (`_to_parameter`). One without a schema is its own
schema. -/
def toParameter (document : Members) (d : Declaration) : Parameter where
  name := d.name
  type := Parameter.typeOf document
    ((d.members.get? (Text.ofString "schema")).getD (.object d.members))
  description := d.describe
  required := d.inPath || ((d.members.get? (Text.ofString "required")).any Json.isTrue)

end Declaration

namespace Parameter

/-- The parameter of a placeholder that nothing declares. -/
def ofPlaceholder (name : Text) : Parameter where
  name := name
  type := Text.ofString "string"
  description := Text.ofString "path parameter: " ++ name
  required := true

/-- The declared parameters that the path has a placeholder for, then one for every other
placeholder (`_align_path_params`). -/
def align (path : Text) (declared : List Parameter) : List Parameter :=
  let names := Template.placeholders path
  names.foldl
    (fun aligned name =>
      if aligned.any (·.name == name) then aligned else aligned ++ [ofPlaceholder name])
    (declared.filter fun p => names.contains p.name)

end Parameter

end Toolsmith
