import Toolsmith.Fault
import Toolsmith.Naming.Distinct
import Toolsmith.Text.Lines
import Toolsmith.Text.Percent
import Toolsmith.Text.Word

/-!
# What a unit is made of

A unit is the program text of one tool. Its parts are worked out from the operation: an identifier
for every input, the expression for the request's path, the keys of the query and the hints for
failed requests.
-/

namespace Toolsmith

/-- An input of a unit with the identifier that stands for it. -/
structure Binding where
  name : Text
  identifier : Text
deriving DecidableEq, Repr

namespace Binding

/-- The identifier of an input, as long as no other input has it. -/
def preferred (name : Text) : Text :=
  Text.ofString "param_" ++ name.map fun c => if c.isWord then c else .char '_'

/-- An identifier for an input that no other has: the preferred one, or that with the first free
number from two on (`_local_name`). -/
def fresh (taken : List Text) (name : Text) : Text :=
  let wish := preferred name
  if taken.contains wish then
    Naming.numbered wish (Naming.firstFree taken wish (taken.length + 1) 2)
  else
    wish

/-- The identifier bound to a name. -/
def lookup (bindings : List Binding) (name : Text) : Option Text :=
  (bindings.find? (·.name == name)).map identifier

/-- The bindings with one more for a name; a name that comes again keeps its identifier. -/
def add (bindings : List Binding) (name : Text) : List Binding :=
  let identifier := (lookup bindings name).getD (fresh (bindings.map identifier) name)
  bindings ++ [⟨name, identifier⟩]

/-- One binding for every name, in order. -/
def ofNames (names : List Text) : List Binding :=
  names.foldl add []

end Binding

/-- A part of the expression for a path: a literal, or an input's value percent-encoded. -/
inductive PathPart where
  | literal (t : Text)
  | argument (identifier : Text)
deriving DecidableEq, Repr

namespace PathPart

/-- The expression of a part. -/
def expression : PathPart → Text
  | literal t => t.quoted
  | argument identifier =>
    Text.ofString "quote(_text(" ++ identifier ++ Text.ofString "), safe=\"\")"

/-- The literal of a text that is not empty. -/
def ofLiteral (t : Text) : List PathPart :=
  if t.isEmpty then [] else [literal t]

/-- The parts of a template after `pending`, which belongs to the next literal. A placeholder
without an input is literal text. -/
def ofPieces (bindings : List Binding) (pending : Text) : List Template.Piece → List PathPart
  | [] => ofLiteral pending
  | .point c :: rest => ofPieces bindings (pending ++ [c]) rest
  | .placeholder name :: rest =>
    match Binding.lookup bindings name with
    | some identifier =>
      ofLiteral pending ++ argument identifier :: ofPieces bindings [] rest
    | none => ofPieces bindings (pending ++ .char '\x7b' :: name ++ [.char '\x7d']) rest

end PathPart

/-- A key of the query with the identifier of its value. -/
structure QueryKey where
  start : Text
  identifier : Text
deriving DecidableEq, Repr

/-- A status of failed requests with the hint for it. -/
structure Hint where
  status : Nat
  text : Text
deriving DecidableEq, Repr

/-- The parts of a unit (`build_context`). -/
structure Context where
  summary : Text
  method : Text
  path : Text
  bindings : List Binding
  pathExpression : Text
  query : List QueryKey
  sendsBody : Bool
  bodyIdentifier : Option Text
  hints : List Hint

namespace Context

/-- The variable under which a unit finds the host (`HOST_VARIABLE`). -/
def hostVariable : Text := Text.ofString "suv_name"

/-- The variable under which a unit finds the access token (`TOKEN_VARIABLE`). -/
def tokenVariable : Text := Text.ofString "beartoken"

/-- The name of the input that is sent as the body (`REQUEST_BODY_PARAM`). -/
def bodyName : Text := Text.ofString "requestBody"

/-- What stands for itself in the values of a query (`QUERY_SAFE`). -/
def querySafe : Text := Text.ofString "!*'()"

/-- The hints for failed requests, for an operation of the given area (`error_map_for`). -/
def hintsFor (area : Text) : List Hint := [
  ⟨400, Text.ofString "Bad Request - The request is malformed or contains invalid parameters."⟩,
  ⟨401, Text.ofString "Unauthorized - The OAuth 2.0 access token is expired or invalid."
    ++ Text.ofString " Refresh the token and update the " ++ tokenVariable
    ++ Text.ofString " variable."⟩,
  ⟨403, Text.ofString "Forbidden - The Integration System User (ISU) lacks required domain"
    ++ Text.ofString " security policies. Verify the Security Group has permissions on the "
    ++ area ++ Text.ofString " domain."⟩,
  ⟨404, Text.ofString "Not Found - The requested resource or endpoint does not exist."
    ++ Text.ofString " Verify the ID and API path."⟩,
  ⟨409, Text.ofString "Conflict - The request conflicts with a Workday business rule or"
    ++ Text.ofString " constraint."⟩,
  ⟨500, Text.ofString "Internal Server Error - A server-side error occurred in Workday."
    ++ Text.ofString " Retry or check service status."⟩,
  ⟨503, Text.ofString "Service Unavailable - The Workday tenant is temporarily unavailable"
    ++ Text.ofString " or under maintenance. Retry later."⟩]

/-- The methods whose requests carry a body (`BODY_METHODS`). -/
def bodyMethods : List Text :=
  ["POST", "PUT", "PATCH"].map Text.ofString

/-- Whether an operation's request carries a body (`sends_body`). -/
def sendsBodyFor (op : Operation) : Bool :=
  op.hasBody && bodyMethods.contains op.method

/-- A line for the text that opens a unit: nothing in it can end that text (`_docstring_text`). -/
def docLine (t : Text) : Text :=
  let line := t.firstLine.map fun c => if c = .char '\\' then .char '/' else c
  Text.replace (Text.ofString "\"\"\"") (Text.ofString "'''") line

/-- The names of the inputs of an operation, in order. -/
def inputNames (op : Operation) : List Text :=
  op.pathParameters.map Parameter.name ++ op.queryParameters.map Parameter.name ++
    if op.hasBody then [bodyName] else []

/-- The expression for an operation's path (`_path_expression`). An operation without path
parameters has a literal. -/
def pathExpressionFor (op : Operation) (bindings : List Binding) : Text :=
  if op.pathParameters.isEmpty then
    (op.basePath ++ op.path).quoted
  else
    let parts := PathPart.ofPieces bindings op.basePath (Template.pieces op.path)
    Text.join (Text.ofString " + ") (parts.map PathPart.expression)

/-- The key of a query parameter, if its name has an encoding. -/
def queryKey? (bindings : List Binding) (p : Parameter) : Option QueryKey :=
  (p.name.percentEncode querySafe).map fun encoded =>
    ⟨encoded ++ [.char '='], (Binding.lookup bindings p.name).getD []⟩

/-- The parts of an operation's unit (`build_context`). -/
def ofOperation (op : Operation) : Except Fault Context :=
  let bindings := Binding.ofNames (inputNames op)
  match op.queryParameters.mapM (queryKey? bindings) with
  | none => .error .unencodable
  | some query =>
    .ok {
      summary := docLine (if op.summary.isEmpty then op.description else op.summary)
      method := op.method
      path := docLine op.path
      bindings
      pathExpression := pathExpressionFor op bindings
      query
      sendsBody := sendsBodyFor op
      bodyIdentifier := Binding.lookup bindings bodyName
      hints := hintsFor (Naming.areaOfService op.service) }

end Context

end Toolsmith
