import Toolsmith.Document.BasePath
import Toolsmith.Document.Parameter

/-!
# Operations of a document

An operation is one method of one path. A document of any shape has operations: what does not have
the expected shape is passed over or read as absent.
-/

namespace Toolsmith

/-- An operation, with all that a tool for it is made from (`Operation`). The tool has no name at
first. -/
structure Operation where
  service : Text
  displayName : Option Text
  method : Text
  path : Text
  operationId : Option Text
  summary : Text
  description : Text
  pathParameters : List Parameter
  queryParameters : List Parameter
  hasBody : Bool
  bodyDescription : Json
  basePath : Text
  toolName : Text

namespace Operation

/-- The methods that make operations, in the order in which a path's operations are listed: the key
in the document and the method's name (`HTTP_METHODS`). -/
def methods : List (String × String) :=
  [("get", "GET"), ("post", "POST"), ("put", "PUT"), ("patch", "PATCH"), ("delete", "DELETE")]

/-- The description of a body that has none (`DEFAULT_BODY_DESCRIPTION`). -/
def defaultBodyDescription : Json :=
  .ofString "JSON request body for this operation."

/-- The value under a key, or a default if it is absent or not true. -/
def orElse (v : Option Json) (default : Json) : Json :=
  match v with
  | some v => if v.isTrue then v else default
  | none => default

/-- Whether the operation takes a body, and the description of it (`_openapi3_request_body` and
`_swagger2_request_body`). -/
def body (document operation : Members) (declarations : List Declaration) :
    Dialect → Bool × Json
  | .openapi3 =>
    match operation.get? (Text.ofString "requestBody") with
    | none | some .null => (false, .text [])
    | some node =>
      let description := ((Pointer.deref? document node).getD .null).get?
        (Text.ofString "description")
      (true, orElse description defaultBodyDescription)
  | .swagger2 =>
    match declarations.find? fun d => d.location == Text.ofString "body" with
    | some d =>
      (true, orElse (d.members.get? (Text.ofString "description")) defaultBodyDescription)
    | none => (false, .text [])

/-- The text under a key, or the empty text (`_text_field`). -/
def textUnder (node : Members) (key : String) : Text :=
  match node.get? (Text.ofString key) with
  | some (.text t) => t
  | _ => []

/-- The value if it is a text that is not empty. -/
def nonEmptyText? : Option Json → Option Text
  | some (.text (c :: rest)) => some (c :: rest)
  | _ => none

/-- The table of paths of a document (`get_paths`). -/
def paths (document : Members) : Members :=
  match document.get? (Text.ofString "paths") with
  | some (.object table) => table
  | _ => []

/-- The operation that a node of a path describes, for a service with the given names and base
path. -/
def ofNode (document : Members) (dialect : Dialect) (service : Text) (displayName : Option Text)
    (basePath path : Text) (pathItem : Members) (method : String) (node : Members) : Operation :=
  let declarations := Declaration.merged document pathItem node
  let located (location : String) :=
    (declarations.filter fun d => d.location == Text.ofString location).map
      (Declaration.toParameter document)
  let (hasBody, bodyDescription) := body document node declarations dialect
  let summary := textUnder node "summary"
  let description := textUnder node "description"
  { service
    displayName
    method := Text.ofString method
    path
    operationId := nonEmptyText? (node.get? (Text.ofString "operationId"))
    summary
    description := if description.isEmpty then summary else description
    pathParameters := Parameter.align path (located "path")
    queryParameters := located "query"
    hasBody
    bodyDescription
    basePath
    toolName := [] }

/-- All operations of a document, path by path (`normalize`). -/
def ofDocument (document : Members) (service : Text) (displayName : Option Text) :
    List Operation :=
  let dialect := Dialect.of document
  let basePath := BasePath.resolve document service dialect
  (paths document).flatMap fun (path, item) =>
    match item with
    | .object pathItem =>
      methods.filterMap fun (key, method) =>
        match Members.get? pathItem (Text.ofString key) with
        | some (.object node) =>
          some (ofNode document dialect service displayName basePath path pathItem method node)
        | _ => none
    | _ => []

end Operation

end Toolsmith
