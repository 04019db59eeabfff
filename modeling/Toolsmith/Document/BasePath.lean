import Toolsmith.Document.Address
import Toolsmith.Document.Template
import Toolsmith.Json.Basic
import Toolsmith.Text.Digit

/-!
# The base path of a service

All operations of a service share a path that the document declares in a field of its dialect.
Tenant placeholders in it are filled in and slashes at its end dropped; if nothing is left, a
default path is made from the name and the version of the service.
-/

namespace Toolsmith

/-- The two generations of documents (`Dialect`). -/
inductive Dialect where
  | openapi3
  | swagger2
deriving DecidableEq, Repr

namespace Dialect

/-- The word for a dialect. -/
def name : Dialect → String
  | openapi3 => "openapi3"
  | swagger2 => "swagger2"

/-- A document is of the older dialect if it has the mark of that and not the mark of the other
(`detect_dialect`). -/
def of (document : Members) : Dialect :=
  if document.has (Text.ofString "swagger") && !document.has (Text.ofString "openapi") then
    swagger2
  else
    openapi3

end Dialect

namespace BasePath

/-- What stands in for the tenant of a service (`TENANT_SUBSTITUTE`). -/
def tenant : Text :=
  Text.ofString "super"

/-- The path of a server's address, as `_openapi3_base_path` takes it; an address without a scheme
is a path already. -/
def ofAddress (url : Text) : Text :=
  match Address.afterScheme? url with
  | some rest => (Address.path? rest).getD []
  | none => url

/-- The path that the document declares, which is empty if it declares none (`_openapi3_base_path`
and `_swagger2_base_path`). -/
def declared (document : Members) : Dialect → Text
  | .openapi3 =>
    match document.get? (Text.ofString "servers") with
    | some (.array (server :: _)) =>
      match server.get? (Text.ofString "url") with
      | some (.text url) => ofAddress url
      | _ => []
    | _ => []
  | .swagger2 =>
    match document.get? (Text.ofString "basePath") with
    | some (.text path) => path
    | _ => []

/-- The version that a default path names: the document's, after a `v` if it begins with a digit
(`_normalise_version`). A version that is an integer is spelled by all its digits. These are never
too many for that, since an integer with more than `Text.maxDigits` of them is not read in a
document either. -/
def version (document : Members) : Text :=
  let declared := ((document.get? (Text.ofString "info")).getD .null).get? (Text.ofString "version")
  let version :=
    match declared with
    | none | some .null | some (.text []) => Text.ofString "v1"
    | some v => v.display
  if version.head?.any CodePoint.isDigit then .char 'v' :: version else version

/-- The path of a service that declares none. -/
def default (document : Members) (service : Text) : Text :=
  Text.ofString "/ccx/api/" ++ service ++ .char '/' :: version document ++ .char '/' :: tenant

/-- The base path of a service (`resolve_base_path`). -/
def resolve (document : Members) (service : Text) (dialect : Dialect) : Text :=
  let path := Text.trimEnd (· == .char '/')
    (Template.fillTenants tenant (declared document dialect))
  if path.isEmpty then default document service else path

end BasePath

end Toolsmith
