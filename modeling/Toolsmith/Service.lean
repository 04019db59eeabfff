import Toolsmith.Fault

/-!
# Services

A service of the index: a name and a version, and maybe a display name and the address of its
schema. All four are taken from the index as they are, whatever their shape.
-/

namespace Toolsmith

/-- A service of the index (`Service`). What it lacks is null. -/
structure Service where
  name : Json
  version : Json
  displayName : Json
  schemaUrl : Json

namespace Service

/-- A service of which only name and version are known. -/
def ofNameAndVersion (name version : Text) : Service :=
  ⟨.text name, .text version, .null, .null⟩

/-- The key of a service, after which its files are named (`Service.key`). -/
def key (s : Service) : Text :=
  s.name.display ++ .char '_' :: s.version.display

/-- The service that an entry of the index describes; an empty display name or address is none
(`Service.from_dict`). -/
def ofJson (entry : Json) : Except Fault Service :=
  match entry with
  | .object members =>
    let optional (key : String) : Json :=
      ((Members.get? members (Text.ofString key)).getD .null).orNull
    match Members.get? members (Text.ofString "name"),
      Members.get? members (Text.ofString "version") with
    | none, _ => .error (.missingKey (Text.ofString "name"))
    | _, none => .error (.missingKey (Text.ofString "version"))
    | some name, some version =>
      .ok ⟨name, version, optional "displayName", optional "schemaUrl"⟩
  | _ => .error .wrongShape

/-- The entry of a service in the index (`Service.to_dict`). -/
def toJson (s : Service) : Json :=
  let displayName := if s.displayName.isTrue then [("displayName", s.displayName)] else []
  .record ([("name", s.name), ("version", s.version)] ++ displayName ++
    [("schemaUrl", s.schemaUrl)])

/-- The display name, if it is a text that is not empty. -/
def displayText? (s : Service) : Option Text :=
  match s.displayName with
  | .text (c :: rest) => some (c :: rest)
  | _ => none

/-- Why a value cannot be capitalised. -/
def capitalFault? : Json → Option Fault
  | .text _ => none
  | .array _ => some .noOperation
  | _ => some .wrongShape

/-- Why no area can be made for tool names of the service: a display name has to be a text, and so
has the name where there is no display name. -/
def areaFault? (s : Service) : Option Fault :=
  if s.displayName.isTrue then
    if s.displayText?.isSome then none else some .wrongShape
  else
    capitalFault? s.name

end Service

end Toolsmith
