import Toolsmith.Tool
import Toolsmith.Workplace

/-!
# Generating tools

For every service with a schema, its tools are made and written to a directory of their own, with a
manifest. A summary of the run is written at the end.
-/

namespace Toolsmith.Generate

/-- Whether a name is one of a unit's file. -/
def isUnitFile (name : Text) : Bool :=
  name.endsWith (Text.ofString ".py")

/-- Takes away units in a directory that are not wanted any more, as `write_service_output`
begins. -/
def removeStale (directory : Path) (wanted : List Text) : List Text → Action Unit
  | [] => pure ()
  | name :: rest => do
    if isUnitFile name && !wanted.contains name then
      Action.changeFiles fun files => files.remove (directory ++ [name])
    removeStale directory wanted rest

/-- Writes units, given by name and text, to a directory. -/
def writeUnits (directory : Path) : List (Text × Text) → Action Unit
  | [] => pure ()
  | (name, source) :: rest => do
    Action.writeText (Path.within directory (Naming.unitFile name)) source
    writeUnits directory rest

/-- Replaces the units and the manifest in a directory (`write_service_output`). -/
def writeOutput (directory : Path) (units : List (Text × Text)) (manifest : Json) :
    Action Unit := do
  Action.makeDirectories directory
  let wanted := units.map fun unit => Naming.unitFile unit.1
  removeStale directory wanted ((← get).files.sortedNames directory)
  writeUnits directory units
  Action.writeDocument (Workplace.manifestIn directory) manifest

/-- What a run has done: the services with tools, the number of their operations and of their tools,
and the keys of the services without a readable schema (`GenerationSummary`). -/
structure Summary where
  services : List Json
  operations : Nat
  tools : Nat
  skipped : List Text

namespace Summary

/-- The summary of a run that has done nothing yet. -/
def empty : Summary := ⟨[], 0, 0, []⟩

/-- The summary with one more service that is passed over. -/
def skip (summary : Summary) (service : Service) : Summary :=
  { summary with skipped := summary.skipped ++ [service.key] }

/-- The summary with the tools of one more service. Operations are counted by the entries of the
manifest and tools by the units. -/
def add (summary : Summary) (service : Service) (tools : List Tool) : Summary :=
  let entry := Json.record [("name", service.name), ("version", service.version),
    ("tools", .integer tools.length)]
  { summary with
    services := summary.services ++ [entry]
    operations := summary.operations + tools.length
    tools := summary.tools + (Tool.units tools).length }

/-- The document that a summary is written as (`GenerationSummary.to_dict`). -/
def toJson (summary : Summary) (now : Text) : Json :=
  .record [("generatedAt", .text now), ("totalServices", .integer summary.services.length),
    ("totalTools", .integer summary.tools), ("services", .array summary.services)]

end Summary

/-- The schema in a file, which has to be an object (`load_schema`). -/
def readSchema (path : Path) : Action Members := do
  match ← Action.readDocument path with
  | .object members => pure members
  | _ => throw (.notObject path.name)

/-- The schema in a file, or nothing if it cannot be read. -/
def readSchema? (path : Path) : Action (Option Members) :=
  tryCatch (do pure (some (← readSchema path))) fun fault =>
    if fault.isUnreadable then pure none else throw fault

/-- The schema of a service, if there is one that can be read; `generate` passes over the others. -/
def schemaOf (service : Service) : Action (Option Members) := do
  if ← Action.fileExists (Workplace.schema service) then
    readSchema? (Workplace.schema service)
  else
    pure none

/-- Generates the tools of one service, as `generate` does for each. A service without operations
leaves no trace. -/
def runService (summary : Summary) (service : Service) : Action Summary := do
  match ← schemaOf service with
  | none => pure (summary.skip service)
  | some document =>
    match ← Action.ofExcept (Tool.ofDocument service document) with
    | [] => pure summary
    | tools =>
      writeOutput (Workplace.toolsOf service) (Tool.units tools) (Tool.manifest tools)
      pure (summary.add service tools)

/-- Generates the tools of services, one after another. -/
def runFrom (summary : Summary) : List Service → Action Summary
  | [] => pure summary
  | service :: rest => do
    runFrom (← runService summary service) rest

/-- Generates the tools of all services and writes the summary of the run (`generate`). -/
def run (now : Text) (services : List Service) : Action Summary := do
  Action.makeDirectories Workplace.tools
  let summary ← runFrom .empty services
  Action.writeDocument Workplace.summary (summary.toJson now)
  pure summary

end Toolsmith.Generate
