import Toolsmith.Publish.Cleanup
import Toolsmith.Publish.Manifests
import Toolsmith.Publish.Record

/-!
# Publishing tools

Every tool in a manifest whose unit is there is created in the registry, or changed if the registry
has a tool of its name. Outdated tools are deleted first. Every success is recorded at once, so a
run that stops half-way leaves a true record.
-/

namespace Toolsmith.Publish

/-- The colours of tools, which take turns (`COLORS`). -/
def colors : List String := [
  "linear-gradient(rgb(66,165,245), rgb(38,166,154))",
  "linear-gradient(rgb(90,184,229), rgb(221,56,47))",
  "linear-gradient(rgb(156,39,176), rgb(233,30,99))",
  "linear-gradient(rgb(255,152,0), rgb(244,67,54))",
  "linear-gradient(rgb(76,175,80), rgb(139,195,74))",
  "linear-gradient(rgb(0,150,136), rgb(0,188,212))",
  "linear-gradient(rgb(63,81,181), rgb(100,181,246))",
  "linear-gradient(rgb(121,85,72), rgb(161,136,127))"]

/-- The colour of the tool with the given number of tools before it. -/
def color (turn : Nat) : Json :=
  .ofString (colors.getD (turn % colors.length) "")

/-- What a run has done with the tools of the manifests, and how many others it has deleted
(`PublishResult`). -/
structure Result where
  created : Nat
  updated : Nat
  skipped : Nat
  failed : Nat
  deleted : Nat
deriving DecidableEq, Repr

/-- The number of tools in the manifests (`PublishResult.total`). -/
def Result.total (result : Result) : Nat :=
  result.created + result.updated + result.skipped + result.failed

/-- The entries of a manifest. An object without members and an empty text have none. -/
def entriesOf : Json → Except Fault (List Json)
  | .array entries => .ok entries
  | .object [] => .ok []
  | .text [] => .ok []
  | _ => .error .wrongShape

/-- The name of an entry, which has to be a key. -/
def nameOf (entry : Json) : Except Fault Json := do
  let name ← need "name" entry
  if name.isKey then pure name else .error .wrongShape

/-- The names of all entries of a list. -/
def namesOf (entries : List Json) : Except Fault (List Json) :=
  entries.mapM nameOf

/-- A directory of tools with the entries of its manifest. -/
abbrev Listing := Text × List Json

/-- The entries of manifests, with all their names. -/
def listings : List (Text × Json) → Except Fault (List Listing × List Json)
  | [] => .ok ([], [])
  | (directory, manifest) :: rest => do
    let entries ← entriesOf manifest
    let names ← namesOf entries
    let (more, moreNames) ← listings rest
    pure ((directory, entries) :: more, names ++ moreNames)

/-- The tools of the registry (`_list_existing`). -/
def existingTools (client : Registry.Client) : Action (List Json) := do
  match ← Registry.listTools client with
  | .answered status (.array tools) =>
    if status = 200 then pure tools
    else throw (.registryUnreadable (Text.ofString "HTTP " ++ Text.ofInt status))
  | .answered status _ => throw (.registryUnreadable (Text.ofString "HTTP " ++ Text.ofInt status))
  | .unreachable message => throw (.registryUnreadable message)

/-- A tool of the registry under its name, if it has one. What is no object has no name; a text or
a list that holds the word cannot be asked for it. -/
def named (tool : Json) : Except Fault (Option (Json × Json)) :=
  let key := Text.ofString "name"
  match tool with
  | .object members =>
    match Members.get? members key with
    | some name => if name.isKey then .ok (some (name, tool)) else .error .wrongShape
    | none => .ok none
  | .array items => if items.any (Json.sameKey (.text key)) then .error .wrongShape else .ok none
  | .text t => if Text.includes key t then .error .wrongShape else .ok none
  | _ => .error .wrongShape

/-- The tools of the registry by name, the last of each name first. -/
def byName (sofar : List (Json × Json)) : List Json → Except Fault (List (Json × Json))
  | [] => .ok sofar
  | tool :: rest => do
    match ← named tool with
    | some pair => byName (pair :: sofar) rest
    | none => byName sofar rest

/-- The tool of a name. -/
def current? (known : List (Json × Json)) (name : Json) : Option Json :=
  (known.find? fun pair => pair.1.sameKey name).map Prod.snd

/-- What a run knows after some entries: the counts, the number of requests for tools, how often the
clock has been read, the tools of the registry by name, and the record. -/
structure Progress where
  result : Result
  turn : Nat
  readings : Nat
  known : List (Json × Json)
  record : Record

/-- The tool that an entry describes, as `publish_tools` sends it to the registry. -/
def payload (entry : Json) (name : Json) (unit : Path) (turn : Nat) : Action Json := do
  let description ← Action.ofExcept (need "description" entry)
  let schema ← Action.ofExcept (need "schema" entry)
  let source ← Action.readText unit
  pure (.record [("name", name), ("description", description), ("schema", .text schema.oneLine),
    ("func", .text source), ("color", color turn)])

/-- The identifier of a created tool. -/
def createdId (content : Json) : Json :=
  (content.get? (Text.ofString "id")).getD (.ofString "unknown")

/-- The progress with one more success, which is recorded. The clock is read for the tool, and once
more when the record is written. -/
def succeed (clock : Clock) (progress : Progress) (name id : Json) (action : String) :
    Action Progress := do
  let time := clock.read progress.readings
  let value := Json.record [("id", id), ("action", .ofString action), ("timestamp", .text time)]
  let record ← Action.ofExcept (progress.record.add name value)
  record.write (clock.read (progress.readings + 1))
  pure { progress with readings := progress.readings + 2, record }

/-- The progress with one more failure. -/
def fail (progress : Progress) : Progress :=
  { progress with result := { progress.result with failed := progress.result.failed + 1 } }

/-- Changes a tool of the registry. -/
def update (client : Registry.Client) (clock : Clock) (progress : Progress)
    (name tool current : Json) : Action Progress := do
  let id ← Action.ofExcept (need "id" current)
  match ← Registry.updateTool client id tool with
  | .answered status _ =>
    if status = 200 then
      let result := { progress.result with updated := progress.result.updated + 1 }
      succeed clock { progress with result } name id "updated"
    else
      pure (fail progress)
  | .unreachable _ => pure (fail progress)

/-- Creates a tool in the registry. From then on its name is known, if the answer tells its
identifier. -/
def create (client : Registry.Client) (clock : Clock) (progress : Progress) (name tool : Json) :
    Action Progress := do
  match ← Registry.createTool client tool with
  | .answered status content =>
    if status = 200 ∨ status = 201 then
      let result := { progress.result with created := progress.result.created + 1 }
      let known :=
        if (content.get? (Text.ofString "id")).isSome then (name, content) :: progress.known
        else progress.known
      succeed clock { progress with result, known } name (createdId content) "created"
    else
      pure (fail progress)
  | .unreachable _ => pure (fail progress)

/-- The file of an entry's unit. -/
def unitOf (directory : Text) (entry : Json) : Except Fault Path := do
  match ← need "file" entry with
  | .text file => pure (Path.within (Workplace.tools ++ [directory]) file)
  | _ => .error .wrongShape

/-- Publishes the tool of an entry, one round of `publish_tools`; an entry whose unit is not there
is passed over. -/
def publishEntry (client : Registry.Client) (clock : Clock) (directory : Text) (progress : Progress)
    (entry : Json) : Action Progress := do
  let unit ← Action.ofExcept (unitOf directory entry)
  if ← Action.fileExists unit then
    let name ← Action.ofExcept (need "name" entry)
    let tool ← payload entry name unit progress.turn
    let progress := { progress with turn := progress.turn + 1 }
    match current? progress.known name with
    | some current => update client clock progress name tool current
    | none => create client clock progress name tool
  else
    pure { progress with
      result := { progress.result with skipped := progress.result.skipped + 1 } }

/-- Publishes the tools of entries. -/
def publishEntries (client : Registry.Client) (clock : Clock) (directory : Text)
    (progress : Progress) : List Json → Action Progress
  | [] => pure progress
  | entry :: rest => do
    publishEntries client clock directory (← publishEntry client clock directory progress entry) rest

/-- Publishes the tools of manifests. -/
def publishListings (client : Registry.Client) (clock : Clock) (progress : Progress) :
    List Listing → Action Progress
  | [] => pure progress
  | (directory, entries) :: rest => do
    publishListings client clock (← publishEntries client clock directory progress entries) rest

/-- Brings the registry in line with all manifests (`publish_tools`). -/
def run (client : Registry.Client) (clock : Clock) : Action Result := do
  let (listings, names) ← Action.ofExcept (listings (← manifests))
  let deletions ← cleanUp client kept names (← existingTools client)
  let known ← Action.ofExcept (byName [] (← existingTools client))
  let record := Record.ofDocument (← readState)
  let start : Progress := ⟨⟨0, 0, 0, 0, deletions.deleted⟩, 0, 0, known, record⟩
  let progress ← publishListings client clock start listings
  progress.record.write (clock.read progress.readings)
  pure progress.result

end Toolsmith.Publish
