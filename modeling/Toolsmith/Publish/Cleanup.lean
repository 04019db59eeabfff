import Toolsmith.Naming.ToolName
import Toolsmith.Registry.Client

/-!
# Cleaning up the registry

Tools of the registry that have the name of a generated one and are not in any manifest any more are
deleted. Some tools are kept whatever their names.
-/

namespace Toolsmith.Publish

/-- Tools made by hand that are never deleted (`KEEP_TOOLS`). -/
def kept : List Json :=
  [.ofString "get_workers", .ofString "Retrieve_Requisitions"]

/-- The value under a key that an object has to have; other values have no keys. -/
def need (key : String) : Json → Except Fault Json
  | .object members =>
    match Members.get? members (Text.ofString key) with
    | some v => .ok v
    | none => .error (.missingKey (Text.ofString key))
  | _ => .error .wrongShape

/-- Whether a value is in a list of names; a container cannot be looked up. -/
def isAmong (names : List Json) (name : Json) : Except Fault Bool :=
  if name.isKey then .ok (names.any name.sameKey) else .error .wrongShape

/-- Whether a name is one of a generated tool; what is no text cannot be taken apart
(`is_generated_name`). -/
def isGeneratedName : Option Json → Except Fault Bool
  | none => .ok false
  | some (.text name) => .ok (Naming.isGenerated name)
  | some _ => .error .noOperation

/-- Whether `cleanup_old_tools` deletes a tool: its name is neither kept nor new, and is a generated
one. -/
def isDoomed (keep new : List Json) : Json → Except Fault Bool
  | .object members => do
    let name := Members.get? members (Text.ofString "name")
    if ← isAmong keep (name.getD .null) then
      pure false
    else if ← isAmong new (name.getD .null) then
      pure false
    else
      isGeneratedName name
  | _ => .error .noOperation

/-- The tools of a list that are to be deleted. -/
def doomed (keep new : List Json) : List Json → Except Fault (List Json)
  | [] => .ok []
  | tool :: rest => do
    let delete ← isDoomed keep new tool
    let more ← doomed keep new rest
    pure (if delete then tool :: more else more)

/-- How many tools have been deleted, and how many could not be. -/
structure Deletions where
  deleted : Nat
  failed : Nat
deriving DecidableEq, Repr

/-- Counts the answer to a request for a deletion. -/
def Deletions.count (sofar : Deletions) : Registry.Answer → Deletions
  | .answered status _ =>
    if status = 200 ∨ status = 204 then { sofar with deleted := sofar.deleted + 1 }
    else { sofar with failed := sofar.failed + 1 }
  | .unreachable _ => { sofar with failed := sofar.failed + 1 }

/-- Deletes tools, one after another. -/
def deleteAll (client : Registry.Client) (sofar : Deletions) : List Json → Action Deletions
  | [] => pure sofar
  | tool :: rest => do
    let id ← Action.ofExcept (need "id" tool)
    deleteAll client (sofar.count (← Registry.deleteTool client id)) rest

/-- Deletes the tools of a list whose names are generated and neither kept nor new
(`cleanup_old_tools`). -/
def cleanUp (client : Registry.Client) (keep new existing : List Json) : Action Deletions := do
  deleteAll client ⟨0, 0⟩ (← Action.ofExcept (doomed keep new existing))

end Toolsmith.Publish
