import Toolsmith.Workplace

/-!
# Manifests

The manifests of all directories of tools, which publishing reads from the working directory.
-/

namespace Toolsmith.Publish

/-- Reads the manifests of directories, by name; those without a manifest are passed over. -/
def readManifests : List Text → Action (List (Text × Json))
  | [] => pure []
  | name :: rest => do
    let file := Workplace.manifestIn (Workplace.tools ++ [name])
    if ← Action.fileExists file then
      let manifest ← Action.readDocument file
      pure ((name, manifest) :: (← readManifests rest))
    else
      readManifests rest

/-- The manifests of all directories of tools, in the order of the directories' names
(`load_manifests`). -/
def manifests : Action (List (Text × Json)) := do
  let files := (← get).files
  if files.isDirectory Workplace.tools then
    readManifests ((files.sortedNames Workplace.tools).filter fun name =>
      files.isDirectory (Workplace.tools ++ [name]))
  else
    pure []

end Toolsmith.Publish
