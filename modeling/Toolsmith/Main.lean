import Std.Time.Format
import Toolsmith.Command

/-!
# The program

Runs a command on a directory of the disk. The files that commands work with are read before the
command runs, and the changes are written when it has ended. There is no network, so every request
fails.
-/

namespace Toolsmith.Program

/-- The string of a text; surrogates become question marks. -/
def string (t : Text) : String :=
  String.ofList (t.map fun c => c.toChar?.getD '?')

/-- The entry at a place, and those below it if it is a directory. -/
partial def entriesAt (place : String) (path : Path) : IO (List (Path × Entry)) := do
  let here := (← IO.currentDir) / place
  if ← here.isDir then
    let below ← (← here.readDir).toList.mapM fun child =>
      entriesAt (place ++ "/" ++ child.fileName) (path ++ [Text.ofString child.fileName])
    pure ((path, .directory) :: below.flatten)
  else if ← here.pathExists then
    pure [(path, .file (← IO.FS.readBinFile place).toList)]
  else
    pure []

/-- The places that commands read and write. -/
def places : List Path :=
  [Workplace.envFile, Workplace.index, Workplace.schemas, Workplace.tools, Workplace.state]

/-- What stands at a place, with the files that commands work with. -/
def load (root : String) : IO Command.Place := do
  let here := (← IO.currentDir) / root
  if ← here.isDir then
    let entries ← places.mapM fun path => entriesAt (root ++ "/" ++ string path.text) path
    let own := (← IO.FS.realPath here).toString.utf8ByteSize
    match Tree.ofEntries? (([], .directory) :: entries.flatten) (4094 - own) with
    | some files => pure (.directory files)
    | none => throw (IO.userError "the path of the working directory is too long")
  else if ← here.pathExists then
    pure .file
  else
    pure .nothing

/-- Writes the changes from one state of a working directory to another. -/
def save (root : String) (before after : Tree) : IO Unit := do
  for (path, _) in before.entries do
    if (after.get? path).isNone then IO.FS.removeFile (root ++ "/" ++ string path.text)
  for (path, entry) in after.entries do
    if before.get? path != some entry && entry == .directory then
      IO.FS.createDirAll (root ++ "/" ++ string path.text)
  for (path, entry) in after.entries do
    match entry with
    | .file bytes =>
      if before.get? path != some entry then
        IO.FS.writeBinFile (root ++ "/" ++ string path.text) ⟨bytes.toArray⟩
    | .directory => pure ()

/-- The variables that commands know. -/
def environment : IO (List (Text × Text)) := do
  let names := ["WORKDAY_REST_DIRECTORY_URL", "SCHEMA_DOWNLOAD_DELAY_MS", "FLOWISE_API_URL",
    "FLOWISE_API_KEY"]
  let found ← names.mapM fun name => do
    pure ((← IO.getEnv name).map fun v => (Text.ofString name, Text.ofString v))
  pure (found.filterMap id)

/-- A network that answers no request. -/
def noNetwork : Network := fun _ _ => .failure (Text.ofString "there is no network")

/-- The present time in universal time. -/
def now : IO Text := do
  let time := Std.Time.DateTime.ofTimestampWithZone (← Std.Time.Timestamp.now) .UTC
  pure (Text.ofString (time.format "uuuu-MM-dd'T'HH:mm:ss" ++ "+00:00"))

/-- What is printed about a fault. -/
def faultText (fault : Fault) : String :=
  match fault.message? with
  | some message => string message
  | none => "the command stopped at data that it cannot use"

end Toolsmith.Program

open Toolsmith in
/-- Runs the command that the arguments ask for. -/
def main (arguments : List String) : IO UInt32 := do
  let request := Command.request (arguments.map Text.ofString)
  let root := match request with
    | .command ⟨_, some root⟩ _ _ => Program.string root
    | _ => "."
  let place ← Program.load root
  let files := match place with
    | .directory files => files
    | _ => .missing
  let time ← Program.now
  let setting : Command.Setting :=
    ⟨Text.ofString root, fun _ => place, ← Program.environment, Program.noNetwork, time, time⟩
  let (exit, world) := Command.runRequest setting (World.ofFiles files) request
  Program.save root files world.files
  IO.print (Program.string world.printed)
  match exit with
  | .refused message => IO.eprintln ("Error: " ++ Program.string message)
  | .crashed fault => IO.eprintln (Program.faultText fault)
  | .misuse => IO.eprintln "Usage: [--root DIRECTORY] [--verbose] index|download|generate|publish"
  | .success => pure ()
  pure exit.status.toUInt32
