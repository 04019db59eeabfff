import Toolsmith.Catalog.Download
import Toolsmith.Generate
import Toolsmith.Publish.Run
import Toolsmith.Settings.Basic

/-!
# Commands

The four commands of the command line, one for each stage: index, download, generate and publish.
A command reads its settings, does its work and prints what it has done.
-/

namespace Toolsmith

/-- The commands. -/
inductive Command where
  | index
  | download
  | generate
  | publish
deriving DecidableEq, Repr

namespace Command

/-- The command of a name. -/
def ofName? (name : Text) : Option Command :=
  if name = Text.ofString "index" then some index
  else if name = Text.ofString "download" then some download
  else if name = Text.ofString "generate" then some generate
  else if name = Text.ofString "publish" then some publish
  else none

/-- What stands at a place outside the working directory. -/
inductive Place where
  | nothing
  | file
  | directory (files : Tree)

/-- Where commands run: the name of the working directory, the places that can be named instead of
it, the environment, the network, the time of generation and the clock of publishing. -/
structure Setting where
  root : Text
  place : Text → Place
  environment : List (Text × Text)
  network : Network
  generatedAt : Text
  publishedAt : Publish.Clock

/-- How a command ends: well, with a wrong use of the command line, with a message for the user, or
with any other fault. -/
inductive Exit where
  | success
  | misuse
  | refused (message : Text)
  | crashed (fault : Fault)

/-- The status with which a command ends. -/
def Exit.status : Exit → Nat
  | success => 0
  | misuse => 2
  | refused _ => 1
  | crashed _ => 1

/-- The text of a path below the working directory `root`. -/
def placeText (root : Text) (path : Path) : Text :=
  let slashes := (root.takeWhile (· == .char '/')).length
  Text.ofString (if slashes = 0 then "" else if slashes = 2 then "//" else "/") ++
    Path.text (Path.steps root ++ path)

/-- A line with a label and a number. -/
def countLine (label : String) (n : Nat) : Text :=
  Text.ofString label ++ Text.ofNat n

/-- Names with commas between them. -/
def commaList (names : List Text) : Text :=
  Text.join (Text.ofString ", ") names

/-- Builds the index (`index`). -/
def runIndex (setting : Setting) (settings : Settings) : Action Unit := do
  let services ← Catalog.build setting.network settings.directoryUrl
  Action.printLine (countLine "Wrote " services.length ++ Text.ofString " services to " ++
    Workplace.index.name)

/-- Downloads the schemas of all services of the index (`download`). -/
def runDownload (setting : Setting) (settings : Settings) : Action Unit := do
  let services ← Catalog.readIndex
  let report ← Download.run setting.network settings.downloadDelay services
  Catalog.writeIndex report.services
  let ofAll := .char '/' :: Text.ofNat services.length
  Action.printLine (countLine "Downloaded: " report.downloaded ++ ofAll)
  Action.printLine (countLine "Failed: " report.failed.length ++ ofAll)
  if !report.failed.isEmpty then
    Action.printLine (Text.ofString "Failed services: " ++ commaList report.failed)

/-- Generates the tools of all services of the index (`generate`). -/
def runGenerate (setting : Setting) : Action Unit := do
  let summary ← Generate.run setting.generatedAt (← Catalog.readIndex)
  Action.printLine (countLine "Services processed: " summary.services.length)
  Action.printLine (countLine "Total operations: " summary.operations)
  Action.printLine (countLine "Total tools generated: " summary.tools)
  if !summary.skipped.isEmpty then
    Action.printLine (Text.ofString "Skipped (no schema): " ++ commaList summary.skipped)
  Action.printLine (Text.ofString "Output: " ++ placeText setting.root Workplace.tools)

/-- Publishes all tools (`publish`). -/
def runPublish (setting : Setting) (settings : Settings) : Action Unit := do
  Action.printLine (Text.ofString "Registry API: " ++ settings.registryUrl)
  let client : Registry.Client := ⟨settings.registryUrl, settings.registryKey, setting.network⟩
  client.connect
  let result ← Publish.run client setting.publishedAt
  Action.printLine (countLine "Created: " result.created)
  Action.printLine (countLine "Updated: " result.updated)
  Action.printLine (countLine "Skipped: " result.skipped)
  Action.printLine (countLine "Failed: " result.failed)
  Action.printLine (countLine "Deleted: " result.deleted)
  Action.printLine (countLine "Total: " result.total)

/-- Runs a command with its settings. -/
def run (setting : Setting) (settings : Settings) : Command → Action Unit
  | index => runIndex setting settings
  | download => runDownload setting settings
  | generate => runGenerate setting
  | publish => runPublish setting settings

/-- Reads the settings; a file of variables in the working directory completes the environment. -/
def readSettings (setting : Setting) : Action Settings := do
  if (← get).files.isFile Workplace.envFile then
    let file ← Action.readText Workplace.envFile
    Action.ofExcept (Settings.load setting.environment (some file))
  else
    Action.ofExcept (Settings.load setting.environment none)

/-- The options before the name of a command. -/
structure Options where
  help : Bool
  root : Option Text

/-- What the arguments of a command line ask for. -/
inductive Request where
  | misuse
  | help
  | command (options : Options) (name : Text) (arguments : List Text)

/-- Whether an argument is an option. -/
def isOption (argument : Text) : Bool :=
  argument.head? = some (.char '-') && 1 < argument.length

/-- The argument that asks for help. -/
def helpOption : Text := Text.ofString "--help"

/-- The argument before the name of another working directory. -/
def rootOption : Text := Text.ofString "--root"

/-- The argument that ends the options. -/
def endOfOptions : Text := Text.ofString "--"

/-- Whether an argument is the option for more output, once or several times. -/
def isVerbose (argument : Text) : Bool :=
  argument = Text.ofString "--verbose" ||
    (isOption argument && (argument.drop 1).all (· == .char 'v'))

/-- The working directory in an argument that names it after an equals sign. -/
def rootIn? (argument : Text) : Option Text :=
  let start := rootOption ++ [.char '=']
  if start.isPrefixOf argument then some (argument.drop start.length) else none

/-- The request for a command, unless the options ask for help. -/
def Request.ofName (options : Options) (name : Text) (arguments : List Text) : Request :=
  if options.help then .help else .command options name arguments

/-- Reads the options before the name of a command, that name, and what follows it. -/
def Request.ofArguments (options : Options) : List Text → Request
  | [] => if options.help then .help else .misuse
  | [argument] =>
    if argument = helpOption then .help
    else if isVerbose argument || (rootIn? argument).isSome || argument = endOfOptions then
      if options.help then .help else .misuse
    else if isOption argument then .misuse
    else Request.ofName options argument []
  | argument :: next :: rest =>
    if argument = endOfOptions then
      Request.ofName options next rest
    else if argument = helpOption then
      Request.ofArguments { options with help := true } (next :: rest)
    else if argument = rootOption then
      Request.ofArguments { options with root := some next } rest
    else if isVerbose argument then
      Request.ofArguments options (next :: rest)
    else
      match rootIn? argument with
      | some root => Request.ofArguments { options with root := some root } (next :: rest)
      | none =>
        if isOption argument then .misuse else Request.ofName options argument (next :: rest)

/-- What the arguments of a command line ask for. -/
def request (arguments : List Text) : Request :=
  Request.ofArguments ⟨false, none⟩ arguments

/-- Whether the arguments after the name of a command ask for help; nothing if they cannot be
read. -/
def asksForHelp? (arguments : List Text) : Option Bool :=
  let options := arguments.takeWhile (· != endOfOptions)
  let more := (arguments.drop options.length).drop 1
  if options.any fun a => isOption a && a != helpOption then none
  else if options.contains helpOption then some true
  else if options.isEmpty && more.isEmpty then some false
  else none

/-- Runs what the arguments after the name of a command ask for. -/
def runArguments (setting : Setting) (command : Command) (arguments : List Text) :
    Action Exit := do
  let settings ← readSettings setting
  match asksForHelp? arguments with
  | none => pure .misuse
  | some true => pure .success
  | some false =>
    command.run setting settings
    pure .success

/-- Runs the command of a name in the working directory. -/
def runNamed (setting : Setting) (world : World) (name : Text) (arguments : List Text) :
    Exit × World :=
  match ofName? name with
  | none => (.misuse, world)
  | some command =>
    match (runArguments setting command arguments).run world with
    | .ok exit world => (exit, world)
    | .error fault world =>
      match fault.userMessage? with
      | some message => (.refused message.unstyled, world)
      | none => (.crashed fault, world)

/-- Runs what a command line asks for (`main`). If it names a place to work in, the files of the
world become those of that place, which is no file. Texts for help are not part of this library. -/
def runRequest (setting : Setting) (world : World) : Request → Exit × World
  | .misuse => (.misuse, world)
  | .help => (.success, world)
  | .command ⟨_, none⟩ name arguments => runNamed setting world name arguments
  | .command ⟨_, some root⟩ name arguments =>
    let setting := { setting with root }
    if root.contains (.ofCode 0) then
      (.crashed .zeroInName, world)
    else
      match setting.place root with
      | .file => (.misuse, world)
      | .nothing => runNamed setting { world with files := .missing } name arguments
      | .directory files => runNamed setting { world with files } name arguments

end Command

end Toolsmith
