import Toolsmith.Files.Tree
import Toolsmith.Json.Printer
import Toolsmith.Text.Lines
import Toolsmith.Text.Terminal

/-!
# Activities and their effects

An activity reads and writes files, sends requests, pauses and prints. Its effects are kept in a
world, also when it stops with a fault. The network is a function: the answer to a request may
depend on all requests before it.
-/

namespace Toolsmith

/-- A request to a server. The target is a path or an address; an index may give anything for an
address. -/
structure Request where
  method : Text
  target : Json
  authorization : Option Text
  body : Option Json

/-- What comes back for a request: an answer with a status, or nothing but the reason why. -/
inductive Reply where
  | answer (status : Int) (body : Text)
  | failure (message : Text)

/-- The answer to a request, given the requests before it. -/
abbrev Network := List Request → Request → Reply

/-- What activities change. Pauses are in seconds. -/
structure World where
  files : Tree
  sent : List Request
  pauses : List Binary64
  printed : Text

/-- An activity with a result; a fault leaves the world as it is at that point. -/
abbrev Action (α : Type) := EStateM Fault World α

namespace World

/-- A world in which nothing has been sent or printed. -/
def ofFiles (files : Tree) : World := ⟨files, [], [], []⟩

end World

namespace Action

/-- A result that may be a fault. -/
def ofExcept {α : Type} : Except Fault α → Action α
  | .ok a => pure a
  | .error fault => throw fault

/-- Whether there is anything at a path. -/
def fileExists (path : Path) : Action Bool := do
  ofExcept ((← get).files.exists? path)

/-- Changes the files as a partial operation says. -/
def changeFiles (change : Tree → Except Fault Tree) : Action Unit := do
  let world ← get
  let files ← ofExcept (change world.files)
  set { world with files }

/-- Makes a directory and those on the way to it. -/
def makeDirectories (path : Path) : Action Unit := do
  let world ← get
  let (files, fault?) := world.files.makeDirectories path
  set { world with files }
  match fault? with
  | some fault => throw fault
  | none => pure ()

/-- The text of a file, with unified line ends. -/
def readText (path : Path) : Action Text := do
  let bytes ← ofExcept ((← get).files.read path)
  match Text.decode bytes with
  | some t => pure t.unifyLineEnds
  | none => throw .undecodable

/-- Writes a text to a file. The file is emptied first, so a text without an encoding leaves it
empty. -/
def writeText (path : Path) (t : Text) : Action Unit := do
  changeFiles fun files => files.write path (t.encode.getD [])
  if t.encode.isNone then throw .unencodable

/-- The document in a file. -/
def readDocument (path : Path) : Action Json := do
  match Json.parse (← readText path) with
  | .ok v => pure v
  | .error defect => throw (.ofDefect defect)

/-- Writes the text that `dump_json` gives for a document to a file, which is not touched if there
is no such text. -/
def writeDocument (path : Path) (v : Json) : Action Unit := do
  match v.dump with
  | .ok t => writeText path t
  | .error obstacle => throw (.ofObstacle obstacle)

/-- Sends a request and waits for what comes back. -/
def send (network : Network) (request : Request) : Action Reply := do
  let world ← get
  set { world with sent := world.sent ++ [request] }
  pure (network world.sent request)

/-- Pauses for a number of milliseconds. -/
def pause (milliseconds : Int) : Action Unit := do
  match Binary64.ofFraction (milliseconds < 0) milliseconds.natAbs 1000 with
  | .infinite _ => throw .endlessPause
  | seconds => modify fun world => { world with pauses := world.pauses ++ [seconds] }

/-- Prints a line, without terminal sequences. -/
def printLine (line : Text) : Action Unit := do
  let line := line.unstyled
  if line.encode.isNone then throw .unencodable
  modify fun world => { world with printed := world.printed ++ line ++ [.char '\n'] }

end Action

end Toolsmith
