import Toolsmith.Fault
import Toolsmith.Text.Utf8

/-!
# Paths

A path is a way from the working directory: the names on it and the steps upwards, in order. It is
taken step by step, so a step upwards undoes a name only where that name leads to a directory. A
way from the top of all directories begins with a mark of its own.
-/

namespace Toolsmith

/-- The names and steps on the way from the working directory. -/
abbrev Path := List Text

namespace Path

/-- The step to the directory above. -/
def up : Text := Text.ofString ".."

/-- The mark of a way from the top of all directories. -/
def top : Text := Text.ofString "/"

/-- The names and steps between the slashes of a text; a point alone is no step. -/
def steps (t : Text) : List Text :=
  (Text.splitOn (.char '/') t).filter fun name => !(name.isEmpty || name = Text.ofString ".")

/-- The way that a text with slashes describes, seen from a directory. A text that begins with a
slash describes a way from the top. -/
def within (directory : Path) (t : Text) : Path :=
  if t.head? = some (.char '/') then top :: steps t else directory ++ steps t

/-- The last name of a path. -/
def name (path : Path) : Text :=
  path.getLast?.getD []

/-- The names of a path with slashes between them. -/
def text : Path → Text
  | [] => []
  | first :: rest =>
    if first = top then top ++ Text.join top rest else Text.join top (first :: rest)

/-- The bytes of a code point of a name. Some surrogates stand for single bytes that are no
encoding. -/
def pointBytes? : CodePoint → Option Bytes
  | .char c => some (Text.charBytes c)
  | .surrogate unit =>
    if 0x480 ≤ unit.val ∧ unit.val < 0x500 then some [(unit.val - 0x400).toUInt8] else none

/-- The bytes of a name, if it has an encoding. -/
def nameBytes? (name : Text) : Option Bytes :=
  (name.mapM pointBytes?).map List.flatten

/-- The most bytes that a name may have. -/
def maxNameBytes : Nat := 255

/-- Why a path cannot be handed to a file system at all, if its text may have so many bytes. -/
def textFault? (path : Path) (room : Nat) : Option Fault :=
  match nameBytes? path.text with
  | none => some .unencodable
  | some bytes =>
    if bytes.contains 0 then some .zeroInName
    else if room < bytes.length then some .longName
    else none

/-- Whether a name is too long. -/
def isLongName (name : Text) : Bool :=
  maxNameBytes < ((nameBytes? name).getD []).length

end Path

end Toolsmith
