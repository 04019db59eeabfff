import Toolsmith.Json.Basic
import Toolsmith.Number.Integer

/-!
# Writing documents

Documents are written in two forms: over several lines with two spaces of indentation, and on one
line. Both escape quotes, backslashes and control characters, and write numbers that are not finite
by a word. Every other character stands as it is, or by an escape if only ASCII is wanted. One
printer writes both forms. The functions for the parts take the text that follows a part, so no text
is copied twice. A file is written whole or not at all: a value with an integer of too many digits
has no text, and neither has one that is nested too deeply.
-/

namespace Toolsmith.Json

/-- How a document writes the numbers that are not finite. -/
def documentSpelling : Binary64.Spelling := ⟨"NaN", "Infinity"⟩

/-- The escape that names a UTF-16 unit. -/
def unitEscape (unit : Nat) : Text :=
  Text.ofString "\\u" ++ Text.ofHex 4 unit

/-- The escapes for the code points that no string shows as they are. -/
def shortEscape? (point : CodePoint) : Option Text :=
  if point = .char '"' then some (Text.ofString "\\\"")
  else if point = .char '\\' then some (Text.ofString "\\\\")
  else if point = .char '\n' then some (Text.ofString "\\n")
  else if point = .char '\r' then some (Text.ofString "\\r")
  else if point = .char '\t' then some (Text.ofString "\\t")
  else if point.code = 8 then some (Text.ofString "\\b")
  else if point.code = 12 then some (Text.ofString "\\f")
  else if point.code < 0x20 then some (unitEscape point.code)
  else none

/-- The escape of a code point that a line of ASCII does not show: one UTF-16 unit or two. -/
def wideEscape (point : CodePoint) : Text :=
  if point.code < 0x10000 then
    unitEscape point.code
  else
    unitEscape (0xD800 + (point.code - 0x10000) / 0x400) ++
      unitEscape (0xDC00 + (point.code - 0x10000) % 0x400)

/-- A code point of a string; `plain` keeps what lies beyond ASCII. -/
def escapePoint (plain : Bool) (point : CodePoint) : Text :=
  match shortEscape? point with
  | some escape => escape
  | none => if plain || point.code < 0x7F then [point] else wideEscape point

/-- A string between its quotes. -/
def stringText (plain : Bool) (t : Text) : Text :=
  .char '"' :: t.flatMap (escapePoint plain) ++ [.char '"']

/-- A value without parts. -/
def scalarText (plain : Bool) : Json → Text
  | bool true => Text.ofString "true"
  | bool false => Text.ofString "false"
  | integer n => Text.ofInt n
  | number x => x.render documentSpelling
  | text t => stringText plain t
  | _ => Text.ofString "null"

/-- A line end with the indentation of a nesting depth. -/
def lineBreak (depth : Nat) : Text :=
  .char '\n' :: List.replicate (2 * depth) (.char ' ')

/-- The form in which a document is written: whether characters beyond ASCII are kept, and whether
parts stand on lines of their own. -/
structure Layout where
  plain : Bool
  broken : Bool

namespace Layout

/-- The form of files. -/
def ofFile : Layout := ⟨true, true⟩

/-- The form of one line of visible ASCII. -/
def ofLine : Layout := ⟨false, false⟩

/-- What stands at the edge of a container, inside its bracket. -/
def edge (layout : Layout) (depth : Nat) : Text :=
  if layout.broken then lineBreak depth else []

/-- What stands between the parts of a container at the given depth. -/
def comma (layout : Layout) (depth : Nat) : Text :=
  .char ',' :: if layout.broken then lineBreak depth else [.char ' ']

end Layout

mutual

/-- A value at a nesting depth, and the text after it. -/
def written (layout : Layout) (depth : Nat) (after : Text) : Json → Text
  | array [] => Text.ofString "[]" ++ after
  | array (v :: rest) =>
    .char '[' :: layout.edge (depth + 1) ++
      written layout (depth + 1) (writtenItems layout depth after rest) v
  | object [] => Text.ofString "\x7b\x7d" ++ after
  | object ((key, v) :: rest) =>
    .char '\x7b' :: layout.edge (depth + 1) ++ stringText layout.plain key ++
      Text.ofString ": " ++ written layout (depth + 1) (writtenMembers layout depth after rest) v
  | v => scalarText layout.plain v ++ after

/-- What follows an item of an array. -/
def writtenItems (layout : Layout) (depth : Nat) (after : Text) : List Json → Text
  | [] => layout.edge depth ++ .char ']' :: after
  | v :: rest =>
    layout.comma (depth + 1) ++
      written layout (depth + 1) (writtenItems layout depth after rest) v

/-- What follows a member of an object. -/
def writtenMembers (layout : Layout) (depth : Nat) (after : Text) : List (Text × Json) → Text
  | [] => layout.edge depth ++ .char '\x7d' :: after
  | (key, v) :: rest =>
    layout.comma (depth + 1) ++ stringText layout.plain key ++ Text.ofString ": " ++
      written layout (depth + 1) (writtenMembers layout depth after rest) v

end

/-- The text of a file that holds a value, where the value can be written. -/
def fileText (v : Json) : Text :=
  written .ofFile 0 [.char '\n'] v

/-- Why a value cannot be written. -/
inductive Obstacle where
  | tooManyDigits
  | tooDeep
deriving DecidableEq, Repr

mutual

/-- The first obstacle to writing a value in which `room` more arrays and objects may be opened. -/
def obstacle? : Nat → Json → Option Obstacle
  | _, integer n =>
    if Text.maxDigits < (Text.ofNat n.natAbs).length then some .tooManyDigits else none
  | 0, array _ => some .tooDeep
  | 0, object _ => some .tooDeep
  | room + 1, array items => itemsObstacle? room items
  | room + 1, object members => membersObstacle? room members
  | _, _ => none

/-- The first obstacle to writing items, in their order. -/
def itemsObstacle? (room : Nat) : List Json → Option Obstacle
  | [] => none
  | v :: rest => (obstacle? room v).or (itemsObstacle? room rest)

/-- The first obstacle to writing the values of members, in their order. -/
def membersObstacle? (room : Nat) : List (Text × Json) → Option Obstacle
  | [] => none
  | (_, v) :: rest => (obstacle? room v).or (membersObstacle? room rest)

end

/-- The text of a file that holds a document, or the first obstacle to writing it (`dump_json`). -/
def dump (v : Json) : Except Obstacle Text :=
  match obstacle? maxDepth v with
  | some obstacle => .error obstacle
  | none => .ok v.fileText

/-- A value on one line, and the text after it; `plain` keeps what lies beyond ASCII. -/
def onLine (plain : Bool) (after : Text) (v : Json) : Text :=
  written ⟨plain, false⟩ 0 after v

/-- A value on one line of visible ASCII. -/
def oneLine (v : Json) : Text :=
  written .ofLine 0 [] v

end Toolsmith.Json
