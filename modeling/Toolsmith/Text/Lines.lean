import Toolsmith.Text.Blank

/-!
# Lines

Where a line of text ends, and the single line end that texts read from files have.
-/

namespace Toolsmith

/-- The code points at which a line ends: the line, form and paragraph separators. -/
def lineEnds : List Nat :=
  [0x0A, 0x0B, 0x0C, 0x0D, 0x1C, 0x1D, 0x1E, 0x85, 0x2028, 0x2029]

/-- A code point at which a line ends. -/
def CodePoint.isLineEnd (point : CodePoint) : Bool :=
  lineEnds.contains point.code

namespace Text

/-- The first line of the text, without the blanks around the whole text. -/
def firstLine (t : Text) : Text :=
  t.strip.takeWhile fun c => !c.isLineEnd

/-- Ends every line with a line feed: a carriage return with the line feed that may follow it is
one line end. -/
def unifyLineEnds : Text → Text
  | [] => []
  | .char '\r' :: rest =>
    match rest with
    | .char '\n' :: rest => .char '\n' :: unifyLineEnds rest
    | rest => .char '\n' :: unifyLineEnds rest
  | c :: rest => c :: unifyLineEnds rest

end Text

end Toolsmith
