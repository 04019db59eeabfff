import Toolsmith.Text.Ranges

/-!
# Blanks

The code points that separate words: spaces of every width, line and paragraph separators and the
control characters that move the position (Unicode 14).
-/

namespace Toolsmith

/-- Space-like code points. -/
def blankRanges : Ranges := [
  (0x9, 0xd), (0x1c, 0x20), (0x85, 0x85), (0xa0, 0xa0), (0x1680, 0x1680), (0x2000, 0x200a),
  (0x2028, 0x2029), (0x202f, 0x202f), (0x205f, 0x205f), (0x3000, 0x3000)]

/-- A code point that separates words. -/
def CodePoint.isBlank (point : CodePoint) : Bool :=
  blankRanges.has point.code

namespace Text

/-- The text without blanks at either end. -/
def strip (t : Text) : Text :=
  t.trimBoth CodePoint.isBlank

/-- The words of a text. -/
def words (t : Text) : List Text :=
  t.runs CodePoint.isBlank

end Text

end Toolsmith
