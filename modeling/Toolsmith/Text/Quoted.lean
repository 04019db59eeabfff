import Toolsmith.Text.Printable

/-!
# Quoted texts

The literal of a text stands on one line between quotes. Apostrophes are used unless the text holds
an apostrophe and no double quote. Backslashes, the chosen quote and everything without a visible
shape are escaped, so reading the literal gives the text back.
-/

namespace Toolsmith.Text

/-- The quote around the literal of a text. -/
def quoteMark (t : Text) : CodePoint :=
  if t.contains (.char '\'') && !t.contains (.char '"') then .char '"' else .char '\''

/-- How a code point appears between quotes. -/
def quotePoint (mark point : CodePoint) : Text :=
  if point = mark || point = .char '\\' then
    [.char '\\', point]
  else if point = .char '\n' then
    ofString "\\n"
  else if point = .char '\r' then
    ofString "\\r"
  else if point = .char '\t' then
    ofString "\\t"
  else if point.isPrintable then
    [point]
  else if point.code < 0x100 then
    ofString "\\x" ++ ofHex 2 point.code
  else if point.code < 0x10000 then
    ofString "\\u" ++ ofHex 4 point.code
  else
    ofString "\\U" ++ ofHex 8 point.code

/-- The literal of a text. -/
def quoted (t : Text) : Text :=
  let mark := quoteMark t
  mark :: t.flatMap (quotePoint mark) ++ [mark]

end Toolsmith.Text
