import Toolsmith.Json.Parser
import Toolsmith.Text.Units

/-!
# Documents in bytes

A document begins with characters of ASCII, so the zeros among its first bytes tell in which units
it is encoded. Without zeros it is UTF-8, where the mark of a byte order may come first.
-/

namespace Toolsmith.Json

/-- The text of a document in bytes, if they are an encoding. -/
def decode : Bytes → Option Text
  | 0 :: 0 :: c :: d :: rest => Text.decodeQuads true (0 :: 0 :: c :: d :: rest)
  | 0 :: b :: c :: d :: rest => Text.decodePairs true (0 :: b :: c :: d :: rest)
  | a :: 0 :: 0 :: 0 :: rest => Text.decodeQuads false (a :: 0 :: 0 :: 0 :: rest)
  | a :: 0 :: c :: d :: rest => Text.decodePairs false (a :: 0 :: c :: d :: rest)
  | [0, b] => Text.decodePairs true [0, b]
  | [a, 0] => Text.decodePairs false [a, 0]
  | bytes => (Text.decode bytes).map Text.withoutMark

/-- The document that bytes encode. -/
def parseBytes (bytes : Bytes) : Except Defect Json :=
  match decode bytes with
  | some t => parse t
  | none => .error .malformed

end Toolsmith.Json
