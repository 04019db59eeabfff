import Toolsmith.Text.Utf8

/-!
# Lossy decoding

Bytes that are no encoding of a text can still be read: every longest run that begins like a
character without being one is read as the replacement character.
-/

namespace Toolsmith.Text

/-- The number of bytes of the character that a byte begins; none begins with any other byte. -/
def charSize (a : UInt8) : Nat :=
  if a.toNat < 0x80 then 1
  else if 0xC2 ≤ a.toNat && a.toNat < 0xE0 then 2
  else if 0xE0 ≤ a.toNat && a.toNat < 0xF0 then 3
  else if 0xF0 ≤ a.toNat && a.toNat < 0xF5 then 4
  else 0

/-- Whether a byte can be the second one of a character that begins with `a`. -/
def isSecond (a b : UInt8) : Bool :=
  isContinuation b &&
    !(a.toNat == 0xE0 && b.toNat < 0xA0) && !(a.toNat == 0xED && 0xA0 ≤ b.toNat) &&
    !(a.toNat == 0xF0 && b.toNat < 0x90) && !(a.toNat == 0xF4 && 0x90 ≤ b.toNat)

/-- How many bytes after `a` go on with the character that it begins. -/
def following (a : UInt8) : Bytes → Nat
  | [] => 0
  | b :: rest =>
    if isSecond a b then 1 + ((rest.take (charSize a - 2)).takeWhile isContinuation).length else 0

/-- The character, or the replacement character, that the bytes begin with, and the number of
bytes after the first that belong to it. -/
def decodeFirst (a : UInt8) (rest : Bytes) : Text × Nat :=
  let more := if charSize a < 2 then 0 else following a rest
  ((decode (a :: rest.take more)).getD [.ofCode 0xFFFD], more)

/-- The text that the bytes stand for, after `skip` bytes of the last character. -/
def decodeLossyAfter : Nat → Bytes → Text
  | _, [] => []
  | skip + 1, _ :: rest => decodeLossyAfter skip rest
  | 0, a :: rest =>
    let (point, more) := decodeFirst a rest
    point ++ decodeLossyAfter more rest

/-- The text that the bytes stand for. -/
def decodeLossy (bytes : Bytes) : Text :=
  decodeLossyAfter 0 bytes

end Toolsmith.Text
