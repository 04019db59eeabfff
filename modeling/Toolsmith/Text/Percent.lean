import Toolsmith.Text.Lossy

/-!
# Percent encoding

Texts inside a URL: letters, digits, `_.-~` and the code points declared safe stand for
themselves, and every other byte of the encoding is written as `%` and two hexadecimal digits.
Decoding takes the bytes as they come, so a text that was not encoded properly is decoded as well.
-/

namespace Toolsmith.Text

/-- A byte that stands for itself in any part of a URL. -/
def isUnreserved (b : UInt8) : Bool :=
  let c := Char.ofNat b.toNat
  b.toNat < 128 && (c.isAlphanum || c == '_' || c == '.' || c == '-' || c == '~')

/-- The two upper-case hexadecimal digits of a byte. -/
def upperHex (b : UInt8) : Text :=
  (ofHex 2 b.toNat).map fun
    | .char c => .char c.toUpper
    | point => point

/-- How a byte is written. -/
def percentByte (safe : Text) (b : UInt8) : Text :=
  if isUnreserved b || safe.any (fun point => point.isAscii && point.code == b.toNat) then
    [CodePoint.ofCode b.toNat]
  else
    .char '%' :: upperHex b

/-- The text percent-encoded except for what is safe, if it has an encoding. -/
def percentEncode (t safe : Text) : Option Text :=
  t.encode.map fun bytes => bytes.flatMap (percentByte safe)

/-- The bytes of a percent-encoded text, after `skip` code points of an escape. -/
def escapedBytes : Nat → Text → Bytes
  | _, [] => []
  | skip + 1, _ :: rest => escapedBytes skip rest
  | 0, c :: rest =>
    let plain := match c with
      | .char c => charBytes c
      | .surrogate _ => []
    match c, rest with
    | .char '%', high :: low :: _ =>
      match high.hexValue?, low.hexValue? with
      | some high, some low => (high * 16 + low).toUInt8 :: escapedBytes 2 rest
      | _, _ => plain ++ escapedBytes 0 rest
    | _, _ => plain ++ escapedBytes 0 rest

/-- The text that a percent-encoded text stands for. -/
def percentDecode (t : Text) : Text :=
  decodeLossy (escapedBytes 0 t)

end Toolsmith.Text
