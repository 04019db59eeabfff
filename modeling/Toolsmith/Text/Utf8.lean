import Toolsmith.Text.Basic

/-!
# UTF-8

Files and requests hold texts as UTF-8. A text that holds a lone surrogate has no encoding, and
bytes that are not the shortest encoding of a text are not decoded.
-/

namespace Toolsmith

/-- What a file holds. -/
abbrev Bytes := List UInt8

namespace Text

/-- The one to four bytes of a character. -/
def charBytes (c : Char) : Bytes :=
  let n := c.toNat
  if n < 0x80 then
    [n.toUInt8]
  else if n < 0x800 then
    [(0xC0 + n / 64).toUInt8, (0x80 + n % 64).toUInt8]
  else if n < 0x10000 then
    [(0xE0 + n / 4096).toUInt8, (0x80 + n / 64 % 64).toUInt8, (0x80 + n % 64).toUInt8]
  else
    [(0xF0 + n / 262144).toUInt8, (0x80 + n / 4096 % 64).toUInt8, (0x80 + n / 64 % 64).toUInt8,
      (0x80 + n % 64).toUInt8]

/-- The encoding of a text; there is none if it holds a surrogate. -/
def encode : Text → Option Bytes
  | [] => some []
  | .char c :: rest => (encode rest).map (charBytes c ++ ·)
  | .surrogate _ :: _ => none

/-- A byte that continues the encoding of a character. -/
def isContinuation (b : UInt8) : Bool :=
  0x80 ≤ b.toNat && b.toNat < 0xC0

/-- The character of three bytes, without the numbers that two bytes or a surrogate cover. -/
def wideChar? (a b c : UInt8) : Option CodePoint :=
  let n := (a.toNat - 0xE0) * 4096 + (b.toNat - 0x80) * 64 + (c.toNat - 0x80)
  if isContinuation b && isContinuation c && 0x800 ≤ n && !(0xD800 ≤ n && n < 0xE000) then
    some (CodePoint.ofCode n)
  else
    none

/-- The character of four bytes, without the numbers that three bytes cover. -/
def astralChar? (a b c d : UInt8) : Option CodePoint :=
  let n := (a.toNat - 0xF0) * 262144 + (b.toNat - 0x80) * 4096 + (c.toNat - 0x80) * 64
    + (d.toNat - 0x80)
  if isContinuation b && isContinuation c && isContinuation d && 0x10000 ≤ n && n < 0x110000 then
    some (CodePoint.ofCode n)
  else
    none

/-- The text that the bytes encode, if they are an encoding. -/
def decode : Bytes → Option Text
  | [] => some []
  | a :: rest =>
    if a.toNat < 0x80 then
      (decode rest).map (CodePoint.ofCode a.toNat :: ·)
    else if 0xC2 ≤ a.toNat && a.toNat < 0xE0 then
      match rest with
      | b :: rest =>
        if isContinuation b then
          (decode rest).map (CodePoint.ofCode ((a.toNat - 0xC0) * 64 + (b.toNat - 0x80)) :: ·)
        else
          none
      | _ => none
    else if 0xE0 ≤ a.toNat && a.toNat < 0xF0 then
      match rest with
      | b :: c :: rest => (wideChar? a b c).bind fun point => (decode rest).map (point :: ·)
      | _ => none
    else if 0xF0 ≤ a.toNat && a.toNat < 0xF5 then
      match rest with
      | b :: c :: d :: rest =>
        (astralChar? a b c d).bind fun point => (decode rest).map (point :: ·)
      | _ => none
    else
      none

/-- A text without the mark of its byte order, with which it may begin. -/
def withoutMark (t : Text) : Text :=
  if t.head? = some (.ofCode 0xFEFF) then t.drop 1 else t

end Text

end Toolsmith
