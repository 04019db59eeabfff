import Toolsmith.Text.Utf8

/-!
# Encodings in wide units

Besides UTF-8 there are encodings in units of two and of four bytes, with the high byte first or
last. A surrogate in them that is no half of a pair stands alone.
-/

namespace Toolsmith.Text

/-- The units of two bytes each, unless a byte is left over. -/
def pairUnits? (highFirst : Bool) : Bytes → Option (List Nat)
  | [] => some []
  | [_] => none
  | a :: b :: rest =>
    let unit := if highFirst then a.toNat * 0x100 + b.toNat else b.toNat * 0x100 + a.toNat
    (pairUnits? highFirst rest).map (unit :: ·)

/-- The text of units of two bytes, with surrogate pairs joined. -/
def ofPairUnits : List Nat → Text
  | [] => []
  | [unit] => [.ofCode unit]
  | high :: low :: rest =>
    if 0xD800 ≤ high ∧ high < 0xDC00 ∧ 0xDC00 ≤ low ∧ low < 0xE000 then
      .ofCode (0x10000 + (high - 0xD800) * 0x400 + (low - 0xDC00)) :: ofPairUnits rest
    else
      .ofCode high :: ofPairUnits (low :: rest)

/-- The text that bytes encode in units of two bytes. -/
def decodePairs (highFirst : Bool) (bytes : Bytes) : Option Text :=
  (pairUnits? highFirst bytes).map ofPairUnits

/-- The text that bytes encode in units of four bytes, each of which is the number of a code
point. -/
def decodeQuads (highFirst : Bool) : Bytes → Option Text
  | [] => some []
  | a :: b :: c :: d :: rest =>
    let high := if highFirst then a.toNat * 0x100 + b.toNat else d.toNat * 0x100 + c.toNat
    let low := if highFirst then c.toNat * 0x100 + d.toNat else b.toNat * 0x100 + a.toNat
    if high ≤ 0x10 then
      (decodeQuads highFirst rest).map (.ofCode (high * 0x10000 + low) :: ·)
    else
      none
  | _ => none

end Toolsmith.Text
