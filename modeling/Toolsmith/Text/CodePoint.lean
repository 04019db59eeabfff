/-!
# Code points

Documents may name a surrogate by an escape although no encoded text can hold one. A code point
is therefore a character or a surrogate that stands alone, and texts are lists of code points.
-/

namespace Toolsmith

/-- A Unicode code point: a character, or one of the 2048 surrogates standing alone. -/
inductive CodePoint where
  | char (c : Char)
  | surrogate (unit : Fin 2048)
deriving DecidableEq, Repr, Inhabited

namespace CodePoint

instance : Coe Char CodePoint := ⟨.char⟩

/-- The number of a code point. -/
def code : CodePoint → Nat
  | char c => c.toNat
  | surrogate unit => 0xD800 + unit.val

/-- The code point of a number; a number beyond the last plane gives the replacement
character. -/
def ofCode (n : Nat) : CodePoint :=
  if h : 0xD800 ≤ n ∧ n < 0xE000 then
    surrogate ⟨n - 0xD800, by omega⟩
  else if n < 0x110000 then
    char (Char.ofNat n)
  else
    char (Char.ofNat 0xFFFD)

/-- The character of a code point that is one. -/
def toChar? : CodePoint → Option Char
  | char c => some c
  | surrogate _ => none

/-- One of the 128 code points that need a single byte. -/
def isAscii (point : CodePoint) : Bool :=
  point.code < 128

/-- An ASCII letter. -/
def isAsciiLetter : CodePoint → Bool
  | char c => c.isAlpha
  | surrogate _ => false

/-- An ASCII digit. -/
def isAsciiDigit : CodePoint → Bool
  | char c => c.isDigit
  | surrogate _ => false

/-- The value of a hexadecimal digit, in either letter case. -/
def hexValue? : CodePoint → Option Nat
  | char c =>
    if '0' ≤ c ∧ c ≤ '9' then some (c.toNat - '0'.toNat)
    else if 'a' ≤ c ∧ c ≤ 'f' then some (c.toNat - 'a'.toNat + 10)
    else if 'A' ≤ c ∧ c ≤ 'F' then some (c.toNat - 'A'.toNat + 10)
    else none
  | surrogate _ => none

/-- The lower-case letter of an ASCII letter; any other code point is its own. -/
def asciiLower : CodePoint → CodePoint
  | char c => char c.toLower
  | surrogate unit => surrogate unit

end CodePoint

end Toolsmith
