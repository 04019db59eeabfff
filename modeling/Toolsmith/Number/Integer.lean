import Toolsmith.Text.Blank
import Toolsmith.Text.Digit

/-!
# Integers in texts

An integer is written with decimal digits of any script, maybe after a sign, with single
underscores between digits and blanks around the whole.
-/

namespace Toolsmith.Text

/-- The most digits that an integer may have. -/
def maxDigits : Nat := 4300

/-- A blank around an integer: every blank but the four information separators. -/
def isIntegerGap (c : CodePoint) : Bool :=
  c.isBlank && !(0x1C ≤ c.code && c.code ≤ 0x1F)

/-- The values of digits, where an underscore may stand before a digit that follows another. -/
def digitValues? : Text → Option (List Nat)
  | [] => some []
  | c :: rest =>
    match c.decimalValue? with
    | some value => (digitValues? rest).map (value :: ·)
    | none =>
      match rest with
      | [] => none
      | d :: rest =>
        if c = .char '_' then
          d.decimalValue?.bind fun value => (digitValues? rest).map (value :: ·)
        else
          none

/-- The value of digits that begin with no underscore, unless there are too many. -/
def natValue? (t : Text) : Option Nat :=
  if t.head? = some (.char '_') ∨ t.isEmpty then
    none
  else
    match digitValues? t with
    | some digits =>
      if digits.length ≤ maxDigits then
        some (digits.foldl (fun n digit => n * 10 + digit) 0)
      else
        none
    | none => none

/-- The integer that a text writes. -/
def toInteger? (t : Text) : Option Int :=
  match t.trimBoth isIntegerGap with
  | .char '-' :: digits => (natValue? digits).map fun n => -(n : Int)
  | .char '+' :: digits => (natValue? digits).map fun n => (n : Int)
  | digits => (natValue? digits).map fun n => (n : Int)

end Toolsmith.Text
