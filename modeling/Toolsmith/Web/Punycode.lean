import Toolsmith.Text.Basic

/-!
# Punycode

A text of any characters as one of ASCII: the ASCII characters come first, then numbers that say
which other characters are to be inserted and where, in ascending order. The digits of a number
begin with the lowest, and the least digits that do not end it adapt to the numbers before.
-/

namespace Toolsmith.Punycode

/-- The least digit at a position that does not end a number. -/
def threshold (bias position : Nat) : Nat :=
  min 26 (max 1 (36 * (position + 1) - bias))

theorem threshold_pos (bias position : Nat) : 1 ≤ threshold bias position := by
  unfold threshold; omega

/-- How often a number is divided by 35 until it is small, and what is left of it. -/
def shrink (n : Nat) : Nat × Nat :=
  if 455 < n then
    let (count, rest) := shrink (n / 35)
    (count + 1, rest)
  else
    (0, n)
termination_by n
decreasing_by exact Nat.div_lt_self (by omega) (by omega)

/-- The bias after a number, given the count of the characters inserted so far. -/
def adapt (number : Nat) (isFirst : Bool) (count : Nat) : Nat :=
  let number := if isFirst then number / 700 else number / 2
  let (steps, rest) := shrink (number + number / count)
  36 * steps + 36 * rest / (rest + 38)

/-- The digit of a number below 36. -/
def digit (n : Nat) : CodePoint :=
  if n < 26 then .ofCode (0x61 + n) else .ofCode (0x30 + n - 26)

/-- The value of a digit; letters count in either case. -/
def digitValue? (c : CodePoint) : Option Nat :=
  let n := c.code
  if 0x61 ≤ n ∧ n ≤ 0x7A then some (n - 0x61)
  else if 0x41 ≤ n ∧ n ≤ 0x5A then some (n - 0x41)
  else if 0x30 ≤ n ∧ n ≤ 0x39 then some (n - 0x30 + 26)
  else none

/-- The digits of a number from a position on. -/
def digits (bias position n : Nat) : Text :=
  let least := threshold bias position
  if n < least then
    [digit n]
  else
    digit (least + (n - least) % (36 - least)) ::
      digits bias (position + 1) ((n - least) / (36 - least))
termination_by n
decreasing_by
  have h := threshold_pos bias position
  exact Nat.lt_of_le_of_lt (Nat.div_le_self _ _) (by omega)

/-- Where the writer stands: the text so far, the number that has grown since the last one was
written, the bias, and the count of the characters dealt with. -/
structure Writer where
  out : Text
  number : Nat
  bias : Nat
  count : Nat

/-- Passes a character of the text while those of code `n` are dealt with; `start` is the count at
the beginning. -/
def Writer.pass (start n : Nat) (w : Writer) (c : CodePoint) : Writer :=
  if c.code < n then
    { w with number := w.number + 1 }
  else if c.code = n then
    ⟨w.out ++ digits w.bias 0 w.number, 0, adapt w.number (w.count == start) (w.count + 1),
      w.count + 1⟩
  else
    w

/-- Deals with the characters of the given codes in turn, where those below `next` have been dealt
with. -/
def Writer.run (t : Text) (start : Nat) (w : Writer) (next : Nat) : List Nat → Writer
  | [] => w
  | n :: rest =>
    let w := { w with number := w.number + (n - next) * (w.count + 1) }
    let w := t.foldl (Writer.pass start n) w
    Writer.run t start { w with number := w.number + 1 } (n + 1) rest

/-- The codes beyond ASCII in a text, in ascending order, each once. -/
def wideCodes (t : Text) : List Nat :=
  let codes := (t.filter fun c => !c.isAscii).map CodePoint.code
  (codes.mergeSort (· ≤ ·)).eraseDups

/-- The text in ASCII. -/
def encode (t : Text) : Text :=
  let basic := t.filter CodePoint.isAscii
  let w := Writer.run t basic.length ⟨[], 0, 72, basic.length⟩ 0x80 (wideCodes t)
  (if basic.isEmpty then [] else basic ++ [.char '-']) ++ w.out

/-- The number at the beginning of a text, and what follows it. -/
def number? (bias position weight sofar : Nat) : Text → Option (Nat × Text)
  | [] => none
  | c :: rest =>
    match digitValue? c with
    | none => none
    | some d =>
      let least := threshold bias position
      if d < least then some (sofar + d * weight, rest)
      else number? bias (position + 1) (weight * (36 - least)) (sofar + d * weight) rest

/-- The text `out` with the characters inserted that the next numbers tell, `fuel` of them at most.
The last character had the code `code` and stands before `index`. -/
def insertAll (fuel bias code index : Nat) (isFirst : Bool) (out : Text) :
    Text → Option Text
  | [] => some out
  | t =>
    match fuel, number? bias 0 1 0 t with
    | fuel + 1, some (number, rest) =>
      let size := out.length + 1
      let code := code + (index + number) / size
      let index := (index + number) % size
      if code < 0x110000 then
        insertAll fuel (adapt number isFirst size) code (index + 1) false
          (out.insertIdx index (.ofCode code)) rest
      else
        none
    | _, _ => none

/-- The text that a text of ASCII stands for; its last hyphen comes before the numbers. Every number
has a digit, so there are no more numbers than characters. -/
def decode? (t : Text) : Option Text :=
  let numbers := (t.reverse.takeWhile (· != .char '-')).reverse
  let basic := t.take (t.length - numbers.length - 1)
  insertAll numbers.length 72 0x80 0 true basic numbers

end Toolsmith.Punycode
