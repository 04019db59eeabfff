import Toolsmith.Json.Basic
import Toolsmith.Number.Integer

/-!
# Reading documents

The grammar of JSON with three additions: the words for undefined and infinite numbers are values,
a lone surrogate may be written by an escape, and a repeated key takes the last value. Blanks are
spaces, tabs and the two line ends. A number with a point or an exponent is read as a double. What
is nested too deeply is given up where the limit is passed.
-/

namespace Toolsmith.Json

/-- Why a text is no document. -/
inductive Defect where
  | malformed
  | tooManyDigits (count : Nat)
  | tooDeep
deriving DecidableEq, Repr

/-- A blank between the parts of a document. -/
def isGap (point : CodePoint) : Bool :=
  point == .char ' ' || point == .char '\t' || point == .char '\n' || point == .char '\r'

/-- The text without the blanks at its beginning. -/
def skipGap (t : Text) : Text :=
  t.dropWhile isGap

/-- What follows `word` at the beginning of the text. -/
def afterWord? (word : String) (t : Text) : Option Text :=
  let word := Text.ofString word
  if word.isPrefixOf t then some (t.drop word.length) else none

/-- The number of the decimal digits in a row. -/
def digitsValue (digits : Text) : Nat :=
  digits.foldl (fun n point => n * 10 + (point.hexValue?.getD 0)) 0

/-- The number of four hexadecimal digits, and what follows them. -/
def hexUnit? : Text → Option (Nat × Text)
  | a :: b :: c :: d :: rest => do
    let a ← a.hexValue?
    let b ← b.hexValue?
    let c ← c.hexValue?
    let d ← d.hexValue?
    some (((a * 16 + b) * 16 + c) * 16 + d, rest)
  | _ => none

/-- The code point of a unit that was written by an escape, together with the second half of a
surrogate pair if an escape for it follows. -/
def joinUnit (unit : Nat) (rest : Text) : Option (CodePoint × Text) :=
  if 0xD800 ≤ unit ∧ unit < 0xDC00 then
    match rest with
    | .char '\\' :: .char 'u' :: tail =>
      match hexUnit? tail with
      | none => none
      | some (low, tail) =>
        if 0xDC00 ≤ low ∧ low < 0xE000 then
          some (.ofCode (0x10000 + (unit - 0xD800) * 0x400 + (low - 0xDC00)), tail)
        else
          some (.ofCode unit, rest)
    | _ => some (.ofCode unit, rest)
  else
    some (.ofCode unit, rest)

/-- The code point that an escape names, and what follows it; the text begins after the
backslash. -/
def escaped? : Text → Option (CodePoint × Text)
  | .char 'u' :: rest =>
    match hexUnit? rest with
    | none => none
    | some (unit, rest) => joinUnit unit rest
  | .char c :: rest =>
    match c with
    | '"' => some ('"', rest)
    | '\\' => some ('\\', rest)
    | '/' => some ('/', rest)
    | 'b' => some (.ofCode 8, rest)
    | 'f' => some (.ofCode 12, rest)
    | 'n' => some ('\n', rest)
    | 'r' => some ('\r', rest)
    | 't' => some ('\t', rest)
    | _ => none
  | _ => none

/-- The content of a string, and what follows its closing quote. Control characters have to be
written by escapes. -/
def stringBody : Nat → Text → Option (Text × Text)
  | 0, _ => none
  | _ + 1, [] => none
  | fuel + 1, c :: rest =>
    if c = .char '"' then
      some ([], rest)
    else if c = .char '\\' then
      match escaped? rest with
      | none => none
      | some (point, rest) => (stringBody fuel rest).map fun (t, rest) => (point :: t, rest)
    else if c.code < 0x20 then
      none
    else
      (stringBody fuel rest).map fun (t, rest) => (c :: t, rest)

/-- The digits at the beginning of a text, and what follows them. -/
def spanDigits (t : Text) : Text × Text :=
  t.span CodePoint.isAsciiDigit

/-- The digits of a fraction with what follows them, if a point and a digit begin the text. -/
def fractionPart (t : Text) : Option (Text × Text) :=
  match t with
  | .char '.' :: rest =>
    let (digits, rest) := spanDigits rest
    if digits.isEmpty then none else some (digits, rest)
  | _ => none

/-- The exponent with what follows it, if the text begins with one. -/
def exponentPart (t : Text) : Option (Int × Text) :=
  match t with
  | .char c :: rest =>
    if c = 'e' ∨ c = 'E' then
      let (negative, rest) :=
        match rest with
        | .char '-' :: rest => (true, rest)
        | .char '+' :: rest => (false, rest)
        | rest => (false, rest)
      let (digits, rest) := spanDigits rest
      if digits.isEmpty then
        none
      else
        let size : Int := digitsValue digits
        some (if negative then -size else size, rest)
    else
      none
  | _ => none

/-- A zero, or the digits of a number that begins with no zero, and what follows them. -/
def wholePart (t : Text) : Text × Text :=
  match t with
  | .char '0' :: rest => ([.char '0'], rest)
  | t => spanDigits t

/-- A number after its sign: a zero or digits that begin with no zero, then an optional fraction
and an optional exponent. -/
def numeral (negative : Bool) (t : Text) : Except Defect (Json × Text) :=
  let (whole, rest) := wholePart t
  if whole.isEmpty then
    .error .malformed
  else
    match fractionPart rest, exponentPart ((fractionPart rest).elim rest Prod.snd) with
    | none, none =>
      if Text.maxDigits < whole.length then
        .error (.tooManyDigits whole.length)
      else
        let n : Int := digitsValue whole
        .ok (.integer (if negative then -n else n), rest)
    | fraction, power =>
      let decimals := fraction.elim [] Prod.fst
      let rest := power.elim (fraction.elim rest Prod.snd) Prod.snd
      let exponent := power.elim 0 Prod.fst - decimals.length
      .ok (.number (.ofDecimal negative (digitsValue (whole ++ decimals)) exponent), rest)

/-- A value that is written by a word or a number. -/
def scalar (t : Text) : Except Defect (Json × Text) :=
  match afterWord? "null" t, afterWord? "true" t, afterWord? "false" t, afterWord? "NaN" t,
    afterWord? "Infinity" t, afterWord? "-Infinity" t with
  | some rest, _, _, _, _, _ => .ok (.null, rest)
  | _, some rest, _, _, _, _ => .ok (.bool true, rest)
  | _, _, some rest, _, _, _ => .ok (.bool false, rest)
  | _, _, _, some rest, _, _ => .ok (.number .nan, rest)
  | _, _, _, _, some rest, _ => .ok (.number (.infinite false), rest)
  | _, _, _, _, _, some rest => .ok (.number (.infinite true), rest)
  | _, _, _, _, _, _ =>
    match t with
    | .char '-' :: rest => numeral true rest
    | t => numeral false t

mutual

/-- A value at the beginning of the text, in which `room` more arrays and objects may be opened,
and what follows it. -/
def value : Nat → Nat → Text → Except Defect (Json × Text)
  | 0, _, _ => .error .malformed
  | fuel + 1, room, t =>
    match t, room with
    | .char '"' :: rest, _ =>
      match stringBody fuel rest with
      | some (s, rest) => .ok (.text s, rest)
      | none => .error .malformed
    | .char '[' :: _, 0 => .error .tooDeep
    | .char '\x7b' :: _, 0 => .error .tooDeep
    | .char '[' :: rest, room + 1 =>
      match skipGap rest with
      | .char ']' :: rest => .ok (.array [], rest)
      | rest =>
        match items fuel room rest with
        | .ok (vs, rest) => .ok (.array vs, rest)
        | .error defect => .error defect
    | .char '\x7b' :: rest, room + 1 =>
      match skipGap rest with
      | .char '\x7d' :: rest => .ok (.object [], rest)
      | rest =>
        match pairs fuel room rest with
        | .ok (ms, rest) => .ok (.object (Members.ofPairs ms), rest)
        | .error defect => .error defect
    | t, _ => scalar t

/-- One or more values up to the end of an array, and what follows it. -/
def items : Nat → Nat → Text → Except Defect (List Json × Text)
  | 0, _, _ => .error .malformed
  | fuel + 1, room, t =>
    match value fuel room t with
    | .error defect => .error defect
    | .ok (v, rest) =>
      match skipGap rest with
      | .char ']' :: rest => .ok ([v], rest)
      | .char ',' :: rest =>
        match items fuel room (skipGap rest) with
        | .ok (vs, rest) => .ok (v :: vs, rest)
        | .error defect => .error defect
      | _ => .error .malformed

/-- One or more members up to the end of an object, and what follows it. -/
def pairs : Nat → Nat → Text → Except Defect (List (Text × Json) × Text)
  | 0, _, _ => .error .malformed
  | fuel + 1, room, t =>
    match t with
    | .char '"' :: rest =>
      match stringBody fuel rest with
      | none => .error .malformed
      | some (key, rest) =>
        match skipGap rest with
        | .char ':' :: rest =>
          match value fuel room (skipGap rest) with
          | .error defect => .error defect
          | .ok (v, rest) =>
            match skipGap rest with
            | .char '\x7d' :: rest => .ok ([(key, v)], rest)
            | .char ',' :: rest =>
              match pairs fuel room (skipGap rest) with
              | .ok (ms, rest) => .ok ((key, v) :: ms, rest)
              | .error defect => .error defect
            | _ => .error .malformed
        | _ => .error .malformed
    | _ => .error .malformed

end

/-- The value that the whole text writes, with blanks around it. Every code point takes at most two
steps, so the steps allowed here always suffice. -/
def parse (t : Text) : Except Defect Json :=
  match value (2 * t.length + 2) maxDepth (skipGap t) with
  | .error defect => .error defect
  | .ok (v, rest) => if (skipGap rest).isEmpty then .ok v else .error .malformed

end Toolsmith.Json
