import Toolsmith.Text.Composition
import Toolsmith.Web.LabelTable
import Toolsmith.Web.Punycode

/-!
# Labels of domain names

A domain name is made of labels. A label is a text in composed form with a proper beginning and end.
Most of its characters are fine everywhere, some only beside certain others, and its directions of
writing have to agree. A label beyond ASCII has a form in ASCII that begins with `xn--`.
-/

namespace Toolsmith.Label

/-- Why a text is no label. -/
inductive Defect where
  /-- The text as a whole has not the form of a label. -/
  | unfit
  /-- A character cannot stand in a label. -/
  | badCharacter
  /-- A character cannot stand where it does. -/
  | badPlace
  /-- The directions of writing do not agree. -/
  | badDirection
deriving DecidableEq, Repr

/-- Whether a character may stand anywhere in a label. -/
def isFree (c : CodePoint) : Bool :=
  labelPoints.any fun (low, high, step) =>
    low ≤ c.code && c.code ≤ high && (c.code - low) % step == 0

/-- Whether a mark is passed over when letters join. -/
def isTransparent (c : CodePoint) : Bool :=
  (nonspacingRanges.has c.code && c.code != 0x1171E) || c.code == 0x1E94B

/-- Whether a character suppresses the vowel of the letter before it. -/
def isVirama (c : CodePoint) : Bool :=
  c.combiningClass = 9

/-- Whether a letter joins with the one after it. -/
def joinsAfter (c : CodePoint) : Bool :=
  leftJoinerRanges.has c.code || dualJoinerRanges.has c.code

/-- Whether a letter joins with the one before it. -/
def joinsBefore (c : CodePoint) : Bool :=
  rightJoinerRanges.has c.code || dualJoinerRanges.has c.code

/-- The small letter between two of which a middle dot stands. -/
def smallL : CodePoint := .char 'l'

/-- Whether a character that needs company may stand between `before`, given from its end, and
`after`; nothing if the character is never allowed. -/
def fitsBetween? (before : Text) (c : CodePoint) (after : Text) : Option Bool :=
  let n := c.code
  if n = 0x200C then
    some (before.head?.any isVirama ||
      ((before.dropWhile isTransparent).head?.any joinsAfter &&
        (after.dropWhile isTransparent).head?.any joinsBefore))
  else if n = 0x200D then
    some (before.head?.any isVirama)
  else if n = 0xB7 then
    some (before.head? = some smallL && after.head? = some smallL)
  else if n = 0x375 then
    some (after.head?.any fun d => greekRanges.has d.code)
  else if n = 0x5F3 ∨ n = 0x5F4 then
    some (before.head?.any fun d => hebrewRanges.has d.code)
  else if n = 0x30FB then
    some ((before ++ after).any fun d => japaneseRanges.has d.code)
  else if 0x660 ≤ n ∧ n ≤ 0x669 then
    some (!(before ++ after).any fun d => 0x6F0 ≤ d.code && d.code ≤ 0x6F9)
  else if 0x6F0 ≤ n ∧ n ≤ 0x6F9 then
    some (!(before ++ after).any fun d => 0x660 ≤ d.code && d.code ≤ 0x669)
  else
    none

/-- The defect of a character that has not the company it needs. Misplaced joiners spoil the label
as a whole. -/
def misplaced (c : CodePoint) : Defect :=
  if c.code = 0x200C ∨ c.code = 0x200D then .unfit else .badPlace

/-- The first defect of the characters after `before`, which is given from its end. -/
def characterDefect? (before : Text) : Text → Option Defect
  | [] => none
  | c :: rest =>
    if isFree c then
      characterDefect? (c :: before) rest
    else
      match fitsBetween? before c rest with
      | some true => characterDefect? (c :: before) rest
      | some false => some (misplaced c)
      | none => some .badCharacter

/-- The directions of writing. -/
inductive Direction where
  | left
  | right
  | arabic
  | number
  | arabicNumber
  | neutral
  | mark
deriving DecidableEq, Repr

/-- The few marks that have a direction of their own. -/
def directedMarks : List Nat := [0xCBF, 0xCC6, 0x11A07, 0x11A08, 0x11C3F]

/-- The direction of a character of a label. -/
def direction (c : CodePoint) : Direction :=
  let n := c.code
  if nonspacingRanges.has n && !directedMarks.contains n then .mark
  else if rightToLeftRanges.has n then .right
  else if arabicRanges.has n then .arabic
  else if arabicNumberRanges.has n then .arabicNumber
  else if numberRanges.has n then .number
  else if neutralRanges.has n then .neutral
  else .left

/-- Whether directions agree. If one is from right to left, the first is, none is from left to
right, a letter or a digit comes last but for marks, and digits are of one kind. -/
def directionsAgree (directions : List Direction) : Bool :=
  let has (d : Direction) : Bool := directions.contains d
  if has .right || has .arabic || has .arabicNumber then
    let last := (directions.reverse.dropWhile (· = .mark)).head?
    (directions.head? = some .right || directions.head? = some .arabic) && !has .left &&
      (last.any fun d => d != .neutral) && !(has .number && has .arabicNumber)
  else
    true

/-- The most characters of a label before it is put into ASCII. -/
def maxSize : Nat := 254

/-- Whether a label has hyphens in its third and fourth place. -/
def hasInnerHyphens (t : Text) : Bool :=
  (t.drop 2).take 2 = Text.ofString "--"

/-- Whether a label begins or ends with a hyphen. -/
def hasOuterHyphen (t : Text) : Bool :=
  t.head? = some (.char '-') || t.getLast? = some (.char '-')

/-- Why a text is no label. -/
def defect? (t : Text) : Option Defect :=
  if t.isEmpty || maxSize < t.length || t.composed ≠ t || hasInnerHyphens t || hasOuterHyphen t ||
      t.head?.any CodePoint.isMark then
    some .unfit
  else
    match characterDefect? [] t with
    | some defect => some defect
    | none => if directionsAgree (t.map direction) then none else some .badDirection

/-- The beginning of the form in ASCII of other labels. -/
def wideStart : Text := Text.ofString "xn--"

/-- Why a text of ASCII stands for no label. -/
def asciiDefect? (t : Text) : Option Defect :=
  let t := t.map CodePoint.asciiLower
  if wideStart.isPrefixOf t then
    let code := t.drop wideStart.length
    if code.isEmpty || code.getLast? = some (.char '-') then
      some .unfit
    else
      match Punycode.decode? code with
      | some label => defect? label
      | none => some .unfit
  else
    defect? t

/-- The most characters of a label in ASCII. -/
def maxAsciiSize : Nat := 63

/-- The form of a label in ASCII. -/
def toAscii (t : Text) : Except Defect Text :=
  let isPlain := t.all CodePoint.isAscii
  match if isPlain then asciiDefect? t else defect? t with
  | some defect => .error defect
  | none =>
    let ascii := if isPlain then t else wideStart ++ Punycode.encode t
    if ascii.length ≤ maxAsciiSize then .ok ascii else .error .unfit

end Toolsmith.Label
