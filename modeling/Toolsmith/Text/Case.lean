import Toolsmith.Text.CaseTable

/-!
# Letter case

Texts are put into upper and lower case by the full mappings, under which a letter may become
several. The lower case of a capital sigma depends on whether a word ends with it.
-/

namespace Toolsmith

/-- The number to which a table of intervals moves a number: all members of an interval move by
the same distance. -/
def shifted? (table : List (Nat × Nat × Nat × Nat)) (n : Nat) : Option Nat :=
  (table.find? fun (low, high, step, _) => low ≤ n && n ≤ high && (n - low) % step == 0).map
    fun (low, _, _, first) => first + (n - low)

namespace CodePoint

/-- The upper case of a code point. -/
def upper (point : CodePoint) : Text :=
  match upperExpansions.lookup point.code with
  | some letters => letters.map ofCode
  | none =>
    match shifted? upperShifts point.code with
    | some letter => [ofCode letter]
    | none => [point]

/-- The lower case of a code point that is not a capital sigma. Only the dotted capital I has a
lower case of two letters. -/
def lower (point : CodePoint) : Text :=
  if point.code = 0x130 then
    [ofCode 0x69, ofCode 0x307]
  else
    match shifted? lowerShifts point.code with
    | some letter => [ofCode letter]
    | none => [point]

/-- A letter with a case that a search for a word's end stops at. -/
def isCased (point : CodePoint) : Bool :=
  casedRanges.has point.code

/-- A mark or sign that a search for a word's end passes over. -/
def isCaseIgnorable (point : CodePoint) : Bool :=
  caseIgnorableRanges.has point.code

end CodePoint

namespace Text

/-- The text in upper case. -/
def upper (t : Text) : Text :=
  t.flatMap CodePoint.upper

/-- Whether the word goes on: the first code point that is not passed over is a letter. -/
def wordContinues (t : Text) : Bool :=
  (t.dropWhile CodePoint.isCaseIgnorable).head?.any CodePoint.isCased

/-- The lower case of what follows a letter, if `afterLetter`, or a gap between words. -/
def lowerAfter (afterLetter : Bool) : Text → Text
  | [] => []
  | c :: rest =>
    let here :=
      if c.code = 0x3A3 then
        [CodePoint.ofCode (if afterLetter && !wordContinues rest then 0x3C2 else 0x3C3)]
      else
        c.lower
    here ++ lowerAfter (if c.isCaseIgnorable then afterLetter else c.isCased) rest

/-- The text in lower case. -/
def lower (t : Text) : Text :=
  lowerAfter false t

/-- The text with its first code point in upper case. -/
def upperFirst : Text → Text
  | [] => []
  | c :: rest => c.upper ++ rest

end Text

end Toolsmith
