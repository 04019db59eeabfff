import Toolsmith.Text.CompositeTable
import Toolsmith.Text.MarkTable

/-!
# Composition

A letter with marks can be written as one character or as several. The composed form of a text has
all characters taken apart, the marks of each letter in the order of their classes, and then put
together again where there is a character for them. Hangul syllables follow a rule; all others
stand in a table.
-/

namespace Toolsmith

namespace CodePoint

/-- The combining class of a mark; zero for everything else. -/
def combiningClass (point : CodePoint) : Nat :=
  ((combiningClasses.find? fun (low, high, _) => low ≤ point.code && point.code ≤ high).map
    fun (_, _, c) => c).getD 0

/-- A mark. -/
def isMark (point : CodePoint) : Bool :=
  nonspacingRanges.has point.code || spacingRanges.has point.code

end CodePoint

namespace Composition

/-- The first Hangul syllable. -/
def firstSyllable : Nat := 0xAC00

/-- The number of Hangul syllables with the same leading consonant. -/
def syllablesPerLead : Nat := 588

/-- The number of Hangul syllables with the same leading consonant and vowel. -/
def syllablesPerVowel : Nat := 28

/-- The first of the 19 leading consonants. -/
def firstLead : Nat := 0x1100

/-- The first of the 21 vowels. -/
def firstVowel : Nat := 0x1161

/-- The number before the first of the 27 trailing consonants. -/
def beforeTrail : Nat := 0x11A7

/-- The two parts of a Hangul syllable. -/
def syllableParts? (n : Nat) : Option (Nat × Nat) :=
  if firstSyllable ≤ n ∧ n < firstSyllable + 19 * syllablesPerLead then
    let index := n - firstSyllable
    let trail := index % syllablesPerVowel
    if trail = 0 then
      some (firstLead + index / syllablesPerLead,
        firstVowel + index % syllablesPerLead / syllablesPerVowel)
    else
      some (n - trail, beforeTrail + trail)
  else
    none

/-- The Hangul syllable of two parts. -/
def syllable? (a b : Nat) : Option Nat :=
  if firstLead ≤ a ∧ a < firstLead + 19 ∧ firstVowel ≤ b ∧ b < firstVowel + 21 then
    some (firstSyllable + (a - firstLead) * syllablesPerLead + (b - firstVowel) * syllablesPerVowel)
  else if beforeTrail < b ∧ b < beforeTrail + syllablesPerVowel then
    match syllableParts? a with
    | some (lead, vowel) =>
      if lead < firstVowel ∧ vowel ≤ beforeTrail then some (a + b - beforeTrail) else none
    | none => none
  else
    none

/-- The one character for which a variant form stands. -/
def base? (n : Nat) : Option Nat :=
  ((variantForms.lookup n).orElse fun _ => ideographForms.lookup n).orElse fun _ =>
    farIdeographForms.lookup n

/-- What a character stands for, taken apart once. -/
def parts (n : Nat) : List Nat :=
  match syllableParts? n, composites.lookup n, looseComposites.lookup n, base? n with
  | some (a, b), _, _, _ => [a, b]
  | _, some (a, b), _, _ => [a, b]
  | _, _, some (a, b), _ => [a, b]
  | _, _, _, some a => [a]
  | _, _, _, _ => [n]

/-- What a text stands for. Nothing can be taken apart more than three times. -/
def takeApart (t : Text) : Text :=
  let once (t : Text) : Text := t.flatMap fun c => (parts c.code).map .ofCode
  once (once (once t))

/-- A mark among marks in the order of their classes: before those of higher classes, and before
those of its own, which have come after it. -/
def insertMark (mark : CodePoint) : Text → Text
  | [] => [mark]
  | c :: rest =>
    if c.combiningClass ≠ 0 ∧ c.combiningClass < mark.combiningClass then
      c :: insertMark mark rest
    else
      mark :: c :: rest

/-- The text with the marks after each letter in the order of their classes. -/
def orderMarks : Text → Text
  | [] => []
  | c :: rest =>
    if c.combiningClass = 0 then c :: orderMarks rest else insertMark c (orderMarks rest)

/-- The character of two parts. -/
def composite? (a b : CodePoint) : Option CodePoint :=
  match syllable? a.code b.code with
  | some n => some (.ofCode n)
  | none =>
    (composites.find? fun (_, first, second) => first = a.code && second = b.code).map
      fun (n, _, _) => .ofCode n

/-- Whether the marks between a letter and a character keep the two from being put together. The
marks are given from the last. -/
def isBlocked (marks : Text) (c : CodePoint) : Bool :=
  marks.head?.any fun last => c.combiningClass ≤ last.combiningClass

/-- A letter, the marks after it from the last, and more text, put together. -/
def joinAfter (letter : CodePoint) (marks : Text) : Text → Text
  | [] => letter :: marks.reverse
  | c :: rest =>
    match if isBlocked marks c then none else composite? letter c with
    | some composite => joinAfter composite marks rest
    | none =>
      if c.combiningClass = 0 then letter :: marks.reverse ++ joinAfter c [] rest
      else joinAfter letter (c :: marks) rest

/-- The text put together from the first letter on. -/
def join : Text → Text
  | [] => []
  | c :: rest => if c.combiningClass = 0 then joinAfter c [] rest else c :: join rest

end Composition

/-- The composed form of a text. -/
def Text.composed (t : Text) : Text :=
  Composition.join (Composition.orderMarks (Composition.takeApart t))

end Toolsmith
