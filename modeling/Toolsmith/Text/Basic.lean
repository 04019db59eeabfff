import Toolsmith.Text.CodePoint

/-!
# Texts

A text is a list of code points. This file holds the operations that cut, join and change
texts; everything that depends on a property of Unicode has a file of its own.
-/

namespace Toolsmith

/-- A sequence of code points. -/
abbrev Text := List CodePoint

namespace Text

/-- The text of a string. -/
def ofString (s : String) : Text :=
  s.toList.map CodePoint.char

instance : Coe String Text := ⟨ofString⟩

/-- The string of a text without surrogates. -/
def toString? (t : Text) : Option String :=
  (t.mapM CodePoint.toChar?).map String.ofList

/-- The pieces between the occurrences of `sep`; there is always at least one piece. -/
def splitOn (sep : CodePoint) : Text → List Text
  | [] => [[]]
  | c :: rest =>
    if c = sep then
      [] :: splitOn sep rest
    else
      match splitOn sep rest with
      | [] => [[c]]
      | piece :: pieces => (c :: piece) :: pieces

/-- The texts one after another with `sep` between neighbours. -/
def join (sep : Text) : List Text → Text
  | [] => []
  | [t] => t
  | t :: rest => t ++ sep ++ join sep rest

/-- Replaces occurrences of `old` after the next `skip` code points, which belong to an
occurrence that has been replaced already. -/
def replaceAfter (old new : Text) : Nat → Text → Text
  | _, [] => []
  | skip + 1, _ :: rest => replaceAfter old new skip rest
  | 0, c :: rest =>
    if old.isPrefixOf (c :: rest) then
      new ++ replaceAfter old new (old.length - 1) rest
    else
      c :: replaceAfter old new 0 rest

/-- The text with every occurrence of the non-empty `old` replaced, leftmost first. -/
def replace (old new t : Text) : Text :=
  replaceAfter old new 0 t

/-- The text without the trailing code points that satisfy `drop`. -/
def trimEnd (drop : CodePoint → Bool) (t : Text) : Text :=
  (t.reverse.dropWhile drop).reverse

/-- The text without the code points that satisfy `drop` at either end. -/
def trimBoth (drop : CodePoint → Bool) (t : Text) : Text :=
  trimEnd drop (t.dropWhile drop)

/-- The maximal runs of code points that do not satisfy `gap`. -/
def runs (gap : CodePoint → Bool) : Text → List Text
  | [] => []
  | c :: rest =>
    if gap c then
      runs gap rest
    else
      match rest with
      | [] => [[c]]
      | next :: _ =>
        if gap next then
          [c] :: runs gap rest
        else
          match runs gap rest with
          | [] => [[c]]
          | run :: more => (c :: run) :: more

/-- Whether `part` occurs in the text. -/
def includes (part : Text) : Text → Bool
  | [] => part.isEmpty
  | c :: rest => part.isPrefixOf (c :: rest) || includes part rest

/-- Whether the text ends with `tail`. -/
def endsWith (t tail : Text) : Bool :=
  tail.isSuffixOf t

/-- The decimal digits of a natural number. -/
def ofNat (n : Nat) : Text :=
  (Nat.toDigits 10 n).map CodePoint.char

/-- The decimal digits of an integer, after `-` if it is negative. -/
def ofInt : Int → Text
  | .ofNat n => ofNat n
  | .negSucc n => CodePoint.char '-' :: ofNat (n + 1)

/-- `n` in base sixteen with lower-case digits, filled up with zeros to `width`. -/
def ofHex (width n : Nat) : Text :=
  let digits := (Nat.toDigits 16 n).map CodePoint.char
  List.replicate (width - digits.length) (CodePoint.char '0') ++ digits

/-- Texts in the order of their code points, a proper beginning before its continuations. -/
def precedes : Text → Text → Bool
  | [], _ => true
  | _ :: _, [] => false
  | a :: s, b :: t => a.code < b.code || (a.code == b.code && precedes s t)

end Text

end Toolsmith
