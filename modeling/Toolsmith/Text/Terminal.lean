import Toolsmith.Text.Basic

/-!
# Terminal sequences

A sequence for a terminal is the escape character, a bracket, parameters and a letter. It changes
how text looks and is no part of it.
-/

namespace Toolsmith.Text

/-- A code point in the parameters of a terminal sequence. -/
def isParameter (c : CodePoint) : Bool :=
  c.isAsciiDigit || c == .char ';' || c == .char '?'

/-- The number of code points of the terminal sequence that begins a text; zero if none does. -/
def sequenceLength : Text → Nat
  | c :: .char '[' :: rest =>
    let parameters := rest.takeWhile isParameter
    if c.code = 0x1B ∧ (rest.drop parameters.length).head?.any CodePoint.isAsciiLetter then
      parameters.length + 3
    else
      0
  | _ => 0

/-- The text after `skip` code points without terminal sequences. -/
def unstyledAfter : Nat → Text → Text
  | _, [] => []
  | skip + 1, _ :: rest => unstyledAfter skip rest
  | 0, c :: rest =>
    match sequenceLength (c :: rest) with
    | 0 => c :: unstyledAfter 0 rest
    | size + 1 => unstyledAfter size rest

/-- The text without terminal sequences. -/
def unstyled (t : Text) : Text :=
  unstyledAfter 0 t

end Toolsmith.Text
