import Toolsmith.Proofs.Text.Numeral
import Toolsmith.Text.Quoted
import Toolsmith.Text.Word

/-!
# Reading program text

What a reader of a unit takes for string literals. A literal begins with a quotation mark and ends
where the same mark comes again on its line. A block begins with three marks and ends where they
come again on any line. In both a backslash begins an escape. A letter right before the marks
changes how they are read, so plain ones are told apart. Comments are not read.
-/

namespace Toolsmith.Program

/-- A part of a program: a code point outside literals, or what a literal of one line or a block of
several lines stands for. -/
inductive Token where
  | code (c : CodePoint)
  | literal (plain : Bool) (t : Text)
  | block (plain : Bool) (t : Text)
deriving DecidableEq, Repr

/-- The number of a fixed count of hexadecimal digits that go on a number, and what follows. -/
def hexNumber? : Nat → Nat → Text → Option (Nat × Text)
  | 0, n, t => some (n, t)
  | width + 1, n, c :: t => c.hexValue?.bind fun d => hexNumber? width (n * 16 + d) t
  | _ + 1, _, [] => none

/-- An octal digit. -/
def isOctal (c : CodePoint) : Bool :=
  0x30 ≤ c.code && c.code < 0x38

/-- The code point of a number that an escape names. -/
def named? (n : Nat) (rest : Text) : Option (Text × Text) :=
  if n < 0x110000 then some ([.ofCode n], rest) else none

/-- What an escape stands for, and what follows it; the text begins after the backslash. Before a
line end the backslash and the line end vanish, and before any other code point that names nothing
the backslash stands for itself. Escapes by character names are not read. -/
def escape? : Text → Option (Text × Text)
  | [] => none
  | c :: rest =>
    if c = .char '\n' then some ([], rest)
    else if c = .char '\\' ∨ c = .char '\'' ∨ c = .char '"' then some ([c], rest)
    else if c = .char 'a' then some ([.ofCode 7], rest)
    else if c = .char 'b' then some ([.ofCode 8], rest)
    else if c = .char 'f' then some ([.ofCode 12], rest)
    else if c = .char 'n' then some ([.ofCode 10], rest)
    else if c = .char 'r' then some ([.ofCode 13], rest)
    else if c = .char 't' then some ([.ofCode 9], rest)
    else if c = .char 'v' then some ([.ofCode 11], rest)
    else if c = .char 'x' then (hexNumber? 2 0 rest).bind fun (n, rest) => named? n rest
    else if c = .char 'u' then (hexNumber? 4 0 rest).bind fun (n, rest) => named? n rest
    else if c = .char 'U' then (hexNumber? 8 0 rest).bind fun (n, rest) => named? n rest
    else if c = .char 'N' then none
    else if isOctal c then
      let digits := ((c :: rest).takeWhile isOctal).take 3
      named? (digits.foldl (fun n d => n * 8 + (d.code - 0x30)) 0) ((c :: rest).drop digits.length)
    else some ([.char '\\', c], rest)

/-- What the text between the marks of a literal stands for. -/
def unescape? : Nat → Text → Option Text
  | _, [] => some []
  | 0, _ :: _ => none
  | fuel + 1, c :: t =>
    if c = .char '\\' then
      match escape? t with
      | none => none
      | some (points, rest) => (unescape? fuel rest).map (points ++ ·)
    else
      (unescape? fuel t).map (c :: ·)

/-- What a literal with the given text between its marks stands for. -/
def content? (raw : Text) : Option Text :=
  unescape? raw.length raw

/-- Where a reader is: outside literals, after one mark or two that may begin a literal, in a
literal of one line, or in a block after a number of marks. -/
inductive Mode where
  | code (afterWord : Bool)
  | one (plain : Bool) (mark : CodePoint)
  | two (plain : Bool) (mark : CodePoint)
  | short (plain : Bool) (mark : CodePoint) (raw : Text) (escaped : Bool)
  | block (plain : Bool) (mark : CodePoint) (raw : Text) (escaped : Bool) (marks : Nat)
deriving DecidableEq, Repr

/-- A quotation mark. -/
def isMark (c : CodePoint) : Bool :=
  c = .char '"' || c = .char '\''

/-- Reads a code point outside literals. -/
def codeStep (afterWord : Bool) (c : CodePoint) : Option (List Token × Mode) :=
  if isMark c then some ([], .one (!afterWord) c)
  else if c = .char '#' then none
  else some ([.code c], .code c.isWord)

/-- Reads a code point of a literal on one line. -/
def shortStep (plain : Bool) (mark : CodePoint) (raw : Text) (c : CodePoint) :
    Option (List Token × Mode) :=
  if c = mark then (content? raw).map fun t => ([.literal plain t], .code false)
  else if c = .char '\n' ∨ c = .char '\r' then none
  else some ([], .short plain mark (raw ++ [c]) (c = .char '\\'))

/-- Reads a code point of a block, in which the last marks are not escaped. -/
def blockStep (plain : Bool) (mark : CodePoint) (raw : Text) (marks : Nat) (c : CodePoint) :
    Option (List Token × Mode) :=
  if c = mark then
    if marks = 2 then (content? (raw.take (raw.length - 2))).map fun t =>
      ([.block plain t], .code false)
    else some ([], .block plain mark (raw ++ [c]) false (marks + 1))
  else some ([], .block plain mark (raw ++ [c]) (c = .char '\\') 0)

/-- Reads a code point. -/
def Mode.step : Mode → CodePoint → Option (List Token × Mode)
  | code afterWord, c => codeStep afterWord c
  | one plain mark, c => if c = mark then some ([], two plain mark) else shortStep plain mark [] c
  | two plain mark, c =>
    if c = mark then some ([], block plain mark [] false 0)
    else (codeStep false c).map fun (tokens, mode) => (.literal plain [] :: tokens, mode)
  | short plain mark raw false, c => shortStep plain mark raw c
  | short plain mark raw true, c => some ([], short plain mark (raw ++ [c]) false)
  | block plain mark raw false marks, c => blockStep plain mark raw marks c
  | block plain mark raw true _, c => some ([], block plain mark (raw ++ [c]) false 0)

/-- Reads a text. -/
def scan : Mode → Text → Option (List Token × Mode)
  | mode, [] => some ([], mode)
  | mode, c :: t =>
    match mode.step c with
    | none => none
    | some (tokens, mode) => (scan mode t).map fun (more, mode) => (tokens ++ more, mode)

/-- The parts of a program, if every literal in it ends. -/
def tokens? (t : Text) : Option (List Token) :=
  match scan (.code false) t with
  | some (tokens, .code _) => some tokens
  | some (tokens, .two plain _) => some (tokens ++ [.literal plain []])
  | _ => none

end Toolsmith.Program
