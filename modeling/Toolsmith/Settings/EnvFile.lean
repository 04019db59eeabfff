import Toolsmith.Fault
import Toolsmith.Text.Blank
import Toolsmith.Text.Utf8

/-!
# Files of variables

A file of variables has a line `KEY=VALUE` for each. A key may follow `export`, and a value may
stand between quotes, over several lines if need be. A number sign after a blank begins a comment,
also where a value is expected. What cannot be read is passed over up to the end of its line.
Values may name other variables as `$` and a name between braces, with a default after `:-`.
-/

namespace Toolsmith.EnvFile

/-- A blank that does not end a line. -/
def isInlineBlank (c : CodePoint) : Bool :=
  c.isBlank && c != .char '\n' && c != .char '\r'

/-- The text without the blanks of its line. -/
def skipInline (t : Text) : Text :=
  t.dropWhile isInlineBlank

/-- What follows `export` and a blank, if the text begins so. -/
def skipExport (t : Text) : Text :=
  let word := Text.ofString "export"
  let rest := t.drop word.length
  if word.isPrefixOf t && rest.head?.any isInlineBlank then skipInline rest else t

/-- The text up to a closing quote, and what follows it. What stands after a backslash does not
close. -/
def closing? (mark : CodePoint) : Text → Option (Text × Text)
  | [] => none
  | c :: rest =>
    if c = mark then
      some ([], rest)
    else if c = .char '\\' then
      match rest with
      | [] => none
      | d :: rest => (closing? mark rest).map fun (t, after) => (c :: d :: t, after)
    else
      (closing? mark rest).map fun (t, after) => (c :: t, after)

/-- What a backslash and a letter stand for between double quotes. -/
def escapedLetter? : CodePoint → Option CodePoint
  | .char 'a' => some (.ofCode 7)
  | .char 'b' => some (.ofCode 8)
  | .char 'f' => some (.ofCode 12)
  | .char 'n' => some (.ofCode 10)
  | .char 'r' => some (.ofCode 13)
  | .char 't' => some (.ofCode 9)
  | .char 'v' => some (.ofCode 11)
  | .char '"' => some (.char '"')
  | _ => none

/-- What a backslash and a code point stand for between quotes; letters only between double
ones. -/
def escaped? (double : Bool) (c : CodePoint) : Option CodePoint :=
  if c = .char '\\' ∨ c = .char '\'' then some c
  else if double then escapedLetter? c
  else none

/-- The text with its escapes replaced. -/
def unescape (double : Bool) : Text → Text
  | [] => []
  | [c] => [c]
  | c :: d :: rest =>
    if c = .char '\\' then
      match escaped? double d with
      | some e => e :: unescape double rest
      | none => c :: unescape double (d :: rest)
    else
      c :: unescape double (d :: rest)

/-- The text up to a number sign that follows a blank. -/
def beforeComment : Text → Text
  | [] => []
  | [c] => [c]
  | c :: d :: rest =>
    if c.isBlank && d == .char '#' then [] else c :: beforeComment (d :: rest)

/-- What a reader of a line has found, or where it gave up. -/
inductive Step (α : Type) where
  | found (value : α) (rest : Text)
  | stuck (rest : Text)

/-- The key at the beginning of a line; a comment has none. -/
def key (t : Text) : Step (Option Text) :=
  match t with
  | .char '#' :: _ => .found none t
  | .char '\'' :: after =>
    let name := after.takeWhile fun c => c != .char '\''
    match after.drop name.length with
    | _ :: rest => if name.isEmpty then .stuck t else .found (some name) rest
    | [] => .stuck t
  | _ =>
    let name := t.takeWhile fun c => !(c == .char '=' || c == .char '#' || c.isBlank)
    if name.isEmpty then .stuck t else .found (some name) (t.drop name.length)

/-- A value without quotes: what stands before a comment, without blanks at either end. -/
def plainValue (part : Text) : Text :=
  Text.strip (beforeComment part)

/-- The value after an equals sign. -/
def value (t : Text) : Step Text :=
  match skipInline t with
  | .char '\'' :: after =>
    match closing? (.char '\'') after with
    | some (raw, rest) => .found (unescape false raw) rest
    | none => .stuck t
  | .char '"' :: after =>
    match closing? (.char '"') after with
    | some (raw, rest) => .found (unescape true raw) rest
    | none => .stuck t
  | _ =>
    let part := t.takeWhile fun c => c != .char '\n' && c != .char '\r'
    .found (plainValue part) (t.drop part.length)

/-- The text after a comment, if one follows the blanks of its line. -/
def skipComment (t : Text) : Text :=
  match skipInline t with
  | .char '#' :: rest => rest.dropWhile fun c => c != .char '\n' && c != .char '\r'
  | _ => t

/-- The text after the end of a line, if nothing but blanks comes before it. -/
def lineEnd? (t : Text) : Option Text :=
  match skipInline t with
  | [] => some []
  | .char '\r' :: .char '\n' :: rest => some rest
  | .char '\n' :: rest => some rest
  | .char '\r' :: rest => some rest
  | _ => none

/-- What follows the current line. -/
def skipLine (t : Text) : Text :=
  (t.dropWhile fun c => c != .char '\n' && c != .char '\r').drop 1

/-- A variable of the file; one without an equals sign has no value. -/
abbrev Entry := Text × Option Text

/-- The rest of a line after its value, which it ends properly or not. -/
def finish (entry : Option Entry) (t : Text) : Option Entry × Text :=
  match lineEnd? (skipComment t) with
  | some rest => (entry, rest)
  | none => (none, skipLine (skipComment t))

/-- The variable of the first line that is not blank, if it has one, and what follows it. -/
def line (t : Text) : Option Entry × Text :=
  let start := skipExport (t.dropWhile CodePoint.isBlank)
  if start.isEmpty then
    (none, [])
  else
    match key start with
    | .stuck rest => (none, skipLine rest)
    | .found name rest =>
      match skipInline rest with
      | .char '=' :: after =>
        match value after with
        | .stuck rest => (none, skipLine rest)
        | .found v rest => finish (name.map fun name => (name, some v)) rest
      | rest => finish (name.map fun name => (name, none)) rest

/-- The variables of the next `fuel` lines. -/
def lines : Nat → Text → List Entry
  | 0, _ => []
  | _, [] => []
  | fuel + 1, t =>
    let (entry, rest) := line t
    entry.toList ++ lines fuel rest

/-- The reference to a variable after `$` and an opening brace: the name, the default, and the
number of code points up to the closing brace. -/
def reference? (t : Text) : Option (Text × Text × Nat) :=
  let name := t.takeWhile fun c => c != .char '\x7d' && c != .char ':'
  match t.drop name.length with
  | .char '\x7d' :: _ => some (name, [], name.length + 1)
  | .char ':' :: .char '-' :: after =>
    let default := after.takeWhile fun c => c != .char '\x7d'
    if default.length < after.length then
      some (name, default, name.length + default.length + 3)
    else
      none
  | _ => none

/-- The text, after `skip` code points, with references replaced by what they stand for: the value
of a variable that is known, nothing for one without a value, and else the default. -/
def substitute (known : List Entry) : Nat → Text → Text
  | _, [] => []
  | skip + 1, _ :: rest => substitute known skip rest
  | 0, c :: rest =>
    match c, rest with
    | .char '$', .char '\x7b' :: after =>
      match reference? after with
      | some (name, default, size) =>
        let here :=
          match known.lookup name with
          | some v => v.getD []
          | none => default
        here ++ substitute known (size + 1) rest
      | none => c :: substitute known 0 rest
    | _, _ => c :: substitute known 0 rest

/-- The variables of the environment and those of the file read so far, in the order in which
references look them up. -/
def scope (environment : List (Text × Text)) (done : List Entry) : List Entry :=
  environment.map (fun (name, v) => (name, some v)) ++ done

/-- The variables with references replaced, where the last value of a key counts; `done` holds those
read before, the last first. -/
def resolve (environment : List (Text × Text)) (done : List Entry) : List Entry → List Entry
  | [] => done
  | (name, v) :: rest =>
    let v := v.map (substitute (scope environment done) 0)
    resolve environment ((name, v) :: done.filter fun e => e.1 != name) rest

/-- The variables of a file, in order. The file may begin with the mark of its byte order. -/
def entries (t : Text) : List Entry :=
  lines (t.length + 1) t.withoutMark

/-- The variables that a file adds to an environment: those with a value that it does not have. -/
def additions (environment : List (Text × Text)) (t : Text) : List (Text × Text) :=
  (resolve environment [] (entries t)).reverse.filterMap fun (name, v) =>
    if environment.any (·.1 == name) then none else v.map fun v => (name, v)

end Toolsmith.EnvFile
