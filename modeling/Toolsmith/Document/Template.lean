import Toolsmith.Text.Basic

/-!
# Path templates

A path may hold placeholders: names between braces. A placeholder begins at an opening brace and
ends at the next closing one, so its name may hold further opening braces. Which names count is a
parameter: path parameters have any name that is not empty, and tenants have one of their own.
-/

namespace Toolsmith.Template

/-- A piece of a template: one code point that stands for itself, or a placeholder. -/
inductive Piece where
  | point (c : CodePoint)
  | placeholder (name : Text)
deriving DecidableEq, Repr

/-- The name that a closing brace ends, if there is one. -/
def enclosed? (t : Text) : Option Text :=
  let name := t.takeWhile fun c => c != .char '\x7d'
  if name.length < t.length then some name else none

/-- The pieces of a template after `skip` code points that belong to the last placeholder. Only a
name that is accepted makes a placeholder. -/
def scan (accept : Text → Bool) : Nat → Text → List Piece
  | _, [] => []
  | skip + 1, _ :: rest => scan accept skip rest
  | 0, c :: rest =>
    if c = .char '\x7b' then
      match (enclosed? rest).filter accept with
      | some name => .placeholder name :: scan accept (name.length + 1) rest
      | none => .point c :: scan accept 0 rest
    else
      .point c :: scan accept 0 rest

/-- The pieces of a path: every name that is not empty makes a placeholder (`_PLACEHOLDER_RE`). -/
def pieces (path : Text) : List Piece :=
  scan (fun name => !name.isEmpty) 0 path

/-- The name of a placeholder. -/
def Piece.name? : Piece → Option Text
  | point _ => none
  | placeholder name => some name

/-- The names of the placeholders of a path, in order. -/
def placeholders (path : Text) : List Text :=
  (pieces path).filterMap Piece.name?

/-- The template with every placeholder written as `filling`. -/
def fill (filling : Text) (template : List Piece) : Text :=
  template.flatMap fun
    | .point c => [c]
    | .placeholder _ => filling

/-- The code points of a path outside its placeholders. -/
def withoutPlaceholders (path : Text) : Text :=
  fill [] (pieces path)

/-- A name that speaks of a tenant, in any letter case. -/
def isTenantName (name : Text) : Bool :=
  Text.includes (Text.ofString "tenant") (name.map CodePoint.asciiLower)

/-- The path with every tenant placeholder written as `filling` (`_TENANT_RE`). -/
def fillTenants (filling path : Text) : Text :=
  fill filling (scan isTenantName 0 path)

end Toolsmith.Template
