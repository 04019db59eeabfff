import Toolsmith.Service
import Toolsmith.Text.Digit
import Toolsmith.Text.Word

/-!
# Links to services

The directory page links to a service by `/restapi/`, the service's name, `/v` and the digits of
the version. Links do not overlap, and each service counts once, where it occurs first.
-/

namespace Toolsmith.Catalog

/-- The beginning of every link. -/
def linkStart : Text := Text.ofString "/restapi/"

/-- The name and the digits of a link that begins the text, with the number of its code points
(`_SERVICE_LINK_RE`). -/
def link? (t : Text) : Option (Text × Text × Nat) :=
  if linkStart.isPrefixOf t then
    let rest := t.drop linkStart.length
    let name := rest.takeWhile CodePoint.isWord
    match rest.drop name.length with
    | .char '/' :: .char 'v' :: rest =>
      let digits := rest.takeWhile CodePoint.isDecimal
      if name.isEmpty || digits.isEmpty then
        none
      else
        some (name, digits, linkStart.length + name.length + 2 + digits.length)
    | _ => none
  else
    none

/-- The names and versions in the links of a text after `skip` code points, which belong to the
last link. -/
def linksAfter : Nat → Text → List (Text × Text)
  | _, [] => []
  | skip + 1, _ :: rest => linksAfter skip rest
  | 0, c :: rest =>
    match link? (c :: rest) with
    | some (name, digits, size) =>
      (name, .char 'v' :: digits) :: linksAfter (size - 1) rest
    | none => linksAfter 0 rest

/-- The pairs that are not in `seen` and occur for the first time. -/
def firstOccurrences (seen : List (Text × Text)) : List (Text × Text) → List (Text × Text)
  | [] => []
  | pair :: rest =>
    if seen.contains pair then firstOccurrences seen rest
    else pair :: firstOccurrences (pair :: seen) rest

/-- The services that a directory page links to (`parse_directory_page`). -/
def linked (page : Text) : List Service :=
  (firstOccurrences [] (linksAfter 0 page)).map fun (name, version) =>
    Service.ofNameAndVersion name version

end Toolsmith.Catalog
