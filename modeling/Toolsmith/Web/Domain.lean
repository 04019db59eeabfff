import Toolsmith.Web.Label

/-!
# Domain names

A domain name is a row of labels with full stops between them, and maybe one at the end. Three other
full stops count as well.
-/

namespace Toolsmith.Domain

/-- The full stops between labels. -/
def isStop (c : CodePoint) : Bool :=
  c == .char '.' || c.code == 0x3002 || c.code == 0xFF0E || c.code == 0xFF61

/-- The labels of a domain name, and whether a full stop comes last. -/
def labels (t : Text) : List Text × Bool :=
  let pieces := Text.splitOn (.char '.') (t.map fun c => if isStop c then .char '.' else c)
  if pieces.length ≠ 1 ∧ pieces.getLast? = some [] then (pieces.dropLast, true) else (pieces, false)

/-- The most characters of a domain name without a full stop at its end. -/
def maxSize : Nat := 253

/-- The form of a domain name in ASCII. -/
def toAscii (t : Text) : Except Label.Defect Text :=
  if maxSize + 1 < t.length then
    .error .unfit
  else
    let (names, hasEnd) := labels t
    match names.mapM Label.toAscii with
    | .error defect => .error defect
    | .ok names =>
      let ascii := Text.join [.char '.'] (names ++ if hasEnd then [[]] else [])
      if ascii.length ≤ (if hasEnd then maxSize + 1 else maxSize) then .ok ascii
      else .error .unfit

/-- Why a text of ASCII stands for no domain name. -/
def asciiDefect? (t : Text) : Option Label.Defect :=
  if maxSize + 1 < t.length then some .unfit else (labels t).1.findSome? Label.asciiDefect?

end Toolsmith.Domain
