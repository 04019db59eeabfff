import Toolsmith.Text.Case
import Toolsmith.Text.Percent
import Toolsmith.Web.Domain
import Toolsmith.Web.IpAddress

/-!
# Hosts

The host of a URL is an address of the fourth version, one of the sixth in brackets, or a name. A
name is put into small letters, and into ASCII if it is beyond it.
-/

namespace Toolsmith.Host

/-- The state of a reader of four numbers after one more character. In an even state the next number
begins, in an odd one a number goes on; any one character comes between two numbers. -/
def nextStates (states : List Nat) (c : CodePoint) : List Nat :=
  (List.range 8).filter fun next => states.any fun state =>
    let isInNumber := state % 2 == 1
    if next == state + 1 then isInNumber || c.isAsciiDigit
    else next == state && isInNumber && c.isAsciiDigit

/-- Whether a host looks like four numbers with one character between neighbours. -/
def looksNumeric (t : Text) : Bool :=
  (t.foldl nextStates [0]).contains 7

/-- What stands for itself in a name, besides letters and digits. -/
def nameSafe : Text := Text.ofString "!$&'()*+,;=\"\x60\x7b\x7d%|\\"

/-- The host in brackets, if a text begins with one and ends with the other. -/
def bracketed? (t : Text) : Option Text :=
  if 2 ≤ t.length ∧ t.head? = some (.char '[') ∧ t.getLast? = some (.char ']') then
    some ((t.drop 1).dropLast)
  else
    none

/-- The form in which a host is kept, if it is one. Brackets are left out. -/
def normal? (t : Text) : Option Text :=
  if t.isEmpty then
    some []
  else if looksNumeric t then
    if IpAddress.isDottedQuad t then some t else none
  else
    match bracketed? t with
    | some address => if IpAddress.isVersion6 address then some address else none
    | none =>
      if t.all CodePoint.isAscii then
        Text.percentEncode t.lower nameSafe
      else
        (Domain.toAscii t.lower).toOption

/-- Why a request cannot be sent to a host: it begins like a name that is beyond ASCII and is
none. -/
def defect? (host : Text) : Option Label.Defect :=
  if Label.wideStart.isPrefixOf host then Domain.asciiDefect? host else none

end Toolsmith.Host
