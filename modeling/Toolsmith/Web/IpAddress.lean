import Toolsmith.Text.Basic

/-!
# Addresses of hosts

A host has an address of the fourth version, four octets between dots, or one of the sixth, groups
of hexadecimal digits between colons.
-/

namespace Toolsmith.IpAddress

/-- Whether the text is a number of one to three digits up to 255, without a leading zero. -/
def isOctet (t : Text) : Bool :=
  !t.isEmpty && t.length ≤ 3 && t.all CodePoint.isAsciiDigit &&
    (t.length == 1 || t.head? != some (.char '0')) &&
    t.foldl (fun n c => n * 10 + (c.hexValue?.getD 0)) 0 ≤ 255

/-- Four octets between dots. -/
def isDottedQuad (t : Text) : Bool :=
  let octets := Text.splitOn (.char '.') t
  octets.length == 4 && octets.all isOctet

/-- One to four hexadecimal digits. -/
def isHextet (t : Text) : Bool :=
  !t.isEmpty && t.length ≤ 4 && t.all fun c => c.hexValue?.isSome

/-- The parts of an address between colons; four octets at the end count as two parts. -/
def hextets? (t : Text) : Option (List Text) :=
  let parts := Text.splitOn (.char ':') t
  match parts.reverse with
  | last :: before =>
    if last.contains (.char '.') then
      if isDottedQuad last then
        some (before.reverse ++ [Text.ofString "0", Text.ofString "0"])
      else
        none
    else
      some parts
  | [] => none

/-- The positions strictly inside a list of parts at which a part is empty. -/
def innerGaps (parts : List Text) : List Nat :=
  (List.range parts.length).filter fun i =>
    0 < i && i + 1 < parts.length && (parts.getD i []).isEmpty

/-- Eight groups of hexadecimal digits, or fewer around one `::`. A zone may follow a percent
sign. -/
def isVersion6 (t : Text) : Bool :=
  let address := t.takeWhile fun c => c != .char '%'
  let zone := (t.drop address.length).drop 1
  let zoneFits := address.length == t.length || (!zone.isEmpty && !zone.contains (.char '%'))
  zoneFits && 3 ≤ (Text.splitOn (.char ':') address).length &&
    match hextets? address with
    | none => false
    | some parts =>
      match innerGaps parts with
      | [] => parts.length == 8 && parts.all isHextet
      | [gap] =>
        let before := parts.take gap
        let after := parts.drop (gap + 1)
        let groups (side : List Text) (alone : Bool) : Option (List Text) :=
          if alone then if side.length == 1 then some [] else none else some side
        parts.length ≤ 9 &&
          match groups before ((before.head?.map List.isEmpty).getD false),
            groups after ((after.getLast?.map List.isEmpty).getD false) with
          | some high, some low =>
            high.length + low.length < 8 && (high ++ low).all isHextet
          | _, _ => false
      | _ => false

end Toolsmith.IpAddress
