import Toolsmith.Web.IpAddress

/-!
# Addresses of servers

The path of an absolute address is what follows its authority, up to a query or a fragment.
Tabs and line ends are dropped first. An authority with brackets is refused unless its host is an
address of the sixth or a later version, and so is one that holds a character that is only a
variant form of a delimiter.
-/

namespace Toolsmith.Address

/-- An address of a later version: `v`, hexadecimal digits, a point and anything. -/
def isLaterVersion : Text → Bool
  | .char 'v' :: rest =>
    let version := rest.takeWhile fun c => c.hexValue?.isSome
    match rest.drop version.length with
    | .char '.' :: _ :: _ => !version.isEmpty
    | _ => false
  | _ => false

/-- The part of an authority that names a host and maybe a socket: what follows the last `@`. -/
def hostPart (authority : Text) : Text :=
  (authority.reverse.takeWhile fun c => c != .char '@').reverse

/-- The host of a part that may name a socket after a colon. A host in brackets has nothing before
it, and after it only a colon may follow. -/
def host? : Text → Option Text
  | .char '[' :: rest =>
    let host := rest.takeWhile fun c => c != .char ']'
    match rest.drop (host.length + 1) with
    | [] | .char ':' :: _ => some host
    | _ => none
  | part =>
    if part.contains (.char '[') then none else some (part.takeWhile fun c => c != .char ':')

/-- Whether a host is an address of the sixth or a later version. -/
def isBracketHost (host : Text) : Bool :=
  if host.head? = some (.char 'v') then isLaterVersion host else IpAddress.isVersion6 host

/-- Whether an authority has no brackets, or brackets of both kinds and a host that needs them. -/
def bracketsFit (authority : Text) : Bool :=
  match authority.contains (.char '['), authority.contains (.char ']') with
  | false, false => true
  | true, true => (host? (hostPart authority)).any isBracketHost
  | _, _ => false

/-- The characters that are variant forms of texts with one of the delimiters `/?#@:`. -/
def delimiterVariants : List Nat :=
  [0x2047, 0x2048, 0x2049, 0x2100, 0x2101, 0x2105, 0x2106, 0x2a74, 0xfe13, 0xfe16, 0xfe55,
    0xfe56, 0xfe5f, 0xfe6b, 0xff03, 0xff0f, 0xff1a, 0xff1f, 0xff20]

/-- Whether an authority holds no variant form of a delimiter. -/
def isUnambiguous (authority : Text) : Bool :=
  authority.all fun c => !delimiterVariants.contains c.code

/-- A delimiter that ends an authority. -/
def endsAuthority (c : CodePoint) : Bool :=
  c == .char '/' || c == .char '?' || c == .char '#'

/-- What follows `http://` or `https://` at the beginning of a text. -/
def afterScheme? (url : Text) : Option Text :=
  let plain := Text.ofString "http://"
  let secure := Text.ofString "https://"
  if plain.isPrefixOf url then some (url.drop plain.length)
  else if secure.isPrefixOf url then some (url.drop secure.length)
  else none

/-- The path of an absolute address, given what follows its scheme; absent if the authority is
refused. -/
def path? (afterScheme : Text) : Option Text :=
  let url := afterScheme.filter fun c =>
    !(c == .char '\t' || c == .char '\r' || c == .char '\n')
  let authority := url.takeWhile fun c => !endsAuthority c
  if bracketsFit authority && isUnambiguous authority then
    some ((url.drop authority.length).takeWhile fun c => !(c == .char '?' || c == .char '#'))
  else
    none

end Toolsmith.Address
