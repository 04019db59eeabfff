import Toolsmith.Fault
import Toolsmith.Number.Integer
import Toolsmith.Web.Host

/-!
# URLs

A URL has a scheme, a user, a host with the number of a socket, a path, a query and a fragment. It
is kept in a normal form: scheme and host in small letters, steps in the path taken, the usual
number of a socket left out, and a percent escape for everything that cannot stand in a part.
-/

namespace Toolsmith

/-- The parts of a URL. A scheme, a user or a host that is missing is empty. -/
structure Url where
  scheme : Text
  user : Text
  host : Text
  socket : Option Int
  path : Text
  query : Option Text
  fragment : Option Text
deriving DecidableEq, Repr

namespace Url

/-- A code point that can stand in a scheme. -/
def isSchemePoint (c : CodePoint) : Bool :=
  c.isAsciiLetter || c.isAsciiDigit || c == .char '+' || c == .char '-' || c == .char '.'

/-- The scheme at the beginning of a text, and what follows its colon. A scheme begins with a
letter, if it is not empty. -/
def splitScheme (t : Text) : Text × Text :=
  let scheme := t.takeWhile isSchemePoint
  match t.drop scheme.length with
  | .char ':' :: rest =>
    if scheme.head?.all CodePoint.isAsciiLetter then (scheme, rest) else ([], t)
  | _ => ([], t)

/-- The authority after two slashes at the beginning of a text, and what follows it. -/
def splitAuthority : Text → Text × Text
  | .char '/' :: .char '/' :: rest =>
    let authority := rest.takeWhile fun c =>
      !(c == .char '/' || c == .char '?' || c == .char '#')
    (authority, rest.drop authority.length)
  | t => ([], t)

/-- The part of a text before the first `mark`, and the part after it if there is one. -/
def splitAt (mark : CodePoint) (t : Text) : Text × Option Text :=
  let before := t.takeWhile (· != mark)
  (before, if before.length < t.length then some (t.drop (before.length + 1)) else none)

/-- The part of a text before the last `mark` if there is one, and the part after it. -/
def splitAtLast (mark : CodePoint) (t : Text) : Option Text × Text :=
  let after := (t.reverse.takeWhile (· != mark)).reverse
  (if after.length < t.length then some (t.take (t.length - after.length - 1)) else none, after)

/-- The host at the beginning of a text, and what follows it. A host in brackets goes up to the last
bracket, any other up to a colon. -/
def splitHost (t : Text) : Text × Text :=
  let upToBracket := (t.reverse.dropWhile (· != .char ']')).reverse
  let host :=
    if t.head? = some (.char '[') ∧ !upToBracket.isEmpty then upToBracket
    else t.takeWhile (· != .char ':')
  (host, t.drop host.length)

/-- The schemes with the number of their usual socket. -/
def usualSockets : List (String × Int) :=
  [("ftp", 21), ("http", 80), ("https", 443), ("ws", 80), ("wss", 443)]

/-- The number of a socket in what follows a host, without the usual one of the scheme; nothing at
all if it is no number. -/
def socketIn? (scheme afterHost : Text) : Option (Option Int) :=
  let digits := match afterHost with
    | .char ':' :: rest => rest
    | rest => rest
  if digits.isEmpty then
    some none
  else
    (Text.toInteger? digits).map fun n =>
      if usualSockets.any fun (s, m) => Text.ofString s = scheme && m = n then none else some n

/-- The segments of a path with steps taken: one to the same level vanishes, and one upwards takes
the segment before it along. -/
def takeSteps (done : List Text) : List Text → List Text
  | [] => done
  | segment :: rest =>
    if segment = Text.ofString "." then
      takeSteps done rest
    else if segment = Text.ofString ".." then
      takeSteps (if done = [[]] then done else done.dropLast) rest
    else
      takeSteps (done ++ [segment]) rest

/-- A path with steps taken. -/
def normalPath (path : Text) : Text :=
  Text.join (Text.ofString "/") (takeSteps [] (Text.splitOn (.char '/') path))

/-- What stands for itself in the name and password of a user, besides letters and digits. -/
def userSafe : Text := Text.ofString "!$%&'()*+,:"

/-- What stands for itself in a path, besides letters and digits. -/
def pathSafe : Text := Text.ofString "!$%&'()*+,/:;=@[\\]^|"

/-- What stands for itself in a query, besides letters and digits. -/
def querySafe : Text := Text.ofString "!$%&'()*+,/:;=?@[\\]^\x60\x7b|\x7d"

/-- What stands for itself in a fragment, besides letters and digits. -/
def fragmentSafe : Text := Text.ofString "!#$%&'()*+,/:;=?@[\\]^\x7b|\x7d"

/-- A text percent-encoded except for what is safe. -/
def quote (safe t : Text) : Except Fault Text :=
  match t.percentEncode safe with
  | some t => .ok t
  | none => .error .unencodable

/-- An optional text percent-encoded except for what is safe. -/
def quoteSome (safe : Text) : Option Text → Except Fault (Option Text)
  | some t => (quote safe t).map some
  | none => .ok none

/-- Whether a path can follow what comes before it: after a user, a host or a socket it begins with
a slash if it is not empty; with nothing before it, it begins with no colon and with one slash at
most. -/
def fitsPath (hasScheme hasAuthority : Bool) (path : Text) : Bool :=
  if hasAuthority then
    path.head?.all (· == .char '/')
  else if hasScheme then
    true
  else
    !(Text.ofString "//").isPrefixOf path && path.head? != some (.char ':')

/-- The URL of parts that are given as they are written. -/
def ofParts (scheme authority path : Text) (query fragment : Option Text) : Except Fault Url := do
  let (user, place) := splitAtLast (.char '@') authority
  let user ← quote userSafe (user.getD [])
  let (host, afterHost) := splitHost place
  match Host.normal? host, socketIn? scheme afterHost with
  | some host, some socket =>
    let hasAuthority := !user.isEmpty || !host.isEmpty || socket.isSome
    if fitsPath (!scheme.isEmpty) hasAuthority path then
      let taken := if scheme.isEmpty && !hasAuthority then path else normalPath path
      let path ← quote pathSafe taken
      let query ← quoteSome querySafe query
      let fragment ← quoteSome fragmentSafe fragment
      pure ⟨scheme.map CodePoint.asciiLower, user, host, socket, path, query, fragment⟩
    else
      .error .badAddress
  | _, _ => .error .badAddress

/-- The most code points that a URL, or a part of one, can have. -/
def maxLength : Nat := 65536

/-- Whether a code point is a control character of ASCII, which no URL holds. -/
def isControl (point : CodePoint) : Bool :=
  point.code < 0x20 || point.code == 0x7F

/-- The URL of a text. -/
def ofText (t : Text) : Except Fault Url :=
  if maxLength < t.length || t.any isControl then
    .error .badAddress
  else
    let (t, fragment) := splitAt (.char '#') t
    let (t, query) := splitAt (.char '?') t
    let (scheme, t) := splitScheme t
    let (authority, path) := splitAuthority t
    ofParts scheme authority path query fragment

/-- An optional part with the mark before it. -/
def marked (mark : Char) : Option Text → Text
  | some part => .char mark :: part
  | none => []

/-- The user, the host and the socket in one text. -/
def authority (url : Url) : Text :=
  (if url.user.isEmpty then [] else url.user ++ [.char '@']) ++
    (if url.host.contains (.char ':') then .char '[' :: url.host ++ [.char ']'] else url.host) ++
    marked ':' (url.socket.map Text.ofInt)

/-- The text of a URL. -/
def toText (url : Url) : Text :=
  (if url.scheme.isEmpty then [] else url.scheme ++ [.char ':']) ++
    (if url.authority.isEmpty then [] else Text.ofString "//" ++ url.authority) ++
    url.path ++ marked '?' url.query ++ marked '#' url.fragment

/-- The path and the query in one text; an empty path is the root. -/
def pathAndQuery (url : Url) : Text :=
  (if url.path.isEmpty then [.char '/'] else url.path) ++ marked '?' url.query

/-- The URL with another path and query, given in one text. -/
def withPathAndQuery (url : Url) (t : Text) : Except Fault Url :=
  let (path, query) := splitAt (.char '?') t
  if maxLength < path.length || maxLength < (query.getD []).length then
    .error .badAddress
  else
    ofParts url.scheme url.authority path query url.fragment

/-- The URL with a slash at the end of its path and query. -/
def directory (url : Url) : Except Fault Url :=
  if url.pathAndQuery.getLast? = some (.char '/') then .ok url
  else url.withPathAndQuery (url.pathAndQuery ++ [.char '/'])

/-- The URL at the end of a way from a directory. -/
def target (directory : Url) (way : Text) : Except Fault Url := do
  let way ← ofText way
  directory.withPathAndQuery
    (directory.pathAndQuery ++ way.pathAndQuery.dropWhile (· == .char '/'))

/-- The path of a URL with its escapes decoded. -/
def plainPath (url : Url) : Text :=
  Text.percentDecode (if url.path.isEmpty then [.char '/'] else url.path)

/-- The name and the password of the user with their escapes decoded, unless both are empty. -/
def credentials? (url : Url) : Option (Text × Text) :=
  let (name, password) := splitAt (.char ':') url.user
  let name := Text.percentDecode name
  let password := Text.percentDecode (password.getD [])
  if name.isEmpty && password.isEmpty then none else some (name, password)

/-- Whether something stands before a colon at the beginning of a URL's text. -/
def hasKind (url : Url) : Bool :=
  let t := url.toText
  let kind := t.takeWhile fun c => !(c == .char ':' || c == .char '/')
  !kind.isEmpty && t[kind.length]? == some (.char ':')

/-- The text by which a URL without a kind is named: an empty fragment is left out. -/
def shownText (url : Url) : Text :=
  if url.fragment = some [] then { url with fragment := none }.toText else url.toText

end Url

end Toolsmith
