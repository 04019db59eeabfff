import Toolsmith.Json.Basic

/-!
# References inside a document

A reference is a text that begins with `#/` and goes on with the keys on the way from the root to
its target. Inside a key, `~1` stands for a slash and `~0` for a tilde.
-/

namespace Toolsmith.Pointer

/-- The key that an escaped key stands for (`_unescape`). -/
def unescape (token : Text) : Text :=
  Text.replace (Text.ofString "~0") (Text.ofString "~")
    (Text.replace (Text.ofString "~1") (Text.ofString "/") token)

/-- The value at the end of a way through nested objects; a null on the way is no value. -/
def follow : Json → List Text → Option Json
  | node, [] => some node
  | .object members, key :: rest =>
    match Members.get? members key with
    | none => none
    | some .null => none
    | some next => follow next rest
  | _, _ :: _ => none

/-- The target of a reference inside a document (`resolve_ref`). -/
def resolve? (document : Members) : Json → Option Json
  | .text (.char '#' :: .char '/' :: way) =>
    follow (.object document) ((Text.splitOn (.char '/') way).map unescape)
  | _ => none

/-- An object that refers to another value is replaced by that value, once. -/
def deref? (document : Members) (node : Json) : Option Json :=
  match node.get? (Text.ofString "$ref") with
  | some ref => resolve? document ref
  | none => some node

end Toolsmith.Pointer
