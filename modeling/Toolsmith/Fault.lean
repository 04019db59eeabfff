import Toolsmith.Json.Parser
import Toolsmith.Json.Printer
import Toolsmith.Web.Label

/-!
# Faults

The causes for which an activity stops before its end. Each is named for what went wrong; three of
them have a message for the user of a command.
-/

namespace Toolsmith

/-- Why an activity stopped. -/
inductive Fault where
  /-- A setting that should be an integer is not one. -/
  | badInteger (setting raw : Text)
  /-- A variable has a name that no variable can have. -/
  | badVariable
  /-- The service index has not been built yet. -/
  | indexMissing (file : Text)
  /-- The registry's tools could not be listed. -/
  | registryUnreadable (reason : Text)
  /-- An object lacks a key that has to be there. -/
  | missingKey (key : Text)
  /-- A text is no document. -/
  | notDocument
  /-- An integer in a document has too many digits. Where it is read, their number is known. -/
  | longInteger (digits? : Option Nat)
  /-- A document is nested too deeply. -/
  | tooDeep
  /-- A schema file holds a document that is not an object. -/
  | notObject (file : Text)
  /-- Bytes are no encoding of a text. -/
  | undecodable
  /-- A text with a lone surrogate has no encoding. -/
  | unencodable
  /-- A value is of a shape that does not allow what is done with it. -/
  | wrongShape
  /-- A value of this shape lacks the operation that is asked of it. -/
  | noOperation
  /-- A list has no item at a position. -/
  | noItem
  /-- A request got no answer. -/
  | unreachable (message : Text)
  /-- The address of a request is not well-formed. -/
  | badAddress
  /-- The host of a request is named by a text that stands for no name. -/
  | badHost (defect : Label.Defect)
  /-- The URL of a request does not say of what kind it is. -/
  | kindless (url : Text)
  /-- A number to be sent is not finite. -/
  | notFinite
  /-- A pause is longer than can be expressed. -/
  | endlessPause
  /-- There is no file of a name, or no directory for it. -/
  | noFile
  /-- A directory stands where a file is wanted. -/
  | isDirectory
  /-- A file stands where a directory is wanted. -/
  | notDirectory
  /-- A file stands where a directory is to be made. -/
  | fileExists
  /-- A file's name is longer than a file system takes. -/
  | longName
  /-- A file's name holds the code point zero. -/
  | zeroInName
deriving Repr

namespace Fault

/-- The fault of a text that is no document. -/
def ofDefect : Json.Defect → Fault
  | .malformed => notDocument
  | .tooManyDigits count => longInteger (some count)
  | .tooDeep => tooDeep

/-- The fault of a value that cannot be written. -/
def ofObstacle : Json.Obstacle → Fault
  | .tooManyDigits => longInteger none
  | .tooDeep => tooDeep

/-- The message of a fault that a command shows to its user. -/
def userMessage? : Fault → Option Text
  | badInteger setting raw =>
    some (setting ++ Text.ofString " must be an integer, got " ++ raw.quoted)
  | indexMissing file => some (file ++ Text.ofString " not found. Run 'toolgen index' first.")
  | registryUnreadable reason =>
    some (Text.ofString "Failed to list existing tools: " ++ reason)
  | _ => none

/-- The message of a fault that has one. -/
def message? : Fault → Option Text
  | missingKey key => some key.quoted
  | notObject file => some (file ++ Text.ofString " does not contain a JSON object")
  | longInteger digits? =>
    let count := digits?.elim [] fun digits =>
      Text.ofString ": value has " ++ Text.ofNat digits ++ Text.ofString " digits"
    some (Text.ofString "Exceeds the limit (4300 digits) for integer string conversion" ++ count ++
      Text.ofString "; use sys.set_int_max_str_digits() to increase the limit")
  | kindless url => some (Text.ofString "unknown url type: " ++ url.quoted)
  | notFinite => some (Text.ofString "Out of range float values are not JSON compliant")
  | zeroInName => some (Text.ofString "embedded null byte")
  | badVariable => some (Text.ofString "illegal environment variable name")
  | fault => fault.userMessage?

/-- Whether a document is given up for this fault as one that cannot be read. -/
def isUnreadable : Fault → Bool
  | notDocument | longInteger _ | notObject _ | undecodable => true
  | noFile | isDirectory | notDirectory | longName => true
  | _ => false

end Fault

end Toolsmith
