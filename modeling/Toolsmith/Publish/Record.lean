import Toolsmith.Workplace

/-!
# The record of publishing

A file records what has been published, and it is written after every success. Tools are recorded by
name. A name may be any key; a name that is no text is written as one, but during a run it stays
apart from the text that it is written as.
-/

namespace Toolsmith.Publish

/-- A clock: the times that it shows, one reading after another (`_now`). -/
structure Clock where
  read : Nat → Text

/-- A time stands for the clock that always shows it. -/
instance : Coe Text Clock :=
  ⟨fun now => ⟨fun _ => now⟩⟩

/-- The document before anything has been published. -/
def emptyState : Json :=
  .record [("published", .object []), ("lastRun", .null)]

/-- Reads the document of the record (`load_state`). -/
def readState : Action Json := do
  if ← Action.fileExists Workplace.state then
    Action.readDocument Workplace.state
  else
    pure emptyState

/-- The document with the time of the last run. Only an object takes one. -/
def stamp (now : Text) : Json → Except Fault Json
  | .object members => .ok (.object (Members.set (Text.ofString "lastRun") (.text now) members))
  | _ => .error .wrongShape

/-- Writes the document with the time of the last run (`save_state`). -/
def writeState (now : Text) (state : Json) : Action Json := do
  let state ← Action.ofExcept (stamp now state)
  Action.writeDocument Workplace.state state
  pure state

/-- The text that a key is written as. -/
def keyText : Json → Text
  | .text t => t
  | .number x => x.render Json.documentSpelling
  | .bool true => Text.ofString "true"
  | .bool false => Text.ofString "false"
  | .integer n => Text.ofInt n
  | _ => Text.ofString "null"

/-- The key of the document under which published tools are recorded. -/
def publishedKey : Text := Text.ofString "published"

/-- The record during a run: its document, and the published tools by name if the document has an
object for them. -/
structure Record where
  document : Json
  tools : Option (List (Json × Json))

namespace Record

/-- The record in a document. -/
def ofDocument (document : Json) : Record :=
  match document.get? publishedKey with
  | some (.object tools) => ⟨document, some (tools.map fun (name, v) => (.text name, v))⟩
  | _ => ⟨document, none⟩

/-- Records a tool by name: in its place, under the name as it was, if the name is there already,
else at the end. -/
def setTool (name value : Json) : List (Json × Json) → List (Json × Json)
  | [] => [(name, value)]
  | (k, v) :: rest =>
    if k.sameKey name then (k, value) :: rest else (k, v) :: setTool name value rest

/-- The items of a list with another value at a position that is counted from the end if it is
negative. -/
def setItem (position : Int) (value : Json) (items : List Json) : Except Fault (List Json) :=
  let index := if position < 0 then position + items.length else position
  if 0 ≤ index ∧ index < items.length then .ok (items.set index.toNat value) else .error .noItem

/-- The document with another value for what has been published. -/
def withPublished (document value : Json) : Json :=
  match document with
  | .object members => .object (Members.set publishedKey value members)
  | v => v

/-- The document of a record. -/
def toDocument (record : Record) : Json :=
  match record.tools with
  | some tools =>
    withPublished record.document (.object (tools.map fun (name, v) => (keyText name, v)))
  | none => record.document

/-- The record with one more tool that has been published. A list takes the tool at a position. -/
def add (name value : Json) (record : Record) : Except Fault Record :=
  match record.tools, record.document with
  | some tools, document => .ok ⟨document, some (setTool name value tools)⟩
  | none, .object members =>
    match Members.get? members publishedKey, name.asInt? with
    | none, _ => .error (.missingKey publishedKey)
    | some (.array items), some position =>
      match setItem position value items with
      | .ok items => .ok ⟨withPublished record.document (.array items), none⟩
      | .error fault => .error fault
    | some _, _ => .error .wrongShape
  | none, _ => .error .wrongShape

/-- Writes the record with the time of the last run. -/
def write (now : Text) (record : Record) : Action Unit := do
  let _ ← writeState now record.toDocument
  pure ()

end Record

end Toolsmith.Publish
