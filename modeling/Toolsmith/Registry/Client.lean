import Toolsmith.Json.Encoding
import Toolsmith.Text.Base64
import Toolsmith.Web.Exchange

/-!
# The tool registry

The registry lists, creates, changes and deletes tools. Its answers are documents, or else plain
texts.
-/

namespace Toolsmith.Registry

/-- How the registry is reached: its address, its key, and the network in between
(`RegistryClient`). -/
structure Client where
  url : Text
  key : Text
  network : Network

namespace Client

/-- The URL below which the registry answers. -/
def base (client : Client) : Except Fault Url := do
  (← Url.ofText client.url).directory

/-- The text that proves a right by a name and a password. -/
def basicProof (name password : Text) : Text :=
  Text.ofString "Basic " ++ Text.base64 ((name ++ .char ':' :: password).encode.getD [])

/-- What a request to a URL carries to prove its right: the user of the URL if it names one, else
the key if it is not empty. -/
def authorization (client : Client) (url : Url) : Option Text :=
  match url.credentials? with
  | some (name, password) => some (basicProof name password)
  | none => if client.key.isEmpty then none else some (Text.ofString "Bearer " ++ client.key)

/-- Checks that the address is one and that the key can be sent. -/
def connect (client : Client) : Action Unit := do
  let _ ← Action.ofExcept client.base
  if client.key.any fun c => !c.isAscii then throw .unencodable

end Client

/-- Whether a value holds a number that is not finite. -/
def hasNotFinite : Json → Bool
  | .number .nan => true
  | .number (.infinite _) => true
  | .array items => anyItem items
  | .object members => anyMember members
  | _ => false
where
  /-- Whether an item holds such a number. -/
  anyItem : List Json → Bool
    | [] => false
    | v :: rest => hasNotFinite v || anyItem rest
  /-- Whether a member holds such a number. -/
  anyMember : List (Text × Json) → Bool
    | [] => false
    | (_, v) :: rest => hasNotFinite v || anyMember rest

/-- Whether all texts of a value have an encoding. -/
def isEncodable : Json → Bool
  | .text t => t.encode.isSome
  | .array items => allItems items
  | .object members => allMembers members
  | _ => true
where
  /-- Whether all texts of the items have one. -/
  allItems : List Json → Bool
    | [] => true
    | v :: rest => isEncodable v && allItems rest
  /-- Whether all keys and texts of the members have one. -/
  allMembers : List (Text × Json) → Bool
    | [] => true
    | (key, v) :: rest => key.encode.isSome && isEncodable v && allMembers rest

/-- Why a body cannot be sent. An integer of too many digits is never in one, since none is read from a
manifest. -/
def bodyFault? (body : Option Json) : Option Fault :=
  if body.any hasNotFinite then some .notFinite
  else if body.any fun v => !isEncodable v then some .unencodable
  else none

/-- The content of an answer: its document, or its text if it is none. Only a document that is
nested too deeply makes this fail. -/
def content (body : Text) : Except Fault Json :=
  match body.encode.map Json.parseBytes with
  | some (.ok v) => .ok v
  | some (.error .tooDeep) => .error .tooDeep
  | _ => .ok (.text body)

/-- The status and the content of an answer, or why there is none. -/
inductive Answer where
  | answered (status : Int) (content : Json)
  | unreachable (message : Text)

/-- Why a request with a body cannot be sent to a URL. -/
def requestFault? (url : Url) (body : Option Json) : Option Fault :=
  (bodyFault? body).orElse fun _ => (Host.defect? url.host).map .badHost

/-- Asks the registry (`RegistryClient._request`). -/
def ask (client : Client) (method way : Text) (body : Option Json) : Action Answer := do
  let url ← Action.ofExcept (client.base.bind fun base => base.target way)
  match requestFault? url body with
  | some fault => throw fault
  | none =>
    let request : Request := ⟨method, .text url.plainPath, client.authorization url, body⟩
    match ← url.exchange client.network request with
    | .answer status body => pure (.answered status (← Action.ofExcept (content body)))
    | .failure message => pure (.unreachable message)

/-- The way to the tools (`TOOLS_ENDPOINT`). -/
def toolsWay : Text := Text.ofString "/api/v1/tools"

/-- The way to a tool. -/
def toolWay (id : Json) : Text :=
  toolsWay ++ .char '/' :: id.display

/-- Asks for all tools (`RegistryClient.list_tools`). -/
def listTools (client : Client) : Action Answer :=
  ask client (Text.ofString "GET") toolsWay none

/-- Asks for a new tool (`RegistryClient.create_tool`). -/
def createTool (client : Client) (tool : Json) : Action Answer :=
  ask client (Text.ofString "POST") toolsWay (some tool)

/-- Asks for a change of a tool (`RegistryClient.update_tool`). -/
def updateTool (client : Client) (id tool : Json) : Action Answer :=
  ask client (Text.ofString "PUT") (toolWay id) (some tool)

/-- Asks for a tool to be deleted (`RegistryClient.delete_tool`). -/
def deleteTool (client : Client) (id : Json) : Action Answer :=
  ask client (Text.ofString "DELETE") (toolWay id) none

end Toolsmith.Registry
