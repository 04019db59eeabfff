import Toolsmith.Catalog.Index

/-!
# Downloading schemas

The schema of every service is fetched, unless a schema is there already. The address that worked
last is tried first, then the places where schemas are usually found.
-/

namespace Toolsmith.Download

/-- The place of all schemas (`SCHEMA_HOST_BASE`). -/
def host : Text :=
  Text.ofString "https://community.workday.com/sites/default/files/file-hosting/restapi"

/-- The addresses at which the schema of a service is usually found (`candidate_urls`). -/
def candidates (name version : Text) : List Text :=
  let slash := Text.ofString "/"
  let json := Text.ofString ".json"
  let base := host ++ slash ++ name ++ slash ++ version
  let number := version.dropWhile (· == .char 'v')
  [base ++ slash ++ name ++ json,
    base ++ Text.ofString "/openapi.json",
    base ++ Text.ofString "/schema.json",
    base ++ Text.ofString "/swagger.json",
    base ++ slash ++ name ++ Text.ofString "_" ++ version ++ json,
    host ++ slash ++ name ++ Text.ofString "/v" ++ number ++ slash ++ name ++ json,
    base ++ Text.ofString "/api.json"]

/-- The keys of which every schema has one. -/
def schemaKeys : List Text :=
  ["openapi", "swagger", "paths", "info"].map Text.ofString

/-- The schema that a text is: an object with one of the keys that schemas have. Only a text that is
nested too deeply makes this fail. -/
def schema? (content : Text) : Except Fault (Option Json) :=
  match Json.parse content with
  | .ok (.object members) =>
    .ok (if schemaKeys.any (Members.has members) then some (.object members) else none)
  | .error .tooDeep => .error .tooDeep
  | _ => .ok none

/-- Whether a text is a schema (`is_valid_schema`). -/
def isSchema (content : Text) : Except Fault Bool :=
  (schema? content).map Option.isSome

/-- The addresses in a list after those in `urls`, each once. -/
def addNew (urls : List Json) : List Text → List Json
  | [] => urls
  | url :: rest =>
    addNew (if urls.any (Json.sameKey (.text url)) then urls else urls ++ [.text url]) rest

/-- The addresses that `download_service` tries, each once. The version has to be a text. The
address that worked last is tried as it is, whatever its shape. -/
def urlsFor (service : Service) : Except Fault (List Json) :=
  match service.version with
  | .text version =>
    let last := if service.schemaUrl.isTrue then [service.schemaUrl] else []
    .ok (addNew last (candidates service.name.display version))
  | _ => .error .noOperation

/-- The schema in what came back for a request (`_fetch`). -/
def schemaIn? : Reply → Except Fault (Option Json)
  | .answer status content => if status = 200 then schema? content else .ok none
  | .failure _ => .ok none

/-- Fetches from one address after another until one answers with a schema, the loop of
`download_service`; the address and the schema. -/
def fetchFirst (network : Network) : List Json → Action (Option (Json × Json))
  | [] => pure none
  | url :: rest => do
    match ← Action.ofExcept (schemaIn? (← Catalog.fetchPage network url)) with
    | some document => pure (some (url, document))
    | none => fetchFirst network rest

/-- Fetches the schema of a service and writes it; the service with the address that worked
(`download_service`). -/
def fetch (network : Network) (service : Service) : Action (Option Service) := do
  let urls ← Action.ofExcept (urlsFor service)
  match ← fetchFirst network urls with
  | some (url, document) =>
    Action.writeDocument (Workplace.schema service) document
    pure (some { service with schemaUrl := url })
  | none => pure none

/-- Whether a service's schema is there already. -/
def isPresent (service : Service) : Action Bool := do
  if ← Action.fileExists (Workplace.schema service) then
    Action.ofExcept (isSchema (← Action.readText (Workplace.schema service)))
  else
    pure false

/-- What has been downloaded: how many schemas, the services without one, and all services as they
are now (`DownloadResult`). -/
structure Report where
  downloaded : Nat
  failed : List Text
  services : List Service

namespace Report

/-- The report with one more service that has a schema. -/
def addFound (report : Report) (service : Service) : Report :=
  ⟨report.downloaded + 1, report.failed, report.services ++ [service]⟩

/-- The report with one more service that has none. -/
def addFailed (report : Report) (service : Service) : Report :=
  ⟨report.downloaded,
    report.failed ++ [service.name.display ++ .char ' ' :: service.version.display],
    report.services ++ [service]⟩

end Report

/-- Downloads the schemas of services, with a pause after each that had to be fetched, except the
last. -/
def runFrom (network : Network) (delay : Int) (report : Report) : List Service → Action Report
  | [] => pure report
  | service :: rest => do
    if ← isPresent service then
      runFrom network delay (report.addFound service) rest
    else
      let report :=
        match ← fetch network service with
        | some found => report.addFound found
        | none => report.addFailed service
      if !rest.isEmpty && 0 < delay then Action.pause delay
      runFrom network delay report rest

/-- Downloads the schemas of all services, with a pause of `delay` milliseconds between them
(`download_schemas`). -/
def run (network : Network) (delay : Int) (services : List Service) : Action Report := do
  Action.makeDirectories Workplace.schemas
  runFrom network delay ⟨0, [], []⟩ services

end Toolsmith.Download
