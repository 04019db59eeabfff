import Toolsmith.Number.Integer
import Toolsmith.Settings.EnvFile

/-!
# Settings

What a command needs to know and the working directory does not tell: the addresses of the
directory page and of the registry, the registry's key, and the pause between downloads. They come
from the environment, which a file of variables may complete.
-/

namespace Toolsmith

/-- The settings of a command (`Settings`). The pause between downloads is in milliseconds. -/
structure Settings where
  directoryUrl : Text
  downloadDelay : Int
  registryUrl : Text
  registryKey : Text

namespace Settings

/-- The address of the directory page, unless it is set (`DEFAULT_DIRECTORY_URL`). -/
def defaultDirectoryUrl : Text :=
  Text.ofString
    "https://community.workday.com/sites/default/files/file-hosting/restapi/index.html"

/-- The address of the registry, unless it is set (`DEFAULT_REGISTRY_URL`). -/
def defaultRegistryUrl : Text :=
  Text.ofString "http://localhost:3000"

/-- The variable for the pause between downloads. -/
def delayVariable : Text :=
  Text.ofString "SCHEMA_DOWNLOAD_DELAY_MS"

/-- The value of a variable. -/
def valueOf? (environment : List (Text × Text)) (name : Text) : Option Text :=
  environment.lookup name

/-- The value of a variable, or a default if it is not set or empty. -/
def orDefault (environment : List (Text × Text)) (name : String) (default : Text) : Text :=
  match valueOf? environment (Text.ofString name) with
  | some (c :: rest) => c :: rest
  | _ => default

/-- The integer in a variable, or a default if it is not set or blank (`_int_env`). -/
def integer (environment : List (Text × Text)) (name : Text) (default : Int) :
    Except Fault Int :=
  match valueOf? environment name with
  | none => .ok default
  | some raw =>
    if raw.strip.isEmpty then
      .ok default
    else
      match raw.toInteger? with
      | some n => .ok n
      | none => .error (.badInteger name raw)

/-- Why a variable cannot be added to an environment. -/
def variableFault? : Text × Text → Option Fault
  | (name, v) =>
    if name.contains (.ofCode 0) || v.contains (.ofCode 0) then some .zeroInName
    else if name.contains (.char '=') then some .badVariable
    else none

/-- The settings in an environment. -/
def ofEnvironment (environment : List (Text × Text)) : Except Fault Settings :=
  match integer environment delayVariable 1500 with
  | .error fault => .error fault
  | .ok downloadDelay => .ok {
      directoryUrl := orDefault environment "WORKDAY_REST_DIRECTORY_URL" defaultDirectoryUrl
      downloadDelay
      registryUrl := orDefault environment "FLOWISE_API_URL" defaultRegistryUrl
      registryKey := (valueOf? environment (Text.ofString "FLOWISE_API_KEY")).getD [] }

/-- The settings in an environment that a file of variables completes (`load_settings`). -/
def load (environment : List (Text × Text)) (file : Option Text) : Except Fault Settings :=
  let added := (file.map (EnvFile.additions environment)).getD []
  match added.findSome? variableFault? with
  | some fault => .error fault
  | none => ofEnvironment (environment ++ added)

end Settings

end Toolsmith
