import DeviceRegistry.Node.Files
/-!
# Settings of a node

A node is set up by named variables, each of which may be absent. Empty paths count as
absent; no other empty variable does.
-/

namespace DeviceRegistry.Node

abbrev Environment := (name : String) → Option String

/-- What is logged, and where to. -/
structure Telemetry where
  serviceName : String
  /-- Which events are logged, as a text of directives. -/
  logLevel : String
  consoleOutput : Bool
  jsonLogs : Bool
  network : String
deriving DecidableEq, Repr, Inhabited

/--
A text with its ASCII letters in lower case. That is enough to recognise the words below:
no other letter becomes one of theirs.
-/
def lowerCase (text : String) : String :=
  text.map Char.toLower

/-- Whether a variable switches something on that is on by itself. -/
def staysOn (value : String) : Bool :=
  lowerCase value ≠ "false" && value ≠ "0"

/-- Whether a variable switches something on that is off by itself. -/
def turnsOn (value : String) : Bool :=
  lowerCase value = "true" || value = "1"

/-- Reads what is logged; within a container, logs are JSON unless a variable says otherwise. -/
def Telemetry.ofEnvironment (environment : Environment) : Telemetry :=
  let inContainer :=
    (environment "KUBERNETES_SERVICE_HOST").isSome || (environment "DOCKER_CONTAINER").isSome
  { serviceName := (environment "IOT_SERVICE_NAME").getD "iot-chain"
    logLevel := (environment "IOT_LOG_LEVEL" <|> environment "RUST_LOG").getD "info"
    consoleOutput := ((environment "IOT_CONSOLE_OUTPUT").map staysOn).getD true
    jsonLogs := ((environment "IOT_JSON_LOGS").map turnsOn).getD inContainer
    network := (environment "IOT_NETWORK").getD "testnet" }

/-- What a node is started with. -/
structure Config where
  /-- The genesis that is loaded. -/
  genesisPath : Option String
  /-- Where the registry is written to. -/
  exportPath : Option String
  telemetry : Telemetry
deriving DecidableEq, Repr, Inhabited

def variableNames : List String :=
  ["IOT_GENESIS_PATH", "IOT_EXPORT_PATH", "IOT_SERVICE_NAME", "IOT_LOG_LEVEL", "RUST_LOG",
    "IOT_CONSOLE_OUTPUT", "IOT_JSON_LOGS", "IOT_NETWORK", "KUBERNETES_SERVICE_HOST",
    "DOCKER_CONTAINER"]

/-- Why a node is not started. -/
inductive ConfigError where
  | genesisNotFound (path : String)
  | exportOverwritesGenesis (path : String)
deriving DecidableEq, Repr

def ConfigError.message : ConfigError → String
  | .genesisNotFound path =>
    "Genesis file " ++ path ++ " not found. Fix IOT_GENESIS_PATH or unset it."
  | .exportOverwritesGenesis path => "IOT_EXPORT_PATH and IOT_GENESIS_PATH both name " ++ path

namespace Config

def path (environment : Environment) (name : String) : Option String :=
  (environment name).filter fun value => !value.isEmpty

/-- Reads the settings of a node. -/
def ofEnvironment (environment : Environment) : Config where
  genesisPath := path environment "IOT_GENESIS_PATH"
  exportPath := path environment "IOT_EXPORT_PATH"
  telemetry := .ofEnvironment environment

/-- The genesis must be a file, and the export must not be written to the same path. -/
def check {m : Type → Type} [Monad m] (files : FileAccess m) (config : Config) :
    m (Except ConfigError Unit) := do
  match config.genesisPath with
  | none => return .ok ()
  | some genesis =>
    if ← files.isFile genesis then
      if config.exportPath.any (Path.same · genesis) then
        return .error (.exportOverwritesGenesis genesis)
      else return .ok ()
    else return .error (.genesisNotFound genesis)

end Config

end DeviceRegistry.Node
