import DeviceRegistry.Node.Config
import DeviceRegistry.Node.GenesisFile
import DeviceRegistry.Node.LogFilter
import DeviceRegistry.Registry.Transfer
/-!
# Booting a node

A node checks its settings, loads and imports its genesis, counts what it holds, and
writes what it holds to its export path. Each step that fails ends the boot; what was
imported before stays in the registry.

The node works on its host through a record of operations, so that booting is the same
on a real file system and on one that is a value.
-/

namespace DeviceRegistry.Node

/-- What booting needs of its host. -/
structure Host (m : Type → Type) where
  files : FileAccess m
  log : LogEvent → m Unit

/-- Why a node does not boot. -/
inductive BootError where
  | configuration (cause : ConfigError)
  | load (path : String) (cause : GenesisFileError)
  | importing (cause : RegistryError)
  | scan (cause : RegistryError)
  | exporting (cause : RegistryError)
  | save (path : String) (cause : GenesisFileError)
deriving DecidableEq, Repr

/-- The wording of an error and of its causes, the outermost first. -/
def BootError.chain : BootError → List String
  | .configuration cause => ["Configuration rejected", cause.message]
  | .load path cause =>
    ["Failed to load genesis from " ++ path, cause.message, cause.causeMessage]
  | .importing cause => ["Failed to import genesis", cause.message]
  | .scan cause => ["Failed to scan registry", cause.message]
  | .exporting cause => ["Failed to export registry", cause.message]
  | .save path cause => ["Failed to write export to " ++ path, cause.message, cause.causeMessage]

namespace Boot

/-- An event of the boot itself, with the names of its values. -/
def event (level : Level) (details : List String) (text : String) : LogEvent :=
  ⟨level, .boot, "module" :: details, text⟩

/-- The line around the name of the program. -/
def rule : LogEvent :=
  event .info [] (String.ofList (List.replicate 43 '='))

variable {m : Type → Type} [Monad m]

/-- A step of the boot: it may fail, and works on the registry and on the host. -/
abbrev Step (m : Type → Type) (α : Type) := ExceptT BootError (StateT Store m) α

def log (host : Host m) (event : LogEvent) : Step m Unit :=
  liftM (host.log event)

/-- Runs an operation of the host that may fail. -/
def attempt {ε α : Type} (action : m (Except ε α)) (wrap : ε → BootError) : Step m α := do
  match ← (liftM action : Step m (Except ε α)) with
  | .ok value => return value
  | .error cause => throw (wrap cause)

def onStore {α : Type} (operation : Operation α) (wrap : RegistryError → BootError) :
    Step m α := do
  let (result, store) := operation.on (← get)
  set store
  match result with
  | .ok value => return value
  | .error cause => throw (wrap cause)

/-- Loads and imports the genesis, if there is one. -/
def importGenesis (host : Host m) (config : Config) : Step m Unit := do
  match config.genesisPath with
  | some path =>
    let genesis ← attempt (GenesisFile.load host.files path) (.load path)
    onStore (Registry.importGenesis genesis) .importing
    log host ⟨.info, .genesis, ["data_nodes", "data_records"], "Datanode genesis imported"⟩
    log host (event .info ["path"] "Genesis imported")
  | none =>
    log host (event .warn [] "No genesis configured, starting with an empty registry")

/-- Writes the registry to the export path, if there is one. -/
def exportGenesis (host : Host m) (config : Config) : Step m Unit := do
  match config.exportPath with
  | some path =>
    let genesis ← onStore (Operation.ask Registry.exportGenesis) .exporting
    attempt (GenesisFile.save host.files path genesis) (.save path)
    log host (event .info ["path"] "Registry exported")
  | none => return ()

def start (host : Host m) (config : Config) : Step m Registry.Summary := do
  log host rule
  log host (event .info ["version"] "  IoT-Chain Node Runtime")
  log host rule
  attempt (config.check host.files) .configuration
  importGenesis host config
  let summary ← onStore (Operation.ask Registry.summary) .scan
  log host (event .info ["data_nodes", "channels", "buckets", "records"] "Registry ready")
  exportGenesis host config
  return summary

/-- Boots a node: the result, and the registry after it. -/
def run (host : Host m) (config : Config) : m (Except BootError Registry.Summary × Store) :=
  (start host config).run.run .empty

end Boot

end DeviceRegistry.Node
