import DeviceRegistry.Genesis
import DeviceRegistry.Node.Files
/-!
# Genesis files

A genesis is kept in a file as indented JSON, and has no fault when it was loaded.
-/

namespace DeviceRegistry.Node

/-- Why a genesis cannot be loaded or saved. -/
inductive GenesisFileError where
  | file (path : String) (cause : FileError)
  | parse (cause : Json.Fault)
  | invalid (cause : RegistryError)
deriving DecidableEq, Repr

namespace GenesisFileError

def message : GenesisFileError → String
  | .file path cause => "Genesis file " ++ path ++ ": " ++ cause.message
  | .parse cause => "Failed to parse genesis: " ++ cause.message
  | .invalid cause => "Invalid genesis: " ++ cause.message

def causeMessage : GenesisFileError → String
  | .file _ cause => cause.message
  | .parse cause => cause.message
  | .invalid cause => cause.message

end GenesisFileError

namespace GenesisFile

def decode (content : Bytes) : Except GenesisFileError Genesis := do
  let genesis : Genesis ← (Json.read content).mapError .parse
  genesis.check.mapError .invalid
  return genesis

def encode (genesis : Genesis) : Bytes :=
  Text.Utf8.encode (Json.Form.toJson genesis).indented

variable {m : Type → Type} [Monad m]

def load (files : FileAccess m) (path : String) : m (Except GenesisFileError Genesis) := do
  match ← files.read path with
  | .error cause => return .error (.file path cause)
  | .ok content => return decode content

def save (files : FileAccess m) (path : String) (genesis : Genesis) :
    m (Except GenesisFileError Unit) := do
  match ← files.write path (encode genesis) with
  | .error cause => return .error (.file path cause)
  | .ok () => return .ok ()

end GenesisFile

end DeviceRegistry.Node
