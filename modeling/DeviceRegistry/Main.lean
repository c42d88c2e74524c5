import DeviceRegistry.Node.CommandLine
/-!
# The program

Binds the command line to the variables, the files and the standard output of the
process.
-/

namespace DeviceRegistry.Program

open Node

/-- The error that a failed file operation stands for. -/
def fileError : IO.Error → FileError
  | .noFileOrDirectory .. => .notFound
  | .noSuchThing .. => .notFound
  | .inappropriateType _ number _ => if number = 20 then .notDirectory else .isDirectory
  | .invalidArgument _ number details =>
    if number = 36 then .nameTooLong else .other details
  | other => .other (toString other)

/-- Runs a file operation and keeps its error as a value. -/
def attempt {α : Type} (action : IO α) : IO (Except FileError α) := do
  try
    return .ok (← action)
  catch error =>
    return .error (fileError error)

def files : FileAccess IO where
  isFile path := return (← attempt (IO.FS.readBinFile path)).isOk
  read path := return (← attempt (IO.FS.readBinFile path)).map fun content => content.data.toList
  write path content := attempt (IO.FS.writeBinFile path ⟨content.toArray⟩)

def host : Node.Host IO where
  files
  log event := IO.println (event.source.target ++ ": " ++ event.text)

end DeviceRegistry.Program

/-- Runs the node and ends with its exit code. -/
def main : IO UInt32 := do
  let mut values : List (String × String) := []
  for name in DeviceRegistry.Node.variableNames do
    if let some value ← IO.getEnv name then
      values := (name, value) :: values
  let outcome ← DeviceRegistry.Node.CommandLine.run DeviceRegistry.Program.host
    fun name => values.lookup name
  if let some report := outcome.report then
    IO.eprintln report
  return outcome.exitCode.toUInt32
