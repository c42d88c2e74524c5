import DeviceRegistry.Node.Boot
/-!
# The command line

The program takes no arguments: it reads its settings from variables, boots, and ends.
If it fails, it reports the error and the chain of its causes.
-/

namespace DeviceRegistry.Node

/-- How the program ends. -/
structure Outcome where
  exitCode : UInt8
  /-- What is written to the error output, without the end of the last line. -/
  report : Option String
deriving DecidableEq, Repr

namespace CommandLine

/-- A text whose lines after the first one are indented. -/
def indentLines (indentation text : String) : String :=
  String.intercalate ("\n" ++ indentation) (text.splitOn "\n")

/-- The causes of an error, numbered if there are several. -/
def causes : List String → List String
  | [cause] => ["    " ++ indentLines "    " cause]
  | several => several.zipIdx.map fun (cause, index) =>
    let number := toString index
    let padding := String.ofList (List.replicate (5 - number.length) ' ')
    padding ++ number ++ ": " ++ indentLines "       " cause

/-- The report of an error: what happened, and then what caused it. -/
def report : List String → String
  | [] => "Error: "
  | [error] => "Error: " ++ error
  | error :: chain =>
    "Error: " ++ error ++ "\n\nCaused by:\n" ++ String.intercalate "\n" (causes chain)

def failure (chain : List String) : Outcome where
  exitCode := 1
  report := some (report chain)

def invalidFilter : List String :=
  ["Failed to initialize logging", "Invalid configuration: invalid filter directive"]

variable {m : Type → Type} [Monad m]

/-- A host that logs only what is let through, and nothing without console output. -/
def filtered (host : Host m) (telemetry : Telemetry) (directives : List LogFilter.Directive) :
    Host m where
  files := host.files
  log event :=
    if telemetry.consoleOutput && LogFilter.admits directives event then host.log event
    else return ()

def run (host : Host m) (environment : Environment) : m Outcome := do
  let config := Config.ofEnvironment environment
  match LogFilter.ofText? config.telemetry.logLevel with
  | none => return failure invalidFilter
  | some directives =>
    let host := filtered host config.telemetry directives
    host.log ⟨.info, .logging, ["service", "network", "json_logs"], "Logging initialized"⟩
    host.log ⟨.info, .modules, [], "Initializing datanode module on in-memory store"⟩
    let (result, _) ← Boot.run host config
    match result with
    | .error error => return failure error.chain
    | .ok _ =>
      host.log ⟨.info, .program, [], "Node boot complete"⟩
      return ⟨0, none⟩

end CommandLine

end DeviceRegistry.Node
