import CapabilityRegistry.CommandLine
import CapabilityRegistry.Run

/-!
# Sessions

What the program does for a command line: it prints lines, changes files and ends with an exit code.
-/

namespace CapabilityRegistry

/-- How a session ends. -/
structure Session where
  exitCode : UInt32
  /-- The lines printed for the reader. -/
  output : List String := []
  /-- The report of the error that ended it. -/
  failure : Option String := none
  deriving DecidableEq, Repr

namespace Session

/-- The configuration with the paths that the command line sets. -/
def override (settings : CommandLine.Settings) (configuration : Configuration) : Configuration :=
  { configuration with
    registry := settings.registry.getD configuration.registry
    bindings := settings.bindings.getD configuration.bindings
    traversal := settings.traversal.getD configuration.traversal
    model := settings.model <|> configuration.model }

variable {m : Type → Type} [Monad m]

/-- The lines of a run with these settings. -/
def run (files : FileAccess m) (settings : CommandLine.Settings) :
    ExceptT RunError m (List String) := do
  let configuration ← Run.loadConfiguration files (settings.config.getD "vkcaps.toml")
  let configuration := override settings configuration
  let summary ← Run.generate files configuration (!settings.check)
  return if settings.check then summary.lines configuration.registry else []

/-- The session of a command line. -/
def ofArguments (files : FileAccess m) (arguments : List String) : m Session := do
  match CommandLine.parse arguments with
  | .showVersion => return { exitCode := 0, output := [CommandLine.versionLine] }
  | .showHelp => return { exitCode := 0, output := CommandLine.helpLines }
  | .unusable => return { exitCode := 2, failure := some "error: unusable arguments" }
  | .run settings =>
    match ← (run files settings).run with
    | .ok output => return { exitCode := 0, output }
    | .error error => return { exitCode := 1, failure := some error.report }

end Session

end CapabilityRegistry
