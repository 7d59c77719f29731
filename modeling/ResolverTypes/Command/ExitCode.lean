/-!
# Exit codes

How a command ends, and the number that says so.

## Main definitions

* `ExitCode` : how a command ends.
* `ExitCode.number` : its number.
-/

namespace ResolverTypes.Command

/-- How a command ends. -/
inductive ExitCode where
  /-- The output is written, or up to date. -/
  | success
  /-- The output on disk is missing, or another. -/
  | staleOutput
  /-- There is no configuration or no project, or the arguments make no sense. -/
  | configError
  /-- The schema is not loaded, or nothing can be generated from it. -/
  | schemaError
  /-- The output cannot be read or written. -/
  | ioError
deriving DecidableEq, Repr, Inhabited

/-- The number of an exit code. -/
def ExitCode.number : ExitCode → Nat
  | .success => 0
  | .staleOutput => 1
  | .configError => 2
  | .schemaError => 3
  | .ioError => 4

/-- The name of an exit code, at the start of a line. -/
def ExitCode.title : ExitCode → String
  | .success => "Success"
  | .staleOutput => "Stale output"
  | .configError => "Configuration error"
  | .schemaError => "Schema load error"
  | .ioError => "I/O error"

end ResolverTypes.Command
