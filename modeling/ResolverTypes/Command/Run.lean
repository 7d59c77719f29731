import ResolverTypes.Command.Arguments
import ResolverTypes.Command.Color
import ResolverTypes.Command.ExitCode
import ResolverTypes.Config.Discovery
import ResolverTypes.Config.Selection
import ResolverTypes.Project.Output

/-!
# Running the command

What the command shows, how it ends, and what becomes of the file tree.  A command first prepares a
project, and fails with a configuration error where that fails; then it generates the module, and
fails with a schema error where that fails; only then does it compare the module with the file on
disk or write it.  Only the file tree can refuse what is read or written; standard output and
standard error are taken to accept all that is shown and reported.

## Main definitions

* `Surroundings` : what a command is told about the world besides its arguments.
* `Outcome` : what a command shows, and how it ends.
* `prepare`, `generateModule` : the first two steps.
* `runCheck`, `runGenerate`, `run` : the subcommands, and the command itself.
-/

namespace ResolverTypes.Command

/-- What a command is told about the world besides its arguments. -/
structure Surroundings where
  /-- The path of the working directory. -/
  directory : FilePath
  /-- The value of an environment variable. -/
  environment : String → Option String := fun _ => none
  /-- Whether the output goes to a terminal. -/
  isTerminal : Bool := false
  /-- How long the command takes, in seconds. -/
  elapsed : String := "0.00"

/-- The location of the working directory. -/
def Surroundings.location (world : Surroundings) : Location :=
  (FilePath.components world.directory).filterMap fun
    | .entry name => some name
    | _ => none

/-- What a command shows, and how it ends. -/
structure Outcome where
  /-- How it ends. -/
  exit : ExitCode
  /-- What it shows. -/
  stdout : String := ""
  /-- What it reports. -/
  stderr : String := ""
deriving DecidableEq, Repr, Inhabited

/-! ### Preparing -/

/-- Why no project is prepared. -/
inductive PrepareError where
  /-- There is no configuration. -/
  | config (error : ConfigError)
  /-- No project is selected. -/
  | selection (error : ConfigError)
  /-- The project has no settings. -/
  | placement (error : PlacementError)
deriving Inhabited

/-- The text of an error of a configuration, with its cause. -/
def configReport (error : ConfigError) : String :=
  match error with
  | .unreadable cause => error.message ++ ": " ++ cause.message
  | _ => error.message

/-- The text of the error. -/
def PrepareError.message : PrepareError → String
  | .config error => configReport error
  | .selection error =>
      match error with
      | .projectRequired _ => error.message ++ "; pass --project <NAME>"
      | _ => error.message
  | .placement error => error.message

/-- The directory that the paths of a configuration start in. -/
def configDirectory (path directory : FilePath) : FilePath :=
  match FilePath.parent? path with
  | some parent => if parent.isEmpty then directory else parent
  | none => directory

/-- The project that a command works on. -/
def prepare (tree : FileTree) (world : Surroundings) (common : CommonOptions) :
    Except PrepareError PlacedProject := do
  let (path, config) ←
    (Config.resolve tree world.location common.config world.directory).mapError .config
  let (name, project) ← (config.select common.project).mapError .selection
  (project.place name (configDirectory path world.directory)).mapError .placement

/-! ### Showing -/

/-- Lines of text, each with its end. -/
def lines (texts : List String) : String := String.join (texts.map (· ++ "\n"))

/-- A report of an error that ends a command. -/
def failure (colored : Bool) (exit : ExitCode) (message : String) : Outcome :=
  { exit, stderr := paint colored .red ("✗ " ++ exit.title ++ ":") ++ " " ++ message ++ "\n" }

/-- The reports of the warnings on a generated module. -/
def warningReport (colored : Bool) (generation : Generation) : String :=
  let label := paint colored .boldYellow "warning:"
  lines (generation.warnings.map (fun warning => label ++ " " ++ warning.message) ++
    generation.output.diagnostics.map fun diagnostic =>
      label ++ " output left unformatted: " ++ diagnostic.line)

/-! ### Checking -/

/-- The text of the file at the place of the generated module, if there is a file. -/
def readExisting (tree : FileTree) (directory : Location) (path : FilePath) :
    Except FileError (Option String) :=
  match tree.readText directory path with
  | .ok text => .ok (some text)
  | .error .notFound => .ok none
  | .error e => .error e

/-- How checking ends, given how the file on disk relates to the generated module. -/
def freshnessExit : Freshness → ExitCode
  | .upToDate => .success
  | .missing => .staleOutput
  | .stale => .staleOutput

/-- Compares a generated module with the file on disk. -/
def compareOutput (colored quiet : Bool) (tree : FileTree) (directory : Location)
    (project : PlacedProject) (generation : Generation) : Outcome :=
  let path := project.outputPath
  let shown := paint colored .cyan (FilePath.display path project.directory)
  let warnings := warningReport colored generation
  match readExisting tree directory path with
  | .error e =>
      let failed := failure colored .ioError ("Failed to read " ++ path ++ ": " ++ e.message)
      { failed with stderr := warnings ++ failed.stderr }
  | .ok existing =>
      let freshness := Freshness.ofTexts generation.output.code existing
      let cross := paint colored .boldRed "✗"
      match freshness with
      | .upToDate =>
          let note := paint colored .boldGreen "✓" ++ " " ++ shown ++ " is up to date"
          { exit := freshnessExit freshness
            stdout := if quiet then "" else lines [note]
            stderr := warnings }
      | .missing =>
          { exit := freshnessExit freshness
            stderr := warnings ++
              lines [cross ++ " " ++ shown ++ " does not exist; run `graphql generate`"] }
      | .stale =>
          { exit := freshnessExit freshness
            stderr := warnings ++
              lines [cross ++ " " ++ shown ++ " is out of date; run `graphql generate`"] }

/-- Runs the subcommand `check`. -/
def runCheck (tree : FileTree) (world : Surroundings) (colored : Bool) (common : CommonOptions) :
    Outcome :=
  match prepare tree world common with
  | .error e => failure colored .configError e.message
  | .ok project =>
      match project.generate tree world.location with
      | .error e => failure colored .schemaError e.message
      | .ok generation =>
          compareOutput colored common.quiet tree world.location project generation

/-! ### Generating -/

/-- Where a generated module goes. -/
inductive Target where
  /-- It is shown. -/
  | stdout
  /-- It is written to a file. -/
  | file (path : FilePath)
deriving DecidableEq, Repr, Inhabited

/-- Where the generated module of a project goes. -/
def Target.select (project : PlacedProject) (output : Option FilePath) (stdout : Bool) : Target :=
  if stdout then .stdout else .file (output.getD project.outputPath)

/-- Puts a generated module where it goes.  Standard output is taken to accept the module: the
branch that ends with an input/output error where writing to it fails is left out. -/
def emit (colored quiet : Bool) (tree : FileTree) (world : Surroundings)
    (project : PlacedProject) (generation : Generation) (target : Target) : FileTree × Outcome :=
  let warnings := warningReport colored generation
  match target with
  | .stdout =>
      (tree, { exit := .success, stdout := generation.output.code, stderr := warnings })
  | .file path =>
      match writeOutput tree world.location path generation.output.code with
      | (written, .error e) =>
          let label := paint colored .red "✗ Failed to write output:"
          (written,
            { exit := .ioError, stderr := warnings ++ lines [label ++ " " ++ e.message] })
      | (written, .ok ()) =>
          let note := " ".intercalate
            [paint colored .boldGreen "✓ Generated",
              paint colored .cyan (FilePath.display path project.directory),
              paint colored .dimmed ("(" ++ world.elapsed ++ "s)")]
          (written,
            { exit := .success
              stdout := if quiet then "" else lines [note]
              stderr := warnings })

/-- Runs the subcommand `generate`. -/
def runGenerate (tree : FileTree) (world : Surroundings) (colored : Bool) (common : CommonOptions)
    (output : Option FilePath) (stdout : Bool) : FileTree × Outcome :=
  match prepare tree world common with
  | .error e => (tree, failure colored .configError e.message)
  | .ok project =>
      match project.generate tree world.location with
      | .error e =>
          let label := paint colored .red "✗ Failed to generate resolver types:"
          (tree, { exit := .schemaError, stderr := lines [label ++ " " ++ e.message] })
      | .ok generation =>
          emit colored common.quiet tree world project generation
            (Target.select project output stdout)

/-! ### The command -/

/-- Runs a subcommand. -/
def runInvocation (tree : FileTree) (world : Surroundings) (invocation : Invocation) :
    FileTree × Outcome :=
  let common := invocation.common
  let colored := usesColor common.color common.noColor world.environment world.isTerminal
  match invocation.subcommand with
  | .generate output stdout _ => runGenerate tree world colored common output stdout
  | .check => (tree, runCheck tree world colored common)

/-- Runs the command. -/
def run (tree : FileTree) (world : Surroundings) (arguments : List String) :
    FileTree × Outcome :=
  match readArguments arguments with
  | .run invocation => runInvocation tree world invocation
  | .inform text => (tree, { exit := .success, stdout := text })
  | .explain text => (tree, { exit := .configError, stderr := text })
  | .refuse error => (tree, { exit := .configError, stderr := error.message })

end ResolverTypes.Command
