import ResolverTypes.Contract.BindingWarning
import ResolverTypes.Contract.Generation
import ResolverTypes.Project.SchemaFiles

/-!
# The generated module of a project

What is generated for a project, and how it gets to its place in the file tree.

## Main definitions

* `Generation` : a generated module with the warnings on the bindings of its project.
* `PlacedProject.generate` : the module of a project.
* `writeOutput` : puts a module at a path, with the directories that are missing on the way.
* `Freshness`, `Freshness.ofTexts` : whether the text of a file is the generated one.
-/

namespace ResolverTypes

/-- A generated module with the warnings on the bindings of its project. -/
structure Generation where
  /-- The module. -/
  output : GeneratedOutput
  /-- The warnings. -/
  warnings : List BindingWarning

/-- Why nothing is generated for a project. -/
inductive ProjectError where
  /-- The graph of its schema is not loaded. -/
  | load (error : GraphLoadError)
  /-- Names of the module collide. -/
  | generation (error : GenerationError)
deriving DecidableEq

/-- The text of the error. -/
def ProjectError.message : ProjectError → String
  | .load error => error.message
  | .generation error => "Failed to generate resolver types: " ++ error.message

/-- The warnings on the bindings of a project with a schema. -/
def PlacedProject.warnings (project : PlacedProject) (graph : SchemaGraph) : List BindingWarning :=
  bindingWarnings project.settings.models graph.resolvableTypeNames graph.roots.contains

/-- The module of a project. -/
def PlacedProject.generate (project : PlacedProject) (tree : FileTree) (directory : Location) :
    Except ProjectError Generation := do
  let graph ← (project.loadGraph tree directory).mapError .load
  let output ← (ResolverTypes.generate graph project.options).mapError .generation
  return { output, warnings := project.warnings graph }

/-! ### Writing -/

/-- Why a module is not written. -/
inductive WriteError where
  /-- Its directory is not made. -/
  | directory (path : FilePath) (error : FileError)
  /-- Its file is not written. -/
  | file (path : FilePath) (error : FileError)
deriving DecidableEq, Repr, Inhabited

/-- The text of the error. -/
def WriteError.message : WriteError → String
  | .directory path error => "Failed to create directory: " ++ path ++ ": " ++ error.message
  | .file path error => "Failed to write " ++ path ++ ": " ++ error.message

/-- Puts a text at a path, with the directories that are missing on the way. -/
def writeOutput (tree : FileTree) (directory : Location) (path : FilePath) (text : String) :
    FileTree × Except WriteError Unit :=
  let parent := (FilePath.parent? path).getD ""
  match tree.createDirectories directory parent with
  | (made, .error e) => (made, .error (.directory parent e))
  | (made, .ok ()) =>
      match made.writeText directory path text with
      | .ok written => (written, .ok ())
      | .error e => (made, .error (.file path e))

/-! ### Comparing -/

/-- How the text of a file relates to the generated one. -/
inductive Freshness where
  /-- It is the same. -/
  | upToDate
  /-- There is no file. -/
  | missing
  /-- It is another. -/
  | stale
deriving DecidableEq, Repr, Inhabited

/-- How the text of a file, if there is one, relates to the generated text. -/
def Freshness.ofTexts (generated : String) (onDisk : Option String) : Freshness :=
  match onDisk with
  | none => .missing
  | some text => if text = generated then .upToDate else .stale

end ResolverTypes
