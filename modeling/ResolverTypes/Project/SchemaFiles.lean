import ResolverTypes.Disk.Matching
import ResolverTypes.Project.Placement
import ResolverTypes.Schema.Sources

/-!
# The schema files of a project

The files that fit the patterns of a project, each once, in the order in which they are first found,
and the graph of the schema that they define together.

## Main definitions

* `SchemaFilesError`, `GraphLoadError` : why there are no files, or no graph.
* `PlacedProject.schemaFiles` : the files of a project's schema.
* `PlacedProject.loadGraph` : the graph of a project's schema.
-/

namespace ResolverTypes

/-- Why the files of a schema are not found. -/
inductive SchemaFilesError where
  /-- A pattern is none. -/
  | malformedPattern (pattern : FilePath) (error : PatternError)
  /-- No file fits a pattern. -/
  | noMatch (pattern : FilePath)
deriving DecidableEq, Repr, Inhabited

/-- The text of the error. -/
def SchemaFilesError.message : SchemaFilesError → String
  | .malformedPattern pattern error =>
      "Invalid schema pattern: " ++ pattern ++ ": " ++ error.message
  | .noMatch pattern => "No schema files match " ++ pattern

/-- Why the graph of a schema is not loaded. -/
inductive GraphLoadError where
  /-- Its files are not found. -/
  | files (error : SchemaFilesError)
  /-- A file cannot be read. -/
  | unreadable (path : FilePath) (error : FileError)
  /-- The texts have no graph. -/
  | graph (error : GraphError)
deriving DecidableEq, Repr

/-- The text of an error of a schema with all that is wrong with it. -/
def GraphError.details : GraphError → String
  | .invalid reports =>
      "Schema has " ++ toString reports.length ++ " error(s):\n" ++
        "\n".intercalate (reports.map fun report => "  " ++ report.line)
  | .unknownType error => error.message

/-- The text of the error. -/
def GraphLoadError.message : GraphLoadError → String
  | .files error => error.message
  | .unreadable path error => "Failed to read schema file: " ++ path ++ ": " ++ error.message
  | .graph error => error.details

/-- Paths with further paths added, as far as they do not lead to a listed place. -/
def addPaths (paths more : List FilePath) : List FilePath :=
  more.foldl (fun all path => if all.any (FilePath.equivalent path) then all else all ++ [path])
    paths

namespace PlacedProject

/-- The files that fit a pattern; at least one has to. -/
def patternFiles (tree : FileTree) (directory : Location) (pattern : FilePath) :
    Except SchemaFilesError (List FilePath) := do
  let files ← (tree.filesMatching directory pattern).mapError (.malformedPattern pattern)
  if files.isEmpty then throw (.noMatch pattern)
  return files

/-- The files of a project's schema. -/
def schemaFiles (project : PlacedProject) (tree : FileTree) (directory : Location) :
    Except SchemaFilesError (List FilePath) :=
  project.patterns.foldlM
    (fun files pattern => return addPaths files (← patternFiles tree directory pattern)) []

/-- A file of a schema with its text. -/
def readSource (tree : FileTree) (directory : Location) (path : FilePath) :
    Except GraphLoadError Schema.SourceText := do
  return ⟨path, ← (tree.readText directory path).mapError (.unreadable path)⟩

/-- The graph of a project's schema. -/
def loadGraph (project : PlacedProject) (tree : FileTree) (directory : Location) :
    Except GraphLoadError SchemaGraph := do
  let files ← (project.schemaFiles tree directory).mapError .files
  let sources ← files.mapM (readSource tree directory)
  (SchemaGraph.ofSources sources).mapError .graph

end PlacedProject

end ResolverTypes
