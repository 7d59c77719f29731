import ResolverTypes.Config.Settings

/-!
# Projects in their directories

A project of a configuration, seen from the directory that its paths start in.

## Main definitions

* `PlacedProject` : a project with its settings and its directory.
* `PlacementError` : why a project has no settings, with its text `PlacementError.message`.
* `Project.place` : a project in a directory.
-/

namespace ResolverTypes

/-- A project with its settings and its directory. -/
structure PlacedProject where
  /-- The name of the project. -/
  name : String
  /-- The paths and patterns of its schema. -/
  patterns : List FilePath
  /-- Its settings. -/
  settings : ResolverSettings
  /-- The directory that its paths start in. -/
  directory : FilePath
deriving DecidableEq, Inhabited

namespace PlacedProject

/-- The path of the generated module. -/
def outputPath (project : PlacedProject) : FilePath :=
  project.settings.outputPath project.directory

/-- The options of generation. -/
def options (project : PlacedProject) : Options := project.settings.options

end PlacedProject

/-- Why a project has no settings. -/
inductive PlacementError where
  /-- What should be its settings is none. -/
  | malformedSettings (name : String) (mismatch : Mismatch)
  /-- It has none. -/
  | missingSettings (name : String)
deriving Inhabited

/-- The text of the error. -/
def PlacementError.message : PlacementError → String
  | .malformedSettings name mismatch =>
      "Project '" ++ name ++ "' has invalid extensions.resolvers: " ++ mismatch.message
  | .missingSettings name => "Project '" ++ name ++ "' is missing extensions.resolvers"

/-- A project in a directory. -/
def Project.place (project : Project) (name : String) (directory : FilePath) :
    Except PlacementError PlacedProject := do
  match ← project.settings.mapError (.malformedSettings name) with
  | none => throw (.missingSettings name)
  | some settings =>
      return { name, patterns := project.schemaPatterns directory, settings, directory }

end ResolverTypes
