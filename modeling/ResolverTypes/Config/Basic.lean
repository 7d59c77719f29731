import ResolverTypes.Data.NameMap
import ResolverTypes.Data.Value
import ResolverTypes.Disk.FilePath

/-!
# Configurations

A configuration describes one project, or several by their names.  A project says where its schema
is, and leaves the rest to the tools that work on it.

## Main definitions

* `SchemaLocation`, `Project`, `Config` : the parts of a configuration.
* `Config.projects`, `Config.project?` : its projects, all of them and by name.
-/

namespace ResolverTypes

/-- Where the schema of a project is. -/
inductive SchemaLocation where
  /-- At one path, or at the paths that fit one pattern. -/
  | path (pattern : String)
  /-- At several. -/
  | paths (patterns : List String)
deriving DecidableEq, Inhabited

/-- The paths and patterns of a location. -/
def SchemaLocation.patterns : SchemaLocation → List String
  | .path pattern => [pattern]
  | .paths patterns => patterns

/-- A project, as a configuration describes it. -/
structure Project where
  /-- Where the schema is. -/
  schema : SchemaLocation
  /-- What the project says to tools, by the name of the tool. -/
  extensions : Option (NameMap Value) := none
deriving Inhabited

/-- What a project says to one tool. -/
def Project.extension? (project : Project) (tool : String) : Option Value :=
  project.extensions.bind fun extensions => extensions.get? tool

/-- The paths and patterns of a project's schema, seen from a directory. -/
def Project.schemaPatterns (project : Project) (directory : FilePath) : List FilePath :=
  project.schema.patterns.map (FilePath.join directory)

/-- A configuration. -/
inductive Config where
  /-- Of one project. -/
  | single (project : Project)
  /-- Of several projects, by their names. -/
  | multi (projects : NameMap Project)
deriving Inhabited

namespace Config

/-- The name of the project of a configuration that describes one only. -/
def defaultName : String := "default"

/-- The projects with their names, in the order of the names. -/
def projects : Config → List (String × Project)
  | .single project => [(defaultName, project)]
  | .multi projects => projects.entries

/-- The names of the projects. -/
def projectNames (config : Config) : List String := config.projects.map (·.1)

/-- The project of a name. -/
def project? : Config → String → Option Project
  | .single project, name => if name = defaultName then some project else none
  | .multi projects, name => projects.get? name

/-- The number of projects. -/
def projectCount : Config → Nat
  | .single _ => 1
  | .multi projects => projects.size

/-- Whether a configuration names its projects. -/
def isMulti : Config → Bool
  | .single _ => false
  | .multi _ => true

end Config

end ResolverTypes
