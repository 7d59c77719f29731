import ResolverTypes.Config.Codec
import ResolverTypes.Config.Settings
import ResolverTypes.Disk.FileTree
import ResolverTypes.Json.Reader
import ResolverTypes.Text.Blank
import ResolverTypes.Yaml.Document

/-!
# Loading configurations

The name of a file says which format its text has.  What the text says is then checked project by
project, in the order of their names, and the first fault of the first project at fault is
reported.

## Main definitions

* `ConfigFormat.ofPath?` : the format of a file.
* `ConfigError` : why there is no configuration, with its text `ConfigError.message`.
* `Config.parse` : the configuration that a text stands for.
* `Project.check` : the settings of a project, if nothing is wrong with it.
* `Config.ofText`, `Config.load` : the configuration of a text and of a file.
-/

namespace ResolverTypes

/-- The format of a configuration. -/
inductive ConfigFormat where
  /-- YAML. -/
  | yaml
  /-- JSON. -/
  | json
  /-- YAML, or JSON where that fails. -/
  | either
deriving DecidableEq, Repr, Inhabited

/-- The format of a file, by its extension; a file without one has the name of the tool. -/
def ConfigFormat.ofPath? (path : FilePath) : Option ConfigFormat :=
  match FilePath.extension? path with
  | some extension =>
      if extension = "yml" ∨ extension = "yaml" then some .yaml
      else if extension = "json" then some .json
      else none
  | none => if FilePath.fileName? path = some ".graphqlrc" then some .either else none

/-! ### Errors -/

/-- Why a text is no configuration. -/
inductive ParseError where
  /-- The text is not YAML. -/
  | yaml
  /-- The text is YAML, but no configuration. -/
  | yamlMismatch
  /-- The text is not JSON. -/
  | json (error : JsonError)
  /-- The text is JSON, but no configuration. -/
  | jsonMismatch
deriving DecidableEq, Repr, Inhabited

/-- The text of a mismatch between data and configurations. -/
def mismatchMessage : String := "data did not match any variant of untagged enum GraphQLConfig"

/-- The text of the error; what is wrong with YAML is left open. -/
def ParseError.message : ParseError → String
  | .yaml => "YAML parse error: <yaml>"
  | .yamlMismatch => "YAML parse error: " ++ mismatchMessage
  | .json error => "JSON parse error: " ++ error.message
  | .jsonMismatch => "JSON parse error: " ++ mismatchMessage

/-- What is wrong with a project. -/
inductive ProjectFault where
  /-- There is no path of a schema. -/
  | noSchema
  /-- A path of a schema is blank. -/
  | blankSchema
  /-- What should be settings is none. -/
  | malformedSettings (mismatch : Mismatch)
  /-- There are no settings. -/
  | missingSettings
  /-- The path of the generated module is blank. -/
  | blankOutput
  /-- The model of a type is blank. -/
  | blankModel (typeName : String)
deriving Inhabited

/-- The text of the fault of a project. -/
def ProjectFault.message (name : String) : ProjectFault → String
  | .noSchema => "Project '" ++ name ++ "' has empty schema configuration"
  | .blankSchema => "Project '" ++ name ++ "' has empty schema path"
  | .malformedSettings mismatch =>
      "Project '" ++ name ++ "' has invalid resolvers settings: " ++ mismatch.message
  | .missingSettings => "Project '" ++ name ++ "' is missing extensions.resolvers"
  | .blankOutput => "Project '" ++ name ++ "' has empty resolvers output path"
  | .blankModel typeName =>
      "Project '" ++ name ++ "' binds '" ++ typeName ++ "' to an empty model name"

/-- What is wrong with a configuration. -/
inductive ConfigFault where
  /-- Its text is none. -/
  | parse (error : ParseError)
  /-- Something is wrong with a project. -/
  | project (name : String) (fault : ProjectFault)
deriving Inhabited

/-- The text of the fault. -/
def ConfigFault.message : ConfigFault → String
  | .parse error => error.message
  | .project name fault => fault.message name

/-- Why there is no configuration, or no project of it. -/
inductive ConfigError where
  /-- Its file cannot be read. -/
  | unreadable (error : FileError)
  /-- Something is wrong with it. -/
  | invalid (path : FilePath) (fault : ConfigFault)
  /-- Its file has no known format. -/
  | unsupportedFormat (path : FilePath)
  /-- Neither a directory nor any above it has one. -/
  | notFound (directory : FilePath)
  /-- It has no project of a name. -/
  | unknownProject (name : String) (available : List String)
  /-- It has several projects, and none of them is to be preferred. -/
  | projectRequired (available : List String)
deriving Inhabited

/-- The text of the error. -/
def ConfigError.message : ConfigError → String
  | .unreadable error => "failed to read config: " ++ error.message
  | .invalid path fault => "invalid config at " ++ path ++ ": " ++ fault.message
  | .unsupportedFormat path => "unsupported config format: " ++ path
  | .notFound directory =>
      "no GraphQL config found in " ++ directory ++ " or any parent directory"
  | .unknownProject name available =>
      "project '" ++ name ++ "' not found (available: " ++ ", ".intercalate available ++ ")"
  | .projectRequired available =>
      "config has " ++ toString available.length ++
        " projects and none was selected (available: " ++ ", ".intercalate available ++ ")"

/-! ### Texts -/

namespace Config

/-- The configuration that a YAML text stands for. -/
def parseYaml (text : String) : Except ParseError Config :=
  match Yaml.readTree text with
  | none => .error .yaml
  | some (tree, isWhole) =>
      match ofTree? tree with
      | none => .error .yamlMismatch
      | some config => if isWhole then .ok config else .error .yaml

/-- The configuration that a JSON text stands for. -/
def parseJson (text : String) : Except ParseError Config := do
  let (tree, rest) ← (Json.readTree text).mapError .json
  match ofTree? tree with
  | none => throw .jsonMismatch
  | some config =>
      (Json.checkEnd text rest).mapError .json
      return config

/-- The configuration that a text stands for. -/
def parse (format : ConfigFormat) (text : String) : Except ParseError Config :=
  match format with
  | .yaml => parseYaml text
  | .json => parseJson text
  | .either =>
      match parseYaml text with
      | .ok config => .ok config
      | .error _ => parseJson text

end Config

/-! ### Checks -/

/-- The settings of a project, if nothing is wrong with it. -/
def Project.check (project : Project) : Except ProjectFault ResolverSettings := do
  let patterns := project.schema.patterns
  if patterns.isEmpty then throw .noSchema
  if patterns.any Text.isBlank then throw .blankSchema
  match ← project.settings.mapError .malformedSettings with
  | none => throw .missingSettings
  | some settings =>
      if Text.isBlank settings.output then throw .blankOutput
      match settings.models.entries.find? fun e => Text.isBlank e.2 with
      | some (typeName, _) => throw (.blankModel typeName)
      | none => return settings

namespace Config

/-- Checks all projects, in the order of their names. -/
def check (config : Config) : Except ConfigFault Unit :=
  config.projects.forM fun p => discard (p.2.check.mapError (.project p.1))

/-- The configuration of a text, in the format that a path says. -/
def ofText (text : String) (path : FilePath) : Except ConfigError Config := do
  match ConfigFormat.ofPath? path with
  | none => throw (.unsupportedFormat path)
  | some format =>
      let config ← (parse format text).mapError fun e => .invalid path (.parse e)
      config.check.mapError (.invalid path)
      return config

/-- The configuration of a file. -/
def load (tree : FileTree) (directory : Location) (path : FilePath) :
    Except ConfigError Config := do
  ofText (← (tree.readText directory path).mapError .unreadable) path

end Config

end ResolverTypes
