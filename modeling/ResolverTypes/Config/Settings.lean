import ResolverTypes.Contract.Options
import ResolverTypes.Config.Basic
import ResolverTypes.Text.Quoted

/-!
# Settings of resolver types

What a project says about the types of its resolvers.  The settings are an object, or a list of its
values in a fixed order; names that mean nothing are passed over.  The values of an object are
looked at in the order of their names, and the first that is not of the right form is reported.

## Main definitions

* `ResolverSettings` : the settings.
* `Mismatch` : why a value is no settings, with its text `Mismatch.message`.
* `ResolverSettings.ofValue`, `ResolverSettings.toValue` : reading and writing settings.
* `Project.settings` : the settings of a project, if it has any.
-/

namespace ResolverTypes

/-- What a project says about the types of its resolvers. -/
structure ResolverSettings where
  /-- The path of the generated module. -/
  output : String
  /-- The type of the context that resolvers receive. -/
  context : Option String := none
  /-- The module that the context type is imported from. -/
  contextModule : Option String := none
  /-- The models bound to schema types. -/
  models : ModelBinding := ∅
  /-- The module that the models are imported from. -/
  modelsModule : Option String := none
  /-- Whether groups of types with a model declare default resolvers. -/
  defaultResolvers : Bool := false
  /-- The types of custom scalars. -/
  scalars : NameMap String := ∅
  /-- Whether the generated module is laid out anew. -/
  format : Bool := true
deriving DecidableEq, Inhabited

/-- The path of the generated module, seen from a directory. -/
def ResolverSettings.outputPath (settings : ResolverSettings) (directory : FilePath) : FilePath :=
  FilePath.join directory settings.output

/-- The options of generation that settings stand for. -/
def ResolverSettings.options (settings : ResolverSettings) : Options where
  models := settings.models
  modelsModule := settings.modelsModule
  contextType := settings.context
  contextModule := settings.contextModule
  defaultResolvers := settings.defaultResolvers
  scalars := settings.scalars
  format := settings.format

/-! ### Mismatches -/

/-- The form that a value is asked to have. -/
inductive ValueForm where
  /-- A text. -/
  | string
  /-- A truth value. -/
  | boolean
  /-- An object. -/
  | object
  /-- Settings. -/
  | settings
deriving DecidableEq, Repr, Inhabited

/-- The name of a form. -/
def ValueForm.name : ValueForm → String
  | .string => "a string"
  | .boolean => "a boolean"
  | .object => "a map"
  | .settings => "struct ResolversConfig"

/-- Why a value is no settings. -/
inductive Mismatch where
  /-- A value has another form than is asked for. -/
  | form (value : Value) (expected : ValueForm)
  /-- The path of the module is missing. -/
  | missingOutput
  /-- A list of settings is empty. -/
  | emptyList
  /-- A list of settings is too long. -/
  | longList (length : Nat)
deriving Inhabited

/-- How a number is named in a report. -/
def Numeral.description : Numeral → String
  | .integer value => "integer `" ++ toString value ++ "`"
  | .decimal value => "floating point `" ++ value.text ++ "`"

/-- How a value is named in a report. -/
def Value.description : Value → String
  | .null => "null"
  | .boolean value => "boolean `" ++ toString value ++ "`"
  | .number value => value.description
  | .string text => "string " ++ Text.quoted text
  | .list _ => "sequence"
  | .object _ => "map"

/-- The text of a mismatch. -/
def Mismatch.message : Mismatch → String
  | .form value expected => "invalid type: " ++ value.description ++ ", expected " ++ expected.name
  | .missingOutput => "missing field `output`"
  | .emptyList => "invalid length 0, expected struct ResolversConfig with 8 elements"
  | .longList length =>
      "invalid length " ++ toString length ++ ", expected fewer elements in array"

/-! ### Reading -/

/-- The text that a value is. -/
def Value.asString : Value → Except Mismatch String
  | .string text => .ok text
  | value => .error (.form value .string)

/-- The text that a value is, if it is not missing. -/
def Value.asOptionalString : Value → Except Mismatch (Option String)
  | .null => .ok none
  | value => value.asString.map some

/-- The truth value that a value is. -/
def Value.asBoolean : Value → Except Mismatch Bool
  | .boolean value => .ok value
  | value => .error (.form value .boolean)

/-- The texts of an object, by their names. -/
def Value.asStringMap : Value → Except Mismatch (NameMap String)
  | .object entries => do
      let texts ← (NameMap.ofList entries).entries.mapM fun e => return (e.1, ← e.2.asString)
      return .ofList texts
  | value => .error (.form value .object)

/-- Settings of which the path of the module may be missing. -/
structure PartialSettings where
  /-- The path of the module, if it has been found. -/
  output : Option String := none
  /-- The other settings. -/
  settings : ResolverSettings := { output := "" }
deriving DecidableEq, Inhabited

/-- Settings with the value of a name. -/
def PartialSettings.set (read : PartialSettings) (entry : String × Value) :
    Except Mismatch PartialSettings := do
  let (name, value) := entry
  let settings := read.settings
  match name with
  | "output" => return { read with output := some (← value.asString) }
  | "context" =>
      return { read with settings := { settings with context := ← value.asOptionalString } }
  | "contextModule" =>
      return { read with settings := { settings with contextModule := ← value.asOptionalString } }
  | "models" => return { read with settings := { settings with models := ← value.asStringMap } }
  | "modelsModule" =>
      return { read with settings := { settings with modelsModule := ← value.asOptionalString } }
  | "defaultResolvers" =>
      return { read with settings := { settings with defaultResolvers := ← value.asBoolean } }
  | "scalars" => return { read with settings := { settings with scalars := ← value.asStringMap } }
  | "format" => return { read with settings := { settings with format := ← value.asBoolean } }
  | _ => return read

/-- The names of settings, in the order in which a list gives their values. -/
def settingNames : List String :=
  ["output", "context", "contextModule", "models", "modelsModule", "defaultResolvers", "scalars",
    "format"]

namespace ResolverSettings

/-- The settings that some values stand for. -/
def ofEntries (entries : List (String × Value)) : Except Mismatch ResolverSettings := do
  let read ← entries.foldlM PartialSettings.set {}
  match read.output with
  | some output => return { read.settings with output }
  | none => throw .missingOutput

/-- The settings that a value stands for. -/
def ofValue : Value → Except Mismatch ResolverSettings
  | .object entries => ofEntries (NameMap.ofList entries).entries
  | .list [] => .error .emptyList
  | .list items => do
      let settings ← ofEntries (settingNames.zip items)
      if items.length > settingNames.length then throw (.longList items.length)
      return settings
  | value => .error (.form value .settings)

/-- An entry for a value that may be missing. -/
def optionalEntry (name : String) (value : Option String) : List (String × Value) :=
  value.toList.map fun text => (name, .string text)

/-- Texts by their names as an object. -/
def stringObject (texts : NameMap String) : Value :=
  .object (texts.entries.map fun e => (e.1, .string e.2))

/-- Settings as a value. -/
def toValue (settings : ResolverSettings) : Value :=
  .object
    ([("output", .string settings.output)] ++ optionalEntry "context" settings.context ++
      optionalEntry "contextModule" settings.contextModule ++
      [("models", stringObject settings.models)] ++
      optionalEntry "modelsModule" settings.modelsModule ++
      [("defaultResolvers", .boolean settings.defaultResolvers),
        ("scalars", stringObject settings.scalars), ("format", .boolean settings.format)])

end ResolverSettings

/-- The settings of a project, if it has any. -/
def Project.settings (project : Project) : Except Mismatch (Option ResolverSettings) :=
  match project.extension? "resolvers" with
  | none => .ok none
  | some value => (ResolverSettings.ofValue value).map some

end ResolverTypes
