import ResolverTypes.Config.Basic

/-!
# Configurations as data

A configuration is a mapping.  If it has projects, each with a name, it describes these, and
otherwise it is the description of one project itself.  Keys that mean nothing are passed over, and
no key that means something stands twice.

## Main definitions

* `Config.ofTree?` : the configuration that a tree stands for.
* `Config.toValue` : a configuration as a value.
-/

namespace ResolverTypes

/-- The field that the entry of a mapping is for, if it is for one, with its value.  Fields are
numbered as they are listed, and a key that is neither a name nor a number is refused. -/
def fieldOf? (fields : List String) (entry : Key × Tree) : Option (Option (String × Tree)) :=
  match entry.1 with
  | .name name => some (if fields.contains name then some (name, entry.2) else none)
  | .index n => some (fields[n]?.map (·, entry.2))
  | .other => none

/-- The values of the fields of a mapping; each field stands once at most. -/
def fieldsOf? (fields : List String) (entries : List (Key × Tree)) :
    Option (List (String × Tree)) := do
  let found := (← entries.mapM (fieldOf? fields)).filterMap id
  if decide (found.map (·.1)).Nodup then some found else none

/-- The entry of a mapping whose key is a name. -/
def namedPair? (entry : Key × Tree) : Option (String × Tree) :=
  match entry.1 with
  | .name name => some (name, entry.2)
  | _ => none

/-- The text that a tree is. -/
def Tree.string? : Tree → Option String
  | .string text => some text
  | _ => none

/-! ### Reading -/

/-- The location that a tree stands for. -/
def SchemaLocation.ofTree? : Tree → Option SchemaLocation
  | .string pattern => some (.path pattern)
  | .list items => (items.mapM Tree.string?).map .paths
  | _ => none

namespace Project

/-- The fields of a project. -/
def fields : List String := ["schema", "extensions"]

/-- What a project says to tools, as a tree says it. -/
def extensionsOfTree? : Tree → Option (Option (NameMap Value))
  | .null => some none
  | .mapping entries => do
      let named ← entries.mapM namedPair?
      let values ← named.mapM fun e => return (e.1, ← e.2.value?)
      return some (.ofList values)
  | _ => none

/-- The project that a tree stands for: a mapping, or a list of the values of both fields. -/
def ofTree? : Tree → Option Project
  | .mapping entries => do
      let found ← fieldsOf? fields entries
      return {
        schema := ← SchemaLocation.ofTree? (← found.lookup "schema")
        extensions := ← extensionsOfTree? ((found.lookup "extensions").getD .null) }
  | .list [schema, extensions] => do
      return {
        schema := ← SchemaLocation.ofTree? schema
        extensions := ← extensionsOfTree? extensions }
  | _ => none

end Project

namespace Config

/-- The projects that a tree describes, by their names. -/
def projectsOfTree? : Tree → Option (NameMap Project)
  | .mapping entries => do
      let named ← entries.mapM namedPair?
      let projects ← named.mapM fun e => return (e.1, ← Project.ofTree? e.2)
      return .ofList projects
  | _ => none

/-- The configuration of several projects that a tree stands for. -/
def multiOfTree? : Tree → Option Config
  | .mapping entries => do
      let found ← fieldsOf? ["projects"] entries
      return .multi (← projectsOfTree? (← found.lookup "projects"))
  | _ => none

/-- The configuration that a tree stands for. -/
def ofTree? (tree : Tree) : Option Config :=
  (multiOfTree? tree).or ((Project.ofTree? tree).map .single)

end Config

/-! ### Writing -/

/-- A location as a value. -/
def SchemaLocation.toValue : SchemaLocation → Value
  | .path pattern => .string pattern
  | .paths patterns => .list (patterns.map .string)

/-- A project as a value. -/
def Project.toValue (project : Project) : Value :=
  .object (("schema", project.schema.toValue) ::
    project.extensions.toList.map fun extensions => ("extensions", .object extensions.entries))

/-- A configuration as a value. -/
def Config.toValue : Config → Value
  | .single project => project.toValue
  | .multi projects =>
      .object [("projects", .object (projects.entries.map fun e => (e.1, e.2.toValue)))]

end ResolverTypes
