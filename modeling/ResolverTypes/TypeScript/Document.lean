import ResolverTypes.TypeScript.Render

/-!
# Documents

A generated module: its imports, the enums and inputs shared by all groups, the groups, and the
aggregate of their contracts.

## Main definitions

* `Import`, `Document` : an import and a module.
* `Document.moduleNames` : the names that stand at the level of the module.
* `Document.render` : the text of a module.
-/

namespace ResolverTypes.TypeScript

/-- An import of names from a module. -/
structure Import where
  /-- The imported names. -/
  names : List String
  /-- The module. -/
  module : String
deriving DecidableEq, Inhabited

/-- The text of an import. -/
def Import.render (imported : Import) : String :=
  "import \x7b " ++ ", ".intercalate imported.names ++ " \x7d from \"" ++ imported.module ++ "\";"

/-- A generated module. -/
structure Document where
  /-- The imports. -/
  imports : List Import
  /-- The aliases of enums. -/
  enums : List Declaration
  /-- The inputs that several groups refer to. -/
  sharedInputs : List Declaration
  /-- The groups. -/
  groups : List Group
  /-- The interface that collects the contracts of all groups. -/
  aggregate : Declaration
deriving DecidableEq, Inhabited

namespace Document

/-- The group of a schema type. -/
def group? (document : Document) (typeName : String) : Option Group :=
  document.groups.find? (·.typeName == typeName)

/-- The members of the aggregate. -/
def aggregateMembers (document : Document) : List (Member TypeExpr) :=
  match document.aggregate with
  | .interface _ members => members
  | _ => []

/-- The names that stand at the level of the module, imported or declared. -/
def moduleNames (document : Document) : List String :=
  document.imports.flatMap (·.names) ++
    (document.enums ++ document.sharedInputs).map (·.name) ++
    document.groups.map (·.namespaceName) ++ [document.aggregate.name]

/-- The line that says where the module comes from. -/
def banner : String := "// Code generated by graphql-codegen. DO NOT EDIT."

/-- The text of a module. -/
def render (document : Document) : String :=
  banner ++ "\n" ++
    String.join (document.imports.map fun i => i.render ++ "\n") ++
    String.join ((document.enums ++ document.sharedInputs).map fun d => "\n" ++ d.render 0) ++
    String.join (document.groups.map fun g => "\n" ++ g.render) ++
    "\n" ++ document.aggregate.render 0

end Document

end ResolverTypes.TypeScript
