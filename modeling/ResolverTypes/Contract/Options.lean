import ResolverTypes.Data.NameMap
import ResolverTypes.TypeScript.TypeExpr

/-!
# Options of generation

What a project says about the types that its resolvers work with: the model that stands for the
values of a schema type, the type of the context, and the types of its own scalars.

## Main definitions

* `ModelBinding` : the models bound to schema types.
* `Options` : all options.
* `Options.scalarType` : the type of a scalar's values.
-/

namespace ResolverTypes

open TypeScript

/-- The models bound to schema types, by the name of the type. -/
abbrev ModelBinding := NameMap String

/-- The model of a type's values, or another type if none is bound. -/
def ModelBinding.modelOr (models : ModelBinding) (typeName : String) (fallback : TypeExpr) :
    TypeExpr :=
  match models.get? typeName with
  | some model => .named model
  | none => fallback

/-- What a project says about the types that its resolvers work with. -/
structure Options where
  /-- The models bound to schema types. -/
  models : ModelBinding := ∅
  /-- The module that the models are imported from. -/
  modelsModule : Option String := none
  /-- The type of the context that resolvers receive. -/
  contextType : Option String := none
  /-- The module that the context type is imported from. -/
  contextModule : Option String := none
  /-- Whether groups of types with a model declare default resolvers. -/
  defaultResolvers : Bool := false
  /-- The types of custom scalars. -/
  scalars : NameMap String := ∅
  /-- Whether the generated text is laid out anew. -/
  format : Bool := true
deriving DecidableEq, Inhabited

namespace Options

/-- The type of the context that resolvers receive. -/
def context (options : Options) : TypeExpr :=
  match options.contextType with
  | some name => .named name
  | none => .any

/-- The type of the values of a scalar: a type of the language for each built-in scalar, and the
configured type, or `any`, for another. -/
def scalarType (options : Options) (name : String) : TypeExpr :=
  if name = "ID" ∨ name = "String" then .string
  else if name = "Int" ∨ name = "Float" then .number
  else if name = "Boolean" then .boolean
  else
    match options.scalars.get? name with
    | some type => .named type
    | none => .any

end Options

end ResolverTypes
