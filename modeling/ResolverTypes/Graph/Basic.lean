import ResolverTypes.Graph.TypeRef

/-!
# The schema graph

The definitions of a schema that contracts are made for, by kind and in the order of their
definition, with every reference tagged by the kind of the type it names.

## Main definitions

* `SchemaGraph` : the graph.
* `SchemaGraph.object?` and its companions : look-up of a definition by its name.
* `SchemaGraph.resolvableTypeNames` : the types whose values are resolved field by field.
-/

namespace ResolverTypes

/-- An argument of a field. -/
structure ArgumentDef where
  /-- The name of the argument. -/
  name : String
  /-- The type of the values it takes. -/
  type : TypeRef
deriving DecidableEq, Inhabited

/-- A field of an object or interface. -/
structure FieldDef where
  /-- The name of the field. -/
  name : String
  /-- The type of the field's value. -/
  type : TypeRef
  /-- The arguments, in order. -/
  arguments : List ArgumentDef
deriving DecidableEq, Inhabited

/-- A field of an input. -/
structure InputFieldDef where
  /-- The name of the field. -/
  name : String
  /-- The type of the field's value. -/
  type : TypeRef
deriving DecidableEq, Inhabited

/-- An object type. -/
structure ObjectDef where
  /-- The name of the type. -/
  name : String
  /-- The fields, in order. -/
  fields : List FieldDef
  /-- The interfaces the type declares to implement, in order. -/
  implements : List String
  /-- Whether the type is the root of subscriptions. -/
  isSubscription : Bool
deriving DecidableEq, Inhabited

/-- An interface type. -/
structure InterfaceDef where
  /-- The name of the type. -/
  name : String
  /-- The fields, in order. -/
  fields : List FieldDef
deriving DecidableEq, Inhabited

/-- A union type. -/
structure UnionDef where
  /-- The name of the type. -/
  name : String
  /-- The names of the members, in order. -/
  members : List String
deriving DecidableEq, Inhabited

/-- An input type. -/
structure InputDef where
  /-- The name of the type. -/
  name : String
  /-- The fields, in order. -/
  fields : List InputFieldDef
deriving DecidableEq, Inhabited

/-- An enum type. -/
structure EnumDef where
  /-- The name of the type. -/
  name : String
  /-- The values, in order. -/
  values : List String
deriving DecidableEq, Inhabited

/-- The types at which operations start. -/
structure RootTypes where
  /-- The root of queries. -/
  query : Option String := none
  /-- The root of mutations. -/
  mutation : Option String := none
  /-- The root of subscriptions. -/
  subscription : Option String := none
deriving DecidableEq, Inhabited

/-- Whether a type is one of the roots. -/
def RootTypes.contains (roots : RootTypes) (name : String) : Bool :=
  [roots.query, roots.mutation, roots.subscription].contains (some name)

/-- The definitions of a schema. -/
structure SchemaGraph where
  /-- The object types. -/
  objects : List ObjectDef := []
  /-- The interface types. -/
  interfaces : List InterfaceDef := []
  /-- The union types. -/
  unions : List UnionDef := []
  /-- The input types. -/
  inputs : List InputDef := []
  /-- The enum types. -/
  enums : List EnumDef := []
  /-- The roots of operations. -/
  roots : RootTypes := {}
deriving DecidableEq, Inhabited

namespace SchemaGraph

variable (graph : SchemaGraph) (name : String)

/-- The object type of a name. -/
def object? : Option ObjectDef := graph.objects.find? (·.name == name)

/-- The interface type of a name. -/
def interface? : Option InterfaceDef := graph.interfaces.find? (·.name == name)

/-- The union type of a name. -/
def union? : Option UnionDef := graph.unions.find? (·.name == name)

/-- The input type of a name. -/
def input? : Option InputDef := graph.inputs.find? (·.name == name)

/-- The enum type of a name. -/
def enum? : Option EnumDef := graph.enums.find? (·.name == name)

/-- The names of the types whose values are resolved field by field: objects, then interfaces, then
unions, each in the order of their definition. -/
def resolvableTypeNames : List String :=
  graph.objects.map (·.name) ++ graph.interfaces.map (·.name) ++ graph.unions.map (·.name)

end SchemaGraph

end ResolverTypes
