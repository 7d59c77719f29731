import ResolverTypes.Graph.Relations
import ResolverTypes.Contract.ValueType
import ResolverTypes.Text.UpperCase
import ResolverTypes.TypeScript.Declaration

/-!
# Contracts of fields

A field's contract is the type of what resolves it: a function of the parent value, the arguments,
the context and the request's information, or a record of such a function with a fragment.  A field
of the subscription root has a record of a function that subscribes and one that resolves an event.

## Main definitions

* `argsRecordName`, `aliasName` : the names declared for a field.
* `Owner` : the object or interface that a field belongs to.
* `argsRecord?` : the declaration of a field's arguments.
* `fieldContract` : the contract of a field.
-/

namespace ResolverTypes

open TypeScript

/-- The name of the type that carries the information on a request. -/
def infoType : String := "GraphQLResolveInfo"

/-- The name of the record of a field's arguments. -/
def argsRecordName (fieldName : String) : String := "Args" ++ Text.capitalize fieldName

/-- The name of the alias of a field's contract. -/
def aliasName (fieldName : String) : String := Text.capitalize fieldName ++ "Resolver"

/-- The type that a field belongs to. -/
inductive Owner where
  /-- The field belongs to an object. -/
  | object (definition : ObjectDef)
  /-- The field belongs to an interface. -/
  | interface (definition : InterfaceDef)

/-- The name of the type that a field belongs to. -/
def Owner.name : Owner → String
  | .object definition => definition.name
  | .interface definition => definition.name

/-- Whether fields of the owner are subscribed to. -/
def Owner.isSubscription : Owner → Bool
  | .object definition => definition.isSubscription
  | .interface _ => false

variable (graph : SchemaGraph) (options : Options)

/-- The type of the parent value of an owner's fields: the bound model, or `undefined`. -/
def parentType : Owner → TypeExpr
  | .object definition => options.models.modelOr definition.name .undefined
  | .interface definition =>
      .unionOf <| (graph.implementors definition.name).map fun o =>
        options.models.modelOr o.name .undefined

/-- The type of a field's arguments: a named record, or the empty record for none. -/
def argsType (field : FieldDef) : TypeExpr :=
  if field.arguments.isEmpty then .emptyRecord else .named (argsRecordName field.name)

/-- The declaration of the record of a field's arguments, if there are any. -/
def argsRecord? (field : FieldDef) : Option Declaration :=
  if field.arguments.isEmpty then none
  else
    some <| .interface (argsRecordName field.name) <| field.arguments.map fun argument =>
      ⟨argument.name, false, argument.type.valueType options⟩

/-- The parameters of a function that resolves a field. -/
def resolverParameters (parent args : TypeExpr) : List (Parameter TypeExpr) :=
  [⟨"parent", parent⟩, ⟨"args", args⟩, ⟨"context", options.context⟩, ⟨"info", .named infoType⟩]

/-- A function that resolves a field, or a record of it with a fragment. -/
def delegatingContract (function : TypeExpr) : TypeExpr :=
  .unionOf [function, .object [⟨"fragment", false, .string⟩, ⟨"resolve", false, function⟩]]

/-- The contract of a field of the subscription root. -/
def subscriptionContract (parameters : List (Parameter TypeExpr)) (field : FieldDef) : TypeExpr :=
  let event := field.type.valueType options
  .object
    [⟨"subscribe", false, .function parameters (.deferred (.asyncIterator event))⟩,
      ⟨"resolve", true, .function parameters (.deferred event)⟩]

/-- The contract of a field. -/
def fieldContract (owner : Owner) (field : FieldDef) : TypeExpr :=
  let parameters := resolverParameters options (parentType graph options owner) (argsType field)
  if owner.isSubscription then subscriptionContract options parameters field
  else delegatingContract (.function parameters (field.type.resultType options))

/-- The alias that declares a field's contract. -/
def fieldAlias (owner : Owner) (field : FieldDef) : Declaration :=
  .typeAlias (aliasName field.name) (fieldContract graph options owner field)

end ResolverTypes
