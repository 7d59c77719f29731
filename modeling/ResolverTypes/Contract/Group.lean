import ResolverTypes.Contract.Abstract

/-!
# Groups of contracts

The declarations made for each object, interface and union.

## Main definitions

* `inputDeclaration` : the declaration of an input.
* `objectGroup`, `interfaceGroup`, `unionGroup` : the group of a type.
-/

namespace ResolverTypes

open TypeScript

variable (graph : SchemaGraph) (options : Options)

/-- The declaration of an input. -/
def inputDeclaration (input : InputDef) : Declaration :=
  .interface input.name <| input.fields.map fun field =>
    ⟨field.name, false, field.type.valueType options⟩

/-- The default resolvers of an object that has a model and is no root: one for each field without
arguments, if there is any. -/
def defaultResolvers? (object : ObjectDef) : Option Declaration :=
  if graph.roots.contains object.name then none
  else
    match options.models.get? object.name with
    | none => none
    | some model =>
        match (object.fields.filter (·.arguments.isEmpty)).map (·.name) with
        | [] => none
        | fields => some (.defaultResolvers (.named model) fields)

/-- The declarations of the inputs that an object's arguments name, or the first name among them
that the registry lacks. -/
def groupInputs (object : ObjectDef) : Except String (List Declaration) :=
  object.argumentInputs.mapM fun name =>
    match graph.inputRegistry.get? name with
    | some input => .ok (inputDeclaration options input)
    | none => .error name

/-- The contract of an object: a member for each field, and `__isTypeOf`. -/
def objectContract (object : ObjectDef) : Declaration :=
  .interface contractName <|
    object.fields.map (fun field => ⟨field.name, false, .named (aliasName field.name)⟩) ++
      (isTypeOfMember? graph options object).toList

/-- The group of an object, or the name of an input that the registry lacks. -/
def objectGroup (object : ObjectDef) : Except String Group := do
  let inputs ← groupInputs graph options object
  return {
    typeName := object.name
    declarations :=
      (if options.defaultResolvers then (defaultResolvers? graph options object).toList else []) ++
        inputs ++ object.fields.filterMap (argsRecord? options) ++
        object.fields.map (fieldAlias graph options (.object object)) ++
        [objectContract graph options object] }

/-- The group of an interface. -/
def interfaceGroup (interface : InterfaceDef) : Group where
  typeName := interface.name
  declarations :=
    interface.fields.filterMap (argsRecord? options) ++
      [.interface contractName [resolveTypeMember graph options interface.name false]]

/-- The group of a union. -/
def unionGroup (union : UnionDef) : Group where
  typeName := union.name
  declarations := [.interface contractName [resolveTypeMember graph options union.name true]]

end ResolverTypes
