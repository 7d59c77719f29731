import ResolverTypes.Graph.Basic
import ResolverTypes.Schema.Basic

/-!
# The graph of a schema

The graph is read off a schema type by type.  A reference to a type that the schema does not define
stops the reading; names that are not references of fields, such as the members of a union, are
taken as they are.

## Main definitions

* `UnknownType` : a reference that leads nowhere.
* `Schema.typeRef` : the reference that a type stands for.
* `SchemaGraph.ofSchema` : the graph of a schema.

## Main results

* `Schema.spelling_typeRef` : a reference is spelt like the type it is read from.
-/

namespace ResolverTypes

open Schema

/-- A reference to a type that the schema does not define. -/
structure UnknownType where
  /-- The name that the reference uses. -/
  name : String
  /-- The definition that holds the reference. -/
  referencedBy : String
deriving DecidableEq, Repr, Inhabited

/-- The text of the error. -/
def UnknownType.message (error : UnknownType) : String :=
  "type `" ++ error.name ++ "` referenced by `" ++ error.referencedBy ++ "` is not defined"

/-- The kind of a type. -/
def Schema.TypeBody.kind : TypeBody → Kind
  | .scalar => .scalar
  | .object .. => .object
  | .interface .. => .interface
  | .union _ => .union
  | .enum _ => .enum
  | .input _ => .input

namespace Schema

variable (schema : Schema)

/-! ### References -/

/-- The named type that a name stands for. -/
def namedType (referencedBy name : String) : Except UnknownType NamedType :=
  match schema.type? name with
  | some type => .ok ⟨type.body.kind, name⟩
  | none => .error ⟨name, referencedBy⟩

/-- A reference as it is without an exclamation mark. -/
def nullableUnless (nonNull : Bool) (type : TypeRef) : TypeRef :=
  if nonNull then type else .nullable type

/-- The reference that a type stands for. -/
def typeRef (referencedBy : String) : TypeSyntax → Except UnknownType TypeRef
  | .named name nonNull => do
      return nullableUnless nonNull (.named (← schema.namedType referencedBy name.value))
  | .list item nonNull => do
      return nullableUnless nonNull (.list (← typeRef referencedBy item))

theorem spelling_nullableUnless (nonNull : Bool) (type : TypeRef) (h : type.isNullable = false) :
    (nullableUnless nonNull type).spelling = type.bareSpelling ++ if nonNull then "!" else "" := by
  cases nonNull <;> cases type <;>
    simp_all [nullableUnless, TypeRef.spelling, TypeRef.bareSpelling, TypeRef.isNullable,
      String.append_assoc]

/-- A reference is spelt like the type it is read from. -/
theorem spelling_typeRef {referencedBy : String} {type : TypeSyntax} {ref : TypeRef}
    (h : schema.typeRef referencedBy type = .ok ref) : ref.spelling = type.spelling := by
  induction type generalizing ref with
  | named name nonNull =>
      rw [typeRef] at h
      simp only [namedType] at h
      split at h
      · obtain rfl := Except.ok.inj h
        rw [spelling_nullableUnless _ _ rfl]
        rfl
      · cases h
  | list item nonNull ih =>
      rw [typeRef] at h
      cases hi : schema.typeRef referencedBy item with
      | error e => rw [hi] at h; cases h
      | ok inner =>
          rw [hi] at h
          obtain rfl := Except.ok.inj h
          rw [spelling_nullableUnless _ _ rfl]
          simp only [TypeRef.bareSpelling, TypeSyntax.spelling, ih hi]

/-! ### Definitions -/

/-- The argument that a value of a field's definition stands for. -/
def argumentDef (referencedBy : String) (value : InputValue) : Except UnknownType ArgumentDef := do
  return ⟨value.name.value, ← schema.typeRef referencedBy value.type⟩

/-- The field of an owner that a field's definition stands for; arguments are read first. -/
def fieldDef (owner : String) (field : Field) : Except UnknownType FieldDef := do
  let referencedBy := owner ++ "." ++ field.name.value
  let arguments ← field.arguments.mapM (schema.argumentDef referencedBy)
  return ⟨field.name.value, ← schema.typeRef referencedBy field.type, arguments⟩

/-- The field of an input that a value of its definition stands for. -/
def inputFieldDef (owner : String) (value : InputValue) : Except UnknownType InputFieldDef := do
  return ⟨value.name.value, ← schema.typeRef owner value.type⟩

/-- The roots of a schema. -/
def rootTypes : RootTypes where
  query := (schema.root? .query).map (·.value)
  mutation := (schema.root? .mutation).map (·.value)
  subscription := (schema.root? .subscription).map (·.value)

/-- A graph with a type of the schema added. -/
def addToGraph (graph : SchemaGraph) (type : TypeDefinition) :
    Except UnknownType SchemaGraph := do
  let name := type.name.value
  match type.body with
  | .scalar => return graph
  | .object implemented fields =>
      let object : ObjectDef :=
        ⟨name, ← fields.mapM (schema.fieldDef name), implemented.map (·.value),
          schema.rootTypes.subscription == some name⟩
      return { graph with objects := graph.objects ++ [object] }
  | .interface _ fields =>
      let interface : InterfaceDef := ⟨name, ← fields.mapM (schema.fieldDef name)⟩
      return { graph with interfaces := graph.interfaces ++ [interface] }
  | .union members =>
      return { graph with unions := graph.unions ++ [⟨name, members.map (·.value)⟩] }
  | .enum values =>
      return { graph with enums := graph.enums ++ [⟨name, values.map (·.name.value)⟩] }
  | .input fields =>
      let input : InputDef := ⟨name, ← fields.mapM (schema.inputFieldDef name)⟩
      return { graph with inputs := graph.inputs ++ [input] }

end Schema

/-- The graph of a schema; built-in types are left out. -/
def SchemaGraph.ofSchema (schema : Schema) : Except UnknownType SchemaGraph :=
  (schema.types.filter (!·.isBuiltIn)).foldlM schema.addToGraph { roots := schema.rootTypes }

end ResolverTypes
