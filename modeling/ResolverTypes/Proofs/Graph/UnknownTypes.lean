import ResolverTypes.Proofs.Graph.Representation

/-!
# References that lead nowhere

Every definition mentions types, and it mentions them in an order: a field those of its arguments
before its own, an object, interface or input those of its fields one field after the other.  A
graph is read off a schema in this order, so that reading stops at the first type that is mentioned
and not defined.  Nothing else stops it: the members of unions, the interfaces that are implemented
and the roots are names only, whatever they name.

## Main definitions

* `Field.uses`, `TypeDefinition.uses`, `Schema.uses` : the types that are mentioned, in order.
* `Schema.firstUnknown?` : the first of some mentioned types that is not defined.
* `Schema.withNames` : a schema with other members, interfaces and roots.

## Main results

* `failure?_ofSchema` : reading a graph fails with the first mentioned type that is not defined.
* `ofSchema_eq_error_iff` : when a schema has no graph, and what is reported.
-/

namespace ResolverTypes

open Schema

/-! ### Mentioned types -/

namespace Schema

/-- The types that a field mentions, each as it is reported if it is not defined: those of the
arguments, then that of the field. -/
def Field.uses (owner : String) (field : Field) : List UnknownType :=
  field.arguments.map (⟨·.type.innerName.value, owner ++ "." ++ field.name.value⟩) ++
    [⟨field.type.innerName.value, owner ++ "." ++ field.name.value⟩]

/-- The types that a type mentions in its fields, each as it is reported if it is not defined. -/
def TypeDefinition.uses (type : TypeDefinition) : List UnknownType :=
  match type.body with
  | .object _ fields | .interface _ fields => fields.flatMap (·.uses type.name.value)
  | .input fields => fields.map (⟨·.type.innerName.value, type.name.value⟩)
  | .scalar | .union _ | .enum _ => []

variable (schema : Schema)

/-- The types that a schema mentions outside of what is built in, in the order of its types. -/
def uses : List UnknownType := schema.ownTypes.flatMap (·.uses)

/-- The first of some mentioned types that the schema does not define. -/
def firstUnknown? (uses : List UnknownType) : Option UnknownType :=
  uses.find? fun use => (schema.type? use.name).isNone

theorem firstUnknown?_append (uses others : List UnknownType) :
    schema.firstUnknown? (uses ++ others) =
      (schema.firstUnknown? uses).or (schema.firstUnknown? others) :=
  List.find?_append

theorem firstUnknown?_flatMap {α : Type} (items : List α) (usesOf : α → List UnknownType) :
    schema.firstUnknown? (items.flatMap usesOf) =
      items.findSome? fun item => schema.firstUnknown? (usesOf item) :=
  List.find?_flatMap

theorem firstUnknown?_map {α : Type} (items : List α) (useOf : α → UnknownType) :
    schema.firstUnknown? (items.map useOf) =
      items.findSome? fun item => schema.firstUnknown? [useOf item] := by
  rw [List.map_eq_flatMap, firstUnknown?_flatMap]

theorem firstUnknown?_eq_some_iff {uses : List UnknownType} {error : UnknownType} :
    schema.firstUnknown? uses = some error ↔
      ∃ before after, uses = before ++ error :: after ∧
        (∀ use ∈ before, schema.type? use.name ≠ none) ∧
        schema.type? error.name = none := by
  simp only [firstUnknown?, List.find?_eq_some_iff_append, Bool.not_eq_true',
    Option.isNone_iff_eq_none, Option.isNone_eq_false_iff, Option.isSome_iff_ne_none]
  constructor
  · rintro ⟨hnone, before, after, heq, hbefore⟩
    exact ⟨before, after, heq, hbefore, hnone⟩
  · rintro ⟨before, after, heq, hbefore, hnone⟩
    exact ⟨hnone, before, after, heq, hbefore⟩

/-! ### How reading fails -/

theorem failure?_namedType (referencedBy name : String) :
    failure? (schema.namedType referencedBy name) =
      schema.firstUnknown? [⟨name, referencedBy⟩] := by
  cases hd : schema.type? name with
  | none => simp [namedType, hd, failure?, firstUnknown?]
  | some definition => simp [namedType, hd, failure?, firstUnknown?]

theorem failure?_typeRef (referencedBy : String) (type : TypeSyntax) :
    failure? (schema.typeRef referencedBy type) =
      schema.firstUnknown? [⟨type.innerName.value, referencedBy⟩] := by
  induction type with
  | named name nonNull =>
      rw [typeRef, failure?_bind_pure]
      exact schema.failure?_namedType referencedBy name.value
  | list item nonNull ih =>
      rw [typeRef, failure?_bind_pure]
      exact ih

theorem failure?_argumentDef (referencedBy : String) (value : InputValue) :
    failure? (schema.argumentDef referencedBy value) =
      schema.firstUnknown? [⟨value.type.innerName.value, referencedBy⟩] := by
  rw [argumentDef, failure?_bind_pure, failure?_typeRef]

theorem failure?_inputFieldDef (owner : String) (value : InputValue) :
    failure? (schema.inputFieldDef owner value) =
      schema.firstUnknown? [⟨value.type.innerName.value, owner⟩] := by
  rw [inputFieldDef, failure?_bind_pure, failure?_typeRef]

/-- Of a field, the types of the arguments are read before its own. -/
theorem failure?_fieldDef (owner : String) (field : Field) :
    failure? (schema.fieldDef owner field) = schema.firstUnknown? (field.uses owner) := by
  rw [fieldDef, failure?_bind fun _ => failure?_bind_pure, failure?_mapM, failure?_typeRef,
    Field.uses, firstUnknown?_append, firstUnknown?_map]
  simp only [failure?_argumentDef]

/-- Whatever has been read before, a type is read as far as what it mentions is defined. -/
theorem failure?_addToGraph (graph : SchemaGraph) (type : TypeDefinition) :
    failure? (schema.addToGraph graph type) = schema.firstUnknown? type.uses := by
  have hfields (fields : List Field) :
      failure? (fields.mapM (schema.fieldDef type.name.value)) =
        schema.firstUnknown? (fields.flatMap (·.uses type.name.value)) := by
    rw [failure?_mapM, firstUnknown?_flatMap]
    simp only [failure?_fieldDef]
  have hinputFields (fields : List InputValue) :
      failure? (fields.mapM (schema.inputFieldDef type.name.value)) =
        schema.firstUnknown? (fields.map (⟨·.type.innerName.value, type.name.value⟩)) := by
    rw [failure?_mapM, firstUnknown?_map]
    simp only [failure?_inputFieldDef]
  rw [addToGraph, TypeDefinition.uses]
  dsimp only
  cases type.body with
  | scalar => rfl
  | object implemented fields =>
      exact failure?_bind_pure.trans (hfields fields)
  | interface implemented fields =>
      exact failure?_bind_pure.trans (hfields fields)
  | union members => rfl
  | enum values => rfl
  | input fields =>
      exact failure?_bind_pure.trans (hinputFields fields)

end Schema

/-- Reading a graph fails with the first mentioned type that the schema does not define. -/
theorem failure?_ofSchema (schema : Schema) :
    failure? (SchemaGraph.ofSchema schema) = schema.firstUnknown? schema.uses := by
  rw [SchemaGraph.ofSchema, failure?_foldlM fun graph type => schema.failure?_addToGraph graph type,
    uses, firstUnknown?_flatMap]
  rfl

/-! ### Names that are no references -/

namespace Schema

/-- A type with other names as the members of a union, or as the interfaces that are implemented. -/
def TypeDefinition.withNames (names : List Name) (type : TypeDefinition) : TypeDefinition :=
  { type with
    body :=
      match type.body with
      | .object _ fields => .object names fields
      | .interface _ fields => .interface names fields
      | .union _ => .union names
      | body => body }

/-- A schema with other members of its unions, other interfaces that its types implement, and other
roots. -/
def withNames (schema : Schema) (namesOf : TypeDefinition → List Name) (roots : List RootClause) :
    Schema :=
  { schema with
    clause := { schema.clause with roots }
    types := schema.types.map fun type => type.withNames (namesOf type) }

theorem uses_typeWithNames (names : List Name) (type : TypeDefinition) :
    (type.withNames names).uses = type.uses := by
  unfold TypeDefinition.uses TypeDefinition.withNames
  cases type.body <;> rfl

variable (schema : Schema) (namesOf : TypeDefinition → List Name) (roots : List RootClause)

theorem isNone_type?_withNames (name : String) :
    ((schema.withNames namesOf roots).type? name).isNone = (schema.type? name).isNone := by
  rw [type?, withNames, List.find?_map, Option.isNone_map]
  rfl

theorem uses_withNames : (schema.withNames namesOf roots).uses = schema.uses := by
  rw [Schema.uses, Schema.uses, ownTypes, withNames, List.filter_map, List.flatMap_map]
  simp only [uses_typeWithNames]
  rfl

theorem failure?_ofSchema_withNames :
    failure? (SchemaGraph.ofSchema (schema.withNames namesOf roots)) =
      failure? (SchemaGraph.ofSchema schema) := by
  simp only [failure?_ofSchema, uses_withNames, firstUnknown?, isNone_type?_withNames]

end Schema

/-- A schema, be it valid or not, has no graph exactly when a type is mentioned in it that it does
not define.  What is reported is the first such type, with the field or input that mentions it; and
it is the same whatever the members of unions, the implemented interfaces and the roots are. -/
theorem ofSchema_eq_error_iff (schema : Schema) :
    ((∃ error, SchemaGraph.ofSchema schema = .error error) ↔
      ∃ use ∈ schema.uses, schema.type? use.name = none) ∧
    ∀ error,
      (SchemaGraph.ofSchema schema = .error error ↔
        ∃ before after, schema.uses = before ++ error :: after ∧
          (∀ use ∈ before, schema.type? use.name ≠ none) ∧
          schema.type? error.name = none) ∧
      ∀ namesOf roots, SchemaGraph.ofSchema (schema.withNames namesOf roots) = .error error ↔
        SchemaGraph.ofSchema schema = .error error := by
  refine ⟨?_, fun error => ⟨?_, fun namesOf roots => ?_⟩⟩
  · simp only [← failure?_eq_some_iff, failure?_ofSchema]
    rw [← Option.isSome_iff_exists, firstUnknown?, List.find?_isSome]
    simp only [Option.isNone_iff_eq_none]
  · rw [← failure?_eq_some_iff, failure?_ofSchema, firstUnknown?_eq_some_iff]
  · rw [← failure?_eq_some_iff, ← failure?_eq_some_iff, failure?_ofSchema_withNames]

/-- The type of an argument is reported before that of its field, and neither the missing root nor
the missing member of the union is. -/
example : ((mergeSources [⟨"schema.graphql",
    "union Any = Lost schema { query: Gone } type Page { body(of: [Part!]): Text }"⟩]).toOption.map
      fun schema => failure? (SchemaGraph.ofSchema schema)) =
    some (some ⟨"Part", "Page.body"⟩) := by
  decide +kernel

end ResolverTypes
