import ResolverTypes.Proofs.Graph.References

/-!
# What a graph keeps of its schema

A graph holds each definition of its schema once, among those of its kind and in the order of the
schema, and of a definition all parts in their order.  The look-up of a kind finds a name exactly
when the schema defines the name as that kind, so that a reference is found by the look-up of its
tag and by no other.  Only the types that are built in and the scalars are left out, and of an
interface the interfaces that it implements itself.

## Main definitions

* `Schema.Refers` : a reference is what a type as written stands for.
* `Schema.KeepsField` : a field of a graph is what a field as written stands for.
* `SchemaGraph.Finds` : the look-up of a kind finds a name.
* `SchemaGraph.Represents` : a graph keeps what its schema defines.

## Main results

* `typeRef_eq_ok_iff` : the reference that is read off a type is what the type stands for.
* `represents_of_ofSchema` : the graph of a schema keeps what the schema defines.
* `not_exists_implementedOf` : the interfaces that an interface implements are not kept.
-/

namespace ResolverTypes

open Schema

/-! ### References -/

namespace Schema

variable (schema : Schema)

/-- A reference is what a type as written stands for: it names the same type, with the kind that
the name has in the schema, under the same lists, and allows null wherever there is no exclamation
mark. -/
inductive Refers : TypeSyntax → TypeRef → Prop where
  | named {name : Name} {definition : TypeDefinition} :
      schema.type? name.value = some definition →
      Refers (.named name true) (.named ⟨definition.body.kind, name.value⟩)
  | nullableNamed {name : Name} {definition : TypeDefinition} :
      schema.type? name.value = some definition →
      Refers (.named name false) (.nullable (.named ⟨definition.body.kind, name.value⟩))
  | list {item : TypeSyntax} {ref : TypeRef} : Refers item ref →
      Refers (.list item true) (.list ref)
  | nullableList {item : TypeSyntax} {ref : TypeRef} : Refers item ref →
      Refers (.list item false) (.nullable (.list ref))

/-- The name and type of an argument or input field are those of a value as written. -/
def KeepsValue (value : InputValue) (name : String) (type : TypeRef) : Prop :=
  name = value.name.value ∧ schema.Refers value.type type

/-- A field of a graph is what a field as written stands for, with its arguments in order. -/
structure KeepsField (field : Field) (result : FieldDef) : Prop where
  name_eq : result.name = field.name.value
  type : schema.Refers field.type result.type
  arguments : List.Forall₂
    (fun value argument => schema.KeepsValue value argument.name argument.type)
    field.arguments result.arguments

/-- The types of a schema that are not built in. -/
def ownTypes : List TypeDefinition := schema.types.filter (!·.isBuiltIn)

variable {schema}

theorem namedType_eq_ok_iff {referencedBy name : String} {type : NamedType} :
    schema.namedType referencedBy name = .ok type ↔
      ∃ definition, schema.type? name = some definition ∧ type = ⟨definition.body.kind, name⟩ := by
  cases hd : schema.type? name with
  | none => simp [namedType, hd]
  | some definition => simp [namedType, hd, eq_comm]

/-- The reference that is read off a type is what the type stands for. -/
theorem typeRef_eq_ok_iff {referencedBy : String} {type : TypeSyntax} {ref : TypeRef} :
    schema.typeRef referencedBy type = .ok ref ↔ schema.Refers type ref := by
  induction type generalizing ref with
  | named name nonNull =>
      rw [typeRef, bind_eq_ok_iff]
      simp only [namedType_eq_ok_iff]
      constructor
      · rintro ⟨_, ⟨definition, hd, rfl⟩, h⟩
        obtain rfl := Except.ok.inj h
        cases nonNull
        · exact .nullableNamed hd
        · exact .named hd
      · intro h
        cases h with
        | named hd => exact ⟨_, ⟨_, hd, rfl⟩, rfl⟩
        | nullableNamed hd => exact ⟨_, ⟨_, hd, rfl⟩, rfl⟩
  | list item nonNull ih =>
      rw [typeRef, bind_eq_ok_iff]
      simp only [ih]
      constructor
      · rintro ⟨inner, hi, h⟩
        obtain rfl := Except.ok.inj h
        cases nonNull
        · exact .nullableList hi
        · exact .list hi
      · intro h
        cases h with
        | list hi => exact ⟨_, hi, rfl⟩
        | nullableList hi => exact ⟨_, hi, rfl⟩

/-! ### Parts of definitions -/

theorem keepsField_of_fieldDef {owner : String} {field : Field} {result : FieldDef}
    (h : schema.fieldDef owner field = .ok result) : schema.KeepsField field result := by
  obtain ⟨hname, harguments, htype⟩ := fieldDef_eq_ok_iff.mp h
  refine ⟨hname, typeRef_eq_ok_iff.mp htype, harguments.imp fun value argument ha => ?_⟩
  obtain ⟨hname, htype⟩ := argumentDef_eq_ok_iff.mp ha
  exact ⟨hname, typeRef_eq_ok_iff.mp htype⟩

theorem keepsValue_of_inputFieldDef {owner : String} {value : InputValue} {field : InputFieldDef}
    (h : schema.inputFieldDef owner value = .ok field) :
    schema.KeepsValue value field.name field.type := by
  obtain ⟨hname, htype⟩ := inputFieldDef_eq_ok_iff.mp h
  exact ⟨hname, typeRef_eq_ok_iff.mp htype⟩

end Schema

/-! ### Definitions -/

variable (schema : Schema)

/-- An object of a graph is what a type stands for. -/
structure KeepsObject (type : TypeDefinition) (object : ObjectDef) : Prop where
  name_eq : object.name = type.name.value
  body_eq : ∃ implemented fields, type.body = .object implemented fields ∧
    object.implements = implemented.map (·.value) ∧
    List.Forall₂ schema.KeepsField fields object.fields

/-- An interface of a graph is what a type stands for, apart from what the type implements. -/
structure KeepsInterface (type : TypeDefinition) (interface : InterfaceDef) : Prop where
  name_eq : interface.name = type.name.value
  body_eq : ∃ implemented fields, type.body = .interface implemented fields ∧
    List.Forall₂ schema.KeepsField fields interface.fields

/-- An input of a graph is what a type stands for. -/
structure KeepsInput (type : TypeDefinition) (input : InputDef) : Prop where
  name_eq : input.name = type.name.value
  body_eq : ∃ fields, type.body = .input fields ∧
    List.Forall₂ (fun value field => schema.KeepsValue value field.name field.type) fields
      input.fields

namespace SchemaGraph

/-- The look-up of a kind finds a name; there is none for scalars. -/
def Finds (graph : SchemaGraph) (name : String) : Kind → Prop
  | .scalar => False
  | .object => ∃ object, graph.object? name = some object
  | .interface => ∃ interface, graph.interface? name = some interface
  | .union => ∃ union, graph.union? name = some union
  | .enum => ∃ enum, graph.enum? name = some enum
  | .input => ∃ input, graph.input? name = some input

/-- A graph keeps what its schema defines.  The definitions stand in the list of their kind, in the
order of the schema and under names of their own, and the object at which subscriptions start is
marked.  Every reference is tagged with the kind of the definition that it names, and unless that is
built in or a scalar, the look-up of this kind finds the name; no other look-up does. -/
structure Represents (graph : SchemaGraph) : Prop where
  objects : List.Forall₂ (KeepsObject schema) (typesOfKind .object schema.ownTypes) graph.objects
  interfaces : List.Forall₂ (KeepsInterface schema) (typesOfKind .interface schema.ownTypes)
    graph.interfaces
  unions : List.Forall₂ IsUnionOf (typesOfKind .union schema.ownTypes) graph.unions
  enums : List.Forall₂ IsEnumOf (typesOfKind .enum schema.ownTypes) graph.enums
  inputs : List.Forall₂ (KeepsInput schema) (typesOfKind .input schema.ownTypes) graph.inputs
  nodup_names : graph.names.Nodup
  roots_eq : graph.roots = schema.rootTypes
  isSubscription_iff : ∀ object ∈ graph.objects,
    object.isSubscription = true ↔ graph.roots.subscription = some object.name
  tagged : ∀ ref ∈ graph.references, ∃ definition,
    schema.type? ref.base.name = some definition ∧ definition.body.kind = ref.base.kind ∧
      ∀ kind, graph.Finds ref.base.name kind ↔
        definition.isBuiltIn = false ∧ kind = ref.base.kind ∧ kind ≠ .scalar

end SchemaGraph

variable {schema} {graph : SchemaGraph}

/-! ### Look-ups -/

theorem exists_find?_name_iff {α : Type} {nameOf : α → String} {items : List α} {name : String} :
    (∃ a, items.find? (nameOf · == name) = some a) ↔ name ∈ items.map nameOf := by
  rw [← Option.isSome_iff_exists, Option.isSome_iff_ne_none, ne_eq, find?_name_eq_none_iff, not_not]

/-- Among definitions that types come to, the names of the types are found. -/
theorem exists_find?_iff_of_forall₂ {δ : Type} {R : TypeDefinition → δ → Prop} {nameOf : δ → String}
    {types : List TypeDefinition} {definitions : List δ} (h : List.Forall₂ R types definitions)
    (hr : ∀ type definition, R type definition → nameOf definition = type.name.value)
    {name : String} :
    (∃ a, definitions.find? (nameOf · == name) = some a) ↔ name ∈ types.map (·.name.value) := by
  rw [exists_find?_name_iff, map_eq_map_of_forall₂ h hr]

/-- The look-up of a kind finds the names of the types of this kind. -/
theorem Mirrors.finds_iff {types : List TypeDefinition} (h : Mirrors schema types graph)
    {name : String} {kind : Kind} :
    graph.Finds name kind ↔
      kind ≠ .scalar ∧ name ∈ (typesOfKind kind types).map (·.name.value) := by
  by_cases hk : kind = .scalar
  · subst hk
    exact iff_of_false nofun fun hne => hne.1 rfl
  rw [and_iff_right hk]
  cases kind with
  | scalar => exact absurd rfl hk
  | object => exact exists_find?_iff_of_forall₂ h.objects fun _ _ hr => hr.name_eq
  | interface => exact exists_find?_iff_of_forall₂ h.interfaces fun _ _ hr => hr.name_eq
  | union => exact exists_find?_iff_of_forall₂ h.unions fun _ _ hr => hr.name_eq
  | enum => exact exists_find?_iff_of_forall₂ h.enums fun _ _ hr => hr.name_eq
  | input => exact exists_find?_iff_of_forall₂ h.inputs fun _ _ hr => hr.name_eq

/-- Among types with names of their own, the name of one is a name of its own kind only, and of
those that are not built in only if the type is not. -/
theorem mem_map_name_typesOfKind_iff (hn : (schema.types.map (·.name.value)).Nodup)
    {definition : TypeDefinition} (hd : definition ∈ schema.types) {kind : Kind} :
    definition.name.value ∈ (typesOfKind kind schema.ownTypes).map (·.name.value) ↔
      definition.isBuiltIn = false ∧ definition.body.kind = kind := by
  constructor
  · intro hm
    obtain ⟨other, ho, hname⟩ := List.mem_map.mp hm
    obtain ⟨hown, hkind⟩ := List.mem_filter.mp ho
    obtain ⟨hmem, hbuiltIn⟩ := List.mem_filter.mp hown
    obtain rfl := List.inj_on_of_nodup_map hn hmem hd hname
    exact ⟨by simpa using hbuiltIn, beq_iff_eq.mp hkind⟩
  · rintro ⟨hbuiltIn, hkind⟩
    refine List.mem_map_of_mem (List.mem_filter.mpr ⟨List.mem_filter.mpr ⟨hd, ?_⟩, ?_⟩)
    · rw [hbuiltIn]
      rfl
    · exact beq_iff_eq.mpr hkind

/-! ### Graphs of schemas -/

/-- The graph of a schema, whose types have names of their own, keeps what the schema defines. -/
theorem represents_of_ofSchema (hn : (schema.types.map (·.name.value)).Nodup)
    (h : SchemaGraph.ofSchema schema = .ok graph) : graph.Represents schema := by
  have hg : Mirrors schema schema.ownTypes graph := ofSchema_mirrors h
  constructor
  case objects =>
    refine hg.objects.imp fun type object hr => ?_
    obtain ⟨implemented, fields, hbody, himplements, hfields⟩ := hr.body_eq
    exact ⟨hr.name_eq, implemented, fields, hbody, himplements,
      hfields.imp fun _ _ hf => keepsField_of_fieldDef hf⟩
  case interfaces =>
    refine hg.interfaces.imp fun type interface hr => ?_
    obtain ⟨implemented, fields, hbody, hfields⟩ := hr.body_eq
    exact ⟨hr.name_eq, implemented, fields, hbody,
      hfields.imp fun _ _ hf => keepsField_of_fieldDef hf⟩
  case unions => exact hg.unions
  case enums => exact hg.enums
  case inputs =>
    refine hg.inputs.imp fun type input hr => ?_
    obtain ⟨fields, hbody, hfields⟩ := hr.body_eq
    exact ⟨hr.name_eq, fields, hbody, hfields.imp fun _ _ hf => keepsValue_of_inputFieldDef hf⟩
  case nodup_names => exact hg.nodup_names (hn.sublist (List.filter_sublist.map _))
  case roots_eq => exact hg.roots_eq
  case isSubscription_iff =>
    intro object ho
    obtain ⟨type, -, hr⟩ := exists_mem_of_forall₂ hg.objects ho
    rw [hr.isSubscription_eq, hg.roots_eq, hr.name_eq, beq_iff_eq]
  case tagged =>
    intro ref hr
    obtain ⟨definition, hd, hkind⟩ := hg.tags ref hr
    have hname : definition.name.value = ref.base.name := by simpa using List.find?_some hd
    refine ⟨definition, hd, hkind, fun kind => ?_⟩
    rw [hg.finds_iff, ← hname, mem_map_name_typesOfKind_iff hn (List.mem_of_find?_eq_some hd),
      hkind, eq_comm (a := kind)]
    tauto

/-- The text of a schema with definitions that are referred to before they stand there, and with a
reference to a type that is built in. -/
def kindsText : String :=
  "type Query { find(by: Filter): [Found!] at: __TypeKind }\nunion Found = Query\n" ++
    "input Filter { color: Color }\nenum Color { RED }\ninterface Node { id: ID }"

theorem represents_kindsText : ∃ schema graph,
    mergeSources [⟨"schema.graphql", kindsText⟩] = .ok schema ∧
      (schema.types.map (·.name.value)).Nodup ∧ SchemaGraph.ofSchema schema = .ok graph ∧
      graph.Represents schema := by
  have h : ((mergeSources [⟨"schema.graphql", kindsText⟩]).toOption.bind fun schema =>
      (SchemaGraph.ofSchema schema).toOption).isSome := by
    decide +kernel
  generalize [(⟨"schema.graphql", kindsText⟩ : SourceText)] = sources at h ⊢
  obtain ⟨graph, h⟩ := Option.isSome_iff_exists.mp h
  obtain ⟨schema, hm, hg⟩ := Option.bind_eq_some_iff.mp h
  have hm := toOption_eq_some_iff.mp hm
  have hg := toOption_eq_some_iff.mp hg
  have hn := (mergeSources_soundTypes hm).nodup_names
  exact ⟨schema, graph, hm, hn, hg, represents_of_ofSchema hn hg⟩

/-! ### Interfaces that implement interfaces -/

/-- The text of a schema with two interfaces, and what the second one says to implement. -/
def interfacesText (implemented : String) : String :=
  "type Query { node: Named }\ninterface Node { id: ID }\ninterface Named" ++ implemented ++
    " { id: ID }"

/-- The graph of `interfacesText`, whatever the second interface implements. -/
def interfacesGraph : SchemaGraph where
  objects := [⟨"Query", [⟨"node", .nullable (.named ⟨.interface, "Named"⟩), []⟩], [], false⟩]
  interfaces :=
    [⟨"Node", [⟨"id", .nullable (.named ⟨.scalar, "ID"⟩), []⟩]⟩,
      ⟨"Named", [⟨"id", .nullable (.named ⟨.scalar, "ID"⟩), []⟩]⟩]
  roots := { query := some "Query" }

/-- The interfaces that the second interface of merged texts implements. -/
def implementedByNamed (text : String) : Option (List String) :=
  (mergeSources [⟨"schema.graphql", text⟩]).toOption.bind fun schema =>
    (schema.interface? "Named").map fun interface => interface.1.map (·.value)

theorem implementedByNamed_interfacesText :
    implementedByNamed (interfacesText " implements Node") = some ["Node"] ∧
      implementedByNamed (interfacesText "") = some [] := by
  decide +kernel

theorem ofSources_interfacesText : ∀ implemented ∈ [" implements Node", ""],
    (SchemaGraph.ofSources [⟨"schema.graphql", interfacesText implemented⟩]).toOption =
      some interfacesGraph := by
  decide +kernel

/-- The interfaces that an interface of valid schema texts implements cannot be read off their
graph. -/
theorem not_exists_implementedOf : ¬ ∃ implementedOf : SchemaGraph → String → List String,
    ∀ sources schema graph, mergeSources sources = .ok schema →
      SchemaGraph.ofSources sources = .ok graph →
      ∀ name implemented fields, schema.interface? name = some (implemented, fields) →
        implementedOf graph name = implemented.map (·.value) := by
  rintro ⟨implementedOf, h⟩
  have read {implemented : String} (hm : implemented ∈ [" implements Node", ""])
      {names : List String} (hn : implementedByNamed (interfacesText implemented) = some names) :
      implementedOf interfacesGraph "Named" = names := by
    have hg := toOption_eq_some_iff.mp (ofSources_interfacesText implemented hm)
    generalize interfacesText implemented = text at hg hn
    rw [implementedByNamed, Option.bind_eq_some_iff] at hn
    obtain ⟨schema, hs, hn⟩ := hn
    obtain ⟨⟨others, fields⟩, hi, rfl⟩ := Option.map_eq_some_iff.mp hn
    exact h _ schema _ (toOption_eq_some_iff.mp hs) hg _ _ _ hi
  have hnode := read List.mem_cons_self implementedByNamed_interfacesText.1
  have hnone :=
    read (List.mem_cons_of_mem _ List.mem_cons_self) implementedByNamed_interfacesText.2
  cases hnode.symm.trans hnone

end ResolverTypes
