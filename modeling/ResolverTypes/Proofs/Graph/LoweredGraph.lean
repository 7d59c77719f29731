import ResolverTypes.Proofs.Data.Success
import ResolverTypes.Proofs.Schema.MergedTypes

/-!
# Graphs of schema texts

A graph holds, kind by kind and in the order of their definition, what the types of its schema come
to, apart from those that are built in.

## Main definitions

* `IsObjectOf` and its companions : a definition in a graph is what a type comes to.
* `Mirrors` : a graph holds what some types come to.
* `SchemaGraph.names` : the names of all definitions in a graph.

## Main results

* `ofSchema_mirrors` : the graph of a schema holds what its types come to.
* `Mirrors.nodup_names` : the definitions in a graph have names of their own.
-/

namespace ResolverTypes

open Schema

/-! ### What a type comes to -/

section

variable (schema : Schema)

/-- The definition of an object is what a type comes to. -/
structure IsObjectOf (type : TypeDefinition) (object : ObjectDef) : Prop where
  name_eq : object.name = type.name.value
  isSubscription_eq :
    object.isSubscription = (schema.rootTypes.subscription == some type.name.value)
  body_eq : ∃ implemented fields, type.body = .object implemented fields ∧
    object.implements = implemented.map (·.value) ∧
    List.Forall₂ (schema.fieldDef type.name.value · = .ok ·) fields object.fields

/-- The definition of an interface is what a type comes to. -/
structure IsInterfaceOf (type : TypeDefinition) (interface : InterfaceDef) : Prop where
  name_eq : interface.name = type.name.value
  body_eq : ∃ implemented fields, type.body = .interface implemented fields ∧
    List.Forall₂ (schema.fieldDef type.name.value · = .ok ·) fields interface.fields

/-- The definition of a union is what a type comes to. -/
structure IsUnionOf (type : TypeDefinition) (union : UnionDef) : Prop where
  name_eq : union.name = type.name.value
  body_eq : ∃ members, type.body = .union members ∧ union.members = members.map (·.value)

/-- The definition of an input is what a type comes to. -/
structure IsInputOf (type : TypeDefinition) (input : InputDef) : Prop where
  name_eq : input.name = type.name.value
  body_eq : ∃ fields, type.body = .input fields ∧
    List.Forall₂ (schema.inputFieldDef type.name.value · = .ok ·) fields input.fields

/-- The definition of an enum is what a type comes to. -/
structure IsEnumOf (type : TypeDefinition) (enum : EnumDef) : Prop where
  name_eq : enum.name = type.name.value
  body_eq : ∃ values, type.body = .enum values ∧ enum.values = values.map (·.name.value)

/-- The types of a kind. -/
def typesOfKind (kind : Kind) (types : List TypeDefinition) : List TypeDefinition :=
  types.filter (·.body.kind == kind)

/-- A graph holds, kind by kind, what some types come to, in their order. -/
structure Mirrors (types : List TypeDefinition) (graph : SchemaGraph) : Prop where
  objects : List.Forall₂ (IsObjectOf schema) (typesOfKind .object types) graph.objects
  interfaces : List.Forall₂ (IsInterfaceOf schema) (typesOfKind .interface types) graph.interfaces
  unions : List.Forall₂ IsUnionOf (typesOfKind .union types) graph.unions
  inputs : List.Forall₂ (IsInputOf schema) (typesOfKind .input types) graph.inputs
  enums : List.Forall₂ IsEnumOf (typesOfKind .enum types) graph.enums
  roots_eq : graph.roots = schema.rootTypes

end

/-! ### Reading a graph off types -/

section

variable {δ : Type} {R : TypeDefinition → δ → Prop} {kind : Kind} {types : List TypeDefinition}
  {definitions : List δ} {type : TypeDefinition}

theorem forall₂_typesOfKind_add (h : List.Forall₂ R (typesOfKind kind types) definitions)
    (hk : type.body.kind = kind) {definition : δ} (hr : R type definition) :
    List.Forall₂ R (typesOfKind kind (types ++ [type])) (definitions ++ [definition]) := by
  have htypes : typesOfKind kind (types ++ [type]) = typesOfKind kind types ++ [type] := by
    simp [typesOfKind, hk]
  rw [htypes]
  exact List.rel_append h (.cons hr .nil)

theorem forall₂_typesOfKind_keep (h : List.Forall₂ R (typesOfKind kind types) definitions)
    (hk : type.body.kind ≠ kind) :
    List.Forall₂ R (typesOfKind kind (types ++ [type])) definitions := by
  have htypes : typesOfKind kind (types ++ [type]) = typesOfKind kind types := by
    simp [typesOfKind, hk]
  rw [htypes]
  exact h

end

variable {schema : Schema}

/-- A graph to which a type is added holds what the type comes to besides what it held before. -/
theorem Mirrors.add {types : List TypeDefinition} {graph result : SchemaGraph}
    (h : Mirrors schema types graph) {type : TypeDefinition}
    (hr : schema.addToGraph graph type = .ok result) : Mirrors schema (types ++ [type]) result := by
  obtain ⟨ho, hi, hu, hin, he, hroots⟩ := h
  have keep {δ : Type} {R : TypeDefinition → δ → Prop} {kind : Kind} {definitions : List δ}
      (hk : type.body.kind ≠ kind) (h : List.Forall₂ R (typesOfKind kind types) definitions) :
      List.Forall₂ R (typesOfKind kind (types ++ [type])) definitions :=
    forall₂_typesOfKind_keep h hk
  unfold Schema.addToGraph at hr
  dsimp only at hr
  split at hr
  next heq =>
    obtain rfl := Except.ok.inj hr
    refine ⟨?_, ?_, ?_, ?_, ?_, hroots⟩ <;> refine keep ?_ ‹_› <;> simp [heq, TypeBody.kind]
  next implemented fields heq =>
    obtain ⟨fs, hf, hr⟩ := bind_eq_ok_iff.mp hr
    obtain rfl := Except.ok.inj hr
    refine ⟨forall₂_typesOfKind_add ho (congrArg TypeBody.kind heq) ?_, ?_, ?_, ?_, ?_, hroots⟩
    · exact ⟨rfl, rfl, implemented, fields, heq, rfl, mapM_eq_ok_iff.mp hf⟩
    all_goals refine keep ?_ ‹_›; simp [heq, TypeBody.kind]
  next implemented fields heq =>
    obtain ⟨fs, hf, hr⟩ := bind_eq_ok_iff.mp hr
    obtain rfl := Except.ok.inj hr
    refine ⟨?_, forall₂_typesOfKind_add hi (congrArg TypeBody.kind heq) ?_, ?_, ?_, ?_, hroots⟩
    case refine_2 => exact ⟨rfl, implemented, fields, heq, mapM_eq_ok_iff.mp hf⟩
    all_goals refine keep ?_ ‹_›; simp [heq, TypeBody.kind]
  next members heq =>
    obtain rfl := Except.ok.inj hr
    refine ⟨?_, ?_, forall₂_typesOfKind_add hu (congrArg TypeBody.kind heq) ?_, ?_, ?_, hroots⟩
    case refine_3 => exact ⟨rfl, members, heq, rfl⟩
    all_goals refine keep ?_ ‹_›; simp [heq, TypeBody.kind]
  next values heq =>
    obtain rfl := Except.ok.inj hr
    refine ⟨?_, ?_, ?_, ?_, forall₂_typesOfKind_add he (congrArg TypeBody.kind heq) ?_, hroots⟩
    case refine_5 => exact ⟨rfl, values, heq, rfl⟩
    all_goals refine keep ?_ ‹_›; simp [heq, TypeBody.kind]
  next fields heq =>
    obtain ⟨fs, hf, hr⟩ := bind_eq_ok_iff.mp hr
    obtain rfl := Except.ok.inj hr
    refine ⟨?_, ?_, ?_, forall₂_typesOfKind_add hin (congrArg TypeBody.kind heq) ?_, ?_, hroots⟩
    case refine_4 => exact ⟨rfl, fields, heq, mapM_eq_ok_iff.mp hf⟩
    all_goals refine keep ?_ ‹_›; simp [heq, TypeBody.kind]

theorem Mirrors.foldlM {read left : List TypeDefinition} {graph result : SchemaGraph}
    (h : Mirrors schema read graph) (hr : left.foldlM schema.addToGraph graph = .ok result) :
    Mirrors schema (read ++ left) result := by
  induction left generalizing read graph with
  | nil =>
      obtain rfl := Except.ok.inj hr
      rw [List.append_nil]
      exact h
  | cons type left ih =>
      rw [List.foldlM_cons] at hr
      obtain ⟨next, hn, hr⟩ := bind_eq_ok_iff.mp hr
      rw [List.append_cons]
      exact ih (h.add hn) hr

/-- The graph of a schema holds what its types come to, apart from those that are built in. -/
theorem ofSchema_mirrors {graph : SchemaGraph} (h : SchemaGraph.ofSchema schema = .ok graph) :
    Mirrors schema (schema.types.filter (!·.isBuiltIn)) graph := by
  have hstart : Mirrors schema [] { roots := schema.rootTypes } := by
    refine ⟨?_, ?_, ?_, ?_, ?_, rfl⟩ <;> exact List.Forall₂.nil
  exact hstart.foldlM h

/-! ### Names of definitions -/

theorem nodup_names_ofKinds (kinds : List Kind) (hk : kinds.Nodup) {types : List TypeDefinition}
    (h : (types.map (·.name.value)).Nodup) :
    ((kinds.flatMap (typesOfKind · types)).map (·.name.value)).Nodup := by
  have hsub : kinds.flatMap (typesOfKind · types) ⊆ types := fun type ht => by
    obtain ⟨kind, -, ht⟩ := List.mem_flatMap.mp ht
    exact (List.mem_filter.mp ht).1
  refine List.Nodup.map_on (fun a ha b hb => List.inj_on_of_nodup_map h (hsub ha) (hsub hb)) ?_
  refine List.nodup_flatMap.mpr ⟨fun kind _ => (h.of_map _).filter _, ?_⟩
  refine hk.imp fun hne type ha hb => ?_
  -- a type has one kind only
  exact hne ((beq_iff_eq.mp (List.mem_filter.mp ha).2).symm.trans
    (beq_iff_eq.mp (List.mem_filter.mp hb).2))

/-- The names of all definitions in a graph. -/
def SchemaGraph.names (graph : SchemaGraph) : List String :=
  graph.resolvableTypeNames ++ graph.inputs.map (·.name) ++ graph.enums.map (·.name)

theorem Mirrors.nodup_names {types : List TypeDefinition} {graph : SchemaGraph}
    (h : Mirrors schema types graph) (hn : (types.map (·.name.value)).Nodup) :
    graph.names.Nodup := by
  have hnames := nodup_names_ofKinds [.object, .interface, .union, .input, .enum] (by decide) hn
  have heq : graph.names = ([Kind.object, .interface, .union, .input, .enum].flatMap
      (typesOfKind · types)).map (·.name.value) := by
    simp only [SchemaGraph.names, SchemaGraph.resolvableTypeNames, List.flatMap_cons,
      List.flatMap_nil, List.append_nil, List.map_append, List.append_assoc,
      map_eq_map_of_forall₂ h.objects (fun _ _ hr => hr.name_eq),
      map_eq_map_of_forall₂ h.interfaces (fun _ _ hr => hr.name_eq),
      map_eq_map_of_forall₂ h.unions (fun _ _ hr => hr.name_eq),
      map_eq_map_of_forall₂ h.inputs (fun _ _ hr => hr.name_eq),
      map_eq_map_of_forall₂ h.enums (fun _ _ hr => hr.name_eq)]
  exact heq ▸ hnames

end ResolverTypes
