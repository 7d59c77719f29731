import ResolverTypes.Proofs.Contract.AssembledDocument
import ResolverTypes.Proofs.Graph.BuiltInReferences
import ResolverTypes.Proofs.Graph.DistinctParts
import ResolverTypes.Proofs.Graph.InputReach
import ResolverTypes.Proofs.Graph.ValidGraph
import ResolverTypes.Proofs.TypeScript.Alternatives

/-!
# Enums that a document declares

A reference to an enum is read off the types of the whole schema, and the declarations of enums off
the graph, which holds no type that is built in.  An assembled document therefore declares, with all
its values and under a name that nothing else has, every enum that is referred to and defined in a
text; and of the enums that are built in, which a text may refer to as well, it declares none.

## Main definitions

* `builtInEnumNames` : the names of the enums that are built in.
* `DeclaresEnum` : a document declares the enum of a name, and that once.

## Main results

* `SchemaGraph.IsValid.exists_enum_iff` : a reference to an enum leads to an enum of the graph
  exactly when the enum is not built in.
* `declaresEnum_of_assemble` : which of the enums that are referred to are declared.
-/

namespace ResolverTypes

open Schema TypeScript

variable {graph : SchemaGraph} {options : Options} {document : Document}

/-! ### Enums of a graph -/

/-- The names of the enums that are built in. -/
def builtInEnumNames : List String := (typesOfKind .enum builtInTypes).map (·.name.value)

namespace SchemaGraph

/-- A reference to an enum leads to an enum of the graph exactly when the enum is not built in. -/
theorem IsLowered.exists_enum_iff (h : graph.IsLowered) {ref : TypeRef}
    (hr : ref ∈ graph.references) (hk : ref.base.kind = .enum) :
    (∃ enum, graph.enum? ref.base.name = some enum) ↔ ref.base.name ∉ builtInEnumNames := by
  have hfinds : graph.Finds ref.base.name .enum ↔ Kind.enum = ref.base.kind ∧
      Kind.enum ≠ .scalar ∧ ref.base.name ∉ builtInEnumNames := h.finds_iff hr
  exact hfinds.trans ⟨fun hf => hf.2.2, fun hn => ⟨hk.symm, nofun, hn⟩⟩

/-- The enums in a graph of valid schema texts have values. -/
theorem IsValid.values_ne_nil (h : graph.IsValid) {enum : EnumDef} (he : enum ∈ graph.enums) :
    enum.values ≠ [] := by
  obtain ⟨schema, -, hp, hg⟩ := h.exists_mirrors
  obtain ⟨type, ht, hr⟩ := exists_mem_of_forall₂ hg.enums he
  obtain ⟨values, hbody, hvalues⟩ := hr.body_eq
  have hproblems := typeProblems_eq_nil hp ht
  simp only [typeProblems, hbody, List.append_eq_nil_iff] at hproblems
  rw [hvalues, ne_eq, List.map_eq_nil_iff]
  rintro rfl
  cases hproblems.2

end SchemaGraph

/-! ### Declarations -/

variable (graph) in
/-- A document declares the enum of a name, with its values in order, and nothing else at the level
of the module has the name. -/
def DeclaresEnum (document : Document) (name : String) : Prop :=
  ∃ enum type, graph.enum? name = some enum ∧
    document.enums.filter (·.name == name) = [.typeAlias name type] ∧
    type.alternatives = enum.values.map .literal ∧ document.moduleNames.count name = 1

/-- What is no union and occurs in one of some types occurs in their union. -/
theorem within_unionOf_of_mem {node : TypeExpr} (hu : ∀ members, node ≠ .union members)
    {types : List TypeExpr} {type : TypeExpr} (ht : type ∈ types) (hw : node.Within type) :
    node.Within (.unionOf types) := by
  obtain ⟨alternative, ha, hw⟩ := (TypeExpr.within_iff_alternatives hu).mp hw
  have hmem : alternative ∈ TypeExpr.distinctAlternatives types :=
    TypeExpr.mem_distinctAlternatives.mpr ⟨type, ht, ha⟩
  rcases TypeExpr.unionOf_eq types with ⟨hd, -⟩ | ⟨only, hd, heq⟩ | ⟨-, heq⟩
  · rw [hd] at hmem
    cases hmem
  · rw [hd, List.mem_singleton] at hmem
    rw [heq, ← hmem]
    exact hw
  · rw [heq]
    exact TypeExpr.within_iff.mpr (.inr ⟨alternative, hmem, hw⟩)

/-- What a reference to an enum describes are values of a type in which the enum is named. -/
theorem named_within_valueType {ref : TypeRef} (hk : ref.base.kind = .enum) :
    (TypeExpr.named ref.base.name).Within (ref.valueType options) := by
  induction ref with
  | named type =>
      rcases type with ⟨kind, name⟩
      obtain rfl : kind = .enum := hk
      exact .self
  | list item ih => exact TypeExpr.within_array_iff.mpr (.inr (ih hk))
  | nullable inner ih =>
      refine within_unionOf_of_mem ?_ List.mem_cons_self (ih hk)
      exact nofun

namespace Assembled

variable (h : Assembled graph options document)

include h

theorem declaresEnum (hv : graph.IsValid) {name : String} {enum : EnumDef}
    (he : graph.enum? name = some enum) : DeclaresEnum graph document name := by
  obtain ⟨hmem, rfl⟩ := hv.isLowered.enum?_eq_some_iff.mp he
  have hd : enumDeclaration enum ∈ document.enums := by
    rw [h.enums_eq]
    exact List.mem_map_of_mem hmem
  have hnames : (document.enums.map (·.name)).Nodup := by
    have hdeclared := (List.nodup_append.mp (List.nodup_append.mp
      (List.nodup_append.mp h.nodup_module).1).1).2.1
    rw [List.map_append] at hdeclared
    exact (List.nodup_append.mp hdeclared).1
  refine ⟨enum, _, he, filter_name_eq_singleton hnames hd, ?_, ?_⟩
  · rw [TypeExpr.alternatives_unionOf (by simp [TypeExpr.alternatives]),
      eraseDups_of_nodup]
    · exact (hv.isLowered.hasDistinctParts.values enum hmem).map fun _ _ => TypeExpr.literal.inj
    · simpa using hv.values_ne_nil hmem
  · refine List.count_eq_one_of_mem h.nodup_module ?_
    have hname : enum.name ∈ (document.enums ++ document.sharedInputs).map (·.name) :=
      List.mem_map.mpr ⟨_, List.mem_append_left _ hd, rfl⟩
    exact List.mem_append_left _ (List.mem_append_left _ (List.mem_append_right _ hname))

theorem mem_enums_iff {name : String} :
    name ∈ document.enums.map (·.name) ↔ ∃ enum, graph.enum? name = some enum := by
  have hnames : document.enums.map (·.name) = graph.enums.map (·.name) := by
    rw [h.enums_eq, List.map_map]
    rfl
  rw [hnames]
  exact exists_find?_name_iff.symm

end Assembled

/-- Whatever describes values of an enum names it.  A document that is assembled from valid schema
texts declares every enum that is referred to, unless the enum is built in; those it does not
declare at all. -/
theorem declaresEnum_of_assemble (hv : graph.IsValid) (ha : assemble graph options = .ok document)
    {ref : TypeRef} (hr : ref ∈ graph.references) (hk : ref.base.kind = .enum) :
    (TypeExpr.named ref.base.name).Within (ref.valueType options) ∧
      (ref.base.name ∉ builtInEnumNames → DeclaresEnum graph document ref.base.name) ∧
      (ref.base.name ∈ builtInEnumNames → ref.base.name ∉ document.enums.map (·.name)) := by
  have h := assembled_of_assemble ha
  have hfound := hv.isLowered.exists_enum_iff hr hk
  refine ⟨named_within_valueType hk, fun hname => ?_, fun hname hd => ?_⟩
  · obtain ⟨enum, he⟩ := hfound.mpr hname
    exact h.declaresEnum hv he
  · exact hfound.mp (h.mem_enums_iff.mp hd) hname

/-- The text of a schema that refers to an enum that is built in, and to one of its own. -/
def shadeText : String := "type Query { kind: __TypeKind shade: Shade }\nenum Shade { RED GREEN }"

/-- The graph of `shadeText`. -/
def shadeGraph : SchemaGraph where
  objects := [⟨"Query", [⟨"kind", .nullable (.named ⟨.enum, "__TypeKind"⟩), []⟩,
    ⟨"shade", .nullable (.named ⟨.enum, "Shade"⟩), []⟩], [], false⟩]
  enums := [⟨"Shade", ["RED", "GREEN"]⟩]
  roots := { query := some "Query" }

theorem isValid_shadeGraph : shadeGraph.IsValid := by
  have h : (SchemaGraph.ofSources [⟨"schema.graphql", shadeText⟩]).toOption = some shadeGraph := by
    decide +kernel
  exact ⟨_, toOption_eq_some_iff.mp h⟩

theorem not_declaresEnum_shadeGraph : shadeGraph.IsValid ∧
    ∃ document, assemble shadeGraph {} = .ok document ∧
      DeclaresEnum shadeGraph document "Shade" ∧
      "__TypeKind" ∉ document.enums.map (·.name) := by
  have hempty := SchemaGraph.inputRegistry_eq_empty (show shadeGraph.argumentInputs = [] from rfl)
  obtain ⟨document, ha⟩ : ∃ document, assemble shadeGraph {} = .ok document := by
    rw [← isSome_toOption_iff]
    simp only [assemble, draftDocument, objectGroups, objectGroup, groupInputs, sharedInputs,
      sharedInputNames, hempty]
    decide +kernel
  have hshade : TypeRef.nullable (.named ⟨.enum, "Shade"⟩) ∈ shadeGraph.references := by decide
  have hkind : TypeRef.nullable (.named ⟨.enum, "__TypeKind"⟩) ∈ shadeGraph.references := by decide
  exact ⟨isValid_shadeGraph, document, ha,
    (declaresEnum_of_assemble isValid_shadeGraph ha hshade rfl).2.1 (by decide),
    (declaresEnum_of_assemble isValid_shadeGraph ha hkind rfl).2.2 (by decide)⟩

end ResolverTypes
