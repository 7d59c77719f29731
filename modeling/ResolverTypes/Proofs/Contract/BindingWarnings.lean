import ResolverTypes.Project.Output
import ResolverTypes.Proofs.Contract.AbstractContract
import ResolverTypes.Proofs.Graph.BuiltInReferences
import ResolverTypes.Proofs.Graph.ValidGraph

/-!
# Types without a model

The values of a type without a model are typed as unknown, both where a field returns them and where
an interface or union may stand for them.  The warnings of a project are computed apart from that,
off the names of the types alone; they name every such type of the graph, unless it is a root.  A
root needs no model for its fields to be resolved, and is passed over even where its values are
returned.

## Main definitions

* `LeavesUnknown` : wherever a graph speaks of the values of a type, they are unknown.

## Main results

* `unknownType_mem_bindingWarnings_iff`, `unbound_mem_bindingWarnings_iff` : which warnings there
  are.
* `leavesUnknown_and_unbound_mem_warnings_iff` : a type without a model leaves its values unknown,
  and unless it is a root there is a warning.
* `not_forall_unbound_mem_warnings` : there is none for a root, though its values be returned.
-/

namespace ResolverTypes

open TypeScript

/-! ### Warnings -/

section

variable {models : ModelBinding} {typeNames : List String} {isRoot : String → Bool} {name : String}

/-- There is a warning on a binding exactly when it is of a name that is none of the types. -/
theorem unknownType_mem_bindingWarnings_iff :
    (∃ suggestion, .unknownType name suggestion ∈ bindingWarnings models typeNames isRoot) ↔
      (∃ model, models.get? name = some model) ∧ name ∉ typeNames := by
  rw [← NameMap.mem_keys_iff]
  simp [bindingWarnings]

/-- There is a warning on a type exactly when it is no root and has no model. -/
theorem unbound_mem_bindingWarnings_iff :
    .unbound name ∈ bindingWarnings models typeNames isRoot ↔
      name ∈ typeNames ∧ isRoot name = false ∧ models.get? name = none := by
  simp [bindingWarnings, NameMap.contains]

end

/-! ### Unknown values -/

variable {graph : SchemaGraph} {options : Options} {name : String}

variable (graph options) in
/-- Wherever a graph speaks of the values of a type, they are unknown: where a field returns them,
under whatever lists and nullability, and among the values that an interface or union may stand
for. -/
structure LeavesUnknown (name : String) : Prop where
  returned : ∀ field ∈ graph.outputFields, field.type.base.name = name →
    field.type.base.valueType options = .unknown
  possible : ∀ abstractType, name ∈ (graph.possibleTypes abstractType).map (·.name) →
    .unknown ∈ (possibleValues options (graph.possibleTypes abstractType)).alternatives

theorem modelOr_of_unbound {models : ModelBinding} (h : models.get? name = none)
    (fallback : TypeExpr) : models.modelOr name fallback = fallback := by
  rw [ModelBinding.modelOr, h]

/-- The values of a named type without a model are unknown, if they are resolved field by field. -/
theorem valueType_of_unbound {type : NamedType} (hk : type.kind.IsResolved)
    (h : options.models.get? type.name = none) : type.valueType options = .unknown := by
  unfold NamedType.valueType
  rcases hk with hk | hk | hk <;> rw [hk] <;> exact modelOr_of_unbound h .unknown

/-- A type of the graph without a model leaves its values unknown. -/
theorem leavesUnknown_of_unbound (hl : graph.IsLowered) (hname : name ∈ graph.resolvableTypeNames)
    (h : options.models.get? name = none) : LeavesUnknown graph options name where
  returned := by
    rintro field hf rfl
    have hr : field.type ∈ graph.references :=
      SchemaGraph.mem_references_of_outputField hf List.mem_cons_self
    exact valueType_of_unbound ((hl.mem_resolvableTypeNames_iff hr).mp hname).1 h
  possible := by
    intro abstractType hm
    obtain ⟨object, ho, rfl⟩ := List.mem_map.mp hm
    refine (mem_alternatives_possibleValues (List.ne_nil_of_mem ho)).mpr ⟨object, ho, ?_⟩
    exact (modelOr_of_unbound h .unknown).symm

/-- A type of the graph without a model leaves its values unknown, and unless it is a root of
operations the project is warned of it. -/
theorem leavesUnknown_and_unbound_mem_warnings_iff (hl : graph.IsLowered) (project : PlacedProject)
    (hname : name ∈ graph.resolvableTypeNames)
    (h : project.settings.models.get? name = none) :
    LeavesUnknown graph project.options name ∧
      (.unbound name ∈ project.warnings graph ↔ graph.roots.contains name = false) := by
  refine ⟨leavesUnknown_of_unbound hl hname h, unbound_mem_bindingWarnings_iff.trans ?_⟩
  rw [and_iff_right hname, and_iff_left h]

/-- The text of a schema in which the values of the root of queries are returned, and listed by a
union, as those of another object are. -/
def entryText : String :=
  "type Query { self: Query entries: [Entry!]! }\nunion Entry = Query | Note\n" ++
    "type Note { id: ID }"

/-- The graph of `entryText`. -/
def entryGraph : SchemaGraph where
  objects := [⟨"Query", [⟨"self", .nullable (.named ⟨.object, "Query"⟩), []⟩,
      ⟨"entries", .list (.named ⟨.union, "Entry"⟩), []⟩], [], false⟩,
    ⟨"Note", [⟨"id", .nullable (.named ⟨.scalar, "ID"⟩), []⟩], [], false⟩]
  unions := [⟨"Entry", ["Query", "Note"]⟩]
  roots := { query := some "Query" }

/-- A project that binds no model. -/
def unboundProject : PlacedProject where
  name := "default"
  patterns := ["/work/schema.graphql"]
  settings := { output := "resolvers.ts" }
  directory := "/work"

theorem isValid_entryGraph : entryGraph.IsValid := by
  have h : (SchemaGraph.ofSources [⟨"schema.graphql", entryText⟩]).toOption = some entryGraph := by
    decide +kernel
  exact ⟨_, toOption_eq_some_iff.mp h⟩

theorem leavesUnknown_and_unbound_mem_warnings_entryGraph : entryGraph.IsLowered ∧
    "Note" ∈ (entryGraph.possibleTypes "Entry").map (·.name) ∧
      LeavesUnknown entryGraph unboundProject.options "Note" ∧
        .unbound "Note" ∈ unboundProject.warnings entryGraph := by
  have hl := isValid_entryGraph.isLowered
  obtain ⟨hunknown, hwarned⟩ :=
    @leavesUnknown_and_unbound_mem_warnings_iff entryGraph "Note" hl unboundProject
      (by decide) rfl
  exact ⟨hl, by decide, hunknown, hwarned.mpr (by decide)⟩

/-- Not every type of a graph without a model whose values are returned by a field, or are among
those that a union may stand for, is warned of: a root of operations is not. -/
theorem not_forall_unbound_mem_warnings : ¬ ∀ (graph : SchemaGraph) (project : PlacedProject)
    (name : String), graph.IsValid → name ∈ graph.resolvableTypeNames →
      project.settings.models.get? name = none →
      (∃ field ∈ graph.outputFields, field.type.base.name = name) →
      (∃ union ∈ graph.unions, name ∈ (graph.possibleTypes union.name).map (·.name)) →
        .unbound name ∈ project.warnings graph := by
  intro h
  have hwarned := h entryGraph unboundProject "Query" isValid_entryGraph (by decide) rfl
    ⟨_, List.mem_cons_self, rfl⟩ ⟨_, List.mem_cons_self, by decide⟩
  exact absurd hwarned (by decide)

end ResolverTypes
