import ResolverTypes.Proofs.Graph.Representation
import ResolverTypes.Proofs.Schema.BuiltInTypes

/-!
# References and types that are built in

A reference is tagged with the kind of a type of the whole schema, and the graph holds no type that
is built in.  The look-up of its kind therefore finds what a reference names unless that is built
in, and whether the values of a type are resolved field by field can be told from the reference
alone.

## Main definitions

* `builtInNames` : the names of the types of a kind that are built in.
* `Kind.IsResolved` : the values of a type of a kind are resolved field by field.

## Main results

* `SchemaGraph.IsLowered.finds_iff` : which look-ups find what a reference names.
* `SchemaGraph.IsLowered.mem_resolvableTypeNames_iff` : which references name a type whose values are
  resolved field by field.
-/

namespace ResolverTypes

open Schema

/-- The names of the types of a kind that are built in. -/
def builtInNames (kind : Kind) : List String := (typesOfKind kind builtInTypes).map (·.name.value)

theorem mem_builtInNames_iff {kind : Kind} {name : String} : name ∈ builtInNames kind ↔
    ∃ origin ∈ builtInTypes, origin.body.kind = kind ∧ origin.name.value = name := by
  simp only [builtInNames, typesOfKind, List.mem_map, List.mem_filter, beq_iff_eq, and_assoc]

/-- A type of a merged schema is built in exactly when its name is that of a type of its kind that
is. -/
theorem isBuiltIn_iff_mem_builtInNames {sources : List SourceText} {schema : Schema}
    (h : mergeSources sources = .ok schema) {name : String} {type : TypeDefinition}
    (ht : schema.type? name = some type) :
    type.isBuiltIn = true ↔ name ∈ builtInNames type.body.kind := by
  have hname : type.name.value = name := by simpa using List.find?_some ht
  rw [mem_builtInNames_iff]
  constructor
  · intro hb
    obtain ⟨origin, ho, he⟩ :=
      (mergeSources_soundTypes h).builtIn type (List.mem_of_find?_eq_some ht) hb
    exact ⟨origin, ho, he.kind_eq.symm, by rw [← he.name_eq, hname]⟩
  · rintro ⟨origin, ho, -, horigin⟩
    exact (isBuiltIn_iff_of_mergeSources h ht).mpr ⟨origin, ho, horigin⟩

/-- The values of types of a kind are resolved field by field. -/
def Kind.IsResolved (kind : Kind) : Prop := kind = .object ∨ kind = .interface ∨ kind = .union

instance (kind : Kind) : Decidable kind.IsResolved :=
  inferInstanceAs (Decidable (kind = .object ∨ kind = .interface ∨ kind = .union))

theorem Kind.IsResolved.ne_scalar {kind : Kind} (h : kind.IsResolved) : kind ≠ .scalar := by
  rintro rfl
  exact absurd h (by decide)

/-- Of the types that are built in, only those for introspection have values that are resolved field
by field. -/
theorem mem_introspectionTypes_of_isResolved {kind : Kind} (hk : kind.IsResolved) {name : String}
    (hn : name ∈ builtInNames kind) : name ∈ introspectionTypes.map (·.name.value) := by
  obtain ⟨origin, ho, rfl, rfl⟩ := mem_builtInNames_iff.mp hn
  rcases List.mem_append.mp ho with ho | ho
  · exact List.mem_map_of_mem ho
  · obtain ⟨name, -, rfl⟩ := List.mem_map.mp ho
    exact absurd rfl hk.ne_scalar

namespace SchemaGraph

variable {graph : SchemaGraph}

theorem mem_resolvableTypeNames_iff_finds {name : String} :
    name ∈ graph.resolvableTypeNames ↔ ∃ kind : Kind, kind.IsResolved ∧ graph.Finds name kind := by
  have hobject : graph.Finds name .object ↔ name ∈ graph.objects.map (·.name) :=
    exists_find?_name_iff
  have hinterface : graph.Finds name .interface ↔ name ∈ graph.interfaces.map (·.name) :=
    exists_find?_name_iff
  have hunion : graph.Finds name .union ↔ name ∈ graph.unions.map (·.name) :=
    exists_find?_name_iff
  simp only [resolvableTypeNames, List.mem_append, ← hobject, ← hinterface, ← hunion,
    Kind.IsResolved, or_and_right, exists_or, exists_eq_left, or_assoc]

namespace IsLowered

variable (h : graph.IsLowered) {ref : TypeRef} (hr : ref ∈ graph.references)

include h hr

/-- What a reference names is found by the look-up of the kind that the reference is tagged with,
unless it is a scalar or built in, and by no other look-up. -/
theorem finds_iff {kind : Kind} : graph.Finds ref.base.name kind ↔
    kind = ref.base.kind ∧ kind ≠ .scalar ∧ ref.base.name ∉ builtInNames kind := by
  obtain ⟨sources, schema, hm, hg⟩ := h
  have hrepresents := represents_of_ofSchema (mergeSources_soundTypes hm).nodup_names hg
  obtain ⟨definition, hd, hkind, hfinds⟩ := hrepresents.tagged ref hr
  have hbuiltIn := isBuiltIn_iff_mem_builtInNames hm hd
  rw [hfinds, ← Bool.not_eq_true, hbuiltIn, hkind]
  constructor
  · rintro ⟨hn, rfl, hk⟩
    exact ⟨rfl, hk, hn⟩
  · rintro ⟨rfl, hk, hn⟩
    exact ⟨hn, rfl, hk⟩

/-- A reference names a type of the graph whose values are resolved field by field exactly when it
is tagged as one to such a type and the type is not built in. -/
theorem mem_resolvableTypeNames_iff : ref.base.name ∈ graph.resolvableTypeNames ↔
    ref.base.kind.IsResolved ∧ ref.base.name ∉ builtInNames ref.base.kind := by
  rw [mem_resolvableTypeNames_iff_finds]
  constructor
  · rintro ⟨kind, hk, hf⟩
    obtain ⟨rfl, -, hn⟩ := (h.finds_iff hr).mp hf
    exact ⟨hk, hn⟩
  · rintro ⟨hk, hn⟩
    exact ⟨ref.base.kind, hk, (h.finds_iff hr).mpr ⟨rfl, hk.ne_scalar, hn⟩⟩

end IsLowered

end SchemaGraph

end ResolverTypes
