import ResolverTypes.Proofs.Graph.AbstractTypes
import ResolverTypes.Proofs.Graph.InputReach

/-!
# The order of definitions

Two graphs may hold the same definitions in different orders.  Look-ups by name do not tell them
apart, nor do the registry of inputs and the abstract types of an object, which are sorted by name;
only the objects that implement an interface come in the order of their definition.

## Main definitions

* `SchemaGraph.SameDefinitions` : two graphs hold the same definitions and have the same roots.

## Main results

* `SchemaGraph.SameDefinitions.inputRegistry_eq` : their registries are the same.
* `SchemaGraph.SameDefinitions.perm_possibleTypes` : their abstract types stand for the same objects.
* `SchemaGraph.SameDefinitions.abstractTypesOf_eq` : their objects belong to the same abstract types.
-/

namespace ResolverTypes

namespace SchemaGraph

/-- Two graphs hold the same definitions, each graph in an order of its own, and have the same
roots. -/
structure SameDefinitions (graph other : SchemaGraph) : Prop where
  objects : graph.objects.Perm other.objects
  interfaces : graph.interfaces.Perm other.interfaces
  unions : graph.unions.Perm other.unions
  inputs : graph.inputs.Perm other.inputs
  enums : graph.enums.Perm other.enums
  roots_eq : other.roots = graph.roots

namespace SameDefinitions

variable {graph other : SchemaGraph} (h : graph.SameDefinitions other)

include h

theorem symm : other.SameDefinitions graph where
  objects := h.objects.symm
  interfaces := h.interfaces.symm
  unions := h.unions.symm
  inputs := h.inputs.symm
  enums := h.enums.symm
  roots_eq := h.roots_eq.symm

/-! ### Inputs -/

theorem nodup_inputs (hi : (graph.inputs.map (·.name)).Nodup) :
    (other.inputs.map (·.name)).Nodup :=
  (h.inputs.map _).nodup_iff.mp hi

theorem perm_argumentInputs : graph.argumentInputs.Perm other.argumentInputs :=
  ((h.objects.flatMap_right _).append (h.interfaces.flatMap_right _)).flatMap_right _

/-- The registries of graphs with the same definitions are the same. -/
theorem inputRegistry_eq (hi : (graph.inputs.map (·.name)).Nodup) :
    other.inputRegistry = graph.inputRegistry := by
  have hsame (name : String) : other.input? name = graph.input? name :=
    find?_name_eq_of_perm hi h.inputs name
  refine NameMap.ext_get? fun name => Option.ext fun input => ?_
  exact ⟨get?_inputRegistry_mono (fun n => (hsame n).symm) h.symm.perm_argumentInputs.subset,
    get?_inputRegistry_mono hsame h.perm_argumentInputs.subset⟩

/-! ### Abstract types -/

theorem isSome_interface?_eq (name : String) :
    (other.interface? name).isSome = (graph.interface? name).isSome := by
  rw [Bool.eq_iff_iff, isSome_interface?_iff, isSome_interface?_iff]
  simp only [h.interfaces.mem_iff]

/-- The objects that implement an interface are the same, in the order of their definition. -/
theorem perm_implementors (name : String) :
    (graph.implementors name).Perm (other.implementors name) := by
  rw [implementors, implementors, h.isSome_interface?_eq]
  split
  · exact h.objects.flatMap_right _
  · exact .refl []

section

variable (hn : graph.resolvableTypeNames.Nodup)

include hn

/-- The objects among the members of a union are the same, in the order of the members. -/
theorem unionMembers_eq (name : String) : other.unionMembers name = graph.unionMembers name := by
  have hunion : other.union? name = graph.union? name :=
    find?_name_eq_of_perm (nodup_unionNames hn) h.unions name
  have hobject : other.object? = graph.object? :=
    funext (find?_name_eq_of_perm (nodup_objectNames hn) h.objects)
  rw [unionMembers, unionMembers, hunion, hobject]

/-- The objects that an abstract type may stand for are the same. -/
theorem perm_possibleTypes (name : String) :
    (graph.possibleTypes name).Perm (other.possibleTypes name) := by
  rw [possibleTypes, possibleTypes, h.isSome_interface?_eq, h.unionMembers_eq hn]
  split
  · exact h.perm_implementors name
  · exact .refl _

/-- The objects that a union may stand for come in the same order. -/
theorem possibleTypes_union_eq {union : UnionDef} (hu : union ∈ graph.unions) :
    other.possibleTypes union.name = graph.possibleTypes union.name := by
  have hnone := interface?_union_name hn hu
  rw [possibleTypes, possibleTypes, h.isSome_interface?_eq, hnone]
  exact h.unionMembers_eq hn union.name

/-- The abstract types of an object are the same, in the order of their names. -/
theorem abstractTypesOf_eq (name : String) :
    other.abstractTypesOf name = graph.abstractTypesOf name := by
  have hinterfaces : sortedNames (other.interfaces.map (·.name)) =
      sortedNames (graph.interfaces.map (·.name)) :=
    sortedNames_congr fun _ => (h.symm.interfaces.map _).mem_iff
  have hunions : sortedNames (other.unions.map (·.name)) =
      sortedNames (graph.unions.map (·.name)) :=
    sortedNames_congr fun _ => (h.symm.unions.map _).mem_iff
  have himplementors (interface : String) : (other.implementors interface).any (·.name == name) =
      (graph.implementors interface).any (·.name == name) :=
    (h.symm.perm_implementors interface).any_eq
  simp only [abstractTypesOf, hinterfaces, hunions, himplementors, h.unionMembers_eq hn]

end

end SameDefinitions

end SchemaGraph

end ResolverTypes
