import ResolverTypes.Proofs.Graph.AbstractTypes
import ResolverTypes.Proofs.Graph.InputReach

/-!
# A graph with one more object

An object that belongs to no abstract type of a graph leaves the abstract types as they are when it
is added to the graph.  Its arguments may bring more inputs within reach, but none that an argument
of the graph's own fields names: of those, the registry has found what there is to find.

## Main definitions

* `SchemaGraph.addObject` : a graph with one more object, behind the others.

## Main results

* `SchemaGraph.possibleTypes_addObject`, `SchemaGraph.abstractTypesOf_addObject` : abstract types
  stand for the objects that they stood for.
* `SchemaGraph.get?_inputRegistry_of_addObject` : an input that an argument of the graph names is in
  the registry already.
-/

namespace ResolverTypes

namespace SchemaGraph

/-- A graph with one more object, behind the others. -/
def addObject (graph : SchemaGraph) (object : ObjectDef) : SchemaGraph :=
  { graph with objects := graph.objects ++ [object] }

variable {graph : SchemaGraph} {object : ObjectDef}

/-! ### Abstract types -/

section

variable (ho : ∀ name, ¬ graph.BelongsTo object name)

include ho

theorem implementors_addObject (name : String) :
    (graph.addObject object).implementors name = graph.implementors name := by
  unfold implementors
  split
  next hi =>
    -- the object does not name the interface
    obtain ⟨interface, hmem, rfl⟩ := isSome_interface?_iff.mp hi
    have hnone : object.implements.filter (· == interface.name) = [] :=
      List.filter_eq_nil_iff.mpr fun other hm heq =>
        ho interface.name (.inl ⟨interface, hmem, rfl, beq_iff_eq.mp heq ▸ hm⟩)
    have hinterface : (graph.interface? interface.name).isSome := hi
    rw [if_pos hinterface, addObject, List.flatMap_append, List.flatMap_singleton, hnone,
      List.map_nil, List.append_nil]
  next hi => exact (if_neg hi).symm

theorem unionMembers_addObject (name : String) :
    (graph.addObject object).unionMembers name = graph.unionMembers name := by
  have hunion : (graph.addObject object).union? name = graph.union? name := rfl
  rw [unionMembers, unionMembers, hunion]
  split
  next union hu =>
    -- no member of the union is the object
    refine List.filterMap_congr fun member hm => ?_
    have hne : (object.name == member) = false := by
      refine beq_false_of_ne fun heq => ho union.name (.inr ⟨union, ?_, rfl, heq ▸ hm⟩)
      exact List.mem_of_find?_eq_some hu
    rw [object?, addObject, List.find?_append, List.find?_cons, hne, List.find?_nil, Option.or_none,
      object?]
  next => rfl

/-- The objects that an interface or union may stand for remain the same. -/
theorem possibleTypes_addObject (name : String) :
    (graph.addObject object).possibleTypes name = graph.possibleTypes name := by
  rw [possibleTypes, implementors_addObject ho, unionMembers_addObject ho]
  rfl

/-- The interfaces and unions that an object belongs to remain the same. -/
theorem abstractTypesOf_addObject (name : String) :
    (graph.addObject object).abstractTypesOf name = graph.abstractTypesOf name := by
  simp only [abstractTypesOf, implementors_addObject ho, unionMembers_addObject ho]
  rfl

end

/-! ### Inputs -/

theorem input?_addObject (name : String) :
    (graph.addObject object).input? name = graph.input? name := rfl

theorem argumentInputs_subset_addObject :
    graph.argumentInputs ⊆ (graph.addObject object).argumentInputs := by
  intro name hn
  obtain ⟨field, hf, hn⟩ := List.mem_flatMap.mp hn
  refine List.mem_flatMap.mpr ⟨field, ?_, hn⟩
  rw [outputFields, addObject, List.flatMap_append]
  exact (List.mem_append.mp hf).elim (fun hf => List.mem_append_left _ (List.mem_append_left _ hf))
    fun hf => List.mem_append_right _ hf

/-- An input of the registry remains in the registry. -/
theorem get?_inputRegistry_addObject {name : String} {input : InputDef}
    (h : graph.inputRegistry.get? name = some input) :
    (graph.addObject object).inputRegistry.get? name = some input :=
  get?_inputRegistry_mono input?_addObject argumentInputs_subset_addObject h

/-- An input that an argument of the graph names is in the registry without the object too. -/
theorem get?_inputRegistry_of_addObject {name : String} {input : InputDef}
    (h : (graph.addObject object).inputRegistry.get? name = some input)
    (hn : name ∈ graph.argumentInputs) : graph.inputRegistry.get? name = some input := by
  have hinput := (get?_inputRegistry_eq_some_iff.mp h).2
  rw [input?_addObject] at hinput
  exact get?_inputRegistry_eq_some_iff.mpr ⟨.start hn hinput, hinput⟩

end SchemaGraph

end ResolverTypes
