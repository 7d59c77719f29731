import ResolverTypes.Graph.Relations
import ResolverTypes.Proofs.Data.NameLookup

/-!
# Objects and the abstract types they belong to

An object belongs to the interfaces that it declares to implement and to the unions that list it.
In a graph whose types have names of their own, the two ways of asking agree: the objects that an
abstract type may stand for are those that belong to it, and the abstract types of an object are
those that it belongs to.

## Main definitions

* `SchemaGraph.BelongsTo` : an object belongs to an interface or union.
* `InterfaceDef.objectNames`, `UnionDef.objectNames` : the names of the objects that belong to an
  interface or union.

## Main results

* `SchemaGraph.mem_possibleTypes_iff` : the objects that an abstract type may stand for.
* `SchemaGraph.mem_abstractTypesOf_iff` : the abstract types of an object.
* `SchemaGraph.map_name_possibleTypes_interface`, `SchemaGraph.map_name_possibleTypes_union` : the
  names of the objects that an abstract type may stand for, in their order.
-/

namespace ResolverTypes

variable {graph : SchemaGraph} {object : ObjectDef} {name : String}

namespace SchemaGraph

/-- An object belongs to the interface or union of a name. -/
def BelongsTo (graph : SchemaGraph) (object : ObjectDef) (name : String) : Prop :=
  (∃ interface ∈ graph.interfaces, interface.name = name ∧ name ∈ object.implements) ∨
    ∃ union ∈ graph.unions, union.name = name ∧ object.name ∈ union.members

/-! ### Names of a kind -/

section

variable (hn : graph.resolvableTypeNames.Nodup)

include hn

theorem nodup_objectNames : (graph.objects.map (·.name)).Nodup :=
  (List.nodup_append.mp (List.nodup_append.mp hn).1).1

theorem nodup_unionNames : (graph.unions.map (·.name)).Nodup :=
  (List.nodup_append.mp hn).2.1

theorem object?_eq_some_iff : graph.object? name = some object ↔
    object ∈ graph.objects ∧ object.name = name :=
  find?_name_eq_some_iff (nodup_objectNames hn)

theorem union?_eq_some_iff {union : UnionDef} :
    graph.union? name = some union ↔ union ∈ graph.unions ∧ union.name = name :=
  find?_name_eq_some_iff (nodup_unionNames hn)

/-- No interface has the name of a union. -/
theorem interface?_union_name {union : UnionDef} (hu : union ∈ graph.unions) :
    graph.interface? union.name = none := by
  refine find?_name_eq_none_iff.mpr fun hi => ?_
  exact (List.nodup_append.mp hn).2.2 union.name (List.mem_append_right _ hi) union.name
    (List.mem_map_of_mem hu) rfl

end

theorem isSome_interface?_iff :
    (graph.interface? name).isSome ↔ ∃ interface ∈ graph.interfaces, interface.name = name := by
  rw [interface?, List.find?_isSome]
  simp

/-! ### The objects of an abstract type -/

theorem mem_implementors_iff : object ∈ graph.implementors name ↔
    (∃ interface ∈ graph.interfaces, interface.name = name) ∧ object ∈ graph.objects ∧
      name ∈ object.implements := by
  rw [implementors, ← isSome_interface?_iff]
  split
  next hi =>
    simp only [hi, true_and, List.mem_flatMap, List.mem_map, List.mem_filter, beq_iff_eq]
    constructor
    · rintro ⟨o, ho, i, ⟨hm, rfl⟩, rfl⟩
      exact ⟨ho, hm⟩
    · rintro ⟨ho, hm⟩
      exact ⟨object, ho, name, ⟨hm, rfl⟩, rfl⟩
  next hi => simp [hi]

section

variable (hn : graph.resolvableTypeNames.Nodup)

include hn

theorem mem_unionMembers_iff : object ∈ graph.unionMembers name ↔
    object ∈ graph.objects ∧ ∃ union ∈ graph.unions, union.name = name ∧
      object.name ∈ union.members := by
  rw [unionMembers]
  split
  next union hu =>
    obtain ⟨hmem, rfl⟩ := (union?_eq_some_iff hn).mp hu
    simp only [List.mem_filterMap, object?_eq_some_iff hn]
    constructor
    · rintro ⟨n, hm, ho, rfl⟩
      exact ⟨ho, union, hmem, rfl, hm⟩
    · rintro ⟨ho, other, hother, hname, hm⟩
      obtain rfl := List.inj_on_of_nodup_map (nodup_unionNames hn) hother hmem hname
      exact ⟨object.name, hm, ho, rfl⟩
  next hu =>
    refine iff_of_false List.not_mem_nil ?_
    rintro ⟨-, union, hmem, hname, -⟩
    exact absurd (hu.symm.trans ((union?_eq_some_iff hn).mpr ⟨hmem, hname⟩)) nofun

/-- The objects that an interface or union may stand for are those that belong to it. -/
theorem mem_possibleTypes_iff : object ∈ graph.possibleTypes name ↔
    object ∈ graph.objects ∧ graph.BelongsTo object name := by
  rw [possibleTypes]
  split
  next hi =>
    have hi := isSome_interface?_iff.mp hi
    rw [mem_implementors_iff]
    constructor
    · rintro ⟨⟨interface, hmem, hname⟩, ho, hm⟩
      exact ⟨ho, .inl ⟨interface, hmem, hname, hm⟩⟩
    · rintro ⟨ho, ⟨interface, hmem, hname, hm⟩ | ⟨union, hu, rfl, hm⟩⟩
      · exact ⟨hi, ho, hm⟩
      · have hnone := interface?_union_name hn hu
        rw [← isSome_interface?_iff, hnone] at hi
        cases hi
  next hi =>
    rw [mem_unionMembers_iff hn]
    refine and_congr_right fun _ => ⟨.inr, ?_⟩
    rintro (⟨interface, hmem, hname, -⟩ | hu)
    · exact absurd (isSome_interface?_iff.mpr ⟨interface, hmem, hname⟩) hi
    · exact hu

/-- The abstract types of an object are those that it belongs to. -/
theorem mem_abstractTypesOf_iff (ho : object ∈ graph.objects) :
    name ∈ graph.abstractTypesOf object.name ↔ graph.BelongsTo object name := by
  -- an object of the same name is the object itself
  have same {other : ObjectDef} (hother : other ∈ graph.objects) (h : other.name = object.name) :
      other = object :=
    List.inj_on_of_nodup_map (nodup_objectNames hn) hother ho h
  simp only [abstractTypesOf, List.mem_append, List.mem_filter, mem_sortedNames, List.mem_map,
    List.any_eq_true, beq_iff_eq, mem_implementors_iff, mem_unionMembers_iff hn]
  refine or_congr ⟨?_, ?_⟩ ⟨?_, ?_⟩
  · rintro ⟨-, other, ⟨⟨interface, hi, hname⟩, hother, hm⟩, h⟩
    exact ⟨interface, hi, hname, same hother h ▸ hm⟩
  · rintro ⟨interface, hi, hname, hm⟩
    exact ⟨⟨interface, hi, hname⟩, object, ⟨⟨interface, hi, hname⟩, ho, hm⟩, rfl⟩
  · rintro ⟨-, other, ⟨hother, union, hu, hname, hm⟩, h⟩
    exact ⟨union, hu, hname, h ▸ hm⟩
  · rintro ⟨union, hu, hname, hm⟩
    exact ⟨⟨union, hu, hname⟩, object, ⟨ho, union, hu, hname, hm⟩, rfl⟩

end

end SchemaGraph

/-! ### The order of the objects of an abstract type -/

/-- The names of the objects that implement an interface, in the order of their definition. -/
def InterfaceDef.objectNames (graph : SchemaGraph) (interface : InterfaceDef) : List String :=
  (graph.objects.filter (interface.name ∈ ·.implements)).map (·.name)

/-- The names of the objects among the members of a union, in the order of the members. -/
def UnionDef.objectNames (graph : SchemaGraph) (union : UnionDef) : List String :=
  union.members.filter (· ∈ graph.objects.map (·.name))

namespace SchemaGraph

/-- An object that names an interface once stands once among those that implement it. -/
theorem implementors_eq_filter (hi : ∀ o ∈ graph.objects, o.implements.Nodup)
    (hname : (graph.interface? name).isSome) :
    graph.implementors name = graph.objects.filter (name ∈ ·.implements) := by
  rw [implementors, if_pos hname]
  generalize graph.objects = objects at hi
  induction objects with
  | nil => rfl
  | cons o objects ih =>
      rw [List.flatMap_cons, List.filter_cons,
        ih fun other ho => hi other (List.mem_cons_of_mem o ho)]
      by_cases hm : name ∈ o.implements
      · have hone : o.implements.filter (· == name) = [name] := by
          rw [List.filter_beq, List.count_eq_one_of_mem (hi o List.mem_cons_self) hm,
            List.replicate_one]
        simp [hone, hm]
      · have hnone : o.implements.filter (· == name) = [] :=
          List.filter_eq_nil_iff.mpr fun other ho => by
            simpa using ne_of_mem_of_not_mem ho hm
        simp [hnone, hm]

/-- The objects that an interface may stand for, by name. -/
theorem map_name_possibleTypes_interface (hi : ∀ o ∈ graph.objects, o.implements.Nodup)
    {interface : InterfaceDef} (hmem : interface ∈ graph.interfaces) :
    (graph.possibleTypes interface.name).map (·.name) = interface.objectNames graph := by
  have hname : (graph.interface? interface.name).isSome :=
    isSome_interface?_iff.mpr ⟨interface, hmem, rfl⟩
  rw [possibleTypes, if_pos hname, implementors_eq_filter hi hname, InterfaceDef.objectNames]

/-- The objects that a union may stand for, by name. -/
theorem map_name_possibleTypes_union (hn : graph.resolvableTypeNames.Nodup) {union : UnionDef}
    (hmem : union ∈ graph.unions) :
    (graph.possibleTypes union.name).map (·.name) = union.objectNames graph := by
  have hunion : graph.union? union.name = some union :=
    (union?_eq_some_iff hn).mpr ⟨hmem, rfl⟩
  -- a member that is found is found under its own name
  have hfound (member : String) : (graph.object? member).map (·.name) =
      if member ∈ graph.objects.map (·.name) then some member else none := by
    split
    next hm =>
      obtain ⟨object, ho, rfl⟩ := List.mem_map.mp hm
      rw [(object?_eq_some_iff hn).mpr ⟨ho, rfl⟩]
      rfl
    next ho =>
      rw [object?, find?_name_eq_none_iff.mpr ho]
      rfl
  rw [possibleTypes, interface?_union_name hn hmem, unionMembers, hunion, UnionDef.objectNames]
  simp only [Option.isSome_none, Bool.false_eq_true, if_false, List.map_filterMap, hfound]
  rw [← List.filterMap_eq_filter]
  exact List.filterMap_congr fun member _ => by simp [Option.guard]

end SchemaGraph

end ResolverTypes
