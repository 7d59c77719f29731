import ResolverTypes.Proofs.Contract.AbstractContract

/-!
# The aggregate and the groups

The groups of a document and the members of its aggregate are listed apart from each other: the
groups as they are made for objects, interfaces and unions, the members by the names of these.  They
agree place by place, and every member leads to a contract that its group declares once.

## Main definitions

* `IsEntryOf` : a member of the aggregate is the entry of a group.
* `AggregateAgrees` : the aggregate of a document agrees with its groups.

## Main results

* `Assembled.forall₂_isEntryOf` : the members of the aggregate are the entries of the groups, in
  their order.
* `aggregateAgrees_of_assemble` : in assembled documents the aggregate agrees with the groups.
-/

namespace ResolverTypes

open TypeScript

/-- A member of the aggregate is the entry of a group: it bears the name of the group's type, is
required exactly if the type is an object, and leads to the contract in the group's namespace. -/
structure IsEntryOf (graph : SchemaGraph) (group : Group) (member : Member TypeExpr) : Prop where
  name_eq : member.name = group.typeName
  required_iff : member.optional = false ↔ ∃ object ∈ graph.objects, object.name = group.typeName
  type_eq : member.type = .named (group.namespaceName ++ "." ++ contractName)

/-- The aggregate of a document agrees with the groups, and both with the types of a graph whose
values are resolved field by field. -/
structure AggregateAgrees (graph : SchemaGraph) (document : Document) : Prop where
  typeNames_eq : document.groups.map (·.typeName) = graph.resolvableTypeNames
  memberNames_eq : document.aggregateMembers.map (·.name) = graph.resolvableTypeNames
  nodup_names : graph.resolvableTypeNames.Nodup
  entries : List.Forall₂ (IsEntryOf graph) document.groups document.aggregateMembers
  contracts : ∀ group ∈ document.groups, ∃ members,
    group.declarations.filter (·.name == contractName) = [.interface contractName members] ∧
      group.contractMembers = members
  nodup_namespaces : (document.groups.map (·.namespaceName)).Nodup
  namespaces_disjoint : ∀ name ∈ document.imports.flatMap (·.names) ++
    (document.enums ++ document.sharedInputs).map (·.name) ++ [document.aggregate.name],
      name ∉ document.groups.map (·.namespaceName)

variable {graph : SchemaGraph} {options : Options}

/-! ### Entries -/

theorem isEntryOf_object {object : ObjectDef} (ho : object ∈ graph.objects) {group : Group}
    (hg : group.typeName = object.name) :
    IsEntryOf graph group ⟨object.name, false, contractReference object.name⟩ where
  name_eq := hg.symm
  required_iff := iff_of_true rfl ⟨object, ho, hg.symm⟩
  type_eq := by rw [Group.namespaceName, hg]; rfl

/-- The entry of a type that no object has the name of is optional. -/
theorem isEntryOf_abstract {group : Group}
    (hg : ∀ object ∈ graph.objects, object.name ≠ group.typeName) :
    IsEntryOf graph group ⟨group.typeName, true, contractReference group.typeName⟩ where
  name_eq := rfl
  required_iff := iff_of_false nofun fun ⟨object, ho, hn⟩ => hg object ho hn
  type_eq := rfl

namespace Assembled

variable {document : Document} (h : Assembled graph options document)

include h

theorem aggregateMembers_eq : document.aggregateMembers =
    graph.objects.map (fun o => ⟨o.name, false, contractReference o.name⟩) ++
      graph.interfaces.map (fun i => ⟨i.name, true, contractReference i.name⟩) ++
      graph.unions.map fun u => ⟨u.name, true, contractReference u.name⟩ := by
  rw [Document.aggregateMembers, h.aggregate_eq]
  rfl

/-- The members of the aggregate are the entries of the groups, in their order. -/
theorem forall₂_isEntryOf :
    List.Forall₂ (IsEntryOf graph) document.groups document.aggregateMembers := by
  have hnames := h.nodup_resolvableTypeNames
  -- neither an interface nor a union has the name of an object
  have hinterface (interface : InterfaceDef) (hi : interface ∈ graph.interfaces) :
      ∀ object ∈ graph.objects, object.name ≠ interface.name := fun object ho =>
    (List.nodup_append.mp (List.nodup_append.mp hnames).1).2.2 _ (List.mem_map_of_mem ho) _
      (List.mem_map_of_mem hi)
  have hunion (union : UnionDef) (hu : union ∈ graph.unions) :
      ∀ object ∈ graph.objects, object.name ≠ union.name := fun object ho =>
    (List.nodup_append.mp hnames).2.2 _ (List.mem_append_left _ (List.mem_map_of_mem ho)) _
      (List.mem_map_of_mem hu)
  obtain ⟨groups, hgroups, heq⟩ := h.groups_eq
  rw [heq, h.aggregateMembers_eq]
  refine List.rel_append (List.rel_append ?_ ?_) ?_
  · rw [List.forall₂_map_right_iff]
    refine (forall₂_imp_of_mem hgroups fun object ho group hgroup => ?_).flip
    obtain ⟨inputs, -, rfl⟩ := objectGroup_eq_ok_iff.mp hgroup
    exact isEntryOf_object ho rfl
  · rw [List.forall₂_map_left_iff, List.forall₂_map_right_iff, List.forall₂_same]
    exact fun interface hi => isEntryOf_abstract (hinterface interface hi)
  · rw [List.forall₂_map_left_iff, List.forall₂_map_right_iff, List.forall₂_same]
    exact fun union hu => isEntryOf_abstract (hunion union hu)

/-! ### Contracts -/

/-- Every group declares a contract. -/
theorem exists_contract_mem {group : Group} (hg : group ∈ document.groups) :
    ∃ members, .interface contractName members ∈ group.declarations := by
  rcases h.cases_group hg with ⟨object, -, inputs, -, rfl⟩ | ⟨interface, -, rfl⟩ | ⟨union, -, rfl⟩
  · exact ⟨_, List.mem_append_right _ List.mem_cons_self⟩
  · exact ⟨_, List.mem_append_right _ List.mem_cons_self⟩
  · exact ⟨_, List.mem_cons_self⟩

/-- The contract of a group is declared once. -/
theorem filter_contractName_eq_singleton {group : Group} (hg : group ∈ document.groups) :
    ∃ members, group.declarations.filter (·.name == contractName) =
      [.interface contractName members] ∧ group.contractMembers = members := by
  obtain ⟨members, hm⟩ := h.exists_contract_mem hg
  exact ⟨members, filter_name_eq_singleton (h.nodup_group group hg) hm, h.contractMembers_eq hg hm⟩

end Assembled

/-- In assembled documents the aggregate agrees with the groups. -/
theorem aggregateAgrees_of_assemble {document : Document}
    (ha : assemble graph options = .ok document) : AggregateAgrees graph document := by
  have h := assembled_of_assemble ha
  have hnames := h.nodup_module
  constructor
  case typeNames_eq => exact h.typeNames_eq
  case memberNames_eq =>
    rw [h.aggregateMembers_eq]
    simp only [List.map_append, List.map_map]
    rfl
  case nodup_names => exact h.nodup_resolvableTypeNames
  case entries => exact h.forall₂_isEntryOf
  case contracts => exact fun group hg => h.filter_contractName_eq_singleton hg
  case nodup_namespaces =>
    exact (List.nodup_append.mp (List.nodup_append.mp hnames).1).2.1
  case namespaces_disjoint =>
    obtain ⟨hdeclared, -, haggregate⟩ := List.nodup_append.mp hnames
    obtain ⟨-, -, hnamespaces⟩ := List.nodup_append.mp hdeclared
    intro name hn hmem
    rcases List.mem_append.mp hn with hn | hn
    · exact hnamespaces name hn name hmem rfl
    · exact haggregate name (List.mem_append_right _ hmem) name hn rfl

theorem aggregateAgrees_libraryGraph : ∃ document,
    assemble libraryGraph {} = .ok document ∧ AggregateAgrees libraryGraph document := by
  obtain ⟨document, h⟩ := exists_assemble_libraryGraph
  exact ⟨document, h, aggregateAgrees_of_assemble h⟩

end ResolverTypes
