import Mathlib.Data.List.Perm.Basic
import ResolverTypes.Proofs.Contract.AbstractContract
import ResolverTypes.Proofs.Graph.DefinitionOrder
import ResolverTypes.Proofs.TypeScript.UnionOrder

/-!
# Documents and the order of definitions

Moving the definitions of a schema moves the enums and the groups of its document and the members of
its aggregate, and nothing else, except that the objects that an abstract type may stand for are
listed in another order where they are told apart.

## Main definitions

* `SameMember`, `SameGroup` : members and groups that are the same, but for the order of unions in
  the type of one member.
* `GroupsByKind` : the groups of a document are those of objects, of interfaces and of unions.
* `SameDocument` : documents that are the same, but for the order of definitions.

## Main results

* `Assembled.exists_sameDocument` : the document of the same definitions in another order.
* `sameDocument_of_sameDefinitions` : graphs with the same definitions have the same document.
-/

namespace ResolverTypes

open TypeScript TypeExpr

variable {graph other : SchemaGraph} {options : Options}

/-! ### What is the same -/

/-- Two members are the same; those of a given name need be the same only up to the order of the
unions in their types. -/
structure SameMember (reordered : String) (member counterpart : Member TypeExpr) : Prop where
  name_eq : counterpart.name = member.name
  optional_eq : counterpart.optional = member.optional
  type_same : SameUpToOrder member.type counterpart.type
  type_eq : member.name ≠ reordered → counterpart.type = member.type

/-- Two groups are the same, but for the order of the unions in the type of those members of the
contract that have a given name. -/
structure SameGroup (reordered : String) (group counterpart : Group) : Prop where
  typeName_eq : counterpart.typeName = group.typeName
  declarations : ∃ declarations members counterparts,
    group.declarations = declarations ++ [.interface contractName members] ∧
    counterpart.declarations = declarations ++ [.interface contractName counterparts] ∧
    List.Forall₂ (SameMember reordered) members counterparts

/-- The groups of a document are those of the objects, of the interfaces and of the unions of a
graph. -/
structure GroupsByKind (graph : SchemaGraph) (document : Document)
    (objects interfaces unions : List Group) : Prop where
  groups_eq : document.groups = objects ++ interfaces ++ unions
  objects : objects.map (·.typeName) = graph.objects.map (·.name)
  interfaces : interfaces.map (·.typeName) = graph.interfaces.map (·.name)
  unions : unions.map (·.typeName) = graph.unions.map (·.name)

/-- The documents of two graphs are the same, but for the order of the enums, of the groups of each
kind and of the members of the aggregate, and for that of the unions in the members that tell the
values of abstract types apart. -/
structure SameDocument (graph other : SchemaGraph) (document counterpart : Document) : Prop where
  imports_eq : counterpart.imports = document.imports
  sharedInputs_eq : counterpart.sharedInputs = document.sharedInputs
  enums : document.enums.Perm counterpart.enums
  groups : ∃ objects interfaces unions objects' interfaces' unions',
    GroupsByKind graph document objects interfaces unions ∧
    GroupsByKind other counterpart objects' interfaces' unions' ∧
    Relation.Comp List.Perm (List.Forall₂ (SameGroup "__isTypeOf")) objects objects' ∧
    Relation.Comp List.Perm (List.Forall₂ (SameGroup "__resolveType")) interfaces interfaces' ∧
    unions.Perm unions'
  aggregate : ∃ name members counterparts, document.aggregate = .interface name members ∧
    counterpart.aggregate = .interface name counterparts ∧ members.Perm counterparts

theorem SameMember.refl (reordered : String) (member : Member TypeExpr) :
    SameMember reordered member member :=
  ⟨rfl, rfl, .refl member.type, fun _ => rfl⟩

theorem SameGroup.names_eq {reordered : String} {group counterpart : Group}
    (h : SameGroup reordered group counterpart) :
    counterpart.declarations.map (·.name) = group.declarations.map (·.name) := by
  obtain ⟨declarations, members, counterparts, hg, hc, -⟩ := h.declarations
  rw [hg, hc, List.map_append, List.map_append]
  rfl

/-! ### Contracts of abstract types -/

theorem sameUpToOrder_discrimination {value admitted result answer : TypeExpr}
    (hv : SameUpToOrder value admitted) (ha : SameUpToOrder result answer) :
    SameUpToOrder (.function (discriminationParameters options value) result)
      (.function (discriminationParameters options admitted) answer) :=
  .function rfl (.cons hv (.cons (.refl _) (.cons (.refl _) .nil))) ha

theorem sameUpToOrder_possibleValues {objects others : List ObjectDef} (h : objects.Perm others) :
    SameUpToOrder (possibleValues options objects) (possibleValues options others) :=
  sameUpToOrder_unionOf (h.map _)

/-- An answer with the name of one of some objects. -/
theorem sameUpToOrder_answer {objects others : List ObjectDef} (h : objects.Perm others) :
    SameUpToOrder (deferred (unionOf (objects.map fun o => literal o.name)))
      (deferred (unionOf (others.map fun o => literal o.name))) := by
  have hliteral (objects : List ObjectDef) :
      ∀ type ∈ objects.map fun o => literal o.name, type.alternatives = [type] := by
    intro type ht
    obtain ⟨o, -, rfl⟩ := List.mem_map.mp ht
    rfl
  exact (sameUpToOrder_unionOf (h.map _)).deferred (nodup_alternatives_unionOf (hliteral objects))
    (nodup_alternatives_unionOf (hliteral others))

section

variable (h : graph.SameDefinitions other) (hn : graph.resolvableTypeNames.Nodup)

include h hn

theorem sameMember_resolveTypeMember (abstractType : String) (optional : Bool) :
    SameMember "__resolveType" (resolveTypeMember graph options abstractType optional)
      (resolveTypeMember other options abstractType optional) where
  name_eq := rfl
  optional_eq := rfl
  type_same :=
    have hp := h.perm_possibleTypes hn abstractType
    sameUpToOrder_discrimination (sameUpToOrder_possibleValues hp) (sameUpToOrder_answer hp)
  type_eq hne := absurd rfl hne

theorem perm_isTypeOfCandidates (object : ObjectDef) :
    (isTypeOfCandidates graph object).Perm (isTypeOfCandidates other object) := by
  rw [isTypeOfCandidates, isTypeOfCandidates, h.abstractTypesOf_eq hn]
  exact List.Perm.flatMap (.refl _) fun name _ => h.perm_possibleTypes hn name

theorem sameMember_isTypeOfMember? (object : ObjectDef) :
    List.Forall₂ (SameMember "__isTypeOf") (isTypeOfMember? graph options object).toList
      (isTypeOfMember? other options object).toList := by
  have hp := perm_isTypeOfCandidates h hn object
  simp only [isTypeOfMember?, hp.isEmpty_eq]
  split
  · exact .nil
  · refine .cons ⟨rfl, rfl, ?_, fun hne => absurd rfl hne⟩ .nil
    exact sameUpToOrder_discrimination (sameUpToOrder_possibleValues hp) (.refl _)

/-! ### Groups -/

theorem sameGroup_objectGroupWith (object : ObjectDef) (inputs : List Declaration) :
    SameGroup "__isTypeOf" (objectGroupWith graph options object inputs)
      (objectGroupWith other options object inputs) where
  typeName_eq := rfl
  declarations := by
    obtain ⟨declarations, hg, ho⟩ :=
      exists_declarations_objectGroupWith options h.roots_eq object inputs
    refine ⟨declarations, _, _, hg, ho, ?_⟩
    refine List.rel_append (List.forall₂_same.mpr fun member _ => .refl _ member) ?_
    exact sameMember_isTypeOfMember? h hn object

/-- An object that has a group has one whatever the order of the definitions, with the same
inputs. -/
theorem exists_sameGroup (hi : (graph.inputs.map (·.name)).Nodup) {object : ObjectDef}
    {group : Group} (hg : objectGroup graph options object = .ok group) :
    ∃ counterpart, objectGroup other options object = .ok counterpart ∧
      SameGroup "__isTypeOf" group counterpart := by
  obtain ⟨inputs, hinputs, rfl⟩ := objectGroup_eq_ok_iff.mp hg
  refine ⟨objectGroupWith other options object inputs, ?_,
    sameGroup_objectGroupWith h hn object inputs⟩
  refine objectGroup_eq_ok_iff.mpr ⟨inputs, ?_, rfl⟩
  rw [groupInputs, h.inputRegistry_eq hi]
  exact hinputs

theorem sameGroup_interfaceGroup (interface : InterfaceDef) :
    SameGroup "__resolveType" (interfaceGroup graph options interface)
      (interfaceGroup other options interface) :=
  ⟨rfl, _, _, _, rfl, rfl, .cons (sameMember_resolveTypeMember h hn _ _) .nil⟩

theorem unionGroup_eq_of_sameDefinitions {union : UnionDef} (hu : union ∈ graph.unions) :
    unionGroup other options union = unionGroup graph options union := by
  rw [unionGroup, resolveTypeMember, h.possibleTypes_union_eq hn hu]
  rfl

end

/-! ### Documents -/

theorem groupsByKind {document : Document} {groups : List Group}
    (h : List.Forall₂ (objectGroup graph options · = .ok ·) graph.objects groups)
    (heq : document.groups = groups ++ graph.interfaces.map (interfaceGroup graph options) ++
      graph.unions.map (unionGroup graph options)) :
    GroupsByKind graph document groups (graph.interfaces.map (interfaceGroup graph options))
      (graph.unions.map (unionGroup graph options)) where
  groups_eq := heq
  objects := typeNames_objectGroups h
  interfaces := by
    rw [List.map_map]
    rfl
  unions := by
    rw [List.map_map]
    rfl

theorem sharedInputs_eq_of_sameDefinitions (h : graph.SameDefinitions other)
    (hi : (graph.inputs.map (·.name)).Nodup) :
    sharedInputs other options = sharedInputs graph options := by
  have hnames : sharedInputNames other = sharedInputNames graph := by
    refine sortedNames_congr fun name => List.Perm.mem_iff ?_
    rw [h.inputRegistry_eq hi]
    exact .append_left _ ((h.symm.interfaces.flatMap_right _).flatMap_right _)
  rw [sharedInputs, sharedInputs, hnames, h.inputRegistry_eq hi]

section

variable {reordered : String} {groups counterparts : List Group}
  (h : Relation.Comp List.Perm (List.Forall₂ (SameGroup reordered)) groups counterparts)

include h

theorem perm_namespaceNames :
    (groups.map (·.namespaceName)).Perm (counterparts.map (·.namespaceName)) := by
  obtain ⟨ordered, hp, hs⟩ := h
  have heq : counterparts.map (·.namespaceName) = ordered.map (·.namespaceName) :=
    map_eq_map_of_forall₂ hs fun _ _ hg => congrArg TypeScript.namespaceName hg.typeName_eq
  rw [heq]
  exact hp.map _

theorem nodup_counterpart
    (hg : ∀ group ∈ groups, (group.declarations.map (·.name)).Nodup) :
    ∀ counterpart ∈ counterparts, (counterpart.declarations.map (·.name)).Nodup := by
  obtain ⟨ordered, hp, hs⟩ := h
  intro counterpart hc
  obtain ⟨group, hmem, hsame⟩ := exists_mem_of_forall₂ hs hc
  exact hsame.names_eq ▸ hg group (hp.mem_iff.mpr hmem)

end

/-- The names of a document stay distinct when its definitions are put in another order. -/
theorem SameDocument.nodup {document counterpart : Document}
    (h : SameDocument graph other document counterpart)
    (hg : ∀ group ∈ document.groups, (group.declarations.map (·.name)).Nodup)
    (hm : document.moduleNames.Nodup) :
    (∀ group ∈ counterpart.groups, (group.declarations.map (·.name)).Nodup) ∧
      counterpart.moduleNames.Nodup := by
  obtain ⟨objects, interfaces, unions, objects', interfaces', unions', hd, hc, hobjects,
    hinterfaces, hunions⟩ := h.groups
  obtain ⟨name, members, counterparts, hmembers, hcounterparts, -⟩ := h.aggregate
  rw [hd.groups_eq] at hg
  constructor
  · rw [hc.groups_eq]
    intro group hmem
    rcases List.mem_append.mp hmem with hmem | hmem
    · rcases List.mem_append.mp hmem with hmem | hmem
      · exact nodup_counterpart hobjects
          (fun g h => hg g (List.mem_append_left _ (List.mem_append_left _ h))) group hmem
      · exact nodup_counterpart hinterfaces
          (fun g h => hg g (List.mem_append_left _ (List.mem_append_right _ h))) group hmem
    · exact hg group (List.mem_append_right _ (hunions.mem_iff.mpr hmem))
  · have hnamespaces : (document.groups.map (·.namespaceName)).Perm
        (counterpart.groups.map (·.namespaceName)) := by
      rw [hd.groups_eq, hc.groups_eq]
      simp only [List.map_append]
      exact ((perm_namespaceNames hobjects).append (perm_namespaceNames hinterfaces)).append
        (hunions.map _)
    refine List.Perm.nodup_iff ?_ |>.mp hm
    rw [Document.moduleNames, Document.moduleNames, h.imports_eq, h.sharedInputs_eq, hmembers,
      hcounterparts]
    refine List.Perm.append_right _ (List.Perm.append ?_ hnamespaces)
    exact .append_left _ ((h.enums.append_right _).map _)

/-- Whatever the order of its definitions, a graph with a document has a draft of the same
document. -/
theorem Assembled.exists_sameDraft {document : Document} (hd : Assembled graph options document)
    (h : graph.SameDefinitions other) (hi : (graph.inputs.map (·.name)).Nodup) :
    ∃ counterpart, draftDocument other options = .ok counterpart ∧
      SameDocument graph other document counterpart := by
  have hn := hd.nodup_resolvableTypeNames
  obtain ⟨groups, hgroups, heq⟩ := hd.groups_eq
  -- the groups of the objects are moved as the objects are, and then made from the other graph
  obtain ⟨moved, hmoved, hperm⟩ := List.perm_comp_forall₂ h.objects.symm hgroups
  obtain ⟨counterparts, hcounterparts, hsame⟩ :=
    exists_forall₂_of_forall₂ hmoved fun _ _ hg => exists_sameGroup h hn hi hg
  refine ⟨_, draftDocument_eq_ok_iff.mpr ⟨counterparts, hcounterparts, rfl⟩, ?_⟩
  constructor
  case imports_eq => exact hd.imports_eq.symm
  case sharedInputs_eq =>
    exact (sharedInputs_eq_of_sameDefinitions h hi).trans hd.sharedInputs_eq.symm
  case enums => exact hd.enums_eq ▸ h.enums.map _
  case groups =>
    refine ⟨groups, _, _, counterparts, _, _, groupsByKind hgroups heq,
      groupsByKind hcounterparts rfl, ⟨moved, hperm.symm, hsame⟩, ⟨_, h.interfaces.map _, ?_⟩, ?_⟩
    · rw [List.forall₂_map_left_iff, List.forall₂_map_right_iff, List.forall₂_same]
      exact fun interface _ => sameGroup_interfaceGroup h hn interface
    · have heq : other.unions.map (unionGroup other options) =
          other.unions.map (unionGroup graph options) :=
        List.map_congr_left fun union hu =>
          unionGroup_eq_of_sameDefinitions h hn (h.unions.mem_iff.mpr hu)
      rw [heq]
      exact h.unions.map _
  case aggregate =>
    refine ⟨_, _, _, hd.aggregate_eq, rfl, ?_⟩
    exact ((h.objects.map _).append (h.interfaces.map _)).append (h.unions.map _)

/-- Whatever the order of its definitions, a graph with a document has the same document. -/
theorem exists_sameDocument {document : Document} (h : graph.SameDefinitions other)
    (hi : (graph.inputs.map (·.name)).Nodup) (ha : assemble graph options = .ok document) :
    ∃ counterpart, assemble other options = .ok counterpart ∧
      SameDocument graph other document counterpart := by
  have hd := assembled_of_assemble ha
  obtain ⟨counterpart, hc, hsame⟩ := hd.exists_sameDraft h hi
  exact ⟨counterpart,
    assemble_eq_ok_iff.mpr ⟨hc, hsame.nodup hd.nodup_group hd.nodup_module⟩, hsame⟩

/-- Graphs with the same definitions and roots have a document or have none together, and their
documents are the same, but for the order of the definitions. -/
theorem sameDocument_of_sameDefinitions (hl : graph.IsLowered) (h : graph.SameDefinitions other) :
    ((∃ document, assemble graph options = .ok document) ↔
      ∃ counterpart, assemble other options = .ok counterpart) ∧
    ∀ document counterpart, assemble graph options = .ok document →
      assemble other options = .ok counterpart →
        SameDocument graph other document counterpart := by
  have hother := h.nodup_inputs hl.nodup_inputs
  refine ⟨⟨fun ⟨document, ha⟩ => ?_, fun ⟨counterpart, ha⟩ => ?_⟩,
    fun document counterpart ha hc => ?_⟩
  · obtain ⟨counterpart, hc, -⟩ := exists_sameDocument h hl.nodup_inputs ha
    exact ⟨counterpart, hc⟩
  · obtain ⟨document, hd, -⟩ := exists_sameDocument h.symm hother ha
    exact ⟨document, hd⟩
  · obtain ⟨same, hsame, hs⟩ := exists_sameDocument h hl.nodup_inputs ha
    obtain rfl := Except.ok.inj (hc.symm.trans hsame)
    exact hs

/-- The graph of the definitions of `libraryText` in another order. -/
def shelvedGraph : SchemaGraph :=
  { libraryGraph with objects := libraryGraph.objects.reverse }

theorem sameDocument_shelvedGraph :
    libraryGraph.IsLowered ∧ libraryGraph.SameDefinitions shelvedGraph ∧
      ∃ document counterpart, assemble libraryGraph {} = .ok document ∧
        assemble shelvedGraph {} = .ok counterpart ∧
          SameDocument libraryGraph shelvedGraph document counterpart := by
  have hsame : libraryGraph.SameDefinitions shelvedGraph :=
    ⟨(List.reverse_perm _).symm, .refl _, .refl _, .refl _, .refl _, rfl⟩
  obtain ⟨document, ha⟩ := exists_assemble_libraryGraph
  obtain ⟨hiff, hsameDocument⟩ :=
    @sameDocument_of_sameDefinitions libraryGraph shelvedGraph {} isLowered_libraryGraph hsame
  obtain ⟨counterpart, hc⟩ := hiff.mp ⟨document, ha⟩
  exact ⟨isLowered_libraryGraph, hsame, document, counterpart, ha, hc,
    hsameDocument document counterpart ha hc⟩

end ResolverTypes
