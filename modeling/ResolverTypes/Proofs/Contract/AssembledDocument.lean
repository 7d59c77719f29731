import ResolverTypes.Contract.Assembly
import ResolverTypes.Proofs.Data.NameLookup
import ResolverTypes.Proofs.Data.Success
import ResolverTypes.Proofs.Graph.InputReach

/-!
# What an assembled document consists of

A document is assembled when the inputs of every object are found and no scope declares a name
twice.  It then has a group for each object, interface and union, and looking a group or a
declaration up by its name finds it.

## Main definitions

* `objectGroupWith` : the group of an object, given the declarations of its inputs.
* `ObjectDef.argumentlessFields` : the fields of an object that take no argument.
* `bareDocument` : the document of a graph in which no argument names an input.
* `Assembled` : what holds of every assembled document.

## Main results

* `assemble_eq_ok_iff` : when a document is assembled.
* `assemble_eq_bareDocument` : what is assembled where no argument names an input.
* `defaultResolvers?_eq_some_iff` : which objects have default resolvers, and for which fields.
* `Assembled.group?_eq_some_iff`, `Assembled.get?_eq_some_iff` : look-ups of groups and of
  declarations.
* `Assembled.exists_objectGroup` : the group of an object.
* `Assembled.cases_group`, `cases_objectGroupWith` : what groups there are, and what is declared in
  that of an object.
-/

namespace ResolverTypes

open TypeScript

variable {graph : SchemaGraph} {options : Options}

/-! ### The parts of a document -/

/-- The declarations of the inputs of an object are found exactly when the registry has all of them,
and they are then what the registry has. -/
theorem groupInputs_eq_ok_iff {object : ObjectDef} {inputs : List Declaration} :
    groupInputs graph options object = .ok inputs ↔
      List.Forall₂ (fun name declaration => ∃ input, graph.inputRegistry.get? name = some input ∧
        declaration = inputDeclaration options input) object.argumentInputs inputs := by
  rw [groupInputs, mapM_eq_ok_iff]
  constructor
  · refine List.Forall₂.imp fun name declaration hd => ?_
    split at hd
    next input hi => exact ⟨input, hi, (Except.ok.inj hd).symm⟩
    next => cases hd
  · refine List.Forall₂.imp fun name declaration hd => ?_
    obtain ⟨input, hi, rfl⟩ := hd
    rw [hi]

/-- The declarations of the inputs of an object are those of inputs in the registry. -/
theorem exists_registered_of_groupInputs {object : ObjectDef} {inputs : List Declaration}
    (h : groupInputs graph options object = .ok inputs) {declaration : Declaration}
    (hd : declaration ∈ inputs) : ∃ name input, graph.inputRegistry.get? name = some input ∧
      declaration = inputDeclaration options input := by
  obtain ⟨name, -, registered⟩ := exists_mem_of_forall₂ (groupInputs_eq_ok_iff.mp h) hd
  exact ⟨name, registered⟩

/-- The names of the fields of an object that take no arguments, in order. -/
def ObjectDef.argumentlessFields (object : ObjectDef) : List String :=
  (object.fields.filter (·.arguments.isEmpty)).map (·.name)

/-- An object has default resolvers, for all its fields without arguments, exactly when it is no
root, has a model, and has such a field. -/
theorem defaultResolvers?_eq_some_iff {object : ObjectDef} {declaration : Declaration} :
    defaultResolvers? graph options object = some declaration ↔
      graph.roots.contains object.name = false ∧ object.argumentlessFields ≠ [] ∧
        ∃ model, options.models.get? object.name = some model ∧
          declaration = .defaultResolvers (.named model) object.argumentlessFields := by
  unfold defaultResolvers?
  rw [← ObjectDef.argumentlessFields]
  cases hr : graph.roots.contains object.name with
  | true => simp
  | false =>
      cases hm : options.models.get? object.name with
      | none => simp
      | some model => cases hf : object.argumentlessFields <;> simp [eq_comm]

variable (graph options) in
/-- The group of an object, given the declarations of its inputs. -/
def objectGroupWith (object : ObjectDef) (inputs : List Declaration) : Group where
  typeName := object.name
  declarations :=
    (if options.defaultResolvers then (defaultResolvers? graph options object).toList else []) ++
      inputs ++ object.fields.filterMap (argsRecord? options) ++
      object.fields.map (fieldAlias graph options (.object object)) ++
      [objectContract graph options object]

/-- A group of an object declares the default resolvers, the inputs, the arguments and the alias of
each field, and the contract. -/
theorem cases_objectGroupWith {object : ObjectDef} {inputs : List Declaration}
    {declaration : Declaration}
    (hd : declaration ∈ (objectGroupWith graph options object inputs).declarations) :
    defaultResolvers? graph options object = some declaration ∨ declaration ∈ inputs ∨
      (∃ field ∈ object.fields, argsRecord? options field = some declaration) ∨
      (∃ field ∈ object.fields, declaration = fieldAlias graph options (.object object) field) ∨
      declaration = objectContract graph options object := by
  rcases List.mem_append.mp hd with hd | hd
  rcases List.mem_append.mp hd with hd | hd
  rcases List.mem_append.mp hd with hd | hd
  rcases List.mem_append.mp hd with hd | hd
  · split at hd
    · exact .inl (Option.mem_toList.mp hd)
    · cases hd
  · exact .inr (.inl hd)
  · exact .inr (.inr (.inl (List.mem_filterMap.mp hd)))
  · obtain ⟨field, hf, rfl⟩ := List.mem_map.mp hd
    exact .inr (.inr (.inr (.inl ⟨field, hf, rfl⟩)))
  · exact .inr (.inr (.inr (.inr (List.mem_singleton.mp hd))))

variable (options) in
/-- Apart from the contract, an object's group depends on nothing of the graph but the roots. -/
theorem exists_declarations_objectGroupWith {other : SchemaGraph} (hr : other.roots = graph.roots)
    (object : ObjectDef) (inputs : List Declaration) : ∃ declarations,
      (objectGroupWith graph options object inputs).declarations =
        declarations ++ [objectContract graph options object] ∧
      (objectGroupWith other options object inputs).declarations =
        declarations ++ [objectContract other options object] := by
  refine ⟨_, rfl, ?_⟩
  rw [objectGroupWith, defaultResolvers?, hr]
  rfl

theorem objectGroup_eq_ok_iff {object : ObjectDef} {group : Group} :
    objectGroup graph options object = .ok group ↔
      ∃ inputs, groupInputs graph options object = .ok inputs ∧
        objectGroupWith graph options object inputs = group := by
  rw [objectGroup, bind_eq_ok_iff]
  exact exists_congr fun inputs => and_congr_right fun _ =>
    ⟨fun h => Except.ok.inj h, fun h => congrArg _ h⟩

theorem typeNames_objectGroups {objects : List ObjectDef} {groups : List Group}
    (h : List.Forall₂ (objectGroup graph options · = .ok ·) objects groups) :
    groups.map (·.typeName) = objects.map (·.name) :=
  map_eq_map_of_forall₂ h fun object group hg => by
    obtain ⟨inputs, -, rfl⟩ := objectGroup_eq_ok_iff.mp hg
    rfl

theorem objectGroups_eq_ok_iff {groups : List Group} :
    objectGroups graph options = .ok groups ↔
      List.Forall₂ (objectGroup graph options · = .ok ·) graph.objects groups := by
  rw [objectGroups, mapM_eq_ok_iff]
  simp only [mapError_eq_ok_iff]

theorem draftDocument_eq_ok_iff {document : Document} :
    draftDocument graph options = .ok document ↔
      ∃ groups, List.Forall₂ (objectGroup graph options · = .ok ·) graph.objects groups ∧
        document =
          { imports := documentImports options
            enums := graph.enums.map enumDeclaration
            sharedInputs := sharedInputs graph options
            groups := groups ++ graph.interfaces.map (interfaceGroup graph options) ++
              graph.unions.map (unionGroup graph options)
            aggregate := aggregateDeclaration graph } := by
  rw [draftDocument, bind_eq_ok_iff]
  simp only [objectGroups_eq_ok_iff]
  exact exists_congr fun groups => and_congr_right fun _ =>
    ⟨fun h => (Except.ok.inj h).symm, fun h => congrArg _ h.symm⟩

/-! ### Names -/

theorem collision?_eq_none_iff {document : Document} :
    collision? document = none ↔
      (∀ group ∈ document.groups, (group.declarations.map (·.name)).Nodup) ∧
        document.moduleNames.Nodup := by
  simp only [collision?, groupCollision?, Option.or_eq_none_iff, List.findSome?_eq_none_iff,
    Option.map_eq_none_iff, firstDuplicate_eq_none_iff]

/-- A document is assembled exactly when its inputs are found and no scope declares a name twice. -/
theorem assemble_eq_ok_iff {document : Document} :
    assemble graph options = .ok document ↔
      draftDocument graph options = .ok document ∧
        (∀ group ∈ document.groups, (group.declarations.map (·.name)).Nodup) ∧
        document.moduleNames.Nodup := by
  rw [assemble, bind_eq_ok_iff, ← collision?_eq_none_iff]
  constructor
  · rintro ⟨draft, hd, h⟩
    split at h
    next => cases h
    next hc =>
      obtain rfl := Except.ok.inj h
      exact ⟨hd, hc⟩
  · rintro ⟨hd, hc⟩
    refine ⟨document, hd, ?_⟩
    rw [hc]
    rfl

variable (graph options) in
/-- The document of a graph in which no argument names an input. -/
def bareDocument : Document where
  imports := documentImports options
  enums := graph.enums.map enumDeclaration
  sharedInputs := []
  groups := graph.objects.map (objectGroupWith graph options · []) ++
    graph.interfaces.map (interfaceGroup graph options) ++
    graph.unions.map (unionGroup graph options)
  aggregate := aggregateDeclaration graph

/-- Where no argument names an input, only a collision of names can keep a document from being
assembled. -/
theorem assemble_eq_bareDocument (h : graph.argumentInputs = [])
    (hc : collision? (bareDocument graph options) = none) :
    assemble graph options = .ok (bareDocument graph options) := by
  refine assemble_eq_ok_iff.mpr ⟨draftDocument_eq_ok_iff.mpr
    ⟨graph.objects.map (objectGroupWith graph options · []), ?_, ?_⟩, collision?_eq_none_iff.mp hc⟩
  · refine List.forall₂_map_right_iff.mpr (List.forall₂_same.mpr fun object ho => ?_)
    have hinputs : object.argumentInputs = [] := List.subset_nil.mp
      (h ▸ SchemaGraph.object_argumentInputs_subset ho)
    refine objectGroup_eq_ok_iff.mpr ⟨[], groupInputs_eq_ok_iff.mpr ?_, rfl⟩
    rw [hinputs]
    exact .nil
  · have hshared : sharedInputs graph options = [] := by
      rw [sharedInputs, SchemaGraph.inputRegistry_eq_empty h]
      exact List.map_eq_nil_iff.mpr (List.filterMap_eq_nil_iff.mpr fun _ _ => rfl)
    rw [hshared]
    rfl

variable (graph options) in
/-- What holds of every assembled document: what its parts are, and that no scope declares a name
twice. -/
structure Assembled (document : Document) : Prop where
  imports_eq : document.imports = documentImports options
  enums_eq : document.enums = graph.enums.map enumDeclaration
  sharedInputs_eq : document.sharedInputs = sharedInputs graph options
  groups_eq : ∃ groups, List.Forall₂ (objectGroup graph options · = .ok ·) graph.objects groups ∧
    document.groups = groups ++ graph.interfaces.map (interfaceGroup graph options) ++
      graph.unions.map (unionGroup graph options)
  aggregate_eq : document.aggregate = aggregateDeclaration graph
  nodup_group : ∀ group ∈ document.groups, (group.declarations.map (·.name)).Nodup
  nodup_module : document.moduleNames.Nodup

theorem assembled_of_assemble {document : Document} (h : assemble graph options = .ok document) :
    Assembled graph options document := by
  obtain ⟨hd, hg, hm⟩ := assemble_eq_ok_iff.mp h
  obtain ⟨groups, hgroups, rfl⟩ := draftDocument_eq_ok_iff.mp hd
  exact ⟨rfl, rfl, rfl, ⟨groups, hgroups, rfl⟩, rfl, hg, hm⟩

/-! ### Look-ups -/

namespace Assembled

variable {document : Document}

theorem nodup_typeNames (h : Assembled graph options document) :
    (document.groups.map (·.typeName)).Nodup := by
  have hnames : (document.groups.map (·.namespaceName)).Nodup :=
    (List.nodup_append.mp (List.nodup_append.mp h.nodup_module).1).2.1
  refine List.Nodup.of_map namespaceName ?_
  rw [List.map_map]
  exact hnames

/-- The groups are those of the types whose values are resolved field by field, in their order. -/
theorem typeNames_eq (h : Assembled graph options document) :
    document.groups.map (·.typeName) = graph.resolvableTypeNames := by
  obtain ⟨groups, hgroups, heq⟩ := h.groups_eq
  rw [heq, List.map_append, List.map_append, typeNames_objectGroups hgroups, List.map_map,
    List.map_map]
  rfl

theorem nodup_resolvableTypeNames (h : Assembled graph options document) :
    graph.resolvableTypeNames.Nodup :=
  h.typeNames_eq ▸ h.nodup_typeNames

/-- The group of a type is the one that bears its name. -/
theorem group?_eq_some_iff (h : Assembled graph options document) {name : String} {group : Group} :
    document.group? name = some group ↔ group ∈ document.groups ∧ group.typeName = name :=
  find?_name_eq_some_iff h.nodup_typeNames

/-- The declaration of a name in a group is the one that bears the name. -/
theorem get?_eq_some_iff (h : Assembled graph options document) {group : Group}
    (hg : group ∈ document.groups) {name : String} {declaration : Declaration} :
    group.get? name = some declaration ↔
      declaration ∈ group.declarations ∧ declaration.name = name :=
  find?_name_eq_some_iff (h.nodup_group group hg)

/-- Every object has a group. -/
theorem exists_objectGroup (h : Assembled graph options document) {object : ObjectDef}
    (ho : object ∈ graph.objects) :
    ∃ inputs, groupInputs graph options object = .ok inputs ∧
      objectGroupWith graph options object inputs ∈ document.groups := by
  obtain ⟨groups, hgroups, heq⟩ := h.groups_eq
  obtain ⟨group, hg, hgroup⟩ := exists_mem_of_forall₂ hgroups.flip ho
  obtain ⟨inputs, hi, rfl⟩ := objectGroup_eq_ok_iff.mp hgroup
  refine ⟨inputs, hi, ?_⟩
  rw [heq]
  exact List.mem_append_left _ (List.mem_append_left _ hg)

/-- The contract of an object is found under the name of contracts. -/
theorem get?_contractName (h : Assembled graph options document) {object : ObjectDef}
    {inputs : List Declaration}
    (hg : objectGroupWith graph options object inputs ∈ document.groups) :
    (objectGroupWith graph options object inputs).get? contractName =
      some (objectContract graph options object) :=
  (h.get?_eq_some_iff hg).mpr ⟨List.mem_append_right _ List.mem_cons_self, rfl⟩

theorem interfaceGroup_mem (h : Assembled graph options document) {interface : InterfaceDef}
    (hi : interface ∈ graph.interfaces) :
    interfaceGroup graph options interface ∈ document.groups := by
  obtain ⟨groups, -, heq⟩ := h.groups_eq
  rw [heq]
  exact List.mem_append_left _ (List.mem_append_right _ (List.mem_map_of_mem hi))

theorem unionGroup_mem (h : Assembled graph options document) {union : UnionDef}
    (hu : union ∈ graph.unions) : unionGroup graph options union ∈ document.groups := by
  obtain ⟨groups, -, heq⟩ := h.groups_eq
  rw [heq]
  exact List.mem_append_right _ (List.mem_map_of_mem hu)

/-- Every group is that of an object, of an interface or of a union. -/
theorem cases_group (h : Assembled graph options document) {group : Group}
    (hg : group ∈ document.groups) :
    (∃ object ∈ graph.objects, ∃ inputs, groupInputs graph options object = .ok inputs ∧
      group = objectGroupWith graph options object inputs) ∨
      (∃ interface ∈ graph.interfaces, group = interfaceGroup graph options interface) ∨
      ∃ union ∈ graph.unions, group = unionGroup graph options union := by
  obtain ⟨groups, hgroups, heq⟩ := h.groups_eq
  rw [heq] at hg
  rcases List.mem_append.mp hg with hg | hg
  · rcases List.mem_append.mp hg with hg | hg
    · obtain ⟨object, ho, hgroup⟩ := exists_mem_of_forall₂ hgroups hg
      obtain ⟨inputs, hi, rfl⟩ := objectGroup_eq_ok_iff.mp hgroup
      exact .inl ⟨object, ho, inputs, hi, rfl⟩
    · obtain ⟨interface, hi, rfl⟩ := List.mem_map.mp hg
      exact .inr (.inl ⟨interface, hi, rfl⟩)
  · obtain ⟨union, hu, rfl⟩ := List.mem_map.mp hg
    exact .inr (.inr ⟨union, hu, rfl⟩)

/-- The members of the contract that a group declares are those of its contract. -/
theorem contractMembers_eq (h : Assembled graph options document) {group : Group}
    (hg : group ∈ document.groups) {members : List (Member TypeExpr)}
    (hm : .interface contractName members ∈ group.declarations) :
    group.contractMembers = members := by
  have hget : group.get? contractName = some (.interface contractName members) :=
    (h.get?_eq_some_iff hg).mpr ⟨hm, rfl⟩
  rw [Group.contractMembers, hget]

theorem contractMembers_interfaceGroup (h : Assembled graph options document)
    {interface : InterfaceDef} (hi : interface ∈ graph.interfaces) :
    (interfaceGroup graph options interface).contractMembers =
      [resolveTypeMember graph options interface.name false] :=
  h.contractMembers_eq (h.interfaceGroup_mem hi) (List.mem_append_right _ List.mem_cons_self)

theorem contractMembers_unionGroup (h : Assembled graph options document) {union : UnionDef}
    (hu : union ∈ graph.unions) : (unionGroup graph options union).contractMembers =
      [resolveTypeMember graph options union.name true] :=
  h.contractMembers_eq (h.unionGroup_mem hu) List.mem_cons_self

end Assembled

end ResolverTypes
