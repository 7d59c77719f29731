import ResolverTypes.Proofs.Contract.FieldContract
import ResolverTypes.Proofs.Contract.InputClosure
import ResolverTypes.Proofs.Graph.ValidGraph

/-!
# Names that a group captures

A name in a group is that of a declaration in the group if there is one, and otherwise that of a
declaration at the level of the module.  The names that a group derives, such as `Type` for its
contract, are not kept apart from the names of enums and of inputs that only fields of inputs name;
where they meet, the reference to the enum or input leads to the derived declaration.  Nowhere else
does a reference go astray.

## Main definitions

* `Document.resolve` : what a name in a group stands for.
* `DerivedName` : a name that a group derives.
* `Captures` : a group declares a name as something else than the input of that name.

## Main results

* `captures_iff` : a group captures a name exactly when it derives the name for something else.
* `resolve_eq_iff_not_captures` : a reference leads to the enum or input that it names exactly when
  the group does not capture the name.
-/

namespace ResolverTypes

open TypeScript

/-! ### References in a group -/

/-- What a name in a group stands for: a declaration of the group, or else one at the level of the
module. -/
def TypeScript.Document.resolve (document : Document) (group : Group) (name : String) :
    Option Declaration :=
  (group.get? name).or ((document.enums ++ document.sharedInputs).find? (·.name == name))

/-- The fields of the type that a field belongs to. -/
def Owner.fields : Owner → List FieldDef
  | .object definition => definition.fields
  | .interface definition => definition.fields

/-- The type that a field belongs to is one of a graph. -/
def Owner.IsIn (graph : SchemaGraph) : Owner → Prop
  | .object definition => definition ∈ graph.objects
  | .interface definition => definition ∈ graph.interfaces

/-- The references whose types stand in the group of an object or interface: of an object those in
its fields and in the inputs of its group, of an interface those in the arguments of its fields. -/
def SchemaGraph.groupReferences (graph : SchemaGraph) : Owner → List TypeRef
  | .object object =>
      object.fields.flatMap (·.references) ++
        (object.argumentInputs.filterMap graph.input?).flatMap fun input =>
          input.fields.map (·.type)
  | .interface interface => interface.fields.flatMap fun field => field.arguments.map (·.type)

variable (graph : SchemaGraph) (options : Options)

/-- The declaration of the enum or input that a reference names, if the graph defines it. -/
def declarationOf? (type : NamedType) : Option Declaration :=
  match type.kind with
  | .enum => (graph.enum? type.name).map enumDeclaration
  | .input => (graph.input? type.name).map (inputDeclaration options)
  | _ => none

/-- A group declares a name as something else than the input of that name. -/
def Captures (group : Group) (name : String) : Prop :=
  ∃ declaration ∈ group.declarations, declaration.name = name ∧
    (graph.input? name).map (inputDeclaration options) ≠ some declaration

/-- A name that the group of an object or interface derives: that of the contract, of a record of
arguments, of the alias of a field's contract, or of the default resolvers. -/
inductive DerivedName : Owner → String → Prop where
  | contract (owner : Owner) : DerivedName owner contractName
  | argsRecord {owner : Owner} {field : FieldDef} : field ∈ owner.fields → field.arguments ≠ [] →
      DerivedName owner (argsRecordName field.name)
  | fieldAlias {object : ObjectDef} {field : FieldDef} : field ∈ object.fields →
      DerivedName (.object object) (aliasName field.name)
  | defaultResolvers {object : ObjectDef} : options.defaultResolvers = true →
      (defaultResolvers? graph options object).isSome →
      DerivedName (.object object) "defaultResolvers"

/-! ### Derived declarations -/

/-- The declarations of a group that are not those of inputs. -/
def derivedDeclarations : Owner → List Declaration
  | .object object =>
      (if options.defaultResolvers then (defaultResolvers? graph options object).toList else []) ++
        (object.fields.filterMap (argsRecord? options) ++
          (object.fields.map (fieldAlias graph options (.object object)) ++
            [objectContract graph options object]))
  | .interface interface => (interfaceGroup graph options interface).declarations

variable {graph options}

theorem name_argsRecord? {field : FieldDef} {record : Declaration}
    (h : argsRecord? options field = some record) :
    field.arguments ≠ [] ∧ record.name = argsRecordName field.name := by
  rw [argsRecord?] at h
  split at h
  · cases h
  next hempty =>
    obtain rfl := Option.some.inj h
    exact ⟨fun hnil => hempty (List.isEmpty_iff.mpr hnil), rfl⟩

theorem exists_argsRecord? {field : FieldDef} (h : field.arguments ≠ []) :
    ∃ record, argsRecord? options field = some record ∧
      record.name = argsRecordName field.name := by
  rw [argsRecord?, List.isEmpty_eq_false_iff.mpr h]
  exact ⟨_, rfl, rfl⟩

theorem name_defaultResolvers? {object : ObjectDef} {declaration : Declaration}
    (h : defaultResolvers? graph options object = some declaration) :
    declaration.name = "defaultResolvers" := by
  obtain ⟨-, -, model, -, rfl⟩ := defaultResolvers?_eq_some_iff.mp h
  rfl

theorem derivedName_object_iff {object : ObjectDef} {name : String} :
    DerivedName graph options (.object object) name ↔
      ∃ declaration ∈ derivedDeclarations graph options (.object object),
        declaration.name = name := by
  constructor
  · intro h
    cases h with
    | contract =>
        exact ⟨_, List.mem_append_right _ (List.mem_append_right _ (List.mem_append_right _
          List.mem_cons_self)), rfl⟩
    | argsRecord hf ha =>
        obtain ⟨record, hr, hname⟩ := exists_argsRecord? ha
        exact ⟨record, List.mem_append_right _ (List.mem_append_left _
          (List.mem_filterMap.mpr ⟨_, hf, hr⟩)), hname⟩
    | fieldAlias hf =>
        exact ⟨_, List.mem_append_right _ (List.mem_append_right _ (List.mem_append_left _
          (List.mem_map_of_mem hf))), rfl⟩
    | defaultResolvers ho hd =>
        obtain ⟨declaration, hd⟩ := Option.isSome_iff_exists.mp hd
        refine ⟨declaration, List.mem_append_left _ ?_, name_defaultResolvers? hd⟩
        rw [if_pos ho, hd]
        exact List.mem_cons_self
  · rintro ⟨declaration, hd, rfl⟩
    rcases List.mem_append.mp hd with hd | hd
    · split at hd
      next ho =>
        have hd := Option.mem_toList.mp hd
        rw [name_defaultResolvers? hd]
        exact .defaultResolvers ho (Option.isSome_of_mem hd)
      next => cases hd
    rcases List.mem_append.mp hd with hd | hd
    · obtain ⟨field, hf, hr⟩ := List.mem_filterMap.mp hd
      obtain ⟨ha, hname⟩ := name_argsRecord? hr
      exact hname ▸ .argsRecord hf ha
    rcases List.mem_append.mp hd with hd | hd
    · obtain ⟨field, hf, rfl⟩ := List.mem_map.mp hd
      exact .fieldAlias hf
    · obtain rfl := List.mem_singleton.mp hd
      exact .contract _

theorem derivedName_interface_iff {interface : InterfaceDef} {name : String} :
    DerivedName graph options (.interface interface) name ↔
      ∃ declaration ∈ derivedDeclarations graph options (.interface interface),
        declaration.name = name := by
  constructor
  · intro h
    cases h with
    | contract => exact ⟨_, List.mem_append_right _ List.mem_cons_self, rfl⟩
    | argsRecord hf ha =>
        obtain ⟨record, hr, hname⟩ := exists_argsRecord? ha
        exact ⟨record, List.mem_append_left _ (List.mem_filterMap.mpr ⟨_, hf, hr⟩), hname⟩
  · rintro ⟨declaration, hd, rfl⟩
    rcases List.mem_append.mp hd with hd | hd
    · obtain ⟨field, hf, hr⟩ := List.mem_filterMap.mp hd
      obtain ⟨ha, hname⟩ := name_argsRecord? hr
      exact hname ▸ .argsRecord hf ha
    · obtain rfl := List.mem_singleton.mp hd
      exact .contract _

/-- The derived names are those of the derived declarations. -/
theorem derivedName_iff {owner : Owner} {name : String} : DerivedName graph options owner name ↔
    ∃ declaration ∈ derivedDeclarations graph options owner, declaration.name = name := by
  cases owner with
  | object object => exact derivedName_object_iff
  | interface interface => exact derivedName_interface_iff

theorem argsRecord?_ne_enumDeclaration (enum : EnumDef) (field : FieldDef) :
    argsRecord? options field ≠ some (enumDeclaration enum) := by
  intro h
  rw [argsRecord?] at h
  split at h <;> cases h

/-- The alias of a contract is not an enum, for a contract has a function in it. -/
theorem fieldAlias_ne_enumDeclaration (enum : EnumDef) (object : ObjectDef) (field : FieldDef) :
    fieldAlias graph options (.object object) field ≠ enumDeclaration enum := by
  intro h
  have htype := (Declaration.typeAlias.inj h).2
  obtain ⟨parameters, result, hw⟩ := exists_function_within_fieldContract graph options
    (.object object) field
  rw [htype, function_within_unionOf_iff] at hw
  obtain ⟨literal, hl, hw⟩ := hw
  obtain ⟨value, -, rfl⟩ := List.mem_map.mp hl
  cases TypeExpr.within_literal_iff.mp hw

theorem defaultResolvers?_ne_enumDeclaration (enum : EnumDef) (object : ObjectDef) :
    defaultResolvers? graph options object ≠ some (enumDeclaration enum) := by
  intro h
  obtain ⟨-, -, model, -, heq⟩ := defaultResolvers?_eq_some_iff.mp h
  cases heq

/-- No derived declaration is that of an enum. -/
theorem enumDeclaration_not_mem_derived (enum : EnumDef) (owner : Owner) :
    enumDeclaration enum ∉ derivedDeclarations graph options owner := by
  intro hd
  cases owner with
  | object object =>
      rcases List.mem_append.mp hd with hd | hd
      · split at hd
        · exact defaultResolvers?_ne_enumDeclaration enum object (Option.mem_toList.mp hd)
        · cases hd
      rcases List.mem_append.mp hd with hd | hd
      · obtain ⟨field, -, hr⟩ := List.mem_filterMap.mp hd
        exact argsRecord?_ne_enumDeclaration enum field hr
      rcases List.mem_append.mp hd with hd | hd
      · obtain ⟨field, -, hf⟩ := List.mem_map.mp hd
        exact fieldAlias_ne_enumDeclaration enum object field hf
      · cases List.mem_singleton.mp hd
  | interface interface =>
      rcases List.mem_append.mp hd with hd | hd
      · obtain ⟨field, -, hr⟩ := List.mem_filterMap.mp hd
        exact argsRecord?_ne_enumDeclaration enum field hr
      · cases List.mem_singleton.mp hd

/-! ### The group of an owner -/

section

variable {document : Document} {owner : Owner} {group : Group}

/-- A group declares what its owner derives and, for an object, the inputs of its arguments. -/
theorem mem_declarations_iff (h : Assembled graph options document) (ho : owner.IsIn graph)
    (hg : document.group? owner.name = some group) : ∃ inputs : List Declaration,
    (∀ declaration, declaration ∈ group.declarations ↔
      declaration ∈ derivedDeclarations graph options owner ∨ declaration ∈ inputs) ∧
    (∀ declaration ∈ inputs, ∃ input, graph.input? declaration.name = some input ∧
      declaration = inputDeclaration options input) := by
  cases owner with
  | object object =>
      obtain ⟨inputs, hi, hmem⟩ := h.exists_objectGroup ho
      obtain rfl := Option.some.inj (hg.symm.trans (h.group?_eq_some_iff.mpr ⟨hmem, rfl⟩))
      refine ⟨inputs, fun declaration => ?_, fun declaration hd => ?_⟩
      · simp only [objectGroupWith, derivedDeclarations, List.mem_append]
        tauto
      · obtain ⟨name, input, hr, rfl⟩ := exists_registered_of_groupInputs hi hd
        have hinput := (SchemaGraph.get?_inputRegistry_eq_some_iff.mp hr).2
        obtain rfl := SchemaGraph.name_of_input? hinput
        exact ⟨input, hinput, rfl⟩
  | interface interface =>
      obtain rfl := Option.some.inj
        (hg.symm.trans (h.group?_eq_some_iff.mpr ⟨h.interfaceGroup_mem ho, rfl⟩))
      exact ⟨[], fun declaration => by simp [derivedDeclarations],
        fun _ hd => absurd hd List.not_mem_nil⟩

/-- A group captures a name exactly when it derives the name for something else than the input of
that name. -/
theorem captures_iff (h : Assembled graph options document) (ho : owner.IsIn graph)
    (hg : document.group? owner.name = some group) {name : String} :
    Captures graph options group name ↔ DerivedName graph options owner name ∧
      group.get? name ≠ (graph.input? name).map (inputDeclaration options) := by
  obtain ⟨inputs, hmem, hinputs⟩ := mem_declarations_iff h ho hg
  have hgroup := (h.group?_eq_some_iff.mp hg).1
  constructor
  · rintro ⟨declaration, hd, rfl, hne⟩
    rw [(h.get?_eq_some_iff hgroup).mpr ⟨hd, rfl⟩]
    rcases (hmem declaration).mp hd with hd | hd
    · exact ⟨derivedName_iff.mpr ⟨declaration, hd, rfl⟩, hne.symm⟩
    · obtain ⟨input, hi, heq⟩ := hinputs declaration hd
      rw [hi, heq] at hne
      exact absurd rfl hne
  · rintro ⟨hn, hne⟩
    obtain ⟨declaration, hd, rfl⟩ := derivedName_iff.mp hn
    have hd := (hmem declaration).mpr (.inl hd)
    rw [(h.get?_eq_some_iff hgroup).mpr ⟨hd, rfl⟩] at hne
    exact ⟨declaration, hd, rfl, hne.symm⟩

/-- The input that a reference in a group names is declared in the group or for all groups. -/
theorem declared_of_groupReference (h : Assembled graph options document) (hv : graph.IsValid)
    (ho : owner.IsIn graph) (hg : document.group? owner.name = some group) {ref : TypeRef}
    (hr : ref ∈ graph.groupReferences owner) {name : String} (hbase : ref.base = ⟨.input, name⟩) :
    (∃ input, graph.input? name = some input ∧
      inputDeclaration options input ∈ group.declarations) ∨
      SharesInput graph options document name := by
  have hl := hv.isLowered
  cases owner with
  | object object =>
      obtain ⟨inputs, hi, hmem⟩ := h.exists_objectGroup ho
      obtain rfl := Option.some.inj (hg.symm.trans (h.group?_eq_some_iff.mpr ⟨hmem, rfl⟩))
      rcases List.mem_append.mp hr with hr | hr
      · -- a field is not of an input, so that the reference is that of an argument
        obtain ⟨field, hf, hr⟩ := List.mem_flatMap.mp hr
        rcases List.mem_cons.mp hr with rfl | hr
        · exact absurd (by rw [hbase])
            (hv.kind_ne_input (SchemaGraph.mem_outputFields_of_object ho hf))
        · obtain ⟨argument, ha, rfl⟩ := List.mem_map.mp hr
          obtain ⟨input, hinput, hin⟩ := declaresInput_of_groupInputs hi
            (mem_object_argumentInputs_iff.mpr
              ⟨field, hf, mem_argumentInputs_iff.mpr ⟨argument, ha, hbase⟩⟩)
          exact .inl ⟨input, hinput, sublist_objectGroupWith.subset hin⟩
      · obtain ⟨input, hinput, hr⟩ := List.mem_flatMap.mp hr
        obtain ⟨inner, hf, rfl⟩ := List.mem_map.mp hr
        obtain ⟨n, hn, hinput⟩ := List.mem_filterMap.mp hinput
        obtain ⟨field, hfield, hn⟩ := mem_object_argumentInputs_iff.mp hn
        obtain ⟨other, hother⟩ := registered_of_argument hl
          (SchemaGraph.mem_outputFields_of_object ho hfield) hn
        obtain rfl := Option.some.inj (hinput.symm.trans
          (SchemaGraph.get?_inputRegistry_eq_some_iff.mp hother).2)
        exact .inr (h.sharesInput_of_field hl (NameMap.mem_values_iff.mpr ⟨n, hother⟩) hf hbase)
  | interface interface =>
      obtain ⟨field, hf, hr⟩ := List.mem_flatMap.mp hr
      obtain ⟨argument, ha, rfl⟩ := List.mem_map.mp hr
      exact .inr (h.sharesInput_of_interfaceArgument hl ho hf
        (mem_argumentInputs_iff.mpr ⟨argument, ha, hbase⟩))

theorem Assembled.nodup_enums_sharedInputs (h : Assembled graph options document) :
    ((document.enums ++ document.sharedInputs).map (·.name)).Nodup :=
  (List.nodup_append.mp (List.nodup_append.mp
    (List.nodup_append.mp h.nodup_module).1).1).2.1

theorem groupReferences_subset (hl : graph.IsLowered) (ho : owner.IsIn graph) :
    graph.groupReferences owner ⊆ graph.references := by
  intro ref hr
  cases owner with
  | object object =>
      rcases List.mem_append.mp hr with hr | hr
      · obtain ⟨field, hf, hr⟩ := List.mem_flatMap.mp hr
        exact SchemaGraph.mem_references_of_outputField
          (SchemaGraph.mem_outputFields_of_object ho hf) hr
      · obtain ⟨input, hinput, hr⟩ := List.mem_flatMap.mp hr
        obtain ⟨n, -, hinput⟩ := List.mem_filterMap.mp hinput
        obtain ⟨inner, hf, rfl⟩ := List.mem_map.mp hr
        exact SchemaGraph.mem_references_of_inputField (hl.input?_eq_some_iff.mp hinput).1 hf
  | interface interface =>
      obtain ⟨field, hf, hr⟩ := List.mem_flatMap.mp hr
      exact SchemaGraph.mem_references_of_outputField
        (SchemaGraph.mem_outputFields_of_interface ho hf) (List.mem_cons_of_mem _ hr)

/-- In a group that does not declare a name, it stands for what is declared for all groups. -/
theorem resolve_of_get?_none {name : String} (hn : group.get? name = none) :
    document.resolve group name =
      (document.enums ++ document.sharedInputs).find? (·.name == name) := by
  rw [Document.resolve, hn, Option.none_or]

theorem resolve_of_get?_some {name : String} {declaration : Declaration}
    (hd : group.get? name = some declaration) :
    document.resolve group name = some declaration := by
  rw [Document.resolve, hd, Option.some_or]

/-- A reference to an input leads to the input exactly when the group does not capture its name. -/
theorem resolve_input_iff (h : Assembled graph options document) (hv : graph.IsValid)
    (ho : owner.IsIn graph) (hg : document.group? owner.name = some group) {ref : TypeRef}
    (hr : ref ∈ graph.groupReferences owner) {name : String} (hbase : ref.base = ⟨.input, name⟩) :
    document.resolve group name = (graph.input? name).map (inputDeclaration options) ↔
      ¬ Captures graph options group name := by
  have hgroup := (h.group?_eq_some_iff.mp hg).1
  constructor
  · rintro hresolve ⟨declaration, hd, rfl, hne⟩
    rw [resolve_of_get?_some ((h.get?_eq_some_iff hgroup).mpr ⟨hd, rfl⟩)] at hresolve
    exact hne hresolve.symm
  · intro hc
    cases hget : group.get? name with
    | some declaration =>
        rw [resolve_of_get?_some hget]
        obtain ⟨hd, hname⟩ := (h.get?_eq_some_iff hgroup).mp hget
        by_contra hne
        exact hc ⟨declaration, hd, hname, fun heq => hne heq.symm⟩
    | none =>
        rw [resolve_of_get?_none hget]
        rcases declared_of_groupReference h hv ho hg hr hbase with ⟨input, hi, hd⟩ | hs
        · obtain rfl := SchemaGraph.name_of_input? hi
          exact absurd (hget.symm.trans ((h.get?_eq_some_iff hgroup).mpr ⟨hd, rfl⟩)) nofun
        · obtain ⟨⟨input, hi, hfilter⟩, -⟩ := hs
          have hmem : inputDeclaration options input ∈ document.sharedInputs :=
            (List.mem_filter.mp (hfilter ▸ List.mem_cons_self)).1
          rw [hi]
          exact (find?_name_eq_some_iff h.nodup_enums_sharedInputs).mpr
            ⟨List.mem_append_right _ hmem, SchemaGraph.name_of_input? hi⟩

/-- No input has the name of an enum that is referred to. -/
theorem input?_eq_none_of_enum (hl : graph.IsLowered) {ref : TypeRef}
    (hr : ref ∈ graph.references) {name : String} (hbase : ref.base = ⟨.enum, name⟩) :
    graph.input? name = none := by
  refine find?_name_eq_none_iff.mpr fun hn => ?_
  obtain ⟨input, hi, hname⟩ := List.mem_map.mp hn
  have hkind := hl.kind_eq_input hr hi (by rw [hbase, hname])
  rw [hbase] at hkind
  cases hkind

/-- Among what is declared for all groups, a name that no input has is that of the enum. -/
theorem Assembled.find?_enum (h : Assembled graph options document) (hl : graph.IsLowered)
    {name : String} (hinput : graph.input? name = none) :
    (document.enums ++ document.sharedInputs).find? (·.name == name) =
      (graph.enum? name).map enumDeclaration := by
  cases he : graph.enum? name with
  | some enum =>
      obtain ⟨hmem, hname⟩ := hl.enum?_eq_some_iff.mp he
      refine (find?_name_eq_some_iff h.nodup_enums_sharedInputs).mpr
        ⟨List.mem_append_left _ ?_, hname⟩
      rw [h.enums_eq]
      exact List.mem_map_of_mem hmem
  | none =>
      refine find?_name_eq_none_iff.mpr fun hn => ?_
      rw [List.map_append, h.enums_eq, h.sharedInputs_eq, sharedInputs, List.map_map,
        List.map_map] at hn
      rcases List.mem_append.mp hn with hn | hn
      · exact find?_name_eq_none_iff.mp he hn
      · obtain ⟨input, hi, hname⟩ := List.mem_map.mp hn
        obtain ⟨n, -, hr⟩ := List.mem_filterMap.mp hi
        have hlookup := (SchemaGraph.get?_inputRegistry_eq_some_iff.mp hr).2
        have heq : n = name := (SchemaGraph.name_of_input? hlookup).symm.trans hname
        rw [heq, hinput] at hlookup
        cases hlookup

/-- A reference to an enum leads to the enum exactly when the group does not capture its name. -/
theorem resolve_enum_iff (h : Assembled graph options document) (hl : graph.IsLowered)
    (ho : owner.IsIn graph) (hg : document.group? owner.name = some group) {ref : TypeRef}
    (hr : ref ∈ graph.groupReferences owner) {name : String} (hbase : ref.base = ⟨.enum, name⟩) :
    document.resolve group name = (graph.enum? name).map enumDeclaration ↔
      ¬ Captures graph options group name := by
  have hgroup := (h.group?_eq_some_iff.mp hg).1
  have hinput := input?_eq_none_of_enum hl (groupReferences_subset hl ho hr) hbase
  constructor
  · rintro hresolve ⟨declaration, hd, rfl, -⟩
    rw [resolve_of_get?_some ((h.get?_eq_some_iff hgroup).mpr ⟨hd, rfl⟩)] at hresolve
    obtain ⟨enum, -, rfl⟩ := Option.map_eq_some_iff.mp hresolve.symm
    obtain ⟨inputs, hmem, hinputs⟩ := mem_declarations_iff h ho hg
    rcases (hmem _).mp hd with hd | hd
    · exact enumDeclaration_not_mem_derived enum owner hd
    · obtain ⟨input, hi, -⟩ := hinputs _ hd
      cases hinput.symm.trans hi
  · intro hc
    have hget : group.get? name = none := by
      rw [Option.eq_none_iff_forall_ne_some]
      intro declaration hget
      obtain ⟨hd, hname⟩ := (h.get?_eq_some_iff hgroup).mp hget
      exact hc ⟨declaration, hd, hname, by rw [hinput]; exact nofun⟩
    rw [resolve_of_get?_none hget, h.find?_enum hl hinput]

end

/-- In a document assembled from valid schema texts, a reference in a group leads to the enum or
input that it names exactly when the group does not capture the name; and the group captures it
exactly when it derives the name for something else. -/
theorem resolve_eq_iff_not_captures {document : Document} (hv : graph.IsValid)
    (ha : assemble graph options = .ok document) {owner : Owner} (ho : owner.IsIn graph)
    {group : Group} (hg : document.group? owner.name = some group) {ref : TypeRef}
    (hr : ref ∈ graph.groupReferences owner)
    (hk : ref.base.kind = .enum ∨ ref.base.kind = .input) :
    (document.resolve group ref.base.name = declarationOf? graph options ref.base ↔
      ¬ Captures graph options group ref.base.name) ∧
    (Captures graph options group ref.base.name ↔
      DerivedName graph options owner ref.base.name ∧
        group.get? ref.base.name ≠
          (graph.input? ref.base.name).map (inputDeclaration options)) := by
  have h := assembled_of_assemble ha
  refine ⟨?_, captures_iff h ho hg⟩
  rcases hbase : ref.base with ⟨kind, name⟩
  rw [hbase] at hk
  rcases hk with rfl | rfl
  · exact resolve_enum_iff h hv.isLowered ho hg hr hbase
  · exact resolve_input_iff h hv ho hg hr hbase

/-- The text of a schema with an enum that has the name of contracts. -/
def typeText : String := "type Query { kind: Type }\nenum Type { A B }"

/-- The object of `typeText`. -/
def typeObject : ObjectDef :=
  ⟨"Query", [⟨"kind", .nullable (.named ⟨.enum, "Type"⟩), []⟩], [], false⟩

/-- The graph of `typeText`. -/
def typeGraph : SchemaGraph where
  objects := [typeObject]
  enums := [⟨"Type", ["A", "B"]⟩]
  roots := { query := some "Query" }

theorem isValid_typeGraph : typeGraph.IsValid := by
  have h : (SchemaGraph.ofSources [⟨"schema.graphql", typeText⟩]).toOption = some typeGraph := by
    decide +kernel
  exact ⟨_, toOption_eq_some_iff.mp h⟩

theorem not_resolve_typeGraph : typeGraph.IsValid ∧
    ∃ document group, assemble typeGraph {} = .ok document ∧
      document.group? typeObject.name = some group ∧
      document.resolve group "Type" ≠ declarationOf? typeGraph {} ⟨.enum, "Type"⟩ := by
  have hempty := SchemaGraph.inputRegistry_eq_empty (show typeGraph.argumentInputs = [] from rfl)
  obtain ⟨document, ha⟩ : ∃ document, assemble typeGraph {} = .ok document := by
    rw [← isSome_toOption_iff]
    simp only [assemble, draftDocument, objectGroups, objectGroup, groupInputs, sharedInputs,
      sharedInputNames, hempty]
    decide +kernel
  have h := assembled_of_assemble ha
  obtain ⟨inputs, -, hmem⟩ := h.exists_objectGroup (List.mem_singleton_self typeObject)
  have hg := h.group?_eq_some_iff.mpr ⟨hmem, rfl⟩
  have ho : (Owner.object typeObject).IsIn typeGraph := List.mem_singleton_self typeObject
  have href : TypeRef.nullable (.named ⟨.enum, "Type"⟩) ∈
      typeGraph.groupReferences (.object typeObject) := by
    decide
  obtain ⟨hresolve, hcaptures⟩ :=
    resolve_eq_iff_not_captures isValid_typeGraph ha ho hg href (.inl rfl)
  refine ⟨isValid_typeGraph, document, _, ha, hg, fun heq => hresolve.mp heq ?_⟩
  exact hcaptures.mpr ⟨.contract _, fun hnone =>
    Option.some_ne_none _ ((h.get?_contractName hmem).symm.trans hnone)⟩

end ResolverTypes
