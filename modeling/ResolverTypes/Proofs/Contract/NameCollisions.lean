import ResolverTypes.Proofs.Contract.NameCapture
import ResolverTypes.Proofs.Graph.DistinctParts

/-!
# Collisions of names

The names in a group are made from the names of fields, by upper-casing the first letter and
putting `Args` before it or `Resolver` after it, and stand beside two fixed names and those of
inputs.  A graph of schema texts has no document exactly when two names of a scope meet, and they
can do so in few ways only: a record of arguments never bears the name of the contract, for
instance, whatever the fields are called.  The error names the first group with a repeated name, and
the module only when no group has one.

## Main definitions

* `IsFirstRepeat` : the first name of a list that repeats an earlier one.
* `groupNames`, `moduleNames` : the names that the groups and the module of a graph declare.
* `NamespaceDeclares` : a name that the namespace of a type declares.
* `MeetInCapitals` : two fields have the same name but for the case of its first letter.
* `ReportsCollision` : the collision that is reported for a graph.

## Main results

* `firstDuplicate_eq_some_iff` : what the search for a repeated name finds.
* `nodup_objectNames_iff`, `nodup_interfaceNames_iff` : when the names of a group differ.
* `mem_groupNames_iff` : the names that the namespace of a type declares.
* `assemble_eq_error_iff` : when a graph of schema texts has no document, and what is reported.
-/

namespace ResolverTypes

open TypeScript

/-! ### The first repeated name -/

/-- A name is the first of a list that repeats an earlier one. -/
def IsFirstRepeat (names : List String) (name : String) : Prop :=
  ∃ before after, names = before ++ name :: after ∧ before.Nodup ∧ name ∈ before

theorem firstDuplicate_go_eq_some_iff {seen names : List String} {name : String} :
    firstDuplicate.go seen names = some name ↔ ∃ before after, names = before ++ name :: after ∧
      (before.Nodup ∧ ∀ n ∈ before, n ∉ seen) ∧ (name ∈ before ∨ name ∈ seen) := by
  induction names generalizing seen with
  | nil =>
      simp [firstDuplicate.go]
  | cons first rest ih =>
      rw [firstDuplicate.go]
      by_cases hfirst : first ∈ seen
      · rw [if_pos hfirst, Option.some.injEq]
        constructor
        · rintro rfl
          exact ⟨[], rest, rfl, ⟨List.nodup_nil, by simp⟩, .inr hfirst⟩
        · rintro ⟨before, after, heq, ⟨-, hbefore⟩, -⟩
          cases before with
          | nil => exact (List.cons.inj heq).1
          | cons n before =>
              obtain ⟨rfl, -⟩ := List.cons.inj heq
              exact absurd hfirst (hbefore _ List.mem_cons_self)
      · rw [if_neg hfirst, ih]
        constructor
        · rintro ⟨before, after, rfl, ⟨hnodup, hbefore⟩, hname⟩
          have hnew : first ∉ before := fun h => hbefore first h List.mem_cons_self
          refine ⟨first :: before, after, rfl, ⟨List.nodup_cons.mpr ⟨hnew, hnodup⟩, ?_⟩, ?_⟩
          · intro n hn
            rcases List.mem_cons.mp hn with rfl | hn
            · exact hfirst
            · exact fun h => hbefore n hn (List.mem_cons_of_mem _ h)
          · simp only [List.mem_cons] at hname ⊢
            tauto
        · rintro ⟨before, after, heq, ⟨hnodup, hbefore⟩, hname⟩
          cases before with
          | nil =>
              obtain ⟨rfl, -⟩ := List.cons.inj heq
              simp [hfirst] at hname
          | cons n before =>
              obtain ⟨rfl, rfl⟩ := List.cons.inj heq
              obtain ⟨hnew, hnodup⟩ := List.nodup_cons.mp hnodup
              refine ⟨before, after, rfl, ⟨hnodup, fun m hm => ?_⟩, ?_⟩
              · have hne : m ≠ first := fun h => hnew (h ▸ hm)
                simp [hne, hbefore m (List.mem_cons_of_mem _ hm)]
              · simp only [List.mem_cons] at hname ⊢
                tauto

/-- The search for a repeated name finds the first name that repeats an earlier one. -/
theorem firstDuplicate_eq_some_iff {names : List String} {name : String} :
    firstDuplicate names = some name ↔ IsFirstRepeat names name := by
  simp [firstDuplicate, firstDuplicate_go_eq_some_iff, IsFirstRepeat]

/-! ### The names that a graph declares -/

/-- The fields that take arguments. -/
def argumentFields (fields : List FieldDef) : List FieldDef :=
  fields.filter (·.arguments ≠ [])

/-- The names of the records of arguments of some fields. -/
def argsRecordNames (fields : List FieldDef) : List String :=
  (argumentFields fields).map (argsRecordName ·.name)

/-- The names that the group of an interface declares. -/
def interfaceNames (interface : InterfaceDef) : List String :=
  argsRecordNames interface.fields ++ [contractName]

variable (graph : SchemaGraph) (options : Options)

/-- The name of the default resolvers of an object, where they are declared. -/
def defaultResolverNames (object : ObjectDef) : List String :=
  if options.defaultResolvers ∧ (defaultResolvers? graph options object).isSome then
    ["defaultResolvers"]
  else []

/-- The names that the group of an object declares. -/
def objectNames (object : ObjectDef) : List String :=
  defaultResolverNames graph options object ++ object.argumentInputs ++
    argsRecordNames object.fields ++ object.fields.map (aliasName ·.name) ++ [contractName]

/-- The types that have a group, in the order of the groups, each with the names that its group
declares. -/
def groupNames : List (String × List String) :=
  graph.objects.map (fun object => (object.name, objectNames graph options object)) ++
    graph.interfaces.map (fun interface => (interface.name, interfaceNames interface)) ++
    graph.unions.map fun union => (union.name, [contractName])

/-- The namespace of a type declares a name: one that the group of an object or interface derives,
that of an input of an object's arguments, or that of the contract of a union. -/
inductive NamespaceDeclares : String → String → Prop where
  | derived {owner : Owner} {name : String} : owner.IsIn graph →
      DerivedName graph options owner name → NamespaceDeclares owner.name name
  | argumentInput {object : ObjectDef} {name : String} : object ∈ graph.objects →
      name ∈ object.argumentInputs → NamespaceDeclares object.name name
  | unionContract {union : UnionDef} : union ∈ graph.unions →
      NamespaceDeclares union.name contractName

/-- The names that stand at the level of the module: those imported, those of enums and of shared
inputs, those of the namespaces, and that of the interface of all contracts. -/
def moduleNames : List String :=
  (documentImports options).flatMap (·.names) ++
    (graph.enums.map (·.name) ++ sharedInputNames graph) ++
    graph.resolvableTypeNames.map namespaceName ++ ["Resolvers"]

/-- The collision that is reported for a graph: that of the first repeated name in the first group
that has one and, where no group has one, that of the first repeated name in the module. -/
inductive ReportsCollision : GenerationError → Prop where
  | group {before after : List (String × List String)} {typeName : String} {names : List String}
      {name : String} : groupNames graph options = before ++ (typeName, names) :: after →
      (∀ earlier ∈ before, earlier.2.Nodup) → IsFirstRepeat names name →
      ReportsCollision (.nameCollision (.group (namespaceName typeName)) name)
  | module {name : String} : (∀ group ∈ groupNames graph options, group.2.Nodup) →
      IsFirstRepeat (moduleNames graph options) name →
      ReportsCollision (.nameCollision .module name)

/-- Some two fields have the same name but for the case of its first letter. -/
def MeetInCapitals (fields : List FieldDef) : Prop :=
  ∃ f ∈ fields, ∃ g ∈ fields, f ≠ g ∧ Text.capitalize f.name = Text.capitalize g.name

variable {graph options}

/-! ### Names made from fields -/

theorem mem_argumentFields_iff {fields : List FieldDef} {field : FieldDef} :
    field ∈ argumentFields fields ↔ field ∈ fields ∧ field.arguments ≠ [] := by
  simp [argumentFields]

theorem mem_argsRecordNames_iff {fields : List FieldDef} {name : String} :
    name ∈ argsRecordNames fields ↔
      ∃ field ∈ fields, field.arguments ≠ [] ∧ argsRecordName field.name = name := by
  simp only [argsRecordNames, List.mem_map, mem_argumentFields_iff, and_assoc]

theorem argsRecordName_eq_iff {a b : String} :
    argsRecordName a = argsRecordName b ↔ Text.capitalize a = Text.capitalize b :=
  String.append_right_inj _

theorem aliasName_eq_iff {a b : String} :
    aliasName a = aliasName b ↔ Text.capitalize a = Text.capitalize b :=
  String.append_left_inj _

/-- The name of a record of arguments starts as none of the fixed names does. -/
theorem head?_argsRecordName (fieldName : String) :
    (argsRecordName fieldName).toList.head? = some 'A' := by
  simp [argsRecordName]

/-- The name of an alias ends as none of the fixed names does. -/
theorem getLast?_aliasName (fieldName : String) :
    (aliasName fieldName).toList.getLast? = some 'r' := by
  simp [aliasName]

/-- Names made from fields in a way that keeps different capitals apart differ unless two fields
meet in capitals. -/
theorem nodup_map_name_iff {fields : List FieldDef} (hd : (fields.map (·.name)).Nodup)
    {derived : String → String}
    (hderived : ∀ a b, derived a = derived b ↔ Text.capitalize a = Text.capitalize b) :
    (fields.map (derived ·.name)).Nodup ↔ ¬ MeetInCapitals fields := by
  rw [List.nodup_map_iff_inj_on (.of_map _ hd)]
  simp only [hderived]
  constructor
  · rintro h ⟨f, hf, g, hg, hne, heq⟩
    exact hne (h f hf g hg heq)
  · intro h f hf g hg heq
    by_contra hne
    exact h ⟨f, hf, g, hg, hne, heq⟩

/-- The names of the records of arguments differ unless two fields that take arguments meet in
capitals. -/
theorem nodup_argsRecordNames_iff {fields : List FieldDef} (hd : (fields.map (·.name)).Nodup) :
    (argsRecordNames fields).Nodup ↔ ¬ MeetInCapitals (argumentFields fields) :=
  nodup_map_name_iff (hd.sublist (List.filter_sublist.map _)) fun _ _ => argsRecordName_eq_iff

/-- The names that an object's group makes from some fields. -/
def fieldNames (fields : List FieldDef) : List String :=
  argsRecordNames fields ++ fields.map (aliasName ·.name)

theorem not_mem_fieldNames {fields : List FieldDef} {name : String}
    (hhead : name.toList.head? ≠ some 'A') (hlast : name.toList.getLast? ≠ some 'r') :
    name ∉ fieldNames fields := by
  intro h
  rcases List.mem_append.mp h with h | h
  · obtain ⟨field, -, -, rfl⟩ := mem_argsRecordNames_iff.mp h
    exact hhead (head?_argsRecordName _)
  · obtain ⟨field, -, rfl⟩ := List.mem_map.mp h
    exact hlast (getLast?_aliasName _)

theorem contractName_not_mem_fieldNames (fields : List FieldDef) :
    contractName ∉ fieldNames fields :=
  not_mem_fieldNames (by decide) (by decide)

/-- Of the names made from fields, only two aliases, two records of arguments, or a record and an
alias can be the same. -/
theorem nodup_fieldNames_iff {fields : List FieldDef} (hd : (fields.map (·.name)).Nodup) :
    (fieldNames fields).Nodup ↔ ¬ MeetInCapitals fields ∧
      ¬ ∃ f ∈ fields, ∃ g ∈ fields, f.arguments ≠ [] ∧
        argsRecordName f.name = aliasName g.name := by
  have haliases : (fields.map (aliasName ·.name)).Nodup ↔ ¬ MeetInCapitals fields :=
    nodup_map_name_iff hd fun _ _ => aliasName_eq_iff
  rw [fieldNames, List.nodup_append, haliases]
  constructor
  · rintro ⟨-, hmeet, hapart⟩
    refine ⟨hmeet, ?_⟩
    rintro ⟨f, hf, g, hg, ha, heq⟩
    exact hapart _ (mem_argsRecordNames_iff.mpr ⟨f, hf, ha, rfl⟩) _ (List.mem_map_of_mem hg) heq
  · rintro ⟨hmeet, hapart⟩
    -- the fields that take arguments are some of the fields, so that their records differ too
    have hrecords : (argsRecordNames fields).Nodup := by
      rw [nodup_argsRecordNames_iff hd]
      rintro ⟨f, hf, g, hg, h⟩
      exact hmeet ⟨f, (mem_argumentFields_iff.mp hf).1, g, (mem_argumentFields_iff.mp hg).1, h⟩
    refine ⟨hrecords, hmeet, ?_⟩
    rintro name hn other ho rfl
    obtain ⟨f, hf, ha, rfl⟩ := mem_argsRecordNames_iff.mp hn
    obtain ⟨g, hg, heq⟩ := List.mem_map.mp ho
    exact hapart ⟨f, hf, g, hg, ha, heq.symm⟩

/-- The names in an interface's group differ unless two of its fields that take arguments meet in
capitals. -/
theorem nodup_interfaceNames_iff {interface : InterfaceDef}
    (hd : (interface.fields.map (·.name)).Nodup) :
    (interfaceNames interface).Nodup ↔ ¬ MeetInCapitals (argumentFields interface.fields) := by
  rw [interfaceNames, List.nodup_append, nodup_argsRecordNames_iff hd]
  refine and_iff_left ⟨List.nodup_singleton _, fun name hn other ho heq => ?_⟩
  obtain rfl := heq.trans (List.mem_singleton.mp ho)
  exact contractName_not_mem_fieldNames _ (List.mem_append_left _ hn)

/-! ### The names in an object's group -/

variable (graph options) in
/-- The names that an object's group derives, without those of inputs. -/
def derivedNames (object : ObjectDef) : List String :=
  defaultResolverNames graph options object ++ (fieldNames object.fields ++ [contractName])

theorem mem_defaultResolverNames_iff {object : ObjectDef} {name : String} :
    name ∈ defaultResolverNames graph options object ↔
      (options.defaultResolvers ∧ (defaultResolvers? graph options object).isSome) ∧
        name = "defaultResolvers" := by
  rw [defaultResolverNames]
  split
  next h => simp [h]
  next h => simp [h]

theorem nodup_defaultResolverNames (object : ObjectDef) :
    (defaultResolverNames graph options object).Nodup := by
  rw [defaultResolverNames]
  split
  · exact List.nodup_singleton _
  · exact List.nodup_nil

theorem mem_derivedNames_iff {object : ObjectDef} {name : String} :
    name ∈ derivedNames graph options object ↔
      DerivedName graph options (.object object) name := by
  simp only [derivedNames, fieldNames, List.mem_append, mem_defaultResolverNames_iff,
    mem_argsRecordNames_iff, List.mem_map, List.mem_singleton]
  constructor
  · rintro (⟨⟨ho, hd⟩, rfl⟩ | (⟨field, hf, ha, rfl⟩ | ⟨field, hf, rfl⟩) | rfl)
    · exact .defaultResolvers ho hd
    · exact .argsRecord hf ha
    · exact .fieldAlias hf
    · exact .contract _
  · intro h
    cases h with
    | contract => exact .inr (.inr rfl)
    | argsRecord hf ha => exact .inr (.inl (.inl ⟨_, hf, ha, rfl⟩))
    | fieldAlias hf => exact .inr (.inl (.inr ⟨_, hf, rfl⟩))
    | defaultResolvers ho hd => exact .inl ⟨⟨ho, hd⟩, rfl⟩

/-- The fixed names meet neither each other nor a name made from a field. -/
theorem nodup_derivedNames_iff {object : ObjectDef} :
    (derivedNames graph options object).Nodup ↔ (fieldNames object.fields).Nodup := by
  constructor
  · intro h
    exact (List.nodup_append.mp (List.nodup_append.mp h).2.1).1
  · intro h
    refine List.nodup_append.mpr ⟨nodup_defaultResolverNames object, List.nodup_append.mpr
      ⟨h, List.nodup_singleton _, fun name hn other ho => ?_⟩, fun name hn other ho => ?_⟩
    · rw [List.mem_singleton.mp ho]
      rintro rfl
      exact contractName_not_mem_fieldNames _ hn
    · obtain ⟨-, rfl⟩ := mem_defaultResolverNames_iff.mp hn
      rcases List.mem_append.mp ho with ho | ho
      · rintro rfl
        exact not_mem_fieldNames (by decide) (by decide) ho
      · rw [List.mem_singleton.mp ho]
        decide

theorem objectNames_perm (object : ObjectDef) : (objectNames graph options object).Perm
    (object.argumentInputs ++ derivedNames graph options object) := by
  rw [objectNames, derivedNames, fieldNames]
  simp only [List.append_assoc]
  rw [← List.append_assoc, ← List.append_assoc object.argumentInputs]
  exact List.perm_append_comm.append_right _

/-- The names in an object's group differ unless two of its fields meet in capitals, the record of
one bears the name of the alias of another, or an input of its arguments bears a derived name. -/
theorem nodup_objectNames_iff {object : ObjectDef} (hd : (object.fields.map (·.name)).Nodup) :
    (objectNames graph options object).Nodup ↔ ¬ MeetInCapitals object.fields ∧
      (¬ ∃ f ∈ object.fields, ∃ g ∈ object.fields, f.arguments ≠ [] ∧
        argsRecordName f.name = aliasName g.name) ∧
      ¬ ∃ name ∈ object.argumentInputs, DerivedName graph options (.object object) name := by
  rw [(objectNames_perm object).nodup_iff, List.nodup_append, nodup_derivedNames_iff,
    nodup_fieldNames_iff hd]
  constructor
  · rintro ⟨-, ⟨hmeet, hrecord⟩, hinputs⟩
    refine ⟨hmeet, hrecord, ?_⟩
    rintro ⟨name, hn, hderived⟩
    exact hinputs name hn name (mem_derivedNames_iff.mpr hderived) rfl
  · rintro ⟨hmeet, hrecord, hinputs⟩
    refine ⟨nodup_sortedNames _, ⟨hmeet, hrecord⟩, ?_⟩
    rintro name hn other ho rfl
    exact hinputs ⟨name, hn, mem_derivedNames_iff.mp ho⟩

/-! ### The names in a namespace -/

theorem namespaceName_eq_iff {a b : String} : namespaceName a = namespaceName b ↔ a = b :=
  String.append_left_inj _

theorem mem_objectNames_iff {object : ObjectDef} {name : String} :
    name ∈ objectNames graph options object ↔
      name ∈ object.argumentInputs ∨ DerivedName graph options (.object object) name := by
  rw [(objectNames_perm object).mem_iff, List.mem_append, mem_derivedNames_iff]

variable (graph options) in
theorem mem_interfaceNames_iff {interface : InterfaceDef} {name : String} :
    name ∈ interfaceNames interface ↔ DerivedName graph options (.interface interface) name := by
  rw [interfaceNames, List.mem_append, mem_argsRecordNames_iff, List.mem_singleton]
  constructor
  · rintro (⟨field, hf, ha, rfl⟩ | rfl)
    · exact .argsRecord hf ha
    · exact .contract _
  · intro h
    cases h with
    | contract => exact .inr rfl
    | argsRecord hf ha => exact .inl ⟨_, hf, ha, rfl⟩

/-- The names that the group of a type declares are those of its namespace. -/
theorem mem_groupNames_iff {typeName name : String} :
    (∃ names, (typeName, names) ∈ groupNames graph options ∧ name ∈ names) ↔
      NamespaceDeclares graph options typeName name := by
  simp only [groupNames, List.mem_append, List.mem_map, Prod.mk.injEq]
  constructor
  · rintro ⟨_, (⟨object, ho, rfl, rfl⟩ | ⟨interface, hi, rfl, rfl⟩) | ⟨union, hu, rfl, rfl⟩, hn⟩
    · have hin : (Owner.object object).IsIn graph := ho
      rcases mem_objectNames_iff.mp hn with hn | hn
      · exact .argumentInput ho hn
      · exact .derived hin hn
    · have hin : (Owner.interface interface).IsIn graph := hi
      exact .derived hin ((mem_interfaceNames_iff graph options).mp hn)
    · exact List.mem_singleton.mp hn ▸ .unionContract hu
  · intro h
    cases h with
    | @derived owner name howner hn =>
        cases owner with
        | object object =>
            exact ⟨_, .inl (.inl ⟨object, howner, rfl, rfl⟩), mem_objectNames_iff.mpr (.inr hn)⟩
        | interface interface =>
            exact ⟨_, .inl (.inr ⟨interface, howner, rfl, rfl⟩),
              (mem_interfaceNames_iff graph options).mpr hn⟩
    | @argumentInput object name ho hn =>
        exact ⟨_, .inl (.inl ⟨object, ho, rfl, rfl⟩), mem_objectNames_iff.mpr (.inl hn)⟩
    | @unionContract union hu =>
        exact ⟨_, .inr ⟨union, hu, rfl, rfl⟩, List.mem_singleton_self _⟩

/-! ### The names of the draft -/

theorem names_argsRecords (fields : List FieldDef) :
    (fields.filterMap (argsRecord? options)).map (·.name) = argsRecordNames fields := by
  induction fields with
  | nil => rfl
  | cons field fields ih =>
      by_cases h : field.arguments = []
      · have hrecord : argsRecord? options field = none := by simp [argsRecord?, h]
        have hfields : argsRecordNames (field :: fields) = argsRecordNames fields := by
          simp [argsRecordNames, argumentFields, h]
        rw [List.filterMap_cons_none hrecord, ih, hfields]
      · obtain ⟨record, hrecord, hname⟩ :
            ∃ record, argsRecord? options field = some record ∧
              record.name = argsRecordName field.name := exists_argsRecord? h
        have hfields : argsRecordNames (field :: fields) =
            argsRecordName field.name :: argsRecordNames fields := by
          simp [argsRecordNames, argumentFields, h]
        rw [List.filterMap_cons_some hrecord, List.map_cons, ih, hname, hfields]

theorem names_defaultResolvers (object : ObjectDef) :
    (if options.defaultResolvers then (defaultResolvers? graph options object).toList
      else []).map (·.name) = defaultResolverNames graph options object := by
  cases hd : defaultResolvers? graph options object with
  | none => simp [defaultResolverNames, hd]
  | some declaration =>
      have hname := name_defaultResolvers? hd
      by_cases ho : options.defaultResolvers
      · simp [defaultResolverNames, hd, ho, hname]
      · simp [defaultResolverNames, ho]

theorem names_groupInputs {object : ObjectDef} {inputs : List Declaration}
    (h : groupInputs graph options object = .ok inputs) :
    inputs.map (·.name) = object.argumentInputs := by
  rw [← List.map_id object.argumentInputs]
  refine map_eq_map_of_forall₂ (groupInputs_eq_ok_iff.mp h) fun name declaration hd => ?_
  obtain ⟨input, hr, rfl⟩ := hd
  exact SchemaGraph.name_of_input? (SchemaGraph.get?_inputRegistry_eq_some_iff.mp hr).2

theorem names_objectGroup {object : ObjectDef} {group : Group}
    (h : objectGroup graph options object = .ok group) :
    group.declarations.map (·.name) = objectNames graph options object := by
  obtain ⟨inputs, hi, rfl⟩ := objectGroup_eq_ok_iff.mp h
  simp only [objectGroupWith, List.map_append, names_defaultResolvers, names_groupInputs hi,
    names_argsRecords, List.map_map]
  rfl

theorem names_interfaceGroup (interface : InterfaceDef) :
    (interfaceGroup graph options interface).declarations.map (·.name) =
      interfaceNames interface := by
  rw [interfaceGroup, List.map_append, names_argsRecords]
  rfl

theorem names_groups {document : Document} (hd : draftDocument graph options = .ok document) :
    document.groups.map (fun group => (group.typeName, group.declarations.map (·.name))) =
      groupNames graph options := by
  obtain ⟨groups, hgroups, rfl⟩ := draftDocument_eq_ok_iff.mp hd
  have hobjects : groups.map (fun group => (group.typeName, group.declarations.map (·.name))) =
      graph.objects.map fun object => (object.name, objectNames graph options object) := by
    refine map_eq_map_of_forall₂ hgroups fun object group hg => ?_
    rw [names_objectGroup hg]
    obtain ⟨inputs, -, rfl⟩ := objectGroup_eq_ok_iff.mp hg
    rfl
  simp only [groupNames, List.map_append, hobjects, List.map_map]
  congr 2
  refine List.map_congr_left fun interface _ => ?_
  rw [Function.comp_apply, names_interfaceGroup]
  rfl

theorem registered_of_mem_sharedInputNames (hl : graph.IsLowered) {name : String}
    (hn : name ∈ sharedInputNames graph) : ∃ input, graph.inputRegistry.get? name = some input := by
  rcases List.mem_append.mp (mem_sortedNames.mp hn) with hn | hn
  · obtain ⟨input, hr, hn⟩ := List.mem_flatMap.mp hn
    exact registered_of_field hl hr hn
  · obtain ⟨field, hf, hn⟩ := List.mem_flatMap.mp hn
    obtain ⟨interface, hi, hf⟩ := List.mem_flatMap.mp hf
    exact registered_of_argument hl (SchemaGraph.mem_outputFields_of_interface hi hf) hn

variable (options) in
/-- Every shared input is registered, so that all of them are declared. -/
theorem names_sharedInputs (hl : graph.IsLowered) :
    (sharedInputs graph options).map (·.name) = sharedInputNames graph := by
  have hname : ∀ name ∈ sharedInputNames graph,
      (graph.inputRegistry.get? name).map ((·.name) ∘ inputDeclaration options) = some name := by
    intro name hn
    obtain ⟨input, hr⟩ := registered_of_mem_sharedInputNames hl hn
    rw [hr, Option.map_some]
    exact congrArg some
      (SchemaGraph.name_of_input? (SchemaGraph.get?_inputRegistry_eq_some_iff.mp hr).2)
  rw [sharedInputs, List.map_map, List.map_filterMap, List.filterMap_congr hname,
    List.filterMap_some]

theorem moduleNames_draftDocument (hl : graph.IsLowered) {document : Document}
    (hd : draftDocument graph options = .ok document) :
    document.moduleNames = moduleNames graph options := by
  have hgroups := congrArg (List.map (namespaceName ·.1)) (names_groups hd)
  obtain ⟨groups, -, rfl⟩ := draftDocument_eq_ok_iff.mp hd
  rw [List.map_map] at hgroups
  have hnamespaces : graph.resolvableTypeNames.map namespaceName =
      (groupNames graph options).map (namespaceName ·.1) := by
    simp only [SchemaGraph.resolvableTypeNames, groupNames, List.map_append, List.map_map]
    rfl
  rw [moduleNames, hnamespaces, ← hgroups, ← names_sharedInputs options hl]
  simp only [Document.moduleNames, List.map_append, List.map_map]
  rfl

variable (options) in
/-- Every argument of a graph of schema texts names an input that the graph defines, so that only
names can keep it from having a document. -/
theorem exists_draftDocument (hl : graph.IsLowered) :
    ∃ document, draftDocument graph options = .ok document := by
  have hobject : ∀ object ∈ graph.objects,
      ∃ group, objectGroup graph options object = .ok group := by
    intro object ho
    have hregistered : ∀ name ∈ object.argumentInputs, ∃ declaration, ∃ input,
        graph.inputRegistry.get? name = some input ∧
          declaration = inputDeclaration options input := by
      intro name hn
      obtain ⟨field, hf, hn⟩ := mem_object_argumentInputs_iff.mp hn
      obtain ⟨input, hr⟩ :=
        registered_of_argument hl (SchemaGraph.mem_outputFields_of_object ho hf) hn
      exact ⟨_, input, hr, rfl⟩
    obtain ⟨inputs, hi⟩ := exists_forall₂_of_forall_mem hregistered
    exact ⟨_, objectGroup_eq_ok_iff.mpr ⟨inputs, groupInputs_eq_ok_iff.mpr hi, rfl⟩⟩
  obtain ⟨groups, hg⟩ := exists_forall₂_of_forall_mem hobject
  exact ⟨_, draftDocument_eq_ok_iff.mpr ⟨groups, hg, rfl⟩⟩

/-! ### What is reported -/

theorem collision?_eq_some_iff (hl : graph.IsLowered) {document : Document}
    (hd : draftDocument graph options = .ok document) {error : GenerationError} :
    collision? document = some error ↔ ReportsCollision graph options error := by
  have hgroups : document.groups.findSome? groupCollision? =
      (groupNames graph options).findSome? fun group =>
        (firstDuplicate group.2).map (.nameCollision (.group (namespaceName group.1))) := by
    rw [← names_groups hd, List.findSome?_map]
    rfl
  rw [collision?, hgroups, moduleNames_draftDocument hl hd, Option.or_eq_some_iff]
  simp only [List.findSome?_eq_some_iff, List.findSome?_eq_none_iff, Option.map_eq_some_iff,
    Option.map_eq_none_iff, firstDuplicate_eq_some_iff, firstDuplicate_eq_none_iff]
  constructor
  · rintro (⟨before, ⟨typeName, names⟩, after, heq, ⟨name, hname, rfl⟩, hbefore⟩ |
      ⟨hclean, name, hname, rfl⟩)
    · exact .group heq hbefore hname
    · exact .module hclean hname
  · intro h
    cases h with
    | group heq hbefore hname => exact .inl ⟨_, _, _, heq, ⟨_, hname, rfl⟩, hbefore⟩
    | module hclean hname => exact .inr ⟨hclean, _, hname, rfl⟩

theorem collision?_eq_none_iff_nodup (hl : graph.IsLowered) {document : Document}
    (hd : draftDocument graph options = .ok document) :
    collision? document = none ↔
      (∀ group ∈ groupNames graph options, group.2.Nodup) ∧ (moduleNames graph options).Nodup := by
  rw [collision?_eq_none_iff, moduleNames_draftDocument hl hd, ← names_groups hd,
    List.forall_mem_map]

theorem assemble_eq_error_iff_collision? {document : Document}
    (hd : draftDocument graph options = .ok document) {error : GenerationError} :
    assemble graph options = .error error ↔ collision? document = some error := by
  rw [assemble, hd]
  cases hc : collision? document with
  | none => simp [bind, Except.bind, pure, Except.pure, hc]
  | some other => simp [bind, Except.bind, hc]

/-- The names in every group differ unless two fields of an object, or two fields with arguments of
an interface, meet in capitals, the record of one field of an object bears the name of the alias of
another, or an input of an object's arguments bears a derived name. -/
theorem nodup_groupNames_iff (hl : graph.IsLowered) :
    (∀ group ∈ groupNames graph options, group.2.Nodup) ↔
      ¬ ((∃ object ∈ graph.objects, MeetInCapitals object.fields) ∨
        (∃ object ∈ graph.objects, ∃ f ∈ object.fields, ∃ g ∈ object.fields, f.arguments ≠ [] ∧
          argsRecordName f.name = aliasName g.name) ∨
        (∃ object ∈ graph.objects, ∃ name ∈ object.argumentInputs,
          DerivedName graph options (.object object) name) ∨
        ∃ interface ∈ graph.interfaces, MeetInCapitals (argumentFields interface.fields)) := by
  have hparts := hl.hasDistinctParts
  have hobjects := forall₂_congr fun object ho =>
    @nodup_objectNames_iff graph options object (hparts.objectFields object ho)
  have hinterfaces := forall₂_congr fun interface hi =>
    nodup_interfaceNames_iff (hparts.interfaceFields interface hi)
  have hunions : ∀ union ∈ graph.unions, [contractName].Nodup :=
    fun union _ => List.nodup_singleton _
  simp only [groupNames, List.forall_mem_append, List.forall_mem_map, hobjects, hinterfaces,
    and_iff_left hunions, imp_and, forall_and, and_assoc]
  simp only [not_or, not_exists, not_and]

/-- A graph of schema texts has no document exactly when some object has two fields that meet in
capitals, or a field whose record of arguments bears the name of the alias of a field, or an
argument with an input that bears a derived name; or some interface has two fields with arguments
that meet in capitals; or a name repeats at the level of the module.  What is reported is the first
repeated name of the first group that has one, and of the module only when no group has one. -/
theorem assemble_eq_error_iff (hl : graph.IsLowered) (options : Options) :
    ((∃ error, assemble graph options = .error error) ↔
      (∃ object ∈ graph.objects, MeetInCapitals object.fields) ∨
      (∃ object ∈ graph.objects, ∃ f ∈ object.fields, ∃ g ∈ object.fields, f.arguments ≠ [] ∧
        argsRecordName f.name = aliasName g.name) ∨
      (∃ object ∈ graph.objects, ∃ name ∈ object.argumentInputs,
        DerivedName graph options (.object object) name) ∨
      (∃ interface ∈ graph.interfaces, MeetInCapitals (argumentFields interface.fields)) ∨
      ¬ (moduleNames graph options).Nodup) ∧
    ∀ error, assemble graph options = .error error ↔ ReportsCollision graph options error := by
  obtain ⟨document, hd⟩ := exists_draftDocument options hl
  constructor
  · simp only [assemble_eq_error_iff_collision? hd]
    rw [← Option.isSome_iff_exists, Option.isSome_iff_ne_none, ne_eq,
      collision?_eq_none_iff_nodup hl hd, nodup_groupNames_iff hl, not_and_or, not_not]
    simp only [or_assoc]
  · intro error
    rw [assemble_eq_error_iff_collision? hd, collision?_eq_some_iff hl hd]

/-- The text of a schema with two fields that meet in capitals, and with an enum that bears the name
of their object's namespace. -/
def capitalsText : String :=
  "type Query { user: User }\n" ++
    "type User { id: ID! Id(v: Int): ID! }\n" ++
    "enum UserResolvers { A }"

/-- The object of `capitalsText` whose fields meet in capitals. -/
def capitalsObject : ObjectDef :=
  ⟨"User", [⟨"id", .named ⟨.scalar, "ID"⟩, []⟩,
    ⟨"Id", .named ⟨.scalar, "ID"⟩, [⟨"v", .nullable (.named ⟨.scalar, "Int"⟩)⟩]⟩], [], false⟩

/-- The graph of `capitalsText`. -/
def capitalsGraph : SchemaGraph where
  objects := [⟨"Query", [⟨"user", .nullable (.named ⟨.object, "User"⟩), []⟩], [], false⟩,
    capitalsObject]
  enums := [⟨"UserResolvers", ["A"]⟩]
  roots := { query := some "Query" }

theorem isLowered_capitalsGraph : capitalsGraph.IsLowered := by
  have h : (SchemaGraph.ofSources [⟨"schema.graphql", capitalsText⟩]).toOption =
      some capitalsGraph := by
    decide +kernel
  exact SchemaGraph.isLowered_of_ofSources (toOption_eq_some_iff.mp h)

/-- The collision in the group is reported, and not that of the group with the enum. -/
theorem assemble_capitalsGraph : capitalsGraph.IsLowered ∧
    assemble capitalsGraph {} = .error (.nameCollision (.group "UserResolvers") "IdResolver") := by
  have hgroups : groupNames capitalsGraph {} = [("Query", ["UserResolver", "Type"])] ++
      ("User", ["ArgsId", "IdResolver", "IdResolver", "Type"]) :: [] := by
    decide +kernel
  have hfirst : IsFirstRepeat ["ArgsId", "IdResolver", "IdResolver", "Type"] "IdResolver" :=
    ⟨["ArgsId", "IdResolver"], ["Type"], rfl, by decide, by decide⟩
  exact ⟨isLowered_capitalsGraph, ((assemble_eq_error_iff isLowered_capitalsGraph {}).2 _).mpr
    (.group hgroups (by decide) hfirst)⟩

end ResolverTypes
