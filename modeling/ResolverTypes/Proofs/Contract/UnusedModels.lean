import ResolverTypes.Proofs.Contract.BindingWarnings

/-!
# Models that are bound to no type

The document of a graph asks for the models of its own types and of no others, as long as no field
or argument refers to a type for introspection.  A model that is bound to another name, of which
there is a warning, is therefore of no effect: the same document is assembled without it, except
that the model is no longer imported unless it is bound to another name too.

## Main definitions

* `Options.withModels` : options with other models.
* `BindsAlike` : models for the types of a graph as others have them.
* `LosesModel` : what a binding that is taken away takes out of a document.

## Main results

* `draftDocument_withModels` : the document of a graph asks for no models but those of its types.
* `losesModel_of_unknownType` : taking a binding away that there is a warning of.
-/

namespace ResolverTypes

open TypeScript

/-- Options with other models. -/
def Options.withModels (options : Options) (models : ModelBinding) : Options :=
  { options with models }

/-- Models bind the types of a graph as others do. -/
def BindsAlike (graph : SchemaGraph) (models others : ModelBinding) : Prop :=
  ∀ name ∈ graph.resolvableTypeNames, others.get? name = models.get? name

variable {graph : SchemaGraph} {options : Options} {models : ModelBinding}

theorem bindsAlike_erase {key : String} (h : key ∉ graph.resolvableTypeNames) :
    BindsAlike graph models (models.erase key) := by
  intro name hn
  exact NameMap.get?_erase fun heq => h (heq ▸ hn)

/-! ### Values -/

theorem modelOr_congr {others : ModelBinding} {name : String}
    (h : others.get? name = models.get? name) (fallback : TypeExpr) :
    others.modelOr name fallback = models.modelOr name fallback := by
  rw [ModelBinding.modelOr, h]
  rfl

theorem NamedType.valueType_withModels {type : NamedType}
    (h : type.kind.IsResolved → models.get? type.name = options.models.get? type.name) :
    type.valueType (options.withModels models) = type.valueType options := by
  obtain ⟨kind, name⟩ := type
  cases kind with
  | scalar | enum | input => rfl
  | object | interface | union => exact modelOr_congr (h (by simp [Kind.IsResolved])) .unknown

theorem TypeRef.valueType_withModels (type : TypeRef)
    (h : type.base.kind.IsResolved →
      models.get? type.base.name = options.models.get? type.base.name) :
    type.valueType (options.withModels models) = type.valueType options := by
  induction type with
  | named type => exact NamedType.valueType_withModels h
  | list item ih => exact congrArg TypeExpr.array (ih h)
  | nullable inner ih => rw [TypeRef.valueType, TypeRef.valueType, ih h]

/-- No reference in a graph names a type for introspection. -/
def SchemaGraph.AvoidsIntrospection (graph : SchemaGraph) : Prop :=
  ∀ ref ∈ graph.references, ref.base.name ∉ Schema.introspectionTypes.map (·.name.value)

section

variable (hl : graph.IsLowered) (hi : graph.AvoidsIntrospection)
  (hb : BindsAlike graph options.models models)

section

include hl hi hb

/-- The values of a reference are typed alike: where they are those of a type that is resolved field
by field, the type is one of the graph. -/
theorem valueType_of_bindsAlike {ref : TypeRef} (hr : ref ∈ graph.references) :
    ref.valueType (options.withModels models) = ref.valueType options := by
  refine ref.valueType_withModels fun hk => hb _ ?_
  refine (hl.mem_resolvableTypeNames_iff hr).mpr ⟨hk, fun hn => hi ref hr ?_⟩
  exact mem_introspectionTypes_of_isResolved hk hn

theorem argsRecord?_of_bindsAlike {field : FieldDef} (hf : field ∈ graph.outputFields) :
    argsRecord? (options.withModels models) field = argsRecord? options field := by
  have hmembers : (field.arguments.map fun argument => (⟨argument.name, false,
      argument.type.valueType (options.withModels models)⟩ : Member TypeExpr)) =
        field.arguments.map fun argument =>
          ⟨argument.name, false, argument.type.valueType options⟩ := by
    refine List.map_congr_left fun argument ha => ?_
    have hr : argument.type ∈ graph.references := SchemaGraph.mem_references_of_outputField hf
      (List.mem_cons_of_mem _ (List.mem_map_of_mem ha))
    rw [valueType_of_bindsAlike hl hi hb hr]
  rw [argsRecord?, hmembers]
  rfl

theorem inputDeclaration_of_bindsAlike {input : InputDef} (hinput : input ∈ graph.inputs) :
    inputDeclaration (options.withModels models) input = inputDeclaration options input := by
  refine congrArg (Declaration.interface input.name) (List.map_congr_left fun field hf => ?_)
  have hr : field.type ∈ graph.references := SchemaGraph.mem_references_of_inputField hinput hf
  rw [valueType_of_bindsAlike hl hi hb hr]

theorem inputDeclaration_of_registered {name : String} {input : InputDef}
    (hr : graph.inputRegistry.get? name = some input) :
    inputDeclaration (options.withModels models) input = inputDeclaration options input :=
  inputDeclaration_of_bindsAlike hl hi hb
    (List.mem_of_find?_eq_some (SchemaGraph.get?_inputRegistry_eq_some_iff.mp hr).2)

end

/-! ### Objects -/

section

include hb

theorem BindsAlike.get?_object {object : ObjectDef} (ho : object ∈ graph.objects) :
    models.get? object.name = options.models.get? object.name :=
  hb _ (List.mem_append_left _ (List.mem_append_left _ (List.mem_map_of_mem ho)))

theorem possibleValues_of_bindsAlike {objects : List ObjectDef} (ho : objects ⊆ graph.objects) :
    possibleValues (options.withModels models) objects = possibleValues options objects := by
  refine congrArg TypeExpr.unionOf (List.map_congr_left fun object hm => ?_)
  exact modelOr_congr (hb.get?_object (ho hm)) .unknown

theorem defaultResolvers?_of_bindsAlike {object : ObjectDef} (ho : object ∈ graph.objects) :
    defaultResolvers? graph (options.withModels models) object =
      defaultResolvers? graph options object := by
  have hmodel := hb.get?_object ho
  simp only [defaultResolvers?, Options.withModels, hmodel]

theorem resolveTypeMember_of_bindsAlike (hn : graph.resolvableTypeNames.Nodup)
    (abstractType : String) (optional : Bool) :
    resolveTypeMember graph (options.withModels models) abstractType optional =
      resolveTypeMember graph options abstractType optional := by
  have hpossible : graph.possibleTypes abstractType ⊆ graph.objects := fun object ho =>
    ((SchemaGraph.mem_possibleTypes_iff hn).mp ho).1
  rw [resolveTypeMember, possibleValues_of_bindsAlike hb hpossible]
  rfl

theorem isTypeOfMember?_of_bindsAlike (hn : graph.resolvableTypeNames.Nodup)
    (object : ObjectDef) : isTypeOfMember? graph (options.withModels models) object =
      isTypeOfMember? graph options object := by
  have hcandidates : isTypeOfCandidates graph object ⊆ graph.objects := by
    intro candidate hc
    obtain ⟨abstractType, -, hc⟩ := List.mem_flatMap.mp hc
    exact ((SchemaGraph.mem_possibleTypes_iff hn).mp hc).1
  rw [isTypeOfMember?, possibleValues_of_bindsAlike hb hcandidates]
  rfl

theorem unionGroup_of_bindsAlike (hn : graph.resolvableTypeNames.Nodup) (union : UnionDef) :
    unionGroup graph (options.withModels models) union = unionGroup graph options union := by
  rw [unionGroup, resolveTypeMember_of_bindsAlike hb hn]
  rfl

end

/-! ### Groups -/

section

include hl hi hb

theorem fieldAlias_of_bindsAlike {object : ObjectDef} (ho : object ∈ graph.objects)
    {field : FieldDef} (hf : field ∈ object.fields) :
    fieldAlias graph (options.withModels models) (.object object) field =
      fieldAlias graph options (.object object) field := by
  have hr : field.type ∈ graph.references := SchemaGraph.mem_references_of_outputField
    (SchemaGraph.mem_outputFields_of_object ho hf) List.mem_cons_self
  have hvalue := valueType_of_bindsAlike hl hi hb hr
  have hparent : parentType graph (options.withModels models) (.object object) =
      parentType graph options (.object object) :=
    modelOr_congr (hb.get?_object ho) .undefined
  simp only [fieldAlias, fieldContract, subscriptionContract, TypeRef.resultType, hvalue, hparent]
  rfl

theorem groupInputs_of_bindsAlike (object : ObjectDef) :
    groupInputs graph (options.withModels models) object = groupInputs graph options object := by
  refine congrArg (List.mapM · object.argumentInputs) (funext fun name => ?_)
  cases hr : graph.inputRegistry.get? name with
  | none => rfl
  | some input => exact congrArg Except.ok (inputDeclaration_of_registered hl hi hb hr)

/-- The group of an object asks for no models but those of the types of the graph. -/
theorem objectGroup_of_bindsAlike {object : ObjectDef} (ho : object ∈ graph.objects) :
    objectGroup graph (options.withModels models) object = objectGroup graph options object := by
  have hrecords : object.fields.filterMap (argsRecord? (options.withModels models)) =
      object.fields.filterMap (argsRecord? options) :=
    List.filterMap_congr fun field hf => argsRecord?_of_bindsAlike hl hi hb
      (SchemaGraph.mem_outputFields_of_object ho hf)
  have haliases : object.fields.map
      (fieldAlias graph (options.withModels models) (.object object)) =
        object.fields.map (fieldAlias graph options (.object object)) :=
    List.map_congr_left fun field hf => fieldAlias_of_bindsAlike hl hi hb ho hf
  have hcontract : objectContract graph (options.withModels models) object =
      objectContract graph options object := by
    rw [objectContract, isTypeOfMember?_of_bindsAlike hb hl.nodup_resolvableTypeNames]
    rfl
  rw [objectGroup, groupInputs_of_bindsAlike hl hi hb, defaultResolvers?_of_bindsAlike hb ho,
    hrecords, haliases, hcontract]
  rfl

theorem interfaceGroup_of_bindsAlike {interface : InterfaceDef}
    (hmem : interface ∈ graph.interfaces) :
    interfaceGroup graph (options.withModels models) interface =
      interfaceGroup graph options interface := by
  have hrecords : interface.fields.filterMap (argsRecord? (options.withModels models)) =
      interface.fields.filterMap (argsRecord? options) :=
    List.filterMap_congr fun field hf => argsRecord?_of_bindsAlike hl hi hb
      (SchemaGraph.mem_outputFields_of_interface hmem hf)
  rw [interfaceGroup, hrecords, resolveTypeMember_of_bindsAlike hb hl.nodup_resolvableTypeNames]
  rfl

theorem sharedInputs_of_bindsAlike :
    sharedInputs graph (options.withModels models) = sharedInputs graph options := by
  refine List.map_congr_left fun input hinput => ?_
  obtain ⟨name, -, hr⟩ := List.mem_filterMap.mp hinput
  exact inputDeclaration_of_registered hl hi hb hr

/-- The document of a graph asks for no models but those of its types, except that it imports
all. -/
theorem draftDocument_withModels {document : Document}
    (h : draftDocument graph options = .ok document) :
    draftDocument graph (options.withModels models) =
      .ok { document with imports := documentImports (options.withModels models) } := by
  obtain ⟨groups, hgroups, rfl⟩ := draftDocument_eq_ok_iff.mp h
  refine draftDocument_eq_ok_iff.mpr ⟨groups, forall₂_imp_of_mem hgroups ?_, ?_⟩
  · intro object ho group hg
    rwa [objectGroup_of_bindsAlike hl hi hb ho]
  · have hinterfaces : graph.interfaces.map (interfaceGroup graph (options.withModels models)) =
        graph.interfaces.map (interfaceGroup graph options) :=
      List.map_congr_left fun interface hmem => interfaceGroup_of_bindsAlike hl hi hb hmem
    have hunions : graph.unions.map (unionGroup graph (options.withModels models)) =
        graph.unions.map (unionGroup graph options) :=
      List.map_congr_left fun union _ =>
        unionGroup_of_bindsAlike hb hl.nodup_resolvableTypeNames union
    rw [hinterfaces, hunions, sharedInputs_of_bindsAlike hl hi hb]

end

end

/-! ### Imports -/

/-- An import without one of its names, if it has others. -/
def TypeScript.Import.without? (imported : Import) (name : String) : Option Import :=
  match imported.names.filter (· != name) with
  | [] => none
  | names => some { imported with names }

/-- What a binding that is taken away takes out of a document: nothing but its model, and that only
from the import of the models, unless the model is bound to another name too. -/
structure LosesModel (options : Options) (key model : String) (document shrunk : Document) :
    Prop where
  enums_eq : shrunk.enums = document.enums
  sharedInputs_eq : shrunk.sharedInputs = document.sharedInputs
  groups_eq : shrunk.groups = document.groups
  aggregate_eq : shrunk.aggregate = document.aggregate
  imports_eq : options.modelsModule = none ∨
    (∃ other ≠ key, options.models.get? other = some model) → shrunk.imports = document.imports
  imports_drop : ∀ module, options.modelsModule = some module →
    (¬ ∃ other ≠ key, options.models.get? other = some model) →
      ∃ info models context, document.imports = info :: models :: context ∧
        models.module = module ∧ model ∈ models.names ∧
        shrunk.imports = info :: ((models.without? model).toList ++ context)

/-- The import of models from a module, if there are any. -/
def modelImports (models : ModelBinding) (module : String) : List Import :=
  match sortedNames models.values with
  | [] => []
  | names => [⟨names, module⟩]

theorem flatMap_names_modelImports (module : String) :
    (modelImports models module).flatMap (·.names) = sortedNames models.values := by
  rw [modelImports]
  split
  next h => rw [h, List.flatMap_nil]
  next => rw [List.flatMap_singleton]

/-- The import of the context type, if options name a module for it. -/
def contextImports (options : Options) : List Import :=
  match options.contextType, options.contextModule with
  | some name, some module => [⟨[name], module⟩]
  | _, _ => []

theorem documentImports_eq (options : Options) : documentImports options =
    ⟨[infoType], "graphql"⟩ ::
      (options.modelsModule.toList.flatMap (modelImports options.models) ++
        contextImports options) := by
  rw [documentImports]
  cases options.modelsModule with
  | none => rfl
  | some module =>
      rw [Option.toList_some, List.flatMap_singleton, modelImports]
      cases sortedNames options.models.values <;> rfl

section

variable {key model : String} (hk : models.get? key = some model)

include hk

/-- A model that is bound to another name too stays when its binding is taken away. -/
theorem sortedNames_values_erase_of_shared
    (h : ∃ other ≠ key, models.get? other = some model) :
    sortedNames (models.erase key).values = sortedNames models.values := by
  refine sortedNames_congr fun name => ?_
  rw [NameMap.mem_values_erase_iff, NameMap.mem_values_iff]
  constructor
  · rintro ⟨other, -, hother⟩
    exact ⟨other, hother⟩
  · rintro ⟨other, hother⟩
    by_cases heq : other = key
    · obtain rfl : model = name := Option.some.inj ((heq ▸ hk).symm.trans hother)
      exact h
    · exact ⟨other, heq, hother⟩

/-- A model that is bound to no other name goes with its binding. -/
theorem sortedNames_values_erase_of_unshared
    (h : ¬ ∃ other ≠ key, models.get? other = some model) :
    sortedNames (models.erase key).values = (sortedNames models.values).filter (· != model) := by
  rw [filter_sortedNames]
  refine sortedNames_congr fun name => ?_
  rw [NameMap.mem_values_erase_iff, List.mem_filter, NameMap.mem_values_iff, bne_iff_ne]
  constructor
  · rintro ⟨other, hne, hother⟩
    refine ⟨⟨other, hother⟩, ?_⟩
    rintro rfl
    exact h ⟨other, hne, hother⟩
  · rintro ⟨⟨other, hother⟩, hname⟩
    refine ⟨other, ?_, hother⟩
    rintro rfl
    exact hname (Option.some.inj (hother.symm.trans hk))

end

/-- Fewer models bring fewer names into a module. -/
theorem sublist_names_documentImports (h : models.values ⊆ options.models.values) :
    ((documentImports (options.withModels models)).flatMap (·.names)).Sublist
      ((documentImports options).flatMap (·.names)) := by
  rw [documentImports_eq, documentImports_eq, List.flatMap_cons, List.flatMap_cons,
    List.flatMap_append, List.flatMap_append]
  refine .append_left (.append_right ?_ _) _
  show ((options.modelsModule.toList.flatMap (modelImports models)).flatMap (·.names)).Sublist _
  cases options.modelsModule with
  | none => exact List.Sublist.refl _
  | some module =>
      rw [Option.toList_some, List.flatMap_singleton, List.flatMap_singleton,
        flatMap_names_modelImports, flatMap_names_modelImports]
      exact sublist_sortedNames h

/-! ### Taking a binding away -/

variable {key model : String} {document : Document}

theorem losesModel_withModels (hk : options.models.get? key = some model)
    (hd : document.imports = documentImports options) :
    LosesModel options key model document { document with
      imports := documentImports (options.withModels (options.models.erase key)) } where
  enums_eq := rfl
  sharedInputs_eq := rfl
  groups_eq := rfl
  aggregate_eq := rfl
  imports_eq := by
    intro h
    rw [hd, documentImports_eq, documentImports_eq]
    rcases h with hnone | hshared
    · have hmodule : (options.withModels (options.models.erase key)).modelsModule = none := hnone
      rw [hmodule, hnone]
      rfl
    · have himports : modelImports (options.models.erase key) = modelImports options.models := by
        funext module
        rw [modelImports, sortedNames_values_erase_of_shared hk hshared, modelImports]
      show _ :: (options.modelsModule.toList.flatMap (modelImports (options.models.erase key)) ++
        contextImports options) = _
      rw [himports]
  imports_drop := by
    intro module hm hunshared
    have hmem : model ∈ sortedNames options.models.values :=
      mem_sortedNames.mpr (NameMap.mem_values_iff.mpr ⟨key, hk⟩)
    refine ⟨⟨[infoType], "graphql"⟩, ⟨sortedNames options.models.values, module⟩,
      contextImports options, ?_, rfl, hmem, ?_⟩
    · rw [hd, documentImports_eq, hm, Option.toList_some, List.flatMap_singleton, modelImports]
      cases hnames : sortedNames options.models.values with
      | nil => exact absurd hmem (hnames ▸ List.not_mem_nil)
      | cons name names => rfl
    · have himports : modelImports (options.models.erase key) module =
          (Import.without? ⟨sortedNames options.models.values, module⟩ model).toList := by
        rw [modelImports, sortedNames_values_erase_of_unshared hk hunshared, Import.without?]
        cases (sortedNames options.models.values).filter (· != model) <;> rfl
      rw [documentImports_eq, Options.withModels, hm, Option.toList_some, List.flatMap_singleton,
        himports]
      rfl

/-- A binding that there is a warning of can be taken away: a document is still assembled, and apart
from the import of the model nothing in it changes. -/
theorem losesModel_of_unknownType (hl : graph.IsLowered) (hi : graph.AvoidsIntrospection)
    {isRoot : String → Bool} {suggestion : Option String}
    (hw : .unknownType key suggestion ∈
      bindingWarnings options.models graph.resolvableTypeNames isRoot)
    (ha : assemble graph options = .ok document) :
    ∃ model shrunk, options.models.get? key = some model ∧
      assemble graph (options.withModels (options.models.erase key)) = .ok shrunk ∧
      LosesModel options key model document shrunk := by
  obtain ⟨⟨model, hk⟩, hkey⟩ := unknownType_mem_bindingWarnings_iff.mp ⟨suggestion, hw⟩
  obtain ⟨hdraft, hgroup, hmodule⟩ := assemble_eq_ok_iff.mp ha
  have himports : document.imports = documentImports options :=
    (assembled_of_assemble ha).imports_eq
  have hvalues : (options.models.erase key).values ⊆ options.models.values := by
    intro value hv
    obtain ⟨other, -, hother⟩ := NameMap.mem_values_erase_iff.mp hv
    exact NameMap.mem_values_iff.mpr ⟨other, hother⟩
  refine ⟨model, _, hk, assemble_eq_ok_iff.mpr
    ⟨draftDocument_withModels hl hi (bindsAlike_erase hkey) hdraft, hgroup, ?_⟩,
    losesModel_withModels hk himports⟩
  refine hmodule.sublist (.append_right (.append_right (.append_right ?_ _) _) _)
  rw [himports]
  exact sublist_names_documentImports hvalues

/-- Options with a model for a type of `libraryGraph` and one for a misspelling of the type. -/
def misspeltOptions : Options where
  models := .ofList [("Book", "BookModel"), ("Boook", "StrayModel")]
  modelsModule := some "./models"
  defaultResolvers := true

theorem losesModel_misspeltOptions : libraryGraph.IsLowered ∧ libraryGraph.AvoidsIntrospection ∧
    ∃ suggestion, .unknownType "Boook" suggestion ∈ bindingWarnings misspeltOptions.models
        libraryGraph.resolvableTypeNames libraryGraph.roots.contains ∧
      ∃ document, assemble libraryGraph misspeltOptions = .ok document ∧
        ∃ model shrunk, misspeltOptions.models.get? "Boook" = some model ∧
          assemble libraryGraph (misspeltOptions.withModels
            (misspeltOptions.models.erase "Boook")) = .ok shrunk ∧
          LosesModel misspeltOptions "Boook" model document shrunk := by
  have hl := isLowered_libraryGraph
  have hi : libraryGraph.AvoidsIntrospection := by
    unfold SchemaGraph.AvoidsIntrospection
    decide +kernel
  obtain ⟨suggestion, hw⟩ : ∃ suggestion, .unknownType "Boook" suggestion ∈ bindingWarnings
      misspeltOptions.models libraryGraph.resolvableTypeNames libraryGraph.roots.contains :=
    unknownType_mem_bindingWarnings_iff.mpr ⟨⟨"StrayModel", rfl⟩, by decide⟩
  have ha : assemble libraryGraph misspeltOptions = .ok (bareDocument libraryGraph misspeltOptions) :=
    assemble_eq_bareDocument rfl (by decide +kernel)
  exact ⟨hl, hi, suggestion, hw, _, ha, losesModel_of_unknownType hl hi hw ha⟩

end ResolverTypes
