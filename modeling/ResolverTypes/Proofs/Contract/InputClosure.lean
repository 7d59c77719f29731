import ResolverTypes.Proofs.Contract.AssembledDocument
import ResolverTypes.Proofs.Graph.InputReach
import ResolverTypes.Proofs.Graph.References

/-!
# Inputs that a document declares

Wherever an assembled document refers to an input, the input is declared where the reference sees
it: in the group itself for an argument of an object's field, and at the level of the module for an
argument of an interface's field and for a field of an input.  The registry and the lists of shared
inputs are made apart from each other; that they agree rests on the registry being closed under the
fields of inputs.

## Main definitions

* `DeclaresInput` : a scope declares the input of a name, and that once.
* `InputsDeclared` : a document declares every input that it refers to.

## Main results

* `inputsDeclared_of_assemble` : assembled documents declare every input that they refer to.
-/

namespace ResolverTypes

open TypeScript

variable {graph : SchemaGraph} {options : Options} {document : Document}

/-! ### Scopes -/

variable (graph options) in
/-- Some declarations hold the declaration of the input of a name, and no other of that name. -/
def DeclaresInput (declarations : List Declaration) (name : String) : Prop :=
  ∃ input, graph.input? name = some input ∧
    declarations.filter (·.name == name) = [inputDeclaration options input]

variable (graph options) in
/-- A document declares the input of a name at the level of the module, where nothing else has the
name. -/
def SharesInput (document : Document) (name : String) : Prop :=
  DeclaresInput graph options document.sharedInputs name ∧ document.moduleNames.count name = 1

variable (graph options) in
/-- A document declares every input that it refers to where the reference sees it, and the inputs
of every object are found. -/
structure InputsDeclared (document : Document) : Prop where
  groupInputs : ∀ object ∈ graph.objects, ∃ inputs group,
    groupInputs graph options object = .ok inputs ∧
      document.group? object.name = some group ∧ inputs.Sublist group.declarations
  objectArguments : ∀ object ∈ graph.objects, ∀ group, document.group? object.name = some group →
    ∀ field ∈ object.fields, ∀ argument ∈ field.arguments, ∀ name,
      argument.type.base = ⟨.input, name⟩ → DeclaresInput graph options group.declarations name
  interfaceArguments : ∀ interface ∈ graph.interfaces, ∀ field ∈ interface.fields,
    ∀ argument ∈ field.arguments, ∀ name, argument.type.base = ⟨.input, name⟩ →
      SharesInput graph options document name
  groupInputFields : ∀ object ∈ graph.objects, ∀ inputs,
    ResolverTypes.groupInputs graph options object = .ok inputs →
      ∀ input ∈ graph.inputs, inputDeclaration options input ∈ inputs →
        ∀ field ∈ input.fields, ∀ name, field.type.base = ⟨.input, name⟩ →
          SharesInput graph options document name
  sharedInputFields : ∀ input ∈ graph.inputs,
    inputDeclaration options input ∈ document.sharedInputs →
      ∀ field ∈ input.fields, ∀ name, field.type.base = ⟨.input, name⟩ →
        SharesInput graph options document name

/-! ### The registry -/

/-- The registry has every input that an argument of a field names. -/
theorem registered_of_argument (hl : graph.IsLowered) {field : FieldDef}
    (hf : field ∈ graph.outputFields) {name : String} (hn : name ∈ field.argumentInputs) :
    ∃ input, graph.inputRegistry.get? name = some input := by
  obtain ⟨argument, ha, hbase⟩ := mem_argumentInputs_iff.mp hn
  have hr : argument.type ∈ field.references :=
    List.mem_cons_of_mem _ (List.mem_map_of_mem ha)
  obtain ⟨input, hi⟩ :=
    hl.exists_input (SchemaGraph.mem_references_of_outputField hf hr) (by rw [hbase])
  rw [hbase] at hi
  exact ⟨input, SchemaGraph.get?_inputRegistry_eq_some_iff.mpr
    ⟨.start (List.mem_flatMap.mpr ⟨field, hf, hn⟩) hi, hi⟩⟩

/-- With an input, the registry has every input that its fields name. -/
theorem registered_of_field (hl : graph.IsLowered) {input : InputDef}
    (hr : input ∈ graph.inputRegistry.values) {name : String} (hn : name ∈ input.fieldInputs) :
    ∃ next, graph.inputRegistry.get? name = some next := by
  obtain ⟨hreach, hinput⟩ := SchemaGraph.mem_values_inputRegistry_iff.mp hr
  obtain ⟨field, hf, hbase⟩ := mem_fieldInputs_iff.mp hn
  obtain ⟨next, hi⟩ := hl.exists_input
    (SchemaGraph.mem_references_of_inputField (hl.input?_eq_some_iff.mp hinput).1 hf)
    (by rw [hbase])
  rw [hbase] at hi
  exact ⟨next, SchemaGraph.get?_inputRegistry_eq_some_iff.mpr ⟨.step hreach hinput hn hi, hi⟩⟩

/-- An input is registered if its declaration is that of a registered input. -/
theorem registered_of_declaration (hl : graph.IsLowered) {input other : InputDef}
    (hi : input ∈ graph.inputs) {name : String}
    (hr : graph.inputRegistry.get? name = some other)
    (h : inputDeclaration options input = inputDeclaration options other) :
    input ∈ graph.inputRegistry.values := by
  have hother := (hl.input?_eq_some_iff.mp (SchemaGraph.get?_inputRegistry_eq_some_iff.mp hr).2).1
  have hname : input.name = other.name := congrArg Declaration.name h
  obtain rfl := List.inj_on_of_nodup_map hl.nodup_inputs hi hother hname
  exact NameMap.mem_values_iff.mpr ⟨name, hr⟩

/-! ### Declarations -/

namespace Assembled

variable (h : Assembled graph options document)

include h

theorem nodup_sharedInputs : (document.sharedInputs.map (·.name)).Nodup := by
  have hnames := (List.nodup_append.mp (List.nodup_append.mp
    (List.nodup_append.mp h.nodup_module).1).1).2.1
  rw [List.map_append] at hnames
  exact (List.nodup_append.mp hnames).2.1

/-- An input that is registered and among the names of shared inputs is declared at the level of
the module. -/
theorem sharesInput {name : String} {input : InputDef}
    (hr : graph.inputRegistry.get? name = some input) (hs : name ∈ sharedInputNames graph) :
    SharesInput graph options document name := by
  have hinput := (SchemaGraph.get?_inputRegistry_eq_some_iff.mp hr).2
  obtain rfl := SchemaGraph.name_of_input? hinput
  have hmem : inputDeclaration options input ∈ document.sharedInputs := by
    rw [h.sharedInputs_eq]
    exact List.mem_map_of_mem (List.mem_filterMap.mpr ⟨input.name, hs, hr⟩)
  refine ⟨⟨input, hinput, filter_name_eq_singleton h.nodup_sharedInputs hmem⟩, ?_⟩
  refine List.count_eq_one_of_mem h.nodup_module ?_
  have hname : input.name ∈ (document.enums ++ document.sharedInputs).map (·.name) :=
    List.mem_map.mpr ⟨_, List.mem_append_right _ hmem, rfl⟩
  exact List.mem_append_left _ (List.mem_append_left _ (List.mem_append_right _ hname))

theorem sharesInput_of_field (hl : graph.IsLowered) {input : InputDef}
    (hr : input ∈ graph.inputRegistry.values) {field : InputFieldDef} (hf : field ∈ input.fields)
    {name : String} (hbase : field.type.base = ⟨.input, name⟩) :
    SharesInput graph options document name := by
  have hn : name ∈ input.fieldInputs := mem_fieldInputs_iff.mpr ⟨field, hf, hbase⟩
  obtain ⟨next, hnext⟩ := registered_of_field hl hr hn
  exact h.sharesInput hnext (mem_sortedNames.mpr
    (List.mem_append_left _ (List.mem_flatMap.mpr ⟨input, hr, hn⟩)))

theorem sharesInput_of_interfaceArgument (hl : graph.IsLowered) {interface : InterfaceDef}
    (hi : interface ∈ graph.interfaces) {field : FieldDef} (hf : field ∈ interface.fields)
    {name : String} (hn : name ∈ field.argumentInputs) :
    SharesInput graph options document name := by
  have hfield : field ∈ graph.interfaces.flatMap (·.fields) :=
    List.mem_flatMap.mpr ⟨interface, hi, hf⟩
  obtain ⟨input, hr⟩ :=
    registered_of_argument hl (SchemaGraph.mem_outputFields_of_interface hi hf) hn
  exact h.sharesInput hr (mem_sortedNames.mpr
    (List.mem_append_right _ (List.mem_flatMap.mpr ⟨field, hfield, hn⟩)))

end Assembled

/-- Among the inputs of an object's group are those that the arguments of its fields name. -/
theorem declaresInput_of_groupInputs {object : ObjectDef} {inputs : List Declaration}
    (hg : groupInputs graph options object = .ok inputs) {name : String}
    (hn : name ∈ object.argumentInputs) :
    ∃ input, graph.input? name = some input ∧ inputDeclaration options input ∈ inputs := by
  obtain ⟨declaration, hd, input, hr, rfl⟩ :=
    exists_mem_of_forall₂ (groupInputs_eq_ok_iff.mp hg).flip hn
  exact ⟨input, (SchemaGraph.get?_inputRegistry_eq_some_iff.mp hr).2, hd⟩

theorem sublist_objectGroupWith {object : ObjectDef} {inputs : List Declaration} :
    inputs.Sublist (objectGroupWith graph options object inputs).declarations :=
  (((List.sublist_append_right _ _).trans (List.sublist_append_left _ _)).trans
    (List.sublist_append_left _ _)).trans (List.sublist_append_left _ _)

/-- An assembled document of a graph of schema texts declares every input that it refers to. -/
theorem inputsDeclared_of_assemble (hl : graph.IsLowered)
    (ha : assemble graph options = .ok document) : InputsDeclared graph options document := by
  have h := assembled_of_assemble ha
  constructor
  case groupInputs =>
    intro object ho
    obtain ⟨inputs, hi, hg⟩ := h.exists_objectGroup ho
    exact ⟨inputs, _, hi, h.group?_eq_some_iff.mpr ⟨hg, rfl⟩, sublist_objectGroupWith⟩
  case objectArguments =>
    intro object ho group hgroup field hf argument harg name hbase
    obtain ⟨inputs, hi, hg⟩ := h.exists_objectGroup ho
    obtain rfl := Option.some.inj (hgroup.symm.trans (h.group?_eq_some_iff.mpr ⟨hg, rfl⟩))
    obtain ⟨input, hinput, hmem⟩ := declaresInput_of_groupInputs hi
      (mem_object_argumentInputs_iff.mpr
        ⟨field, hf, mem_argumentInputs_iff.mpr ⟨argument, harg, hbase⟩⟩)
    obtain rfl := SchemaGraph.name_of_input? hinput
    have hfilter := filter_name_eq_singleton (h.nodup_group _ hg)
      (sublist_objectGroupWith.subset hmem)
    exact ⟨input, hinput, hfilter⟩
  case interfaceArguments =>
    intro interface hi field hf argument harg name hbase
    exact h.sharesInput_of_interfaceArgument hl hi hf
      (mem_argumentInputs_iff.mpr ⟨argument, harg, hbase⟩)
  case groupInputFields =>
    intro object ho inputs hg input hi hmem field hf name hbase
    obtain ⟨_, -, other, hr, heq⟩ := exists_mem_of_forall₂ (groupInputs_eq_ok_iff.mp hg) hmem
    exact h.sharesInput_of_field hl (registered_of_declaration hl hi hr heq) hf hbase
  case sharedInputFields =>
    intro input hi hmem field hf name hbase
    rw [h.sharedInputs_eq] at hmem
    obtain ⟨other, hother, heq⟩ := List.mem_map.mp hmem
    obtain ⟨_, -, hr⟩ := List.mem_filterMap.mp hother
    exact h.sharesInput_of_field hl (registered_of_declaration hl hi hr heq.symm) hf hbase

/-- The text of a schema whose inputs name each other. -/
def nestedText : String :=
  "type Query { find(by: Filter!): Int } input Filter { not: [Term] } input Term { all: Filter }"

/-- The input that a field of `nestedText` takes. -/
def filterInput : InputDef :=
  ⟨"Filter", [⟨"not", .nullable (.list (.nullable (.named ⟨.input, "Term"⟩)))⟩]⟩

/-- The input that a field of the other input of `nestedText` names. -/
def termInput : InputDef := ⟨"Term", [⟨"all", .nullable (.named ⟨.input, "Filter"⟩)⟩]⟩

/-- The graph of `nestedText`. -/
def nestedGraph : SchemaGraph where
  objects := [⟨"Query", [⟨"find", .nullable (.named ⟨.scalar, "Int"⟩),
    [⟨"by", .named ⟨.input, "Filter"⟩⟩]⟩], [], false⟩]
  inputs := [filterInput, termInput]
  roots := { query := some "Query" }

theorem isLowered_nestedGraph : nestedGraph.IsLowered := by
  have h : (SchemaGraph.ofSources [⟨"schema.graphql", nestedText⟩]).toOption =
      some nestedGraph := by
    decide +kernel
  exact SchemaGraph.isLowered_of_ofSources (toOption_eq_some_iff.mp h)

theorem inputRegistry_nestedGraph : nestedGraph.inputRegistry =
    .ofList [(termInput.name, termInput), (filterInput.name, filterInput)] := by
  have hfilter : nestedGraph.reachableInputs ["Filter"] [] =
      nestedGraph.reachableInputs (filterInput.fieldInputs ++ []) [filterInput] :=
    SchemaGraph.reachableInputs_of_some rfl rfl
  have hterm : nestedGraph.reachableInputs ["Term"] [filterInput] =
      nestedGraph.reachableInputs (termInput.fieldInputs ++ []) [termInput, filterInput] :=
    SchemaGraph.reachableInputs_of_some rfl rfl
  have hagain : nestedGraph.reachableInputs ["Filter"] [termInput, filterInput] =
      nestedGraph.reachableInputs [] [termInput, filterInput] :=
    SchemaGraph.reachableInputs_of_found rfl
  have hreach := hfilter.trans (hterm.trans (hagain.trans (SchemaGraph.reachableInputs_nil _)))
  exact congrArg (fun found => NameMap.ofList (found.map fun input => (input.name, input))) hreach

theorem inputsDeclared_nestedGraph : nestedGraph.IsLowered ∧
    ∃ document, assemble nestedGraph {} = .ok document ∧
      InputsDeclared nestedGraph {} document := by
  obtain ⟨document, h⟩ : ∃ document, assemble nestedGraph {} = .ok document := by
    rw [← isSome_toOption_iff]
    simp only [assemble, draftDocument, objectGroups, objectGroup, groupInputs, sharedInputs,
      sharedInputNames, inputRegistry_nestedGraph]
    decide +kernel
  exact ⟨isLowered_nestedGraph, document, h, inputsDeclared_of_assemble isLowered_nestedGraph h⟩

end ResolverTypes
