import ResolverTypes.Graph.Relations
import ResolverTypes.Proofs.Graph.LoweredGraph

/-!
# References in a graph

Every reference in a graph names a type of its schema and is tagged with the kind of that type.  A
reference that is tagged as one to an input therefore leads to an input of the graph, and one that
is tagged as one to an enum leads to an enum of the graph, unless the enum is built in.

## Main definitions

* `SchemaGraph.references` : the references in a graph.
* `SchemaGraph.IsLowered` : a graph is read off schema texts.

## Main results

* `Mirrors.tags` : references are tagged with the kind of what they name.
* `SchemaGraph.IsLowered.exists_input` : a reference to an input leads to an input.
* `SchemaGraph.IsLowered.isNamed` : the names in a graph are spelt as names.
-/

namespace ResolverTypes

open Schema

variable {schema : Schema}

/-! ### Reading references -/

/-- A reference is tagged with the kind of the type that it names. -/
def Schema.Tags (schema : Schema) (type : NamedType) : Prop :=
  ∃ definition, schema.type? type.name = some definition ∧ definition.body.kind = type.kind

theorem base_nullableUnless (nonNull : Bool) (type : TypeRef) :
    (nullableUnless nonNull type).base = type.base := by
  cases nonNull <;> rfl

theorem tags_of_typeRef {referencedBy : String} {type : TypeSyntax} {ref : TypeRef}
    (h : schema.typeRef referencedBy type = .ok ref) :
    ref.base.name = type.innerName.value ∧ schema.Tags ref.base := by
  induction type generalizing ref with
  | named name nonNull =>
      rw [typeRef] at h
      obtain ⟨named, hn, h⟩ := bind_eq_ok_iff.mp h
      obtain rfl := Except.ok.inj h
      rw [base_nullableUnless]
      unfold namedType at hn
      split at hn
      next definition hd =>
        obtain rfl := Except.ok.inj hn
        exact ⟨rfl, definition, hd, rfl⟩
      next => cases hn
  | list item nonNull ih =>
      rw [typeRef] at h
      obtain ⟨inner, hi, h⟩ := bind_eq_ok_iff.mp h
      obtain rfl := Except.ok.inj h
      rw [base_nullableUnless]
      have hbase := ih hi
      exact hbase

theorem argumentDef_eq_ok_iff {referencedBy : String} {value : InputValue}
    {argument : ArgumentDef} : schema.argumentDef referencedBy value = .ok argument ↔
      argument.name = value.name.value ∧
        schema.typeRef referencedBy value.type = .ok argument.type := by
  rw [argumentDef, bind_eq_ok_iff]
  constructor
  · rintro ⟨type, ht, h⟩
    obtain rfl := Except.ok.inj h
    exact ⟨rfl, ht⟩
  · rintro ⟨hn, ht⟩
    exact ⟨argument.type, ht, hn ▸ rfl⟩

theorem inputFieldDef_eq_ok_iff {owner : String} {value : InputValue} {field : InputFieldDef} :
    schema.inputFieldDef owner value = .ok field ↔
      field.name = value.name.value ∧ schema.typeRef owner value.type = .ok field.type := by
  rw [inputFieldDef, bind_eq_ok_iff]
  constructor
  · rintro ⟨type, ht, h⟩
    obtain rfl := Except.ok.inj h
    exact ⟨rfl, ht⟩
  · rintro ⟨hn, ht⟩
    exact ⟨field.type, ht, hn ▸ rfl⟩

theorem fieldDef_eq_ok_iff {owner : String} {field : Field} {result : FieldDef} :
    schema.fieldDef owner field = .ok result ↔
      result.name = field.name.value ∧
        List.Forall₂ (schema.argumentDef (owner ++ "." ++ field.name.value) · = .ok ·)
          field.arguments result.arguments ∧
        schema.typeRef (owner ++ "." ++ field.name.value) field.type = .ok result.type := by
  rw [fieldDef]
  simp only [bind_eq_ok_iff, mapM_eq_ok_iff]
  constructor
  · rintro ⟨arguments, ha, type, ht, h⟩
    obtain rfl := Except.ok.inj h
    exact ⟨rfl, ha, ht⟩
  · rintro ⟨hn, ha, ht⟩
    exact ⟨result.arguments, ha, result.type, ht, hn ▸ rfl⟩

/-- The references in a field: its type and those of its arguments. -/
def FieldDef.references (field : FieldDef) : List TypeRef :=
  field.type :: field.arguments.map (·.type)

/-- The references in a graph. -/
def SchemaGraph.references (graph : SchemaGraph) : List TypeRef :=
  graph.outputFields.flatMap (·.references) ++
    graph.inputs.flatMap fun input => input.fields.map (·.type)

namespace SchemaGraph

variable {graph : SchemaGraph} {field : FieldDef}

theorem mem_outputFields_of_object {object : ObjectDef} (ho : object ∈ graph.objects)
    (hf : field ∈ object.fields) : field ∈ graph.outputFields :=
  List.mem_append_left _ (List.mem_flatMap.mpr ⟨object, ho, hf⟩)

theorem mem_outputFields_of_interface {interface : InterfaceDef}
    (hi : interface ∈ graph.interfaces) (hf : field ∈ interface.fields) :
    field ∈ graph.outputFields :=
  List.mem_append_right _ (List.mem_flatMap.mpr ⟨interface, hi, hf⟩)

theorem mem_references_of_outputField (hf : field ∈ graph.outputFields) {ref : TypeRef}
    (hr : ref ∈ field.references) : ref ∈ graph.references :=
  List.mem_append_left _ (List.mem_flatMap.mpr ⟨field, hf, hr⟩)

theorem mem_references_of_inputField {input : InputDef} (hi : input ∈ graph.inputs)
    {field : InputFieldDef} (hf : field ∈ input.fields) : field.type ∈ graph.references :=
  List.mem_append_right _ (List.mem_flatMap.mpr ⟨input, hi, List.mem_map_of_mem hf⟩)

end SchemaGraph

theorem tags_of_fieldDef {owner : String} {field : Field} {result : FieldDef}
    (h : schema.fieldDef owner field = .ok result) :
    ∀ ref ∈ result.references, schema.Tags ref.base := by
  obtain ⟨-, ha, ht⟩ := fieldDef_eq_ok_iff.mp h
  intro ref hr
  rcases List.mem_cons.mp hr with rfl | hr
  · exact (tags_of_typeRef ht).2
  · obtain ⟨argument, hm, rfl⟩ := List.mem_map.mp hr
    obtain ⟨value, -, hv⟩ := exists_mem_of_forall₂ ha hm
    exact (tags_of_typeRef (argumentDef_eq_ok_iff.mp hv).2).2

/-- Every reference in a graph is tagged with the kind of the type that it names. -/
theorem Mirrors.tags {types : List TypeDefinition} {graph : SchemaGraph}
    (h : Mirrors schema types graph) : ∀ ref ∈ graph.references, schema.Tags ref.base := by
  intro ref hr
  rcases List.mem_append.mp hr with hr | hr
  · obtain ⟨field, hf, hr⟩ := List.mem_flatMap.mp hr
    rcases List.mem_append.mp hf with hf | hf
    · obtain ⟨object, ho, hf⟩ := List.mem_flatMap.mp hf
      obtain ⟨type, -, ht⟩ := exists_mem_of_forall₂ h.objects ho
      obtain ⟨_, fields, -, -, hfields⟩ := ht.body_eq
      obtain ⟨_, -, hfield⟩ := exists_mem_of_forall₂ hfields hf
      exact tags_of_fieldDef hfield ref hr
    · obtain ⟨interface, hi, hf⟩ := List.mem_flatMap.mp hf
      obtain ⟨type, -, ht⟩ := exists_mem_of_forall₂ h.interfaces hi
      obtain ⟨_, fields, -, hfields⟩ := ht.body_eq
      obtain ⟨_, -, hfield⟩ := exists_mem_of_forall₂ hfields hf
      exact tags_of_fieldDef hfield ref hr
  · obtain ⟨input, hi, hr⟩ := List.mem_flatMap.mp hr
    obtain ⟨field, hf, rfl⟩ := List.mem_map.mp hr
    obtain ⟨type, -, ht⟩ := exists_mem_of_forall₂ h.inputs hi
    obtain ⟨fields, -, hfields⟩ := ht.body_eq
    obtain ⟨_, -, hfield⟩ := exists_mem_of_forall₂ hfields hf
    exact (tags_of_typeRef (inputFieldDef_eq_ok_iff.mp hfield).2).2

/-! ### Names -/

/-- The names of a field and of its arguments are spelt as names. -/
def FieldDef.IsNamed (field : FieldDef) : Prop :=
  IsName field.name ∧ ∀ argument ∈ field.arguments, IsName argument.name

/-- The names of the definitions in a graph, of their parts and of all that is referred to, are
spelt as names. -/
structure SchemaGraph.IsNamed (graph : SchemaGraph) : Prop where
  objects : ∀ o ∈ graph.objects, IsName o.name ∧ ∀ f ∈ o.fields, f.IsNamed
  interfaces : ∀ i ∈ graph.interfaces, IsName i.name ∧ ∀ f ∈ i.fields, f.IsNamed
  unions : ∀ u ∈ graph.unions, IsName u.name
  inputs : ∀ i ∈ graph.inputs, IsName i.name ∧ ∀ f ∈ i.fields, IsName f.name
  enums : ∀ e ∈ graph.enums, IsName e.name
  values : ∀ e ∈ graph.enums, ∀ value ∈ e.values, IsName value
  references : ∀ ref ∈ graph.references, IsName ref.base.name

theorem isNamed_of_fieldDef {owner : String} {field : Field} {result : FieldDef}
    (h : schema.fieldDef owner field = .ok result) (hn : field.IsNamed) : result.IsNamed := by
  obtain ⟨hname, ha, -⟩ := fieldDef_eq_ok_iff.mp h
  refine ⟨hname ▸ hn.1, fun argument hm => ?_⟩
  obtain ⟨value, hv, heq⟩ := exists_mem_of_forall₂ ha hm
  exact (argumentDef_eq_ok_iff.mp heq).1 ▸ hn.2 value hv

theorem isNamed_of_fieldDefs {owner : String} {fields : List Field} {results : List FieldDef}
    (h : List.Forall₂ (schema.fieldDef owner · = .ok ·) fields results)
    (hn : ∀ field ∈ fields, field.IsNamed) : ∀ result ∈ results, result.IsNamed := by
  intro result hr
  obtain ⟨field, hf, heq⟩ := exists_mem_of_forall₂ h hr
  exact isNamed_of_fieldDef heq (hn field hf)

/-- What the types of a schema come to is spelt as names. -/
theorem Mirrors.isNamed {types : List TypeDefinition} {graph : SchemaGraph}
    (h : Mirrors schema types graph) (hs : SoundTypes schema.types)
    (hsub : types ⊆ schema.types) : graph.IsNamed := by
  have named {kind : Kind} {type : TypeDefinition} (ht : type ∈ typesOfKind kind types) :
      type.IsNamed :=
    hs.isNamed type (hsub (List.mem_filter.mp ht).1)
  constructor
  case objects =>
    intro o ho
    obtain ⟨type, ht, hr⟩ := exists_mem_of_forall₂ h.objects ho
    obtain ⟨implemented, fields, hbody, -, hfields⟩ := hr.body_eq
    have hb : type.body.IsNamed := (named ht).2
    rw [hbody] at hb
    exact ⟨hr.name_eq ▸ (named ht).1, isNamed_of_fieldDefs hfields hb⟩
  case interfaces =>
    intro i hi
    obtain ⟨type, ht, hr⟩ := exists_mem_of_forall₂ h.interfaces hi
    obtain ⟨implemented, fields, hbody, hfields⟩ := hr.body_eq
    have hb : type.body.IsNamed := (named ht).2
    rw [hbody] at hb
    exact ⟨hr.name_eq ▸ (named ht).1, isNamed_of_fieldDefs hfields hb⟩
  case unions =>
    intro u hu
    obtain ⟨type, ht, hr⟩ := exists_mem_of_forall₂ h.unions hu
    exact hr.name_eq ▸ (named ht).1
  case inputs =>
    intro i hi
    obtain ⟨type, ht, hr⟩ := exists_mem_of_forall₂ h.inputs hi
    obtain ⟨fields, hbody, hfields⟩ := hr.body_eq
    have hb : type.body.IsNamed := (named ht).2
    rw [hbody] at hb
    refine ⟨hr.name_eq ▸ (named ht).1, fun f hf => ?_⟩
    obtain ⟨value, hv, heq⟩ := exists_mem_of_forall₂ hfields hf
    exact (inputFieldDef_eq_ok_iff.mp heq).1 ▸ hb value hv
  case enums =>
    intro e he
    obtain ⟨type, ht, hr⟩ := exists_mem_of_forall₂ h.enums he
    exact hr.name_eq ▸ (named ht).1
  case values =>
    intro e he value hvalue
    obtain ⟨type, ht, hr⟩ := exists_mem_of_forall₂ h.enums he
    obtain ⟨values, hbody, hvalues⟩ := hr.body_eq
    have hb : type.body.IsNamed := (named ht).2
    rw [hbody] at hb
    obtain ⟨v, hv, rfl⟩ := List.mem_map.mp (hvalues ▸ hvalue)
    exact hb v hv
  case references =>
    intro ref hr
    obtain ⟨type, ht, -⟩ := h.tags ref hr
    have hname : type.name.value = ref.base.name := by simpa using List.find?_some ht
    exact hname ▸ (hs.isNamed type (List.mem_of_find?_eq_some ht)).1

/-! ### Graphs of schema texts -/

namespace SchemaGraph

/-- A graph is read off schema texts. -/
def IsLowered (graph : SchemaGraph) : Prop :=
  ∃ sources schema, mergeSources sources = .ok schema ∧ SchemaGraph.ofSchema schema = .ok graph

variable {graph : SchemaGraph}

/-- Schema texts have a graph when they merge into a schema that has no problem and a graph. -/
theorem exists_schema_of_ofSources {sources : List SourceText}
    (h : SchemaGraph.ofSources sources = .ok graph) : ∃ schema,
    mergeSources sources = .ok schema ∧ schemaProblems schema = [] ∧
      SchemaGraph.ofSchema schema = .ok graph := by
  obtain ⟨schema, hs, hg⟩ := bind_eq_ok_iff.mp h
  obtain ⟨merged, hm, hs⟩ := bind_eq_ok_iff.mp (mapError_eq_ok_iff.mp hs)
  dsimp only at hs
  split at hs
  next hempty =>
    obtain rfl := Except.ok.inj hs
    exact ⟨merged, hm, List.isEmpty_iff.mp hempty, mapError_eq_ok_iff.mp hg⟩
  next => cases hs

theorem isLowered_of_ofSources {sources : List SourceText}
    (h : SchemaGraph.ofSources sources = .ok graph) : graph.IsLowered := by
  obtain ⟨schema, hm, -, hg⟩ := exists_schema_of_ofSources h
  exact ⟨sources, schema, hm, hg⟩

namespace IsLowered

theorem exists_mirrors (h : graph.IsLowered) : ∃ schema, SoundTypes schema.types ∧
    Mirrors schema (schema.types.filter (!·.isBuiltIn)) graph := by
  obtain ⟨sources, schema, hm, hg⟩ := h
  exact ⟨schema, mergeSources_soundTypes hm, ofSchema_mirrors hg⟩

/-- The definitions in a graph of schema texts have names of their own. -/
theorem nodup_names (h : graph.IsLowered) : graph.names.Nodup := by
  obtain ⟨schema, hs, hg⟩ := h.exists_mirrors
  exact hg.nodup_names (hs.nodup_names.sublist (List.filter_sublist.map _))

/-- The names in a graph of schema texts are spelt as names. -/
theorem isNamed (h : graph.IsLowered) : graph.IsNamed := by
  obtain ⟨schema, hs, hg⟩ := h.exists_mirrors
  exact hg.isNamed hs (List.filter_subset_self _)

theorem nodup_inputs (h : graph.IsLowered) : (graph.inputs.map (·.name)).Nodup :=
  (List.nodup_append.mp (List.nodup_append.mp h.nodup_names).1).2.1

theorem nodup_enums (h : graph.IsLowered) : (graph.enums.map (·.name)).Nodup :=
  (List.nodup_append.mp h.nodup_names).2.1

theorem nodup_resolvableTypeNames (h : graph.IsLowered) : graph.resolvableTypeNames.Nodup :=
  (List.nodup_append.mp (List.nodup_append.mp h.nodup_names).1).1

theorem input?_eq_some_iff (h : graph.IsLowered) {name : String} {input : InputDef} :
    graph.input? name = some input ↔ input ∈ graph.inputs ∧ input.name = name :=
  find?_name_eq_some_iff h.nodup_inputs

theorem enum?_eq_some_iff (h : graph.IsLowered) {name : String} {enum : EnumDef} :
    graph.enum? name = some enum ↔ enum ∈ graph.enums ∧ enum.name = name :=
  find?_name_eq_some_iff h.nodup_enums

/-- A reference to an input leads to an input of the graph. -/
theorem exists_input (h : graph.IsLowered) {ref : TypeRef} (hr : ref ∈ graph.references)
    (hk : ref.base.kind = .input) : ∃ input, graph.input? ref.base.name = some input := by
  obtain ⟨schema, hs, hg⟩ := h.exists_mirrors
  obtain ⟨type, ht, hkind⟩ := hg.tags ref hr
  have hmem : type ∈ schema.types := List.mem_of_find?_eq_some ht
  have hname : type.name.value = ref.base.name := by simpa using List.find?_some ht
  -- no input is built in
  have hown : type.isBuiltIn = false := by
    refine Bool.eq_false_iff.mpr fun hb => ?_
    obtain ⟨origin, ho, he⟩ := hs.builtIn type hmem hb
    have hinputs : ∀ origin ∈ builtInTypes, origin.body.kind ≠ .input := by decide
    exact hinputs origin ho (he.kind_eq.symm.trans (hkind.trans hk))
  have hfiltered : type ∈ typesOfKind .input (schema.types.filter (!·.isBuiltIn)) :=
    List.mem_filter.mpr ⟨List.mem_filter.mpr ⟨hmem, by rw [hown]; rfl⟩,
      beq_iff_eq.mpr (hkind.trans hk)⟩
  obtain ⟨input, hi, hin⟩ := exists_mem_of_forall₂ hg.inputs.flip hfiltered
  exact ⟨input, h.input?_eq_some_iff.mpr ⟨hi, hin.name_eq.trans hname⟩⟩

/-- What bears the name of an input is not referred to as anything else. -/
theorem kind_eq_input (h : graph.IsLowered) {ref : TypeRef} (hr : ref ∈ graph.references)
    {input : InputDef} (hi : input ∈ graph.inputs) (hn : input.name = ref.base.name) :
    ref.base.kind = .input := by
  obtain ⟨schema, hs, hg⟩ := h.exists_mirrors
  obtain ⟨type, ht, hkind⟩ := hg.tags ref hr
  obtain ⟨other, hother, hin⟩ := exists_mem_of_forall₂ hg.inputs hi
  obtain ⟨hother, hk⟩ := List.mem_filter.mp hother
  have hname : other.name.value = ref.base.name := hin.name_eq.symm.trans hn
  have hsame : schema.type? ref.base.name = some other :=
    (find?_name_eq_some_iff hs.nodup_names).mpr ⟨(List.mem_filter.mp hother).1, hname⟩
  obtain rfl := Option.some.inj (ht.symm.trans hsame)
  exact hkind.symm.trans (beq_iff_eq.mp hk)

end IsLowered

end SchemaGraph

end ResolverTypes
