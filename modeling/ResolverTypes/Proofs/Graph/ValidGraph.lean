import ResolverTypes.Proofs.Graph.References

/-!
# Graphs of valid schema texts

A valid schema has no type without parts, so that every object in its graph has fields, and it has
fields only of types whose values can be results, so that no field of an object or interface is of
an input.

## Main definitions

* `SchemaGraph.IsValid` : a graph is read off valid schema texts.

## Main results

* `SchemaGraph.IsValid.fields_ne_nil` : objects have fields.
* `SchemaGraph.IsValid.kind_ne_input` : no field of an object or interface is of an input.
-/

namespace ResolverTypes

open Schema

namespace Schema

variable {schema : Schema}

/-- The fields of a valid object or interface are of types whose values can be results. -/
theorem isOutputType_of_fieldDefinitionProblems {fields : List Field}
    (h : fieldDefinitionProblems schema fields = []) {field : Field} (hf : field ∈ fields)
    {type : TypeDefinition} (ht : schema.type? field.type.innerName.value = some type) :
    type.isOutputType = true := by
  have hfield := (List.append_eq_nil_iff.mp (List.flatMap_eq_nil_iff.mp h field hf)).2
  rw [ht] at hfield
  dsimp only at hfield
  split at hfield
  next ho => exact ho
  next => cases hfield

theorem fieldDefinitionProblems_eq_nil {type : TypeDefinition} (h : typeProblems schema type = [])
    {implemented : List Name} {fields : List Field}
    (hb : type.body = .object implemented fields ∨ type.body = .interface implemented fields) :
    fieldDefinitionProblems schema fields = [] := by
  rcases hb with hb | hb
  · simp only [typeProblems, hb, List.append_eq_nil_iff] at h
    exact h.1.1.2
  · simp only [typeProblems, hb, List.append_eq_nil_iff] at h
    exact h.1.2

/-- Nothing is wrong with a type that a valid schema defines itself. -/
theorem typeProblems_eq_nil (h : schemaProblems schema = []) {kind : Kind} {type : TypeDefinition}
    (ht : type ∈ typesOfKind kind (schema.types.filter (!·.isBuiltIn))) :
    typeProblems schema type = [] :=
  List.flatMap_eq_nil_iff.mp (List.append_eq_nil_iff.mp h).2 type
    (List.mem_filter.mp (List.mem_filter.mp ht).1).1

end Schema

/-- A graph is read off valid schema texts. -/
def SchemaGraph.IsValid (graph : SchemaGraph) : Prop :=
  ∃ sources, SchemaGraph.ofSources sources = .ok graph

namespace SchemaGraph.IsValid

variable {graph : SchemaGraph}

theorem isLowered (h : graph.IsValid) : graph.IsLowered :=
  isLowered_of_ofSources h.choose_spec

theorem exists_mirrors (h : graph.IsValid) : ∃ schema, SoundTypes schema.types ∧
    schemaProblems schema = [] ∧ Mirrors schema (schema.types.filter (!·.isBuiltIn)) graph := by
  obtain ⟨sources, h⟩ := h
  obtain ⟨schema, hm, hp, hg⟩ := exists_schema_of_ofSources h
  exact ⟨schema, mergeSources_soundTypes hm, hp, ofSchema_mirrors hg⟩

/-- The objects in a graph of valid schema texts have fields. -/
theorem fields_ne_nil (h : graph.IsValid) {object : ObjectDef} (ho : object ∈ graph.objects) :
    object.fields ≠ [] := by
  obtain ⟨schema, -, hp, hg⟩ := h.exists_mirrors
  obtain ⟨type, ht, hr⟩ := exists_mem_of_forall₂ hg.objects ho
  obtain ⟨_, fields, hbody, -, hfields⟩ := hr.body_eq
  have hproblems := typeProblems_eq_nil hp ht
  simp only [typeProblems, hbody, List.append_eq_nil_iff] at hproblems
  intro hnil
  rw [hnil] at hfields
  cases hfields
  cases hproblems.1.2

/-- No field of an object or interface is of an input. -/
theorem kind_ne_input (h : graph.IsValid) {field : FieldDef} (hf : field ∈ graph.outputFields) :
    field.type.base.kind ≠ .input := by
  obtain ⟨schema, -, hp, hg⟩ := h.exists_mirrors
  -- the field stands in a type whose fields are all of types that can be results
  obtain ⟨owner, fields, written, hwritten, hfield, hproblems⟩ : ∃ owner fields written,
      written ∈ fields ∧ schema.fieldDef owner written = .ok field ∧
        fieldDefinitionProblems schema fields = [] := by
    rcases List.mem_append.mp hf with hf | hf
    · obtain ⟨object, ho, hf⟩ := List.mem_flatMap.mp hf
      obtain ⟨type, ht, hr⟩ := exists_mem_of_forall₂ hg.objects ho
      obtain ⟨implemented, fields, hbody, -, hfields⟩ := hr.body_eq
      obtain ⟨written, hw, hfield⟩ := exists_mem_of_forall₂ hfields hf
      exact ⟨_, fields, written, hw, hfield,
        fieldDefinitionProblems_eq_nil (typeProblems_eq_nil hp ht) (.inl hbody)⟩
    · obtain ⟨interface, hi, hf⟩ := List.mem_flatMap.mp hf
      obtain ⟨type, ht, hr⟩ := exists_mem_of_forall₂ hg.interfaces hi
      obtain ⟨implemented, fields, hbody, hfields⟩ := hr.body_eq
      obtain ⟨written, hw, hfield⟩ := exists_mem_of_forall₂ hfields hf
      exact ⟨_, fields, written, hw, hfield,
        fieldDefinitionProblems_eq_nil (typeProblems_eq_nil hp ht) (.inr hbody)⟩
  obtain ⟨hname, type, ht, hkind⟩ := tags_of_typeRef (fieldDef_eq_ok_iff.mp hfield).2.2
  rw [hname] at ht
  have houtput := isOutputType_of_fieldDefinitionProblems hproblems hwritten ht
  intro hinput
  rw [← hkind] at hinput
  unfold TypeDefinition.isOutputType at houtput
  split at houtput
  next => cases houtput
  next hbody =>
    cases hb : type.body with
    | input fields => exact hbody fields hb
    | _ => rw [hb] at hinput; cases hinput

end SchemaGraph.IsValid

end ResolverTypes
