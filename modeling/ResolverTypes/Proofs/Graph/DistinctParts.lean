import ResolverTypes.Proofs.Graph.References
import ResolverTypes.Proofs.Schema.MergingSteps

/-!
# Parts with names of their own

Of two parts of a type that have the same name, merging keeps the first and reports the other.  The
fields, members and values that a type of a merged schema has, and the interfaces that it
implements, have therefore names of their own, whatever extensions they come from; and so have those
of the definitions in a graph.

## Main definitions

* `TypeBody.HasDistinctParts` : the parts of a type have names of their own.
* `SchemaGraph.HasDistinctParts` : the parts of every definition in a graph have names of their own.

## Main results

* `keptByMerging_hasDistinctParts` : merging keeps the parts of types apart.
* `SchemaGraph.IsLowered.hasDistinctParts` : the parts of the definitions in a graph have names of
  their own.
-/

namespace ResolverTypes

namespace Schema

/-! ### Distinct parts of types -/

/-- The interfaces that a type implements, and its fields, members and values, have names of their
own. -/
def TypeBody.HasDistinctParts : TypeBody → Prop
  | .scalar => True
  | .object implemented fields | .interface implemented fields =>
      (implemented.map (·.value)).Nodup ∧ (fields.map (·.name.value)).Nodup
  | .union members => (members.map (·.value)).Nodup
  | .enum values => (values.map (·.name.value)).Nodup
  | .input fields => (fields.map (·.name.value)).Nodup

instance : DecidablePred TypeBody.HasDistinctParts
  | .scalar => inferInstanceAs (Decidable True)
  | .object .. | .interface .. => inferInstanceAs (Decidable (_ ∧ _))
  | .union members => inferInstanceAs (Decidable (members.map (·.value)).Nodup)
  | .enum values => inferInstanceAs (Decidable (values.map (·.name.value)).Nodup)
  | .input fields => inferInstanceAs (Decidable (fields.map (·.name.value)).Nodup)

/-- Parts are added under names that are free. -/
theorem nodup_addParts {α : Type} {nameOf : α → Name} {positionOf : α → Option Position}
    {problem : String → Problem} : (items parts : List α) →
    (items.map fun a => (nameOf a).value).Nodup →
      ((addParts nameOf positionOf problem items parts).1.map fun a => (nameOf a).value).Nodup
  | items, [], h => h
  | items, part :: parts, h => by
      rw [addParts]
      split
      · exact nodup_addParts items parts h
      next hfree =>
        refine nodup_addParts (items ++ [part]) parts ?_
        rw [List.map_append, List.map_singleton, List.nodup_append_comm, List.singleton_append,
          List.nodup_cons]
        simpa [h] using hfree

theorem hasDistinctParts_cleared (body : TypeBody) : body.cleared.HasDistinctParts := by
  cases body <;> simp [TypeBody.cleared, TypeBody.HasDistinctParts]

theorem hasDistinctParts_extend? {owner : String} {body extension : TypeBody}
    {result : TypeBody × List Diagnostic} (h : body.extend? owner extension = some result)
    (hb : body.HasDistinctParts) : result.1.HasDistinctParts := by
  unfold TypeBody.extend? at h
  split at h <;> cases h
  · trivial
  · exact ⟨nodup_addParts _ _ hb.1, nodup_addParts _ _ hb.2⟩
  · exact ⟨nodup_addParts _ _ hb.1, nodup_addParts _ _ hb.2⟩
  · exact nodup_addParts _ _ hb
  · exact nodup_addParts _ _ hb
  · exact nodup_addParts _ _ hb

theorem keptByMerging_hasDistinctParts : KeptByMerging (·.body.HasDistinctParts) where
  builtIn := by decide +kernel
  cleared type := hasDistinctParts_cleared type.body
  extend? type extension extended reported ht h := by
    obtain ⟨body, hb, heq⟩ := Option.map_eq_some_iff.mp h
    cases heq
    exact hasDistinctParts_extend? hb ht

end Schema

/-! ### Distinct parts of the definitions in a graph -/

open Schema

namespace SchemaGraph

/-- The interfaces that the definitions in a graph implement, and their fields, members and values,
have names of their own. -/
structure HasDistinctParts (graph : SchemaGraph) : Prop where
  implements : ∀ o ∈ graph.objects, o.implements.Nodup
  objectFields : ∀ o ∈ graph.objects, (o.fields.map (·.name)).Nodup
  interfaceFields : ∀ i ∈ graph.interfaces, (i.fields.map (·.name)).Nodup
  members : ∀ u ∈ graph.unions, u.members.Nodup
  values : ∀ e ∈ graph.enums, e.values.Nodup
  inputFields : ∀ i ∈ graph.inputs, (i.fields.map (·.name)).Nodup

end SchemaGraph

theorem names_fieldDefs {schema : Schema} {owner : String} {fields : List Field}
    {results : List FieldDef} (h : List.Forall₂ (schema.fieldDef owner · = .ok ·) fields results) :
    results.map (·.name) = fields.map (·.name.value) :=
  map_eq_map_of_forall₂ h fun _ _ hf => (fieldDef_eq_ok_iff.mp hf).1

/-- The parts of what types come to are those of the types. -/
theorem Mirrors.hasDistinctParts {schema : Schema} {types : List TypeDefinition}
    {graph : SchemaGraph} (h : Mirrors schema types graph)
    (hd : ∀ type ∈ types, type.body.HasDistinctParts) : graph.HasDistinctParts := by
  have distinct {kind : Kind} {type : TypeDefinition} {body : TypeBody}
      (ht : type ∈ typesOfKind kind types) (hb : type.body = body) : body.HasDistinctParts :=
    hb ▸ hd type (List.mem_filter.mp ht).1
  constructor
  case implements =>
    intro o ho
    obtain ⟨type, ht, hr⟩ := exists_mem_of_forall₂ h.objects ho
    obtain ⟨implemented, fields, hbody, himplements, -⟩ := hr.body_eq
    exact himplements ▸ (distinct ht hbody).1
  case objectFields =>
    intro o ho
    obtain ⟨type, ht, hr⟩ := exists_mem_of_forall₂ h.objects ho
    obtain ⟨implemented, fields, hbody, -, hfields⟩ := hr.body_eq
    exact names_fieldDefs hfields ▸ (distinct ht hbody).2
  case interfaceFields =>
    intro i hi
    obtain ⟨type, ht, hr⟩ := exists_mem_of_forall₂ h.interfaces hi
    obtain ⟨implemented, fields, hbody, hfields⟩ := hr.body_eq
    exact names_fieldDefs hfields ▸ (distinct ht hbody).2
  case members =>
    intro u hu
    obtain ⟨type, ht, hr⟩ := exists_mem_of_forall₂ h.unions hu
    obtain ⟨members, hbody, hmembers⟩ := hr.body_eq
    exact hmembers ▸ distinct ht hbody
  case values =>
    intro e he
    obtain ⟨type, ht, hr⟩ := exists_mem_of_forall₂ h.enums he
    obtain ⟨values, hbody, hvalues⟩ := hr.body_eq
    exact hvalues ▸ distinct ht hbody
  case inputFields =>
    intro i hi
    obtain ⟨type, ht, hr⟩ := exists_mem_of_forall₂ h.inputs hi
    obtain ⟨fields, hbody, hfields⟩ := hr.body_eq
    have hnames : i.fields.map (·.name) = fields.map (·.name.value) :=
      map_eq_map_of_forall₂ hfields fun _ _ hf => (inputFieldDef_eq_ok_iff.mp hf).1
    exact hnames ▸ distinct ht hbody

/-- The parts of the definitions in a graph of schema texts have names of their own. -/
theorem SchemaGraph.IsLowered.hasDistinctParts {graph : SchemaGraph} (h : graph.IsLowered) :
    graph.HasDistinctParts := by
  obtain ⟨sources, schema, hm, hg⟩ := h
  have hdistinct := keptByMerging_hasDistinctParts.of_mergeSources hm
  exact (ofSchema_mirrors hg).hasDistinctParts fun type ht =>
    hdistinct type (List.mem_filter.mp ht).1

end ResolverTypes
