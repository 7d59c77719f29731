import Mathlib.Logic.Relation
import ResolverTypes.Proofs.Schema.MergedTypes

/-!
# Steps in which schema texts are merged

A schema starts from the types that are built in, and a definition that is read from a text adds a
type under a name that is free, lets the type of a name take in an extension, or changes no type.  A
type is added without any part and then takes in its own parts and the extensions that were waiting
for it, so that all parts of a merged schema have been taken in one after the other.

## Main definitions

* `Takes` : a type takes in an extension.
* `TypesStep` : what one definition does to the types of a draft.
* `KeptByMerging` : merging keeps a property of types.

## Main results

* `Draft.typesStep_add` : adding a definition to a draft is such a step, or changes no type.
* `reflTransGen_of_mergeSources` : the types of a merged schema are reached in such steps.
* `KeptByMerging.of_mergeSources` : a property that merging keeps holds of every type of a merged
  schema.
-/

namespace ResolverTypes.Schema

open Relation (ReflGen ReflTransGen)

/-! ### Steps -/

/-- A type takes in an extension, and becomes another type. -/
def Takes (type extended : TypeDefinition) : Prop :=
  ∃ extension reported, type.extend? extension = some (extended, reported)

/-- What one definition does to the types of a draft: it adds a type under a name that is free, after
the type has taken in parts and extensions, or the type that a name finds takes in an extension. -/
inductive TypesStep (types : List TypeDefinition) : List TypeDefinition → Prop where
  | added {type merged : TypeDefinition} :
      types.find? (·.name.value == type.name.value) = none →
      ReflTransGen Takes { type with body := type.body.cleared, directives := [] } merged →
      TypesStep types (types ++ [merged])
  | extended {type extended : TypeDefinition} {name : String} :
      types.find? (·.name.value == name) = some type → Takes type extended →
      TypesStep types (types.map fun t => if t.name.value == name then extended else t)

/-- A type has at most more in it once it has taken in an extension. -/
theorem Takes.extends {type extended : TypeDefinition} (h : Takes type extended) :
    Extends type extended := by
  obtain ⟨extension, reported, h⟩ := h
  exact extends_extend? h

namespace Draft

theorem typesStep_addType (draft : Draft) (type : TypeDefinition) :
    ReflGen TypesStep draft.types (draft.addType type).types := by
  unfold Draft.addType
  split
  · split
    · split <;> exact .refl
    · exact .refl
  next hfree =>
    refine .single (.added hfree (foldl_extend (fun sofar e => ?_) (type :: _)
      (fun taken e _ extended reported h htaken => htaken.tail ⟨e, reported, h⟩) (_, []) .refl))
    split
    next extended reported heq => exact .inr ⟨reported, heq⟩
    next => exact .inl rfl

theorem typesStep_addTypeExtension (draft : Draft) (extension : TypeDefinition) :
    ReflGen TypesStep draft.types (draft.addTypeExtension extension).types := by
  unfold Draft.addTypeExtension
  split
  · exact .refl
  next type hfind =>
    split
    · exact .refl
    next extended reported heq => exact .single (.extended hfind ⟨extension, reported, heq⟩)

/-- Adding a definition to a draft takes at most one step. -/
theorem typesStep_add (draft : Draft) (definition : Definition) :
    ReflGen TypesStep draft.types (draft.add definition).types := by
  cases definition with
  | type type => exact typesStep_addType draft type
  | typeExtension extension => exact typesStep_addTypeExtension draft extension
  | schema clause =>
      rw [Draft.add, Draft.addClause]
      split <;> exact .refl
  | schemaExtension clause =>
      rw [Draft.add, Draft.addClauseExtension]
      split <;> exact .refl
  | directive directive =>
      rw [Draft.add, Draft.addDirective]
      split
      · exact .refl
      · split <;> exact .refl
  | operation position => exact .refl
  | fragment position => exact .refl

theorem typesSteps_foldl_add (draft : Draft) (definitions : List Definition) :
    ReflTransGen TypesStep draft.types (definitions.foldl Draft.add draft).types := by
  induction definitions generalizing draft with
  | nil => exact .refl
  | cons d definitions ih => exact (typesStep_add draft d).to_reflTransGen.trans (ih _)

theorem typesSteps_addText (draft : Draft) (source : Nat × SourceText) :
    ReflTransGen TypesStep draft.types (draft.addText source).types := by
  unfold Draft.addText
  obtain ⟨definitions, errors⟩ := readDefinitions source.1 source.2.text
  exact typesSteps_foldl_add (draft.report _) definitions

theorem typesSteps_foldl_addText (draft : Draft) (sources : List (Nat × SourceText)) :
    ReflTransGen TypesStep draft.types (sources.foldl Draft.addText draft).types := by
  induction sources generalizing draft with
  | nil => exact .refl
  | cons source sources ih => exact (typesSteps_addText draft source).trans (ih _)

end Draft

/-- The types of a merged schema are reached in steps from those that are built in. -/
theorem reflTransGen_of_mergeSources {sources : List SourceText} {schema : Schema}
    (h : mergeSources sources = .ok schema) :
    ReflTransGen TypesStep builtInTypes schema.types := by
  rw [types_of_mergeSources h]
  exact Draft.typesSteps_foldl_addText {} _

/-! ### Properties that merging keeps -/

/-- Merging keeps a property of types: it holds of what is built in and of a type that has no part
yet, and a type that has it keeps it when it is extended. -/
structure KeptByMerging (P : TypeDefinition → Prop) : Prop where
  builtIn : ∀ type ∈ builtInTypes, P type
  cleared : ∀ type : TypeDefinition, P { type with body := type.body.cleared, directives := [] }
  extend? : ∀ type extension extended reported, P type →
    type.extend? extension = some (extended, reported) → P extended

namespace KeptByMerging

variable {P : TypeDefinition → Prop} (h : KeptByMerging P)

include h

theorem takes {type extended : TypeDefinition} (ht : Takes type extended) (hp : P type) :
    P extended := by
  obtain ⟨extension, reported, ht⟩ := ht
  exact h.extend? type extension extended reported hp ht

/-- A step keeps the property of all types. -/
theorem step {types others : List TypeDefinition} (hstep : TypesStep types others)
    (hp : ∀ type ∈ types, P type) : ∀ type ∈ others, P type := by
  cases hstep with
  | @added type merged _ hmerged =>
      have hmerged : P merged := by
        induction hmerged with
        | refl => exact h.cleared type
        | tail _ htakes ih => exact h.takes htakes ih
      intro other ho
      rcases List.mem_append.mp ho with ho | ho
      · exact hp other ho
      · rw [List.mem_singleton.mp ho]
        exact hmerged
  | extended hfind htakes =>
      intro other ho
      obtain ⟨t, ht, rfl⟩ := List.mem_map.mp ho
      split
      · exact h.takes htakes (hp _ (List.mem_of_find?_eq_some hfind))
      · exact hp t ht

/-- A property that merging keeps holds of every type of a merged schema. -/
theorem of_mergeSources {sources : List SourceText} {schema : Schema}
    (hm : mergeSources sources = .ok schema) : ∀ type ∈ schema.types, P type := by
  have hsteps := reflTransGen_of_mergeSources hm
  generalize schema.types = types at hsteps
  induction hsteps with
  | refl => exact h.builtIn
  | tail _ hstep ih => exact h.step hstep ih

end KeptByMerging

end ResolverTypes.Schema
