import ResolverTypes.Proofs.Schema.MergingSteps

/-!
# Types that are built in

The steps of merging start from the types that are built in, and add types under names that are
free.  No text can therefore take the name of a type that is built in: what a merged schema finds
under such a name is the built-in type, with at most more in it.

## Main definitions

* `FindsBuiltIn` : what a name finds among types is built in.

## Main results

* `TypesStep.findsBuiltIn` : a step leaves what is built in under its name.
* `isBuiltIn_iff_of_mergeSources` : the types that are built in are those under their names.
-/

namespace ResolverTypes.Schema

open Relation (ReflTransGen)

/-- What a name finds among types is built in. -/
def FindsBuiltIn (types : List TypeDefinition) (name : String) : Prop :=
  ∃ type, types.find? (·.name.value == name) = some type ∧ type.isBuiltIn = true

/-- Where a type is replaced by one of the same name, a name finds what it found, or the new type in
place of the old one. -/
theorem find?_map_replace {found extended : TypeDefinition} (hname : extended.name = found.name)
    (types : List TypeDefinition) (name : String) :
    (types.map fun t => if t.name.value == found.name.value then extended else t).find?
        (·.name.value == name) =
      (types.find? (·.name.value == name)).map fun t =>
        if t.name.value == found.name.value then extended else t := by
  have hnames : ((·.name.value == name) ∘ fun t : TypeDefinition =>
      if t.name.value == found.name.value then extended else t) = (·.name.value == name) := by
    funext t
    simp only [Function.comp]
    split
    next ht => rw [hname, beq_iff_eq.mp ht]
    next => rfl
  rw [List.find?_map, hnames]

/-- A step leaves what is built in under its name. -/
theorem TypesStep.findsBuiltIn {types others : List TypeDefinition} (h : TypesStep types others)
    {name : String} (hb : FindsBuiltIn types name) : FindsBuiltIn others name := by
  obtain ⟨type, hfind, hbuiltIn⟩ := hb
  cases h with
  | added => exact ⟨type, by rw [List.find?_append, hfind]; rfl, hbuiltIn⟩
  | @extended found extended other hfound htakes =>
      have he : Extends found extended := htakes.extends
      obtain rfl : found.name.value = other := by simpa using List.find?_some hfound
      refine ⟨_, by rw [find?_map_replace he.name_eq, hfind]; rfl, ?_⟩
      dsimp only
      split
      next ht =>
        have hname : type.name.value = name := by simpa using List.find?_some hfind
        rw [← hname, beq_iff_eq.mp ht, hfound] at hfind
        obtain rfl := Option.some.inj hfind
        rw [TypeDefinition.isBuiltIn, he.position_eq]
        exact hbuiltIn
      next => exact hbuiltIn

theorem findsBuiltIn_of_steps {types others : List TypeDefinition}
    (h : ReflTransGen TypesStep types others) {name : String} (hb : FindsBuiltIn types name) :
    FindsBuiltIn others name := by
  induction h with
  | refl => exact hb
  | tail _ hstep ih => exact hstep.findsBuiltIn ih

/-- Of the types of a merged schema, those are built in that are found under the name of a type that
is in every schema. -/
theorem isBuiltIn_iff_of_mergeSources {sources : List SourceText} {schema : Schema}
    (h : mergeSources sources = .ok schema) {name : String} {type : TypeDefinition}
    (ht : schema.type? name = some type) :
    type.isBuiltIn = true ↔ ∃ origin ∈ builtInTypes, origin.name.value = name := by
  have hname : type.name.value = name := by simpa using List.find?_some ht
  constructor
  · intro hb
    obtain ⟨origin, ho, he⟩ :=
      (mergeSources_soundTypes h).builtIn type (List.mem_of_find?_eq_some ht) hb
    exact ⟨origin, ho, by rw [← he.name_eq, hname]⟩
  · rintro ⟨origin, ho, rfl⟩
    have hbuiltIn : ∀ origin ∈ builtInTypes, origin.isBuiltIn = true := by decide
    have hstart : FindsBuiltIn builtInTypes origin.name.value :=
      ⟨origin, find?_name_eq_some_of_mem soundTypes_builtInTypes.nodup_names ho,
        hbuiltIn origin ho⟩
    obtain ⟨found, hfind, hb⟩ := findsBuiltIn_of_steps (reflTransGen_of_mergeSources h) hstart
    rw [Option.some.inj (ht.symm.trans hfind)]
    exact hb

end ResolverTypes.Schema
