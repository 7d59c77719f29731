import ResolverTypes.Graph.Lowering
import ResolverTypes.Proofs.Data.NameLookup
import ResolverTypes.Proofs.Schema.NameReading
import ResolverTypes.Schema.Sources

/-!
# The types of a merged schema

Whatever texts a schema is merged from, its types have names of their own, these and the names of
their fields are spelt as names, and a type that is built in has kept its name and kind.  Every step
of merging preserves this: a type is added only under a name that is free, and an extension changes
neither the name nor the kind of what it extends.

## Main definitions

* `SoundTypes` : what holds of the types of every schema.
* `Draft.Sound` : what holds of every draft.

## Main results

* `Draft.Sound.add` : a draft stays sound when a definition is added.
* `mergeSources_soundTypes` : the types of a merged schema are sound.
-/

namespace ResolverTypes.Schema

/-! ### Extending a type -/

section

variable {α : Type} {nameOf : α → Name} {positionOf : α → Option Position}
  {problem : String → Problem}

theorem mem_addParts {a : α} : (items parts : List α) →
    a ∈ (addParts nameOf positionOf problem items parts).1 → a ∈ items ∨ a ∈ parts
  | items, [], h => .inl h
  | items, part :: parts, h => by
      rw [addParts] at h
      split at h
      · exact (mem_addParts items parts h).imp id (List.mem_cons_of_mem part)
      · rcases mem_addParts (items ++ [part]) parts h with h | h
        · rcases List.mem_append.mp h with h | h
          · exact .inl h
          · exact .inr (List.mem_singleton.mp h ▸ List.mem_cons_self)
        · exact .inr (List.mem_cons_of_mem part h)

theorem forall_mem_addParts {p : α → Prop} {items parts : List α} (hi : ∀ a ∈ items, p a)
    (hp : ∀ a ∈ parts, p a) : ∀ a ∈ (addParts nameOf positionOf problem items parts).1, p a :=
  fun a h => (mem_addParts items parts h).elim (hi a) (hp a)

end

theorem isNamed_cleared (body : TypeBody) : body.cleared.IsNamed := by
  cases body <;> simp [TypeBody.cleared, TypeBody.IsNamed]

theorem kind_cleared (body : TypeBody) : body.cleared.kind = body.kind := by
  cases body <;> rfl

/-- An extension keeps the kind of a body. -/
theorem kind_extend? {owner : String} {body extension : TypeBody}
    {result : TypeBody × List Diagnostic} (h : body.extend? owner extension = some result) :
    result.1.kind = body.kind := by
  unfold TypeBody.extend? at h
  split at h <;> cases h <;> rfl

theorem isNamed_extend? {owner : String} {body extension : TypeBody}
    {result : TypeBody × List Diagnostic} (h : body.extend? owner extension = some result)
    (hb : body.IsNamed) (he : extension.IsNamed) : result.1.IsNamed := by
  unfold TypeBody.extend? at h
  split at h <;> cases h
  · trivial
  · exact forall_mem_addParts hb he
  · exact forall_mem_addParts hb he
  · trivial
  · exact forall_mem_addParts hb he
  · exact forall_mem_addParts hb he

/-- A type is another one with, at most, more in it. -/
structure Extends (type extended : TypeDefinition) : Prop where
  name_eq : extended.name = type.name
  position_eq : extended.position = type.position
  kind_eq : extended.body.kind = type.body.kind

theorem Extends.trans {a b c : TypeDefinition} (hab : Extends a b) (hbc : Extends b c) :
    Extends a c :=
  ⟨hbc.name_eq.trans hab.name_eq, hbc.position_eq.trans hab.position_eq,
    hbc.kind_eq.trans hab.kind_eq⟩

theorem extends_extend? {type extension extended : TypeDefinition} {reported : List Diagnostic}
    (h : type.extend? extension = some (extended, reported)) : Extends type extended := by
  obtain ⟨body, hb, heq⟩ := Option.map_eq_some_iff.mp h
  cases heq
  exact ⟨rfl, rfl, kind_extend? hb⟩

theorem TypeDefinition.IsNamed.extend? {type extension extended : TypeDefinition}
    {reported : List Diagnostic} (ht : type.IsNamed) (he : extension.IsNamed)
    (h : type.extend? extension = some (extended, reported)) : extended.IsNamed := by
  obtain ⟨body, hb, heq⟩ := Option.map_eq_some_iff.mp h
  cases heq
  exact ⟨ht.1, isNamed_extend? hb ht.2 he.2⟩

/-- Taking extensions into a type one after the other keeps what taking one of them in keeps. -/
theorem foldl_extend {P : TypeDefinition → Prop}
    {step : TypeDefinition × List Diagnostic → TypeDefinition → TypeDefinition × List Diagnostic}
    (hstep : ∀ sofar e, (step sofar e).1 = sofar.1 ∨
      ∃ reported, sofar.1.extend? e = some ((step sofar e).1, reported))
    (extensions : List TypeDefinition)
    (hkeep : ∀ type, ∀ e ∈ extensions, ∀ extended reported,
      type.extend? e = some (extended, reported) → P type → P extended)
    (sofar : TypeDefinition × List Diagnostic) (hs : P sofar.1) :
    P (extensions.foldl step sofar).1 := by
  induction extensions generalizing sofar with
  | nil => exact hs
  | cons e extensions ih =>
      refine ih (fun type e' h => hkeep type e' (List.mem_cons_of_mem e h)) (step sofar e) ?_
      rcases hstep sofar e with h | ⟨reported, h⟩
      · exact h.symm ▸ hs
      · exact hkeep sofar.1 e List.mem_cons_self _ reported h hs

/-! ### Sound types -/

/-- The types of a schema have names of their own, spelt as names, and a type that is built in has
the name and the kind of one that is in every schema. -/
structure SoundTypes (types : List TypeDefinition) : Prop where
  nodup_names : (types.map (·.name.value)).Nodup
  isNamed : ∀ type ∈ types, type.IsNamed
  builtIn : ∀ type ∈ types, type.isBuiltIn = true →
    ∃ origin ∈ builtInTypes, Extends origin type

instance (text : String) : Decidable (IsName text) :=
  decidable_of_iff (text.toList.head?.any isNameStart = true ∧
      text.toList.tail.all isNameChar = true) <| by
    rw [IsName]
    cases text.toList <;> simp

instance (field : Field) : Decidable field.IsNamed :=
  inferInstanceAs (Decidable (_ ∧ _))

instance : DecidablePred TypeBody.IsNamed
  | .object _ fields | .interface _ fields =>
      inferInstanceAs (Decidable (∀ field ∈ fields, field.IsNamed))
  | .enum values => inferInstanceAs (Decidable (∀ value ∈ values, IsName value.name.value))
  | .input fields => inferInstanceAs (Decidable (∀ field ∈ fields, IsName field.name.value))
  | .scalar | .union _ => inferInstanceAs (Decidable True)

instance (type : TypeDefinition) : Decidable type.IsNamed :=
  inferInstanceAs (Decidable (_ ∧ _))

theorem soundTypes_builtInTypes : SoundTypes builtInTypes where
  nodup_names := by decide +kernel
  isNamed := by decide +kernel
  builtIn type ht _ := ⟨type, ht, rfl, rfl, rfl⟩

theorem SoundTypes.append {types : List TypeDefinition} (h : SoundTypes types)
    {type : TypeDefinition} (hn : type.IsNamed) (hb : type.position.isSome)
    (hfree : types.find? (·.name.value == type.name.value) = none) :
    SoundTypes (types ++ [type]) where
  nodup_names := by
    rw [List.map_append, List.map_singleton, List.nodup_append_comm, List.singleton_append,
      List.nodup_cons]
    exact ⟨find?_name_eq_none_iff.mp hfree, h.nodup_names⟩
  isNamed t ht := by
    rcases List.mem_append.mp ht with ht | ht
    · exact h.isNamed t ht
    · exact List.mem_singleton.mp ht ▸ hn
  builtIn t ht hbuiltIn := by
    rcases List.mem_append.mp ht with ht | ht
    · exact h.builtIn t ht hbuiltIn
    · rw [List.mem_singleton.mp ht, TypeDefinition.isBuiltIn, Option.isNone_iff_eq_none] at hbuiltIn
      rw [hbuiltIn] at hb
      cases hb

theorem SoundTypes.replace {types : List TypeDefinition} (h : SoundTypes types)
    {type extended : TypeDefinition} (ht : type ∈ types) (hn : extended.IsNamed)
    (he : Extends type extended) :
    SoundTypes (types.map fun t => if t.name.value == type.name.value then extended else t) := by
  -- only the type itself has its name, so that each type is replaced by one that extends it
  have replaced (t : TypeDefinition) (hm : t ∈ types) :
      (t = type ∧ (if t.name.value == type.name.value then extended else t) = extended) ∨
        (if t.name.value == type.name.value then extended else t) = t := by
    split
    next hname =>
      exact .inl ⟨List.inj_on_of_nodup_map h.nodup_names hm ht (beq_iff_eq.mp hname), rfl⟩
    next => exact .inr rfl
  refine ⟨?_, fun _ hmap => ?_, fun _ hmap hb => ?_⟩
  · rw [List.map_map, List.map_congr_left (g := (·.name.value))]
    · exact h.nodup_names
    · intro t hm
      rcases replaced t hm with ⟨rfl, heq⟩ | heq
      · rw [Function.comp, heq, he.name_eq]
      · rw [Function.comp, heq]
  · obtain ⟨t, hm, rfl⟩ := List.mem_map.mp hmap
    rcases replaced t hm with ⟨rfl, heq⟩ | heq
    · rw [heq]
      exact hn
    · rw [heq]
      exact h.isNamed t hm
  · obtain ⟨t, hm, rfl⟩ := List.mem_map.mp hmap
    rcases replaced t hm with ⟨rfl, heq⟩ | heq
    · rw [heq] at hb ⊢
      rw [TypeDefinition.isBuiltIn, he.position_eq] at hb
      obtain ⟨origin, ho, hoe⟩ := h.builtIn t hm hb
      exact ⟨origin, ho, hoe.trans he⟩
    · rw [heq] at hb ⊢
      exact h.builtIn t hm hb

/-! ### Drafts -/

namespace Draft

/-- The types of a draft are sound, and the extensions that wait are spelt as names. -/
structure Sound (draft : Draft) : Prop where
  types : SoundTypes draft.types
  waiting : ∀ extension ∈ draft.waiting, extension.IsNamed

theorem sound_start : ({} : Draft).Sound :=
  ⟨soundTypes_builtInTypes, nofun⟩

variable {draft : Draft}

theorem Sound.congr (h : draft.Sound) {other : Draft} (ht : other.types = draft.types)
    (hw : other.waiting = draft.waiting) : other.Sound :=
  ⟨ht ▸ h.types, hw ▸ h.waiting⟩

theorem Sound.report (h : draft.Sound) (diagnostics : List Diagnostic) :
    (draft.report diagnostics).Sound :=
  h.congr rfl rfl

/-- A draft stays sound when it takes in a type of a name that is free, merged with the extensions
that wait for the type. -/
theorem Sound.addMerged (h : draft.Sound) {type : TypeDefinition} (hn : type.IsNamed)
    (hp : type.position.isSome)
    (hfree : draft.types.find? (·.name.value == type.name.value) = none)
    {step : TypeDefinition × List Diagnostic → TypeDefinition → TypeDefinition × List Diagnostic}
    (hstep : ∀ sofar e, (step sofar e).1 = sofar.1 ∨
      ∃ reported, sofar.1.extend? e = some ((step sofar e).1, reported)) :
    Sound { draft with
      types := draft.types ++
        [((type :: draft.waiting.filter (·.name.value == type.name.value)).foldl step
          ({ type with body := type.body.cleared, directives := [] }, [])).1]
      waiting := draft.waiting.filter fun e => !(e.name.value == type.name.value) } := by
  have hown : ∀ e ∈ type :: draft.waiting.filter (·.name.value == type.name.value),
      e.IsNamed := by
    intro e he
    rcases List.mem_cons.mp he with rfl | he
    · exact hn
    · exact h.waiting e (List.mem_filter.mp he).1
  have hcleared : TypeDefinition.IsNamed { type with body := type.body.cleared, directives := [] } ∧
      Extends type { type with body := type.body.cleared, directives := [] } :=
    ⟨⟨hn.1, isNamed_cleared _⟩, rfl, rfl, kind_cleared _⟩
  obtain ⟨hnamed, hextends⟩ := foldl_extend hstep _
    (fun t e he extended reported ht (htaken : t.IsNamed ∧ Extends type t) =>
      ⟨htaken.1.extend? (hown e he) ht, htaken.2.trans (extends_extend? ht)⟩) (_, []) hcleared
  refine ⟨h.types.append hnamed ?_ ?_, fun e he => ?_⟩
  · rw [hextends.position_eq]
    exact hp
  · rw [hextends.name_eq]
    exact hfree
  · exact h.waiting e (List.mem_filter.mp he).1

theorem Sound.addType (h : draft.Sound) {type : TypeDefinition} (hn : type.IsNamed)
    (hp : type.position.isSome) : (draft.addType type).Sound := by
  unfold Draft.addType
  split
  · split
    · split
      · exact h.report _
      · exact h.report _
    · exact h.report _
  next hfree =>
    rw [List.partition_eq_filter_filter]
    refine Sound.report (h.addMerged hn hp hfree fun sofar e => ?_) _
    split
    next extended reported heq => exact .inr ⟨reported, heq⟩
    next => exact .inl rfl

theorem Sound.addTypeExtension (h : draft.Sound) {extension : TypeDefinition}
    (hn : extension.IsNamed) : (draft.addTypeExtension extension).Sound := by
  unfold Draft.addTypeExtension
  split
  · refine ⟨h.types, fun e he => ?_⟩
    rcases List.mem_append.mp he with he | he
    · exact h.waiting e he
    · exact List.mem_singleton.mp he ▸ hn
  next type hfind =>
    split
    · exact h.report _
    next extended reported heq =>
      have ht := List.mem_of_find?_eq_some hfind
      have hname : type.name.value = extension.name.value := by simpa using List.find?_some hfind
      have htypes := h.types.replace ht ((h.types.isNamed type ht).extend? hn heq)
        (extends_extend? heq)
      rw [hname] at htypes
      exact ⟨htypes, h.waiting⟩

theorem Sound.addClauseExtension (h : draft.Sound) (extension : SchemaClause) :
    (draft.addClauseExtension extension).Sound := by
  unfold Draft.addClauseExtension
  split <;> exact h.congr rfl rfl

theorem Sound.addClause (h : draft.Sound) (clause : SchemaClause) :
    (draft.addClause clause).Sound := by
  unfold Draft.addClause
  split <;> exact h.congr rfl rfl

theorem Sound.addDirective (h : draft.Sound) (directive : DirectiveDefinition) :
    (draft.addDirective directive).Sound := by
  unfold Draft.addDirective
  split
  · exact h.congr rfl rfl
  · split <;> exact h.congr rfl rfl

/-- A draft stays sound when a definition is added. -/
theorem Sound.add (h : draft.Sound) {definition : Definition} (hd : definition.IsNamed) :
    (draft.add definition).Sound := by
  cases definition with
  | schema clause => exact h.addClause clause
  | schemaExtension clause => exact h.addClauseExtension clause
  | type type => exact h.addType hd.1 hd.2
  | typeExtension extension => exact h.addTypeExtension hd
  | directive directive => exact h.addDirective directive
  | operation position => exact h.report _
  | fragment position => exact h.report _

theorem Sound.foldl_add (h : draft.Sound) (definitions : List Definition)
    (hd : ∀ d ∈ definitions, d.IsNamed) : (definitions.foldl Draft.add draft).Sound := by
  induction definitions generalizing draft with
  | nil => exact h
  | cons d definitions ih =>
      exact ih (h.add (hd d List.mem_cons_self)) fun e he => hd e (List.mem_cons_of_mem d he)

theorem Sound.addText (h : draft.Sound) (source : Nat × SourceText) :
    (draft.addText source).Sound := by
  have hn := readDefinitions_isNamed source.1 source.2.text
  unfold Draft.addText
  generalize readDefinitions source.1 source.2.text = result at hn ⊢
  exact (h.report _).foldl_add _ hn

theorem Sound.foldl_addText (h : draft.Sound) (sources : List (Nat × SourceText)) :
    (sources.foldl Draft.addText draft).Sound := by
  induction sources generalizing draft with
  | nil => exact h
  | cons source sources ih =>
      rw [List.foldl_cons]
      exact ih (h.addText source)

end Draft

theorem types_foldl_addClauseExtension (draft : Draft) (extensions : List SchemaClause) :
    (extensions.foldl Draft.addClauseExtension draft).types = draft.types := by
  induction extensions generalizing draft with
  | nil => rfl
  | cons extension extensions ih =>
      rw [List.foldl_cons, ih, Draft.addClauseExtension]
      split <;> rfl

theorem types_finish (draft : Draft) : draft.finish.1.types = draft.types := by
  change draft.withClause.types = draft.types
  unfold Draft.withClause
  split
  · rfl
  · dsimp only
    split
    · rfl
    · exact types_foldl_addClauseExtension _ _

/-- The types of a merged schema are those of the draft that takes in its texts. -/
theorem types_of_mergeSources {sources : List SourceText} {schema : Schema}
    (h : mergeSources sources = .ok schema) :
    schema.types = ((numbered 0 sources).foldl Draft.addText {}).types := by
  rw [← types_finish]
  unfold mergeSources at h
  generalize ((numbered 0 sources).foldl Draft.addText {}).finish = result at h ⊢
  dsimp only at h
  split at h
  · rw [Except.ok.inj h]
  · cases h

/-- The types of a merged schema are sound. -/
theorem mergeSources_soundTypes {sources : List SourceText} {schema : Schema}
    (h : mergeSources sources = .ok schema) : SoundTypes schema.types := by
  rw [types_of_mergeSources h]
  exact (Draft.sound_start.foldl_addText (numbered 0 sources)).types

end ResolverTypes.Schema
