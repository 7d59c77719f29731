import ResolverTypes.Proofs.Contract.StrayNames
import ResolverTypes.Proofs.Project.CheckedProjects
import ResolverTypes.Proofs.Project.ProjectSelection

/-!
# Blank names of types

A configuration names the types of models, of the context and of scalars.  When it is loaded, the
names of models are checked not to be blank, and those of the context and of scalars are not.  The
names that a schema gives and those that are derived from them are words and so never blank.  A
blank name in a document is therefore that of the context or of a scalar, and both do occur.

## Main results

* `not_isWord_of_isBlank` : a blank text is no word.
* `Config.names_blank_iff_of_ofText` : which blank names the document of a project in a loaded
  configuration has.
-/

namespace ResolverTypes

open TypeScript

/-! ### Blank texts -/

/-- No white space may stand in the name of a type. -/
theorem isWordChar_of_isBlankChar {c : Char} (h : Text.isBlankChar c = true) :
    isWordChar c = false := by
  have hcodes : ∀ n ∈ List.range' 0x9 5 ++ List.range' 0x2000 11 ++
      [0x20, 0x85, 0xA0, 0x1680, 0x2028, 0x2029, 0x202F, 0x205F, 0x3000],
      isWordChar (Char.ofNat n) = false := by decide +kernel
  rw [← Char.ofNat_toNat c]
  refine hcodes c.toNat ?_
  simp only [Text.isBlankChar, Bool.or_eq_true, Bool.and_eq_true, decide_eq_true_eq,
    List.contains_iff_mem] at h
  rw [List.mem_append, List.mem_append, List.mem_range'_1, List.mem_range'_1]
  rcases h with (h | h) | h
  · exact .inl (.inl (by omega))
  · exact .inl (.inr (by omega))
  · exact .inr h

/-- A blank text is no word. -/
theorem not_isWord_of_isBlank {text : String} (h : Text.isBlank text = true) : ¬ IsWord text := by
  rintro ⟨hne, hchars⟩
  obtain ⟨c, hc⟩ := List.exists_mem_of_ne_nil _ hne
  have hblank := List.all_eq_true.mp h c hc
  exact Bool.false_ne_true ((isWordChar_of_isBlankChar hblank).symm.trans (hchars c hc))

/-- A blank text is stray where no model is blank. -/
theorem Options.isStray_of_isBlank {options : Options}
    (hm : ∀ typeName model, options.models.get? typeName = some model →
      Text.isBlank model = false) {blank : String} (hb : Text.isBlank blank = true) :
    options.IsStray blank where
  not_isWord := not_isWord_of_isBlank hb
  not_model typeName h := Bool.false_ne_true ((hm typeName blank h).symm.trans hb)

/-! ### Loaded configurations -/

namespace Config

/-- The projects of a loaded configuration are placed with models that are not blank.  The document
of such a project goes by a blank name for a type exactly when the name is configured for the
context, and a resolver is declared that takes it, or for a scalar whose values are described. -/
theorem names_blank_iff_of_ofText {text : String} {path : FilePath} {config : Config}
    (h : ofText text path = .ok config) {name : String} {project : Project}
    (hp : (name, project) ∈ config.projects) (base : FilePath) :
    ∃ placed, project.place name base = .ok placed ∧
      ∀ graph document, graph.IsValid → assemble graph placed.options = .ok document →
        ∀ blank, Text.isBlank blank = true → (document.Names blank ↔
          (placed.options.contextType = some blank ∧ graph.resolvableTypeNames ≠ []) ∨
            ∃ ref ∈ graph.describedReferences, placed.options.MapsTo ref.base blank) := by
  obtain ⟨-, -, -, husable⟩ := ofText_eq_ok_iff.mp h
  obtain ⟨settings, hs, -, hmodels⟩ := (husable _ hp).exists_settings
  refine ⟨⟨name, project.schemaPatterns base, settings, base⟩, ?_, ?_⟩
  · unfold Project.place
    rw [hs]
    rfl
  · intro graph document hv ha blank hb
    exact (assembled_of_assemble ha).names_iff hv (Options.isStray_of_isBlank hmodels hb)

/-- The text of a configuration whose context and scalar have blank types. -/
def blankText : String :=
  "schema: dates.graphql\nextensions:\n  resolvers:\n    output: dates.ts\n    context: ''\n" ++
    "    scalars:\n      Date: ' '\n"

/-- The text of a schema with a scalar of its own. -/
def datesText : String := "type Query { today: Date }\nscalar Date"

/-- The graph of `datesText`. -/
def datesGraph : SchemaGraph where
  objects := [⟨"Query", [⟨"today", .nullable (.named ⟨.scalar, "Date"⟩), []⟩], [], false⟩]
  roots := { query := some "Query" }

theorem isValid_datesGraph : datesGraph.IsValid := by
  have h : (SchemaGraph.ofSources [⟨"dates.graphql", datesText⟩]).toOption = some datesGraph := by
    decide +kernel
  exact ⟨_, toOption_eq_some_iff.mp h⟩

/-- A configuration is loaded that makes a document go by blank names for the context and for a
scalar. -/
theorem names_blank_blankText : ∃ config project placed document,
    ofText blankText ".graphqlrc.yml" = .ok config ∧ (defaultName, project) ∈ config.projects ∧
      project.place defaultName "" = .ok placed ∧ datesGraph.IsValid ∧
      assemble datesGraph placed.options = .ok document ∧ document.Names "" ∧
      document.Names " " := by
  have hloads : ((ofText blankText ".graphqlrc.yml").toOption.bind fun config =>
      (config.project? defaultName).bind fun project =>
        (project.place defaultName "").toOption.map (·.options)) =
      some { contextType := some "", scalars := .ofList [("Date", " ")] } := by decide +kernel
  obtain ⟨config, hconfig, hproject⟩ := Option.bind_eq_some_iff.mp hloads
  obtain ⟨project, hproject, hplace⟩ := Option.bind_eq_some_iff.mp hproject
  obtain ⟨placed, hplaced, hoptions⟩ := Option.map_eq_some_iff.mp hplace
  have hconfig := toOption_eq_some_iff.mp hconfig
  have hmem : (defaultName, project) ∈ config.projects := mem_projects_iff.mpr hproject
  have ha : assemble datesGraph placed.options =
      .ok (bareDocument datesGraph placed.options) := by
    rw [hoptions]
    exact assemble_eq_bareDocument rfl (by decide +kernel)
  obtain ⟨other, hother, hnames⟩ := names_blank_iff_of_ofText hconfig hmem ""
  obtain rfl := Except.ok.inj (hother.symm.trans (toOption_eq_some_iff.mp hplaced))
  have hblank := hnames datesGraph _ isValid_datesGraph ha
  refine ⟨config, project, other, _, hconfig, hmem, hother, isValid_datesGraph, ha, ?_, ?_⟩
  · refine (hblank "" (by decide)).mpr (.inl ⟨?_, nofun⟩)
    rw [hoptions]
  · refine (hblank " " (by decide)).mpr (.inr ⟨_, List.mem_cons_self, rfl, by decide, ?_⟩)
    rw [hoptions]
    decide +kernel

end Config

end ResolverTypes
