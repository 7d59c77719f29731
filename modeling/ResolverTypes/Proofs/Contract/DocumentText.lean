import ResolverTypes.Project.Output
import ResolverTypes.Proofs.Contract.WellFormedDocument

/-!
# The text determines the document

Two assembled documents with the same text are the same, as long as the configured names that they
mention are identifiers and the modules that they import from have no quote in their names.  Hence
comparing texts finds every change of the contracts.

## Main definitions

* `Options.Spells` : what is asked of the options for the text of a document to be read back.

## Main results

* `document_eq_of_render_eq` : the text determines the document.
-/

namespace ResolverTypes

open TypeScript Schema

variable {graph : SchemaGraph} {options : Options} {document : Document}

/-- The configured names that a document mentions are identifiers, and it imports from modules
without a quote in their names. -/
structure Options.Spells (options : Options) (document : Document) : Prop where
  names : ∀ name ∈ options.typeNames, document.Mentions name → IsIdentifier name
  modules : ∀ i ∈ document.imports, '"' ∉ i.module.toList

/-- An import is of the type of the request's information or of configured names. -/
theorem names_of_mem_documentImports {i : Import} (hi : i ∈ documentImports options) :
    i.names ≠ [] ∧ ∀ name ∈ i.names, name = infoType ∨ name ∈ options.typeNames := by
  rcases List.mem_cons.mp hi with rfl | hi
  · exact ⟨List.cons_ne_nil _ _, fun name hn => .inl (List.mem_singleton.mp hn)⟩
  rcases List.mem_append.mp hi with hi | hi
  · split at hi
    next => cases hi
    next hne =>
      obtain rfl := List.mem_singleton.mp hi
      refine ⟨hne, fun name hn => .inr ?_⟩
      exact List.mem_append_left _ (List.mem_append_left _ (mem_sortedNames.mp hn))
    next => cases hi
  · split at hi
    next name module hname hmodule =>
      obtain rfl := List.mem_singleton.mp hi
      refine ⟨List.cons_ne_nil _ _, fun other hn => .inr ?_⟩
      obtain rfl := List.mem_singleton.mp hn
      exact List.mem_append_left _ (List.mem_append_right _ (Option.mem_toList.mpr hname))
    next => cases hi

/-- An assembled document is well-formed, all names of types in it being words. -/
theorem Assembled.wellFormed_of_spells (h : Assembled graph options document)
    (hl : graph.IsLowered) (hs : options.Spells document) : document.WellFormed IsWord := by
  have himports (i : Import) (hi : i ∈ document.imports) : i.WellFormed := by
    obtain ⟨hne, hnames⟩ := names_of_mem_documentImports (h.imports_eq ▸ hi)
    refine ⟨hne, fun name hn => ?_, hs.modules i hi⟩
    rcases hnames name hn with rfl | hconfigured
    · decide
    · exact hs.names name hconfigured (.inl ⟨i, hi, hn⟩)
  -- only the configured names are not known to be words
  refine (h.wellFormed hl.isNamed himports).mono fun name hm hn => ?_
  rcases hn with hword | hconfigured
  · exact hword
  · exact (hs.names name hconfigured hm).isWord

/-- What is generated without laying it out anew is the text of the document. -/
theorem code_of_generate (ha : assemble graph options = .ok document)
    (hf : options.format = false) {output : GeneratedOutput}
    (hg : generate graph options = .ok output) : output.code = document.render := by
  rw [generate, ha] at hg
  obtain rfl := Except.ok.inj hg
  simp [hf]

/-- The text of an assembled document determines the document.  Hence the comparison of generated
modules that are not laid out anew finds every change of the contracts. -/
theorem document_eq_of_render_eq {graph₁ graph₂ : SchemaGraph} {options₁ options₂ : Options}
    {document₁ document₂ : Document} (hl₁ : graph₁.IsLowered) (hl₂ : graph₂.IsLowered)
    (ha₁ : assemble graph₁ options₁ = .ok document₁)
    (ha₂ : assemble graph₂ options₂ = .ok document₂) (hs₁ : options₁.Spells document₁)
    (hs₂ : options₂.Spells document₂) :
    (document₁.render = document₂.render → document₁ = document₂) ∧
    ∀ output₁ output₂ : GeneratedOutput,
      options₁.format = false → generate graph₁ options₁ = .ok output₁ →
      options₂.format = false → generate graph₂ options₂ = .ok output₂ →
      Freshness.ofTexts output₁.code (some output₂.code) = .upToDate → document₁ = document₂ := by
  have heq (h : document₁.render = document₂.render) : document₁ = document₂ :=
    Document.render_injective ((assembled_of_assemble ha₁).wellFormed_of_spells hl₁ hs₁)
      ((assembled_of_assemble ha₂).wellFormed_of_spells hl₂ hs₂) h
  refine ⟨heq, fun output₁ output₂ hf₁ hg₁ hf₂ hg₂ hfresh => heq ?_⟩
  rw [Freshness.ofTexts] at hfresh
  split at hfresh
  next htext =>
    rw [code_of_generate ha₁ hf₁ hg₁, code_of_generate ha₂ hf₂ hg₂] at htext
    exact htext.symm
  next => cases hfresh

/-- The text of a schema with one field. -/
def helloText : String := "type Query { hello: String }"

/-- The graph of `helloText`. -/
def helloGraph : SchemaGraph where
  objects := [⟨"Query", [⟨"hello", .nullable (.named ⟨.scalar, "String"⟩), []⟩], [], false⟩]
  roots := { query := some "Query" }

/-- Options with a type of the context that is imported. -/
def contextOptions (name : String) : Options where
  contextType := some name
  contextModule := some "./context"
  format := false

theorem isLowered_helloGraph : helloGraph.IsLowered := by
  have h : (SchemaGraph.ofSources [⟨"schema.graphql", helloText⟩]).toOption = some helloGraph := by
    decide +kernel
  exact SchemaGraph.isLowered_of_ofSources (toOption_eq_some_iff.mp h)

theorem spells_contextOptions {name : String} (hn : IsIdentifier name)
    (ha : assemble helloGraph (contextOptions name) = .ok document) :
    (contextOptions name).Spells document := by
  constructor
  case names =>
    intro other hother _
    obtain rfl : other = name := List.mem_singleton.mp hother
    exact hn
  case modules =>
    intro i hi
    rw [(assembled_of_assemble ha).imports_eq] at hi
    have hmodules : ∀ module ∈ ["graphql", "./context"], '"' ∉ module.toList := by decide
    exact hmodules i.module (List.mem_map_of_mem hi)

theorem render_ne_helloGraph : helloGraph.IsLowered ∧ ∃ document₁ document₂,
    assemble helloGraph (contextOptions "Context") = .ok document₁ ∧
    assemble helloGraph (contextOptions "Session") = .ok document₂ ∧
    (contextOptions "Context").Spells document₁ ∧ (contextOptions "Session").Spells document₂ ∧
    document₁.render ≠ document₂.render := by
  have hempty := SchemaGraph.inputRegistry_eq_empty (show helloGraph.argumentInputs = [] from rfl)
  have hassemble : ∀ name ∈ ["Context", "Session"],
      ∃ document, assemble helloGraph (contextOptions name) = .ok document := by
    simp only [← isSome_toOption_iff, assemble, draftDocument, objectGroups, objectGroup,
      groupInputs, sharedInputs, sharedInputNames, hempty]
    decide +kernel
  obtain ⟨document₁, ha₁⟩ := hassemble "Context" (by decide)
  obtain ⟨document₂, ha₂⟩ := hassemble "Session" (by decide)
  have hs₁ := spells_contextOptions (by decide) ha₁
  have hs₂ := spells_contextOptions (by decide) ha₂
  refine ⟨isLowered_helloGraph, document₁, document₂, ha₁, ha₂, hs₁, hs₂, fun h => ?_⟩
  obtain rfl := (document_eq_of_render_eq isLowered_helloGraph isLowered_helloGraph ha₁ ha₂ hs₁
    hs₂).1 h
  have himports := (assembled_of_assemble ha₁).imports_eq.symm.trans
    (assembled_of_assemble ha₂).imports_eq
  exact absurd himports (by decide)

end ResolverTypes
