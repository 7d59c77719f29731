import ResolverTypes.Proofs.Contract.AbstractContract
import ResolverTypes.Proofs.Graph.InputReach
import ResolverTypes.Proofs.Graph.References
import ResolverTypes.Proofs.TypeScript.DocumentReading

/-!
# Assembled documents are well-formed

The names in a document assembled from schema texts are those of the schema, names derived from
them, and names that the options configure.  The first two are identifiers or, for the contracts
that the aggregate refers to, dotted names; of the configured names nothing is known.

## Main definitions

* `Options.typeNames` : the names of types that the options configure.
* `Options.Names` : a name of a type is a word, or it is configured.

## Main results

* `isIdentifier_capitalize` : a name of a schema with its first character in upper case is an
  identifier.
* `Assembled.wellFormed` : an assembled document is well-formed if its imports are.
* `isReduced_of_assemble` : every union in an assembled document is in normal form.
-/

namespace ResolverTypes

open TypeScript Schema

/-! ### Identifiers -/

theorem toNat_lt_of_isNameChar {c : Char} (h : isNameChar c = true) : c.toNat < 128 := by
  have hranges : ((decide ('A'.val ≤ c.val ∧ c.val ≤ 'Z'.val) ||
      ('a'.val ≤ c.val && c.val ≤ 'z'.val)) || ('0'.val ≤ c.val && c.val ≤ '9'.val) ||
      c == '_') = true := h
  simp only [Bool.or_eq_true, Bool.and_eq_true, decide_eq_true_eq, beq_iff_eq,
    UInt32.le_iff_toNat_le] at hranges
  rcases hranges with ((⟨-, h⟩ | ⟨-, h⟩) | ⟨-, h⟩) | rfl
  · exact Nat.lt_of_le_of_lt h (by decide)
  · exact Nat.lt_of_le_of_lt h (by decide)
  · exact Nat.lt_of_le_of_lt h (by decide)
  · decide

theorem isIdentifierChar_of_isNameChar {c : Char} (h : isNameChar c = true) :
    Text.isIdentifierChar c = true := by
  rw [Text.isIdentifierChar, if_pos (toNat_lt_of_isNameChar h), ← isNameChar, h, Bool.true_or]

/-- The upper case of a character that begins a name is one character, which begins an
identifier. -/
theorem upperChar_of_isNameStart {c : Char} (h : isNameStart c = true) :
    Text.isIdentifierStart c = true ∧ ∃ d, Text.upperChar c = [d] ∧
      Text.isIdentifierStart d = true := by
  have hchar : isNameChar c = true := by
    simp only [isNameStart, isNameChar, Char.isAlphanum, Bool.or_eq_true] at h ⊢
    tauto
  have hlt := toNat_lt_of_isNameChar hchar
  have hupper : ∀ n < 128, isNameStart (Char.ofNat n) = true →
      Text.isIdentifierStart (Char.ofNat n) = true ∧
        Text.isIdentifierStart (Char.ofNat n).toUpper = true := by decide +kernel
  have hc := hupper c.toNat hlt
  rw [Char.ofNat_toNat] at hc
  refine ⟨(hc h).1, c.toUpper, ?_, (hc h).2⟩
  rw [Text.upperChar, if_pos hlt]

theorem isIdentifier_of_isName {text : String} (h : IsName text) : IsIdentifier text := by
  obtain ⟨c, cs, htext, hc, hcs⟩ := h
  exact ⟨c, cs, htext, (upperChar_of_isNameStart hc).1,
    fun d hd => isIdentifierChar_of_isNameChar (hcs d hd)⟩

/-- A name with its first character in upper case is an identifier. -/
theorem isIdentifier_capitalize {text : String} (h : IsName text) :
    IsIdentifier (Text.capitalize text) := by
  obtain ⟨c, cs, htext, hc, hcs⟩ := h
  obtain ⟨-, d, hupper, hd⟩ := upperChar_of_isNameStart hc
  refine ⟨d, cs, ?_, hd, fun e he => isIdentifierChar_of_isNameChar (hcs e he)⟩
  rw [Text.capitalize, htext]
  simp [hupper]

theorem isIdentifier_argsRecordName {name : String} (h : IsName name) :
    IsIdentifier (argsRecordName name) :=
  IsIdentifier.append (by decide) (isIdentifier_capitalize h)

theorem isIdentifier_aliasName {name : String} (h : IsName name) : IsIdentifier (aliasName name) :=
  (isIdentifier_capitalize h).append (by decide)

/-! ### The names of types -/

/-- The names of types that the options configure: models, the context and scalars. -/
def Options.typeNames (options : Options) : List String :=
  options.models.values ++ options.contextType.toList ++ options.scalars.values

/-- A name of a type is a word, or the options configure it. -/
def Options.Names (options : Options) (name : String) : Prop :=
  IsWord name ∨ name ∈ options.typeNames

section

variable {graph : SchemaGraph} {options : Options}

theorem names_of_isName {name : String} (h : IsName name) : options.Names name :=
  .inl (isIdentifier_of_isName h).isWord

theorem wellFormed_modelOr (typeName : String) {fallback : TypeExpr}
    (h : fallback.WellFormed options.Names) :
    (options.models.modelOr typeName fallback).WellFormed options.Names := by
  rw [ModelBinding.modelOr]
  split
  next model hm =>
    have hvalue : model ∈ options.models.values := NameMap.mem_values_iff.mpr ⟨typeName, hm⟩
    exact TypeExpr.wellFormed_named (.inr (List.mem_append_left _ (List.mem_append_left _ hvalue)))
  next => exact h

theorem wellFormed_word {name : String} (h : IsWord name) :
    (TypeExpr.named name).WellFormed options.Names :=
  TypeExpr.wellFormed_named (.inl h)

theorem wellFormed_scalarType (name : String) :
    (options.scalarType name).WellFormed options.Names := by
  rw [Options.scalarType]
  split
  · exact wellFormed_word (by decide)
  split
  · exact wellFormed_word (by decide)
  split
  · exact wellFormed_word (by decide)
  split
  next type ht =>
    have hvalue : type ∈ options.scalars.values := NameMap.mem_values_iff.mpr ⟨name, ht⟩
    exact TypeExpr.wellFormed_named (.inr (List.mem_append_right _ hvalue))
  next => exact wellFormed_word (by decide)

theorem wellFormed_context : options.context.WellFormed options.Names := by
  rw [Options.context]
  split
  next name hn =>
    have hcontext : name ∈ options.contextType.toList := Option.mem_toList.mpr hn
    exact TypeExpr.wellFormed_named
      (.inr (List.mem_append_left _ (List.mem_append_right _ hcontext)))
  next => exact wellFormed_word (by decide)

theorem names_never : options.Names "never" := .inl (by decide)

/-- The types of the values that references describe are well-formed. -/
theorem wellFormed_valueType : (type : TypeRef) → IsName type.base.name →
    (type.valueType options).WellFormed options.Names
  | .named type, h => by
      rw [TypeRef.valueType, NamedType.valueType]
      split
      · exact wellFormed_scalarType type.name
      · exact TypeExpr.wellFormed_named (names_of_isName h)
      · exact TypeExpr.wellFormed_named (names_of_isName h)
      all_goals exact wellFormed_modelOr type.name (wellFormed_word (by decide))
  | .list item, h => (wellFormed_valueType item h).array
  | .nullable inner, h => by
      refine TypeExpr.WellFormed.unionOf (fun type ht => ?_) names_never
      rcases List.mem_cons.mp ht with rfl | ht
      · exact wellFormed_valueType inner h
      · exact List.mem_singleton.mp ht ▸ wellFormed_word (by decide)

/-! ### Contracts -/

theorem wellFormed_unionOf_map {α : Type} {items : List α} {f : α → TypeExpr}
    (h : ∀ x ∈ items, (f x).WellFormed options.Names) :
    (TypeExpr.unionOf (items.map f)).WellFormed options.Names := by
  refine TypeExpr.WellFormed.unionOf (fun type ht => ?_) names_never
  obtain ⟨x, hx, rfl⟩ := List.mem_map.mp ht
  exact h x hx

theorem wellFormed_parentType (owner : Owner) :
    (parentType graph options owner).WellFormed options.Names := by
  cases owner with
  | object definition => exact wellFormed_modelOr definition.name (wellFormed_word (by decide))
  | interface definition =>
      exact wellFormed_unionOf_map fun o _ =>
        wellFormed_modelOr o.name (wellFormed_word (by decide))

theorem wellFormed_possibleValues (objects : List ObjectDef) :
    (possibleValues options objects).WellFormed options.Names :=
  wellFormed_unionOf_map fun o _ => wellFormed_modelOr o.name (wellFormed_word (by decide))

theorem wellFormed_argsType {field : FieldDef} (h : IsName field.name) :
    (argsType field).WellFormed options.Names := by
  rw [argsType]
  split
  · exact TypeExpr.wellFormed_object (by simp) (by simp)
  · exact wellFormed_word (isIdentifier_argsRecordName h).isWord

theorem wellFormed_resolver {parent args result : TypeExpr}
    (hp : parent.WellFormed options.Names) (ha : args.WellFormed options.Names)
    (hr : result.WellFormed options.Names) :
    (TypeExpr.function (resolverParameters options parent args) result).WellFormed
      options.Names := by
  refine TypeExpr.wellFormed_function (fun p h => ?_) (fun p h => ?_) hr
  · have hnames : ∀ name ∈ ["parent", "args", "context", "info"], IsIdentifier name := by decide
    exact hnames p.name (List.mem_map_of_mem h)
  · simp only [resolverParameters, List.mem_cons, List.not_mem_nil, or_false] at h
    rcases h with rfl | rfl | rfl | rfl
    · exact hp
    · exact ha
    · exact wellFormed_context
    · exact wellFormed_word (by decide)

/-- The contract of a field is well-formed. -/
theorem wellFormed_fieldContract {owner : Owner} {field : FieldDef} (hn : IsName field.name)
    (ht : IsName field.type.base.name) :
    (fieldContract graph options owner field).WellFormed options.Names := by
  have hvalue : (field.type.valueType options).WellFormed options.Names :=
    wellFormed_valueType field.type ht
  have hparent : (parentType graph options owner).WellFormed options.Names :=
    wellFormed_parentType owner
  have hresolver {result : TypeExpr} (hr : result.WellFormed options.Names) :=
    wellFormed_resolver hparent (wellFormed_argsType hn) hr
  rw [fieldContract]
  split
  · refine TypeExpr.wellFormed_object (fun m hm => ?_) (fun m hm => ?_)
    · have hnames : ∀ name ∈ ["subscribe", "resolve"], IsIdentifier name := by decide
      exact hnames m.name (List.mem_map_of_mem hm)
    · rcases List.mem_cons.mp hm with rfl | hm
      · exact hresolver (hvalue.asyncIterator.deferred names_never)
      · obtain rfl := List.mem_singleton.mp hm
        exact hresolver (hvalue.deferred names_never)
  · have hfunction := hresolver (hvalue.deferred names_never)
    refine TypeExpr.WellFormed.unionOf (fun type htype => ?_) names_never
    rcases List.mem_cons.mp htype with rfl | htype
    · exact hfunction
    · obtain rfl := List.mem_singleton.mp htype
      refine TypeExpr.wellFormed_object (fun m hm => ?_) (fun m hm => ?_)
      · have hnames : ∀ name ∈ ["fragment", "resolve"], IsIdentifier name := by decide
        exact hnames m.name (List.mem_map_of_mem hm)
      · rcases List.mem_cons.mp hm with rfl | hm
        · exact wellFormed_word (by decide)
        · obtain rfl := List.mem_singleton.mp hm
          exact hfunction

theorem wellFormed_discrimination {value result : TypeExpr} (hv : value.WellFormed options.Names)
    (hr : result.WellFormed options.Names) :
    (TypeExpr.function (discriminationParameters options value) result).WellFormed
      options.Names := by
  refine TypeExpr.wellFormed_function (fun p h => ?_) (fun p h => ?_) hr
  · have hnames : ∀ name ∈ ["value", "context", "info"], IsIdentifier name := by decide
    exact hnames p.name (List.mem_map_of_mem h)
  · simp only [discriminationParameters, List.mem_cons, List.not_mem_nil, or_false] at h
    rcases h with rfl | rfl | rfl
    · exact hv
    · exact wellFormed_context
    · exact wellFormed_word (by decide)

theorem wellFormed_resolveTypeMember (name : String) (optional : Bool) :
    (resolveTypeMember graph options name optional).type.WellFormed options.Names := by
  refine wellFormed_discrimination (wellFormed_possibleValues _) ?_
  exact (wellFormed_unionOf_map fun o _ => TypeExpr.wellFormed_literal o.name).deferred names_never

theorem wellFormed_isTypeOfMember? {object : ObjectDef} {m : Member TypeExpr}
    (h : isTypeOfMember? graph options object = some m) :
    IsIdentifier m.name ∧ m.type.WellFormed options.Names := by
  rw [isTypeOfMember?] at h
  split at h
  · cases h
  · obtain rfl := Option.some.inj h
    have hname : IsIdentifier "__isTypeOf" := by decide
    refine ⟨hname, wellFormed_discrimination (wellFormed_possibleValues _) ?_⟩
    exact (wellFormed_word (by decide)).deferred names_never

/-! ### Declarations -/

theorem wellFormed_enumDeclaration {enum : EnumDef} (h : IsName enum.name) :
    (enumDeclaration enum).WellFormed options.Names :=
  ⟨isIdentifier_of_isName h,
    wellFormed_unionOf_map fun value _ => TypeExpr.wellFormed_literal value⟩

theorem wellFormed_inputDeclaration {input : InputDef} (hn : IsName input.name)
    (hf : ∀ field ∈ input.fields, IsName field.name ∧ IsName field.type.base.name) :
    (inputDeclaration options input).WellFormed options.Names := by
  refine ⟨isIdentifier_of_isName hn, fun m hm => ?_⟩
  obtain ⟨field, hfield, rfl⟩ := List.mem_map.mp hm
  obtain ⟨hname, htype⟩ := hf field hfield
  exact ⟨isIdentifier_of_isName hname, wellFormed_valueType field.type htype⟩

theorem wellFormed_argsRecord? {field : FieldDef} (hn : field.IsNamed)
    (hr : ∀ ref ∈ field.references, IsName ref.base.name) {record : Declaration}
    (h : argsRecord? options field = some record) : record.WellFormed options.Names := by
  rw [argsRecord?] at h
  split at h
  · cases h
  · obtain rfl := Option.some.inj h
    refine ⟨isIdentifier_argsRecordName hn.1, fun m hm => ?_⟩
    obtain ⟨argument, ha, rfl⟩ := List.mem_map.mp hm
    exact ⟨isIdentifier_of_isName (hn.2 argument ha), wellFormed_valueType argument.type
      (hr argument.type (List.mem_cons_of_mem _ (List.mem_map_of_mem ha)))⟩

theorem wellFormed_defaultResolvers? {object : ObjectDef} (hn : ∀ f ∈ object.fields, f.IsNamed)
    {declaration : Declaration}
    (h : defaultResolvers? graph options object = some declaration) :
    declaration.WellFormed options.Names := by
  obtain ⟨-, hne, model, hm, rfl⟩ := defaultResolvers?_eq_some_iff.mp h
  have hmodel : model ∈ options.models.values := NameMap.mem_values_iff.mpr ⟨object.name, hm⟩
  refine ⟨TypeExpr.wellFormed_named
    (.inr (List.mem_append_left _ (List.mem_append_left _ hmodel))), hne, fun f hf => ?_⟩
  obtain ⟨field, hfield, rfl⟩ := List.mem_map.mp hf
  exact isIdentifier_of_isName (hn field (List.mem_filter.mp hfield).1).1

/-- The declarations of an object's group, those of its inputs apart, are well-formed. -/
theorem wellFormed_objectGroupWith {object : ObjectDef} {inputs : List Declaration}
    (hname : IsName object.name) (hfields : ∀ f ∈ object.fields, f.IsNamed ∧
      ∀ ref ∈ f.references, IsName ref.base.name)
    (hinputs : ∀ d ∈ inputs, d.WellFormed options.Names) :
    (objectGroupWith graph options object inputs).WellFormed options.Names := by
  refine ⟨isIdentifier_of_isName hname, fun d hd => ?_⟩
  rcases cases_objectGroupWith hd with
    hr | hd | ⟨field, hf, hr⟩ | ⟨field, hf, rfl⟩ | rfl
  · exact wellFormed_defaultResolvers? (fun f hf => (hfields f hf).1) hr
  · exact hinputs d hd
  · exact wellFormed_argsRecord? (hfields field hf).1 (hfields field hf).2 hr
  · obtain ⟨hn, hr⟩ := hfields field hf
    exact ⟨isIdentifier_aliasName hn.1, wellFormed_fieldContract hn.1 (hr _ List.mem_cons_self)⟩
  · refine ⟨by decide, fun m hm => ?_⟩
    rcases List.mem_append.mp hm with hm | hm
    · obtain ⟨field, hf, rfl⟩ := List.mem_map.mp hm
      have hn := (hfields field hf).1.1
      exact ⟨isIdentifier_of_isName hn, wellFormed_word (isIdentifier_aliasName hn).isWord⟩
    · exact wellFormed_isTypeOfMember? (Option.mem_toList.mp hm)

theorem wellFormed_resolveTypeContract (name : String) (optional : Bool) :
    (Declaration.interface contractName
      [resolveTypeMember graph options name optional]).WellFormed options.Names := by
  refine ⟨by decide, fun m hm => ?_⟩
  obtain rfl := List.mem_singleton.mp hm
  have hname : IsIdentifier "__resolveType" := by decide
  exact ⟨hname, wellFormed_resolveTypeMember name optional⟩

theorem wellFormed_interfaceGroup {interface : InterfaceDef} (hname : IsName interface.name)
    (hfields : ∀ f ∈ interface.fields, f.IsNamed ∧ ∀ ref ∈ f.references, IsName ref.base.name) :
    (interfaceGroup graph options interface).WellFormed options.Names := by
  refine ⟨isIdentifier_of_isName hname, fun d hd => ?_⟩
  rcases List.mem_append.mp hd with hd | hd
  · obtain ⟨field, hf, hr⟩ := List.mem_filterMap.mp hd
    exact wellFormed_argsRecord? (hfields field hf).1 (hfields field hf).2 hr
  · exact List.mem_singleton.mp hd ▸ wellFormed_resolveTypeContract interface.name false

theorem wellFormed_unionGroup {union : UnionDef} (hname : IsName union.name) :
    (unionGroup graph options union).WellFormed options.Names :=
  ⟨isIdentifier_of_isName hname,
    fun _ hd => List.mem_singleton.mp hd ▸ wellFormed_resolveTypeContract union.name true⟩

theorem wellFormed_aggregateDeclaration (hn : graph.IsNamed) :
    (aggregateDeclaration graph).WellFormed options.Names := by
  have hmember {name : String} (h : IsName name) :
      IsIdentifier name ∧ (contractReference name).WellFormed options.Names := by
    have hname := isIdentifier_of_isName h
    refine ⟨hname, wellFormed_word ?_⟩
    exact ((hname.isWord.append (by decide)).append (by decide)).append (by decide)
  refine ⟨by decide, fun m hm => ?_⟩
  rcases List.mem_append.mp hm with hm | hm
  · rcases List.mem_append.mp hm with hm | hm
    · obtain ⟨o, ho, rfl⟩ := List.mem_map.mp hm
      exact hmember (hn.objects o ho).1
    · obtain ⟨i, hi, rfl⟩ := List.mem_map.mp hm
      exact hmember (hn.interfaces i hi).1
  · obtain ⟨u, hu, rfl⟩ := List.mem_map.mp hm
    exact hmember (hn.unions u hu)

/-! ### The document -/

/-- The fields of a graph of schema texts, and what they refer to, are spelt as names. -/
theorem SchemaGraph.IsNamed.outputField (h : graph.IsNamed) {field : FieldDef}
    (hf : field ∈ graph.outputFields) :
    field.IsNamed ∧ ∀ ref ∈ field.references, IsName ref.base.name := by
  refine ⟨?_, fun ref hr =>
    h.references ref (SchemaGraph.mem_references_of_outputField hf hr)⟩
  rcases List.mem_append.mp hf with hf | hf
  · obtain ⟨o, ho, hf⟩ := List.mem_flatMap.mp hf
    exact (h.objects o ho).2 field hf
  · obtain ⟨i, hi, hf⟩ := List.mem_flatMap.mp hf
    exact (h.interfaces i hi).2 field hf

/-- The declaration of an input of the registry is well-formed. -/
theorem wellFormed_registered (h : graph.IsNamed) {name : String} {input : InputDef}
    (hi : graph.inputRegistry.get? name = some input) :
    (inputDeclaration options input).WellFormed options.Names := by
  have hmem : input ∈ graph.inputs :=
    List.mem_of_find?_eq_some (SchemaGraph.get?_inputRegistry_eq_some_iff.mp hi).2
  obtain ⟨hname, hfields⟩ := h.inputs input hmem
  refine wellFormed_inputDeclaration hname fun field hf => ⟨hfields field hf, ?_⟩
  exact h.references field.type (SchemaGraph.mem_references_of_inputField hmem hf)

/-- The groups of an assembled document are well-formed. -/
theorem Assembled.groups_wellFormed {document : Document} (h : Assembled graph options document)
    (hn : graph.IsNamed) : ∀ g ∈ document.groups, g.WellFormed options.Names := by
  intro g hg
  rcases h.cases_group hg with
    ⟨object, ho, inputs, hinputs, rfl⟩ | ⟨interface, hi, rfl⟩ | ⟨union, hu, rfl⟩
  · refine wellFormed_objectGroupWith (hn.objects object ho).1
      (fun f hf => hn.outputField (SchemaGraph.mem_outputFields_of_object ho hf)) fun d hd => ?_
    obtain ⟨name, input, hi, rfl⟩ := exists_registered_of_groupInputs hinputs hd
    exact wellFormed_registered hn hi
  · exact wellFormed_interfaceGroup (hn.interfaces interface hi).1
      fun f hf => hn.outputField (SchemaGraph.mem_outputFields_of_interface hi hf)
  · exact wellFormed_unionGroup (hn.unions union hu)

/-- All that an assembled document declares is well-formed. -/
theorem Assembled.declarations_wellFormed {document : Document}
    (h : Assembled graph options document) (hn : graph.IsNamed) :
    ∀ d ∈ document.declarations, d.WellFormed options.Names := by
  intro d hd
  simp only [Document.declarations, List.mem_append, List.mem_flatMap, List.mem_singleton] at hd
  rcases hd with ((hd | hd) | ⟨g, hg, hd⟩) | rfl
  · rw [h.enums_eq] at hd
    obtain ⟨enum, he, rfl⟩ := List.mem_map.mp hd
    exact wellFormed_enumDeclaration (hn.enums enum he)
  · rw [h.sharedInputs_eq] at hd
    obtain ⟨input, hinput, rfl⟩ := List.mem_map.mp hd
    obtain ⟨name, -, hname⟩ := List.mem_filterMap.mp hinput
    exact wellFormed_registered hn hname
  · exact (h.groups_wellFormed hn g hg).2 d hd
  · rw [h.aggregate_eq]
    exact wellFormed_aggregateDeclaration hn

/-- An assembled document is well-formed if its imports are. -/
theorem Assembled.wellFormed {document : Document} (h : Assembled graph options document)
    (hn : graph.IsNamed) (hi : ∀ i ∈ document.imports, i.WellFormed) :
    document.WellFormed options.Names where
  imports := hi
  enums d hd := by
    refine ⟨?_, h.declarations_wellFormed hn d (by simp [Document.declarations, hd])⟩
    rw [h.enums_eq] at hd
    obtain ⟨enum, -, rfl⟩ := List.mem_map.mp hd
    exact ⟨_, _, rfl⟩
  sharedInputs d hd := by
    refine ⟨?_, h.declarations_wellFormed hn d (by simp [Document.declarations, hd])⟩
    rw [h.sharedInputs_eq] at hd
    obtain ⟨input, -, rfl⟩ := List.mem_map.mp hd
    exact ⟨_, _, rfl⟩
  groups := h.groups_wellFormed hn
  aggregate := by
    refine ⟨?_, h.declarations_wellFormed hn _ (List.mem_append_right _ List.mem_cons_self)⟩
    rw [h.aggregate_eq]
    exact ⟨_, _, rfl⟩

end

/-! ### Unions -/

/-- Every union in an assembled document, in whatever type and at whatever depth, is in normal
form. -/
theorem isReduced_of_assemble {document : Document} (hl : graph.IsLowered)
    (ha : assemble graph options = .ok document) : ∀ d ∈ document.declarations,
      ∀ type ∈ d.types, ∀ members, (TypeExpr.union members).Within type →
        TypeExpr.IsReduced members := by
  intro d hd type ht members hm
  have hdeclaration : d.WellFormed options.Names :=
    (assembled_of_assemble ha).declarations_wellFormed hl.isNamed d hd
  exact (hdeclaration.types type ht).isReduced hm

/-- Options with models that are spelt as the types which stand for no value and for any value. -/
def spelledOptions : Options where
  models := .ofList [("Book", "undefined"), ("Film", "unknown"), ("Item", "undefined")]

theorem isReduced_spelledOptions : libraryGraph.IsLowered ∧
    ∃ document, assemble libraryGraph spelledOptions = .ok document ∧
      ∀ d ∈ document.declarations, ∀ type ∈ d.types, ∀ members,
        (TypeExpr.union members).Within type → TypeExpr.IsReduced members := by
  have h : assemble libraryGraph spelledOptions = .ok (bareDocument libraryGraph spelledOptions) :=
    assemble_eq_bareDocument rfl (by decide +kernel)
  exact ⟨isLowered_libraryGraph, _, h, isReduced_of_assemble isLowered_libraryGraph h⟩

end ResolverTypes
