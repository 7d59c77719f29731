import ResolverTypes.Proofs.Contract.UnusedModels
import ResolverTypes.Proofs.Contract.WellFormedDocument
import ResolverTypes.Proofs.Schema.TypeSyntaxReading
import ResolverTypes.Proofs.TypeScript.StringLiteral
import ResolverTypes.Proofs.TypeScript.WithinText

/-!
# Quoted strings in documents

Two kinds of strings stand between quotes in a document: the strings that types are made of, and the
modules that are imported from.  The former are names of the schema and are escaped.  The latter are
configured and are put between quotes as they are, so that one with a quote, a backslash or the end
of a line in it is not the module that the text says.

## Main definitions

* `TypeExpr.LiteralsSatisfy` : a condition on all strings that a type is made of.
* `SaysStrings` : what the quoted strings in the text of a document say.

## Main results

* `Assembled.literalsSatisfy` : which strings are in the types of an assembled document.
* `saysStrings_of_assemble` : what the quoted strings of an assembled document say.
-/

namespace ResolverTypes

open TypeScript Schema

/-! ### The strings in a type -/

namespace TypeScript.TypeExpr

/-- The strings that a type is made of satisfy a condition. -/
def LiteralsSatisfy (P : String → Prop) (type : TypeExpr) : Prop :=
  ∀ value, (literal value).Within type → P value

variable {P : String → Prop} {type : TypeExpr}

@[simp] theorem literalsSatisfy_literal {value : String} :
    (literal value).LiteralsSatisfy P ↔ P value := by
  simp [LiteralsSatisfy]

theorem literalsSatisfy_iff_parts (h : ∀ value, type ≠ literal value) :
    type.LiteralsSatisfy P ↔ ∀ part ∈ type.parts, part.LiteralsSatisfy P := by
  constructor
  · exact fun hall part hp value hv => hall value (.part hp hv)
  · intro hparts value hv
    rcases within_iff.mp hv with heq | ⟨part, hp, hv⟩
    · exact absurd heq.symm (h value)
    · exact hparts part hp value hv

@[simp] theorem literalsSatisfy_named (name : String) : (named name).LiteralsSatisfy P := by
  simp [LiteralsSatisfy]

@[simp] theorem literalsSatisfy_array {item : TypeExpr} :
    (array item).LiteralsSatisfy P ↔ item.LiteralsSatisfy P := by
  simp [literalsSatisfy_iff_parts, parts]

@[simp] theorem literalsSatisfy_promise {value : TypeExpr} :
    (promise value).LiteralsSatisfy P ↔ value.LiteralsSatisfy P := by
  simp [literalsSatisfy_iff_parts, parts]

@[simp] theorem literalsSatisfy_asyncIterator {item : TypeExpr} :
    (asyncIterator item).LiteralsSatisfy P ↔ item.LiteralsSatisfy P := by
  simp [literalsSatisfy_iff_parts, parts]

@[simp] theorem literalsSatisfy_function {parameters : List (Parameter TypeExpr)}
    {result : TypeExpr} : (function parameters result).LiteralsSatisfy P ↔
      (∀ p ∈ parameters, p.type.LiteralsSatisfy P) ∧ result.LiteralsSatisfy P := by
  simp [literalsSatisfy_iff_parts, parts, or_imp, forall_and]

@[simp] theorem literalsSatisfy_object {members : List (Member TypeExpr)} :
    (object members).LiteralsSatisfy P ↔ ∀ m ∈ members, m.type.LiteralsSatisfy P := by
  simp [literalsSatisfy_iff_parts, parts]

@[simp] theorem literalsSatisfy_unionOf {types : List TypeExpr} :
    (unionOf types).LiteralsSatisfy P ↔ ∀ type ∈ types, type.LiteralsSatisfy P := by
  have hwithin (value : String) : (literal value).Within (unionOf types) ↔
      ∃ type ∈ types, (literal value).Within type :=
    within_unionOf_iff (by simp) (by simp [never])
  simp only [LiteralsSatisfy, hwithin]
  grind

@[simp] theorem literalsSatisfy_deferred :
    (deferred type).LiteralsSatisfy P ↔ type.LiteralsSatisfy P := by
  simp [deferred]

end TypeScript.TypeExpr

/-! ### The strings in a document -/

variable {graph : SchemaGraph} {options : Options} {P : String → Prop}

@[simp] theorem literalsSatisfy_modelOr (models : ModelBinding) (typeName fallback : String) :
    (models.modelOr typeName (.named fallback)).LiteralsSatisfy P := by
  rw [ModelBinding.modelOr]
  split <;> exact TypeExpr.literalsSatisfy_named _

@[simp] theorem literalsSatisfy_scalarType (name : String) :
    (options.scalarType name).LiteralsSatisfy P := by
  unfold Options.scalarType
  repeat' split
  all_goals exact TypeExpr.literalsSatisfy_named _

@[simp] theorem literalsSatisfy_context : options.context.LiteralsSatisfy P := by
  rw [Options.context]
  split <;> exact TypeExpr.literalsSatisfy_named _

/-- No string is part of the type of the values that a reference describes. -/
@[simp] theorem literalsSatisfy_valueType (type : TypeRef) :
    (type.valueType options).LiteralsSatisfy P := by
  induction type with
  | named type =>
    rw [TypeRef.valueType, NamedType.valueType]
    split <;> simp [TypeExpr.unknown]
  | list item ih => simpa [TypeRef.valueType] using ih
  | nullable inner ih => simpa [TypeRef.valueType, TypeExpr.undefined] using ih

@[simp] theorem literalsSatisfy_parentType (owner : Owner) :
    (parentType graph options owner).LiteralsSatisfy P := by
  cases owner <;> simp [parentType, TypeExpr.undefined]

@[simp] theorem literalsSatisfy_possibleValues (objects : List ObjectDef) :
    (possibleValues options objects).LiteralsSatisfy P := by
  simp [possibleValues, TypeExpr.unknown]

@[simp] theorem literalsSatisfy_argsType (field : FieldDef) :
    (argsType field).LiteralsSatisfy P := by
  rw [argsType]
  split <;> simp [TypeExpr.emptyRecord]

@[simp] theorem literalsSatisfy_fieldContract (owner : Owner) (field : FieldDef) :
    (fieldContract graph options owner field).LiteralsSatisfy P := by
  rw [fieldContract]
  split
  · simp [subscriptionContract, resolverParameters]
  · simp [delegatingContract, resolverParameters, TypeRef.resultType, TypeExpr.string]

/-- The strings in the member that names the object of a value are the names of the objects. -/
theorem literalsSatisfy_resolveTypeMember {name : String} {optional : Bool}
    (h : ∀ object ∈ graph.possibleTypes name, P object.name) :
    (resolveTypeMember graph options name optional).type.LiteralsSatisfy P := by
  simpa [resolveTypeMember, discriminationParameters] using h

theorem literalsSatisfy_isTypeOfMember? {object : ObjectDef} {m : Member TypeExpr}
    (h : isTypeOfMember? graph options object = some m) : m.type.LiteralsSatisfy P := by
  rw [isTypeOfMember?] at h
  split at h
  · cases h
  · obtain rfl := Option.some.inj h
    simp [discriminationParameters, TypeExpr.boolean]

/-- The strings in the types that a declaration is made of satisfy a condition. -/
def TypeScript.Declaration.LiteralsSatisfy (P : String → Prop) (declaration : Declaration) : Prop :=
  ∀ type ∈ declaration.types, type.LiteralsSatisfy P

theorem literalsSatisfy_interface {name : String} {members : List (Member TypeExpr)} :
    (Declaration.interface name members).LiteralsSatisfy P ↔
      ∀ m ∈ members, m.type.LiteralsSatisfy P := by
  simp [Declaration.LiteralsSatisfy, Declaration.types]

theorem literalsSatisfy_inputDeclaration (input : InputDef) :
    (inputDeclaration options input).LiteralsSatisfy P := by
  simp [inputDeclaration, literalsSatisfy_interface]

theorem literalsSatisfy_argsRecord? {field : FieldDef} {record : Declaration}
    (h : argsRecord? options field = some record) : record.LiteralsSatisfy P := by
  rw [argsRecord?] at h
  split at h
  · cases h
  · obtain rfl := Option.some.inj h
    simp [literalsSatisfy_interface]

theorem literalsSatisfy_defaultResolvers? {object : ObjectDef} {declaration : Declaration}
    (h : defaultResolvers? graph options object = some declaration) :
    declaration.LiteralsSatisfy P := by
  rw [defaultResolvers?] at h
  split at h
  · cases h
  split at h
  · cases h
  split at h
  · cases h
  · obtain rfl := Option.some.inj h
    simp [Declaration.LiteralsSatisfy, Declaration.types]

theorem literalsSatisfy_objectGroupWith {object : ObjectDef} {inputs : List Declaration}
    (hinputs : ∀ d ∈ inputs, d.LiteralsSatisfy P) :
    ∀ d ∈ (objectGroupWith graph options object inputs).declarations, d.LiteralsSatisfy P := by
  intro d hd
  rcases cases_objectGroupWith hd with hr | hd | ⟨field, -, hr⟩ | ⟨field, -, rfl⟩ | rfl
  · exact literalsSatisfy_defaultResolvers? hr
  · exact hinputs d hd
  · exact literalsSatisfy_argsRecord? hr
  · simp [fieldAlias, Declaration.LiteralsSatisfy, Declaration.types]
  · refine literalsSatisfy_interface.mpr fun m hm => ?_
    rcases List.mem_append.mp hm with hm | hm
    · obtain ⟨field, -, rfl⟩ := List.mem_map.mp hm
      exact TypeExpr.literalsSatisfy_named _
    · exact literalsSatisfy_isTypeOfMember? (Option.mem_toList.mp hm)

theorem literalsSatisfy_resolveTypeContract {name : String} {optional : Bool}
    (h : ∀ object ∈ graph.possibleTypes name, P object.name) :
    (Declaration.interface contractName
      [resolveTypeMember graph options name optional]).LiteralsSatisfy P :=
  literalsSatisfy_interface.mpr fun _ hm =>
    List.mem_singleton.mp hm ▸ literalsSatisfy_resolveTypeMember h

/-- The strings in the types of an assembled document are values of enums and names of objects. -/
theorem Assembled.literalsSatisfy {document : Document} (h : Assembled graph options document)
    (henums : ∀ enum ∈ graph.enums, ∀ value ∈ enum.values, P value)
    (hobjects : ∀ object ∈ graph.objects, P object.name) :
    ∀ d ∈ document.declarations, d.LiteralsSatisfy P := by
  have hpossible (name : String) : ∀ object ∈ graph.possibleTypes name, P object.name :=
    fun object ho => hobjects object
      ((SchemaGraph.mem_possibleTypes_iff h.nodup_resolvableTypeNames).mp ho).1
  intro d hd
  simp only [Document.declarations, List.mem_append, List.mem_flatMap, List.mem_singleton] at hd
  rcases hd with ((hd | hd) | ⟨g, hg, hd⟩) | rfl
  · rw [h.enums_eq] at hd
    obtain ⟨enum, he, rfl⟩ := List.mem_map.mp hd
    simpa [enumDeclaration, Declaration.LiteralsSatisfy, Declaration.types] using henums enum he
  · rw [h.sharedInputs_eq] at hd
    obtain ⟨input, -, rfl⟩ := List.mem_map.mp hd
    exact literalsSatisfy_inputDeclaration input
  · rcases h.cases_group hg with
      ⟨object, -, inputs, hinputs, rfl⟩ | ⟨interface, -, rfl⟩ | ⟨union, -, rfl⟩
    · refine literalsSatisfy_objectGroupWith (fun input hi => ?_) d hd
      obtain ⟨name, definition, -, rfl⟩ := exists_registered_of_groupInputs hinputs hi
      exact literalsSatisfy_inputDeclaration definition
    · rcases List.mem_append.mp hd with hd | hd
      · obtain ⟨field, -, hr⟩ := List.mem_filterMap.mp hd
        exact literalsSatisfy_argsRecord? hr
      · obtain rfl := List.mem_singleton.mp hd
        exact literalsSatisfy_resolveTypeContract (hpossible interface.name)
    · obtain rfl := List.mem_singleton.mp hd
      exact literalsSatisfy_resolveTypeContract (hpossible union.name)
  · rw [h.aggregate_eq]
    refine literalsSatisfy_interface.mpr fun m hm => ?_
    simp only [List.mem_append, List.mem_map] at hm
    rcases hm with (⟨o, -, rfl⟩ | ⟨i, -, rfl⟩) | ⟨u, -, rfl⟩ <;>
      exact TypeExpr.literalsSatisfy_named _

/-! ### What the strings say -/

/-- No line ends within a name. -/
theorem ne_lineEnd_of_isName {name : String} (h : IsName name) :
    ∀ c ∈ name.toList, c ≠ '\n' ∧ c ≠ '\r' := by
  obtain ⟨c, cs, htext, hc, hcs⟩ := h
  have hname : ∀ d ∈ name.toList, isNameChar d = true := by
    rw [htext, List.forall_mem_cons]
    exact ⟨isNameChar_of_isNameStart hc, hcs⟩
  intro d hd
  constructor <;> rintro rfl <;> exact absurd (hname _ hd) (by decide)

/-- A document imports from the module of the request's information and from the modules that the
options name. -/
theorem module_of_mem_documentImports {i : Import} (hi : i ∈ documentImports options) :
    i.module = "graphql" ∨ options.modelsModule = some i.module ∨
      options.contextModule = some i.module := by
  rw [documentImports_eq, List.mem_cons, List.mem_append, List.mem_flatMap] at hi
  rcases hi with rfl | ⟨module, hm, hi⟩ | hi
  · exact .inl rfl
  · refine .inr (.inl ?_)
    rw [modelImports] at hi
    split at hi
    · cases hi
    · rw [List.mem_singleton.mp hi]
      exact Option.mem_toList.mp hm
  · refine .inr (.inr ?_)
    rw [contextImports] at hi
    split at hi
    next hmodule => rw [List.mem_singleton.mp hi, hmodule]
    next => cases hi

/-- What the quoted strings in the text of a document say, in front of whatever follows them.  The
strings in types are said as they are.  A module is said as it is configured exactly when it needs
no escapes. -/
structure SaysStrings (options : Options) (document : Document) : Prop where
  literals : ∀ d ∈ document.declarations, ∀ type ∈ d.types, ∀ value,
    (TypeExpr.literal value).Within type → StandsIn (quote value) document.render ∧
      ∀ rest, readString ((quote value).toList ++ rest) = some (utf16 value.toList, rest)
  modules : ∀ i ∈ document.imports, (i.module = "graphql" ∨ options.modelsModule = some i.module ∨
    options.contextModule = some i.module) ∧ StandsIn i.render document.render ∧
      StandsIn ("\"" ++ i.module ++ "\"") i.render
  modules_iff : ∀ i ∈ document.imports, ∀ rest,
    readString (("\"" ++ i.module ++ "\"").toList ++ rest) = some (utf16 i.module.toList, rest) ↔
      IsPlain i.module

/-- What the quoted strings of an assembled document say. -/
theorem saysStrings_of_assemble {document : Document} (hl : graph.IsLowered)
    (ha : assemble graph options = .ok document) : SaysStrings options document := by
  have h := assembled_of_assemble ha
  have hnames : ∀ d ∈ document.declarations, d.LiteralsSatisfy IsName :=
    h.literalsSatisfy hl.isNamed.values fun object ho => (hl.isNamed.objects object ho).1
  constructor
  case literals =>
    intro d hd type ht value hv
    have hrender : (TypeExpr.literal value).render = quote value := by rw [TypeExpr.render]
    have hstands : StandsIn (TypeExpr.literal value).render document.render :=
      Document.standsIn_render_of_within hd (h.declarations_wellFormed hl.isNamed d hd) ht hv
    exact ⟨hrender ▸ hstands,
      readString_quote (ne_lineEnd_of_isName (hnames d hd type ht value hv))⟩
  case modules =>
    intro i hi
    have hmodule := module_of_mem_documentImports (h.imports_eq ▸ hi)
    exact ⟨hmodule, Document.standsIn_render_of_mem_imports hi, i.standsIn_render⟩
  case modules_iff => exact fun i _ rest => readString_raw_iff i.module rest

/-- The text of a schema with an object besides the root. -/
def userText : String := "type Query { user: User }\ntype User { id: ID }"

/-- The graph of `userText`. -/
def userGraph : SchemaGraph where
  objects := [⟨"Query", [⟨"user", .nullable (.named ⟨.object, "User"⟩), []⟩], [], false⟩,
    ⟨"User", [⟨"id", .nullable (.named ⟨.scalar, "ID"⟩), []⟩], [], false⟩]
  roots := { query := some "Query" }

/-- Options with a model from a module whose path is spelt with a backslash. -/
def backslashOptions : Options where
  models := .ofList [("User", "UserModel")]
  modelsModule := some ".\\models"

theorem isLowered_userGraph : userGraph.IsLowered := by
  have h : (SchemaGraph.ofSources [⟨"schema.graphql", userText⟩]).toOption = some userGraph := by
    decide +kernel
  exact SchemaGraph.isLowered_of_ofSources (toOption_eq_some_iff.mp h)

/-- The module that the models are imported from is not the one that is configured. -/
theorem saysStrings_backslashOptions : userGraph.IsLowered ∧ ∃ document,
    assemble userGraph backslashOptions = .ok document ∧ SaysStrings backslashOptions document ∧
      ⟨["UserModel"], ".\\models"⟩ ∈ document.imports ∧ ¬ IsPlain ".\\models" ∧
        readString "\".\\models\";".toList = some (utf16 ".models".toList, [';']) := by
  have ha : assemble userGraph backslashOptions = .ok (bareDocument userGraph backslashOptions) :=
    assemble_eq_bareDocument rfl (by decide +kernel)
  exact ⟨isLowered_userGraph, _, ha, saysStrings_of_assemble isLowered_userGraph ha,
    by decide +kernel, by decide, by decide +kernel⟩

end ResolverTypes
