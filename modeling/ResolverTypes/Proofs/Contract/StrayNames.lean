import ResolverTypes.Proofs.Contract.ReservedNames
import ResolverTypes.Proofs.Contract.WellFormedDocument
import ResolverTypes.Proofs.Graph.ValidGraph

/-!
# Names that are no words

Names of types come into a document from the schema, from the program, and from the options.  Those
of the first two kinds are words.  A text that is no word and no model therefore stands in a
document as the name of a type only where the options configure it for the context or for a scalar,
and it does stand there whenever a resolver is declared that takes the context, or values of the
scalar are described.

## Main definitions

* `TypeExpr.Names`, `Declaration.Names`, `Group.Names`, `Document.Names` : a type goes by a name
  somewhere in a type, a declaration, a group or a document.
* `Options.IsStray` : a text is no word and no model.
* `SchemaGraph.describedReferences` : the references whose values a document describes.
* `Options.MapsTo` : the values of a type go by a name that is configured for it as a scalar.

## Main results

* `Options.IsStray.names_fieldContract` : the contract of a field names what is configured for the
  context and for the values of the field.
* `Assembled.names_iff` : which texts that are no words an assembled document names.
-/

namespace ResolverTypes

open TypeScript Schema

/-! ### The names in types and declarations -/

namespace TypeScript

/-- A type goes by a name somewhere in a type. -/
def TypeExpr.Names (type : TypeExpr) (name : String) : Prop := (TypeExpr.named name).Within type

/-- A type goes by a name somewhere in a declaration. -/
def Declaration.Names (declaration : Declaration) (name : String) : Prop :=
  ∃ type ∈ declaration.types, type.Names name

/-- A type goes by a name somewhere in a group. -/
def Group.Names (group : Group) (name : String) : Prop :=
  ∃ declaration ∈ group.declarations, declaration.Names name

/-- A type goes by a name somewhere in a document. -/
def Document.Names (document : Document) (name : String) : Prop :=
  ∃ declaration ∈ document.declarations, declaration.Names name

variable {name : String}

namespace TypeExpr

@[simp]
theorem names_named {other : String} : (named other).Names name ↔ name = other := by
  simp [Names]

@[simp]
theorem names_literal (value : String) : ¬ (literal value).Names name := by
  simp [Names]

@[simp]
theorem names_array {item : TypeExpr} : (array item).Names name ↔ item.Names name := by
  simp [Names, within_array_iff]

@[simp]
theorem names_promise {value : TypeExpr} : (promise value).Names name ↔ value.Names name := by
  simp [Names, within_promise_iff]

@[simp]
theorem names_asyncIterator {item : TypeExpr} :
    (asyncIterator item).Names name ↔ item.Names name := by
  simp [Names, within_asyncIterator_iff]

@[simp]
theorem names_function {parameters : List (Parameter TypeExpr)} {result : TypeExpr} :
    (function parameters result).Names name ↔
      (∃ parameter ∈ parameters, parameter.type.Names name) ∨ result.Names name := by
  simp [Names, within_function_iff]

@[simp]
theorem names_object {members : List (Member TypeExpr)} :
    (object members).Names name ↔ ∃ member ∈ members, member.type.Names name := by
  simp [Names, within_object_iff]

theorem names_unionOf (h : name ≠ "never") {types : List TypeExpr} :
    (unionOf types).Names name ↔ ∃ type ∈ types, type.Names name :=
  within_unionOf_iff (by simp) (by simpa [never] using h)

theorem names_deferred (h : name ≠ "never") {type : TypeExpr} :
    (deferred type).Names name ↔ type.Names name := by
  simp [deferred, names_unionOf h]

end TypeExpr

@[simp]
theorem Declaration.names_interface {declared : String} {members : List (Member TypeExpr)} :
    (Declaration.interface declared members).Names name ↔
      ∃ member ∈ members, member.type.Names name := by
  simp [Declaration.Names, Declaration.types]

@[simp]
theorem Declaration.names_typeAlias {declared : String} {type : TypeExpr} :
    (Declaration.typeAlias declared type).Names name ↔ type.Names name := by
  simp [Declaration.Names, Declaration.types]

@[simp]
theorem Declaration.names_defaultResolvers {parent : TypeExpr} {fields : List String} :
    (Declaration.defaultResolvers parent fields).Names name ↔ parent.Names name := by
  simp [Declaration.Names, Declaration.types]

/-- What a document names is named in one of its four parts. -/
theorem Document.names_iff {document : Document} : document.Names name ↔
    (∃ d ∈ document.enums, d.Names name) ∨ (∃ d ∈ document.sharedInputs, d.Names name) ∨
      (∃ group ∈ document.groups, group.Names name) ∨ document.aggregate.Names name := by
  simp only [Document.Names, Document.declarations, Group.Names, List.mem_append, List.mem_flatMap,
    List.mem_singleton]
  grind

end TypeScript

/-! ### Names that are no words -/

/-- A text that is no word and no model. -/
structure Options.IsStray (options : Options) (name : String) : Prop where
  not_isWord : ¬ IsWord name
  not_model : ∀ typeName, options.models.get? typeName ≠ some name

/-- The scalars that are built in, whose values are of types of the language. -/
def builtInScalars : List String := ["ID", "String", "Int", "Float", "Boolean"]

/-- A type is a scalar that is not built in, and its values go by a name that is configured for
it. -/
structure Options.MapsTo (options : Options) (type : NamedType) (name : String) : Prop where
  kind_eq : type.kind = .scalar
  not_builtIn : type.name ∉ builtInScalars
  get?_eq : options.scalars.get? type.name = some name

namespace Options.IsStray

variable {graph : SchemaGraph} {options : Options} {name : String} (h : options.IsStray name)

include h

theorem ne_word {word : String} (hw : IsWord word) : name ≠ word :=
  fun heq => h.not_isWord (heq ▸ hw)

theorem not_names_word {word : String} (hw : IsWord word) : ¬ (TypeExpr.named word).Names name :=
  fun hn => h.ne_word hw (TypeExpr.names_named.mp hn)

theorem names_unionOf {types : List TypeExpr} :
    (TypeExpr.unionOf types).Names name ↔ ∃ type ∈ types, type.Names name :=
  TypeExpr.names_unionOf (h.ne_word (by decide))

theorem names_deferred {type : TypeExpr} :
    (TypeExpr.deferred type).Names name ↔ type.Names name :=
  TypeExpr.names_deferred (h.ne_word (by decide))

/-! ### Values -/

theorem not_names_modelOr (typeName : String) {fallback : TypeExpr}
    (hf : ¬ fallback.Names name) : ¬ (options.models.modelOr typeName fallback).Names name := by
  rw [ModelBinding.modelOr]
  split
  next model hm =>
    rw [TypeExpr.names_named]
    rintro rfl
    exact h.not_model typeName hm
  next => exact hf

theorem names_context : options.context.Names name ↔ options.contextType = some name := by
  rw [Options.context]
  split
  next context hc => rw [TypeExpr.names_named, hc, Option.some.injEq, eq_comm]
  next hc =>
    rw [hc]
    exact iff_of_false (h.not_names_word (by decide)) (Option.some_ne_none name).symm

theorem names_scalarType {scalar : String} : (options.scalarType scalar).Names name ↔
    scalar ∉ builtInScalars ∧ options.scalars.get? scalar = some name := by
  have hbuiltIn : scalar ∈ builtInScalars ↔ (scalar = "ID" ∨ scalar = "String") ∨
      (scalar = "Int" ∨ scalar = "Float") ∨ scalar = "Boolean" := by
    simp [builtInScalars, or_assoc]
  rw [Options.scalarType, hbuiltIn]
  split
  next hs => exact iff_of_false (h.not_names_word (by decide)) fun hn => hn.1 (.inl hs)
  split
  next hs => exact iff_of_false (h.not_names_word (by decide)) fun hn => hn.1 (.inr (.inl hs))
  split
  next hs => exact iff_of_false (h.not_names_word (by decide)) fun hn => hn.1 (.inr (.inr hs))
  split
  next hid hint hboolean type ht =>
    rw [TypeExpr.names_named, ht, Option.some.injEq, eq_comm]
    exact (and_iff_right (by tauto)).symm
  next ht =>
    rw [ht]
    exact iff_of_false (h.not_names_word (by decide)) fun hn => Option.some_ne_none name hn.2.symm

theorem names_namedType {type : NamedType} (ht : IsName type.name) :
    (type.valueType options).Names name ↔ options.MapsTo type name := by
  obtain ⟨kind, typeName⟩ := type
  have hkind (hne : kind ≠ .scalar) : ¬ options.MapsTo ⟨kind, typeName⟩ name :=
    fun hm => hne hm.kind_eq
  cases kind with
  | scalar =>
    rw [NamedType.valueType, h.names_scalarType]
    constructor
    · intro hs
      exact ⟨rfl, hs.1, hs.2⟩
    · intro hm
      exact ⟨hm.not_builtIn, hm.get?_eq⟩
  | enum | input =>
    have hword : IsWord typeName := (isIdentifier_of_isName ht).isWord
    exact iff_of_false (h.not_names_word hword) (hkind (by decide))
  | object | interface | union =>
    have hunknown : ¬ TypeExpr.unknown.Names name := h.not_names_word (by decide)
    exact iff_of_false (h.not_names_modelOr typeName hunknown) (hkind (by decide))

/-- The values of a reference go by the name exactly when it is configured for their scalar. -/
theorem names_valueType {ref : TypeRef} (hr : IsName ref.base.name) :
    (ref.valueType options).Names name ↔ options.MapsTo ref.base name := by
  induction ref with
  | named type => exact h.names_namedType hr
  | list item ih => exact TypeExpr.names_array.trans (ih hr)
  | nullable inner ih =>
    have hundefined : ¬ TypeExpr.undefined.Names name := h.not_names_word (by decide)
    simp [TypeRef.valueType, h.names_unionOf, hundefined, ih hr, TypeRef.base]

/-! ### Contracts -/

theorem not_names_parentType (owner : Owner) :
    ¬ (parentType graph options owner).Names name := by
  have hundefined : ¬ TypeExpr.undefined.Names name := h.not_names_word (by decide)
  cases owner with
  | object definition => exact h.not_names_modelOr definition.name hundefined
  | interface definition =>
    simp only [parentType, h.names_unionOf, List.mem_map]
    rintro ⟨_, ⟨object, -, rfl⟩, hn⟩
    exact h.not_names_modelOr object.name hundefined hn

theorem not_names_possibleValues (objects : List ObjectDef) :
    ¬ (possibleValues options objects).Names name := by
  have hunknown : ¬ TypeExpr.unknown.Names name := h.not_names_word (by decide)
  simp only [possibleValues, h.names_unionOf, List.mem_map]
  rintro ⟨_, ⟨object, -, rfl⟩, hn⟩
  exact h.not_names_modelOr object.name hunknown hn

theorem not_names_argsType {field : FieldDef} (hf : IsName field.name) :
    ¬ (argsType field).Names name := by
  rw [argsType]
  split
  · simp [TypeExpr.emptyRecord]
  · exact h.not_names_word (isIdentifier_argsRecordName hf).isWord

/-- A function that resolves a field names what is configured for the context. -/
theorem names_resolver {owner : Owner} {field : FieldDef} (hf : IsName field.name)
    {result : TypeExpr} :
    (TypeExpr.function (resolverParameters options (parentType graph options owner)
      (argsType field)) result).Names name ↔
      options.contextType = some name ∨ result.Names name := by
  have hinfo : ¬ (TypeExpr.named infoType).Names name := h.not_names_word (by decide)
  simp only [TypeExpr.names_function, resolverParameters, List.mem_cons, List.not_mem_nil,
    or_false, exists_eq_or_imp, exists_eq_left, h.not_names_parentType owner,
    h.not_names_argsType hf, h.names_context, hinfo, false_or]

/-- The contract of a field names what is configured for the context and for the values of the
field. -/
theorem names_fieldContract {owner : Owner} {field : FieldDef} (hf : IsName field.name)
    (ht : IsName field.type.base.name) : (fieldContract graph options owner field).Names name ↔
      options.contextType = some name ∨ options.MapsTo field.type.base name := by
  rw [fieldContract]
  split
  · simp [subscriptionContract, h.names_resolver hf, h.names_deferred, h.names_valueType ht]
  · have hstring : ¬ TypeExpr.string.Names name := h.not_names_word (by decide)
    simp [delegatingContract, h.names_unionOf, h.names_resolver hf, TypeRef.resultType,
      h.names_deferred, h.names_valueType ht, hstring]

/-- A function that tells values apart names what is configured for the context. -/
theorem names_discrimination {objects : List ObjectDef} {result : TypeExpr} :
    (TypeExpr.function (discriminationParameters options (possibleValues options objects))
      result).Names name ↔ options.contextType = some name ∨ result.Names name := by
  have hinfo : ¬ (TypeExpr.named infoType).Names name := h.not_names_word (by decide)
  simp only [TypeExpr.names_function, discriminationParameters, List.mem_cons, List.not_mem_nil,
    or_false, exists_eq_or_imp, exists_eq_left, h.not_names_possibleValues objects,
    h.names_context, hinfo, false_or]

theorem names_resolveTypeContract {typeName : String} {optional : Bool} :
    (Declaration.interface contractName [resolveTypeMember graph options typeName optional]).Names
      name ↔ options.contextType = some name := by
  simp [resolveTypeMember, h.names_discrimination, h.names_deferred, h.names_unionOf]

theorem names_isTypeOfMember? {object : ObjectDef} {m : Member TypeExpr}
    (hm : isTypeOfMember? graph options object = some m) :
    m.type.Names name ↔ options.contextType = some name := by
  have hboolean : ¬ TypeExpr.boolean.Names name := h.not_names_word (by decide)
  rw [isTypeOfMember?] at hm
  split at hm
  · cases hm
  · obtain rfl := Option.some.inj hm
    simp [h.names_discrimination, h.names_deferred, hboolean]

/-! ### Declarations -/

theorem names_inputDeclaration {input : InputDef}
    (hr : ∀ field ∈ input.fields, IsName field.type.base.name) :
    (inputDeclaration options input).Names name ↔
      ∃ field ∈ input.fields, options.MapsTo field.type.base name := by
  simp only [inputDeclaration, Declaration.names_interface, List.mem_map, exists_exists_and_eq_and]
  exact exists_congr fun field => and_congr_right fun hf => h.names_valueType (hr field hf)

/-- The record of a field's arguments, if there is one, names what is configured for the values of
the arguments. -/
theorem names_argsRecord? (field : FieldDef)
    (hr : ∀ argument ∈ field.arguments, IsName argument.type.base.name) :
    (∃ record, argsRecord? options field = some record ∧ record.Names name) ↔
      ∃ argument ∈ field.arguments, options.MapsTo argument.type.base name := by
  rw [argsRecord?]
  split
  next hempty => simp [List.isEmpty_iff.mp hempty]
  next =>
    simp only [Option.some.injEq, exists_eq_left', Declaration.names_interface, List.mem_map,
      exists_exists_and_eq_and]
    exact exists_congr fun argument => and_congr_right fun ha => h.names_valueType (hr argument ha)

theorem not_names_defaultResolvers? {object : ObjectDef} {declaration : Declaration}
    (hd : defaultResolvers? graph options object = some declaration) :
    ¬ declaration.Names name := by
  obtain ⟨-, -, model, hm, rfl⟩ := defaultResolvers?_eq_some_iff.mp hd
  rw [Declaration.names_defaultResolvers, TypeExpr.names_named]
  rintro rfl
  exact h.not_model object.name hm

/-- At most what is configured for the context is named in the contract of an object. -/
theorem contextType_of_names_objectContract {object : ObjectDef}
    (hf : ∀ field ∈ object.fields, IsName field.name)
    (hn : (objectContract graph options object).Names name) :
    options.contextType = some name := by
  obtain ⟨m, hm, hn⟩ := Declaration.names_interface.mp hn
  rcases List.mem_append.mp hm with hm | hm
  · obtain ⟨field, hfield, rfl⟩ := List.mem_map.mp hm
    exact absurd hn (h.not_names_word (isIdentifier_aliasName (hf field hfield)).isWord)
  · exact (h.names_isTypeOfMember? (Option.mem_toList.mp hm)).mp hn

theorem not_names_enumDeclaration (enum : EnumDef) : ¬ (enumDeclaration enum).Names name := by
  simp [enumDeclaration, h.names_unionOf]

theorem not_names_aggregateDeclaration (hg : graph.IsNamed) :
    ¬ (aggregateDeclaration graph).Names name := by
  have hreference {typeName : String} (ht : IsName typeName) :
      ¬ (contractReference typeName).Names name := by
    refine h.not_names_word (((isIdentifier_of_isName ht).isWord.append ?_).append ?_ |>.append ?_)
      <;> decide
  intro hn
  obtain ⟨m, hm, hn⟩ := Declaration.names_interface.mp hn
  rcases List.mem_append.mp hm with hm | hm
  · rcases List.mem_append.mp hm with hm | hm
    · obtain ⟨o, ho, rfl⟩ := List.mem_map.mp hm
      exact hreference (hg.objects o ho).1 hn
    · obtain ⟨i, hi, rfl⟩ := List.mem_map.mp hm
      exact hreference (hg.interfaces i hi).1 hn
  · obtain ⟨u, hu, rfl⟩ := List.mem_map.mp hm
    exact hreference (hg.unions u hu) hn

/-! ### Groups -/

/-- The group of an object with fields names what is configured for the context, for the values of
the fields and for those of their arguments, and what its inputs name. -/
theorem names_objectGroupWith {object : ObjectDef} (hne : object.fields ≠ [])
    (hf : ∀ field ∈ object.fields, field.IsNamed ∧
      ∀ ref ∈ field.references, IsName ref.base.name) {inputs : List Declaration} :
    (objectGroupWith graph options object inputs).Names name ↔
      options.contextType = some name ∨
        (∃ field ∈ object.fields, ∃ ref ∈ field.references, options.MapsTo ref.base name) ∨
        ∃ d ∈ inputs, d.Names name := by
  have hfield {field : FieldDef} (hm : field ∈ object.fields) :
      (fieldAlias graph options (.object object) field).Names name ↔
        options.contextType = some name ∨ options.MapsTo field.type.base name :=
    Declaration.names_typeAlias.trans (h.names_fieldContract (hf field hm).1.1
      ((hf field hm).2 field.type List.mem_cons_self))
  have hrecord {field : FieldDef} (hm : field ∈ object.fields) :=
    h.names_argsRecord? field fun argument ha =>
      (hf field hm).2 argument.type (List.mem_cons_of_mem _ (List.mem_map_of_mem ha))
  constructor
  · rintro ⟨d, hd, hn⟩
    rcases cases_objectGroupWith hd with
      hd | hd | ⟨field, hm, hd⟩ | ⟨field, hm, rfl⟩ | rfl
    · exact absurd hn (h.not_names_defaultResolvers? hd)
    · exact .inr (.inr ⟨d, hd, hn⟩)
    · obtain ⟨argument, ha, hmaps⟩ := (hrecord hm).mp ⟨d, hd, hn⟩
      exact .inr (.inl ⟨field, hm, argument.type,
        List.mem_cons_of_mem _ (List.mem_map_of_mem ha), hmaps⟩)
    · rcases (hfield hm).mp hn with hcontext | hmaps
      · exact .inl hcontext
      · exact .inr (.inl ⟨field, hm, field.type, List.mem_cons_self, hmaps⟩)
    · exact .inl (h.contextType_of_names_objectContract (fun field hm => (hf field hm).1.1) hn)
  · have halias {field : FieldDef} (hm : field ∈ object.fields) :
        fieldAlias graph options (.object object) field ∈
          (objectGroupWith graph options object inputs).declarations :=
      List.mem_append_left _ (List.mem_append_right _ (List.mem_map_of_mem hm))
    rintro (hcontext | ⟨field, hm, ref, hr, hmaps⟩ | ⟨d, hd, hn⟩)
    · obtain ⟨field, hm⟩ := List.exists_mem_of_ne_nil _ hne
      exact ⟨_, halias hm, (hfield hm).mpr (.inl hcontext)⟩
    · rcases List.mem_cons.mp hr with rfl | hr
      · exact ⟨_, halias hm, (hfield hm).mpr (.inr hmaps)⟩
      · obtain ⟨argument, ha, rfl⟩ := List.mem_map.mp hr
        obtain ⟨record, hrecord, hn⟩ := (hrecord hm).mpr ⟨argument, ha, hmaps⟩
        exact ⟨record, List.mem_append_left _ (List.mem_append_left _
          (List.mem_append_right _ (List.mem_filterMap.mpr ⟨field, hm, hrecord⟩))), hn⟩
    · exact ⟨d, sublist_objectGroupWith.subset hd, hn⟩

/-- The group of an interface names what is configured for the context and for the values of
arguments. -/
theorem names_interfaceGroup {interface : InterfaceDef}
    (hf : ∀ field ∈ interface.fields, ∀ ref ∈ field.references, IsName ref.base.name) :
    (interfaceGroup graph options interface).Names name ↔ options.contextType = some name ∨
      ∃ field ∈ interface.fields, ∃ argument ∈ field.arguments,
        options.MapsTo argument.type.base name := by
  have hrecord {field : FieldDef} (hm : field ∈ interface.fields) :=
    h.names_argsRecord? field fun argument ha =>
      hf field hm argument.type (List.mem_cons_of_mem _ (List.mem_map_of_mem ha))
  simp only [Group.Names, interfaceGroup, List.mem_append, List.mem_filterMap, List.mem_singleton]
  constructor
  · rintro ⟨d, ⟨field, hm, hd⟩ | rfl, hn⟩
    · exact .inr ⟨field, hm, (hrecord hm).mp ⟨d, hd, hn⟩⟩
    · exact .inl (h.names_resolveTypeContract.mp hn)
  · rintro (hcontext | ⟨field, hm, hmaps⟩)
    · exact ⟨_, .inr rfl, h.names_resolveTypeContract.mpr hcontext⟩
    · obtain ⟨record, hd, hn⟩ := (hrecord hm).mpr hmaps
      exact ⟨record, .inl ⟨field, hm, hd⟩, hn⟩

/-- The group of a union names what is configured for the context. -/
theorem names_unionGroup {union : UnionDef} : (unionGroup graph options union).Names name ↔
    options.contextType = some name := by
  simp [Group.Names, unionGroup, h.names_resolveTypeContract]

end Options.IsStray

/-! ### Documents -/

/-- The references whose values a document describes: those in fields of objects, in arguments of
interface fields and in fields of the inputs that arguments lead to.  What the fields of an
interface yield is described by the objects that implement it. -/
def SchemaGraph.describedReferences (graph : SchemaGraph) : List TypeRef :=
  (graph.objects.flatMap (·.fields)).flatMap (·.references) ++
    ((graph.interfaces.flatMap (·.fields)).flatMap (·.arguments)).map (·.type) ++
    (graph.inputRegistry.values.flatMap (·.fields)).map (·.type)

section

variable {graph : SchemaGraph} {options : Options} {document : Document} {name : String}

theorem SchemaGraph.exists_describedReference_iff {P : TypeRef → Prop} :
    (∃ ref ∈ graph.describedReferences, P ref) ↔
      (∃ object ∈ graph.objects, ∃ field ∈ object.fields, ∃ ref ∈ field.references, P ref) ∨
      (∃ interface ∈ graph.interfaces, ∃ field ∈ interface.fields, ∃ argument ∈ field.arguments,
        P argument.type) ∨
      ∃ input ∈ graph.inputRegistry.values, ∃ field ∈ input.fields, P field.type := by
  simp only [describedReferences, List.mem_append, List.mem_flatMap, List.mem_map]
  grind

namespace Assembled

variable (h : Assembled graph options document)

include h

/-- An input is registered exactly when it is declared, for the module or for an object. -/
theorem names_inputs_iff (hl : graph.IsLowered) :
    ((∃ d ∈ document.sharedInputs, d.Names name) ∨ ∃ object ∈ graph.objects, ∃ inputs,
      groupInputs graph options object = .ok inputs ∧ ∃ d ∈ inputs, d.Names name) ↔
      ∃ input ∈ graph.inputRegistry.values, (inputDeclaration options input).Names name := by
  constructor
  · rintro (⟨d, hd, hn⟩ | ⟨object, -, inputs, hinputs, d, hd, hn⟩)
    · rw [h.sharedInputs_eq] at hd
      obtain ⟨input, hi, rfl⟩ := List.mem_map.mp hd
      obtain ⟨key, -, hr⟩ := List.mem_filterMap.mp hi
      exact ⟨input, NameMap.mem_values_iff.mpr ⟨key, hr⟩, hn⟩
    · obtain ⟨key, input, hr, rfl⟩ := exists_registered_of_groupInputs hinputs hd
      exact ⟨input, NameMap.mem_values_iff.mpr ⟨key, hr⟩, hn⟩
  · rintro ⟨input, hi, hn⟩
    obtain ⟨-, hinput⟩ := SchemaGraph.mem_values_inputRegistry_iff.mp hi
    rcases (registered_iff hl).mp ⟨input, hi, rfl⟩ with hs | ⟨object, ho, ha⟩
    · obtain ⟨other, hr⟩ := registered_of_mem_sharedInputNames hl hs
      obtain rfl : other = input := Option.some.inj
        ((SchemaGraph.get?_inputRegistry_eq_some_iff.mp hr).2.symm.trans hinput)
      refine .inl ⟨inputDeclaration options other, ?_, hn⟩
      rw [h.sharedInputs_eq]
      exact List.mem_map_of_mem (List.mem_filterMap.mpr ⟨_, hs, hr⟩)
    · obtain ⟨inputs, hinputs, -⟩ := h.exists_objectGroup ho
      obtain ⟨other, hother, hmem⟩ := declaresInput_of_groupInputs hinputs ha
      obtain rfl := Option.some.inj (hother.symm.trans hinput)
      exact .inr ⟨object, ho, inputs, hinputs, _, hmem, hn⟩

/-- The groups of a document name what is configured for the context and for the values that are
described in them, and what the inputs in them name. -/
theorem names_groups_iff (hv : graph.IsValid) (hs : options.IsStray name) :
    (∃ group ∈ document.groups, group.Names name) ↔
      (options.contextType = some name ∧ graph.resolvableTypeNames ≠ []) ∨
      (∃ object ∈ graph.objects, ∃ field ∈ object.fields, ∃ ref ∈ field.references,
        options.MapsTo ref.base name) ∨
      (∃ interface ∈ graph.interfaces, ∃ field ∈ interface.fields, ∃ argument ∈ field.arguments,
        options.MapsTo argument.type.base name) ∨
      ∃ object ∈ graph.objects, ∃ inputs, groupInputs graph options object = .ok inputs ∧
        ∃ d ∈ inputs, d.Names name := by
  have hn := hv.isLowered.isNamed
  have hobject {object : ObjectDef} (ho : object ∈ graph.objects) (inputs : List Declaration) :
      (objectGroupWith graph options object inputs).Names name ↔ _ :=
    hs.names_objectGroupWith (hv.fields_ne_nil ho) fun field hf =>
      hn.outputField (SchemaGraph.mem_outputFields_of_object ho hf)
  have hinterface {interface : InterfaceDef} (hi : interface ∈ graph.interfaces) :
      (interfaceGroup graph options interface).Names name ↔ _ :=
    hs.names_interfaceGroup fun field hf =>
      (hn.outputField (SchemaGraph.mem_outputFields_of_interface hi hf)).2
  constructor
  · rintro ⟨group, hg, hnames⟩
    have hne : graph.resolvableTypeNames ≠ [] :=
      h.typeNames_eq ▸ List.ne_nil_of_mem (List.mem_map_of_mem hg)
    rcases h.cases_group hg with
      ⟨object, ho, inputs, hinputs, rfl⟩ | ⟨interface, hi, rfl⟩ | ⟨union, -, rfl⟩
    · rcases (hobject ho inputs).mp hnames with hcontext | hmaps | hnames
      · exact .inl ⟨hcontext, hne⟩
      · exact .inr (.inl ⟨object, ho, hmaps⟩)
      · exact .inr (.inr (.inr ⟨object, ho, inputs, hinputs, hnames⟩))
    · rcases (hinterface hi).mp hnames with hcontext | hmaps
      · exact .inl ⟨hcontext, hne⟩
      · exact .inr (.inr (.inl ⟨interface, hi, hmaps⟩))
    · exact .inl ⟨hs.names_unionGroup.mp hnames, hne⟩
  · rintro (⟨hcontext, hne⟩ | ⟨object, ho, hmaps⟩ | ⟨interface, hi, hmaps⟩ |
      ⟨object, ho, inputs, hinputs, hnames⟩)
    · have hgroups : document.groups ≠ [] := fun hnil => hne (by rw [← h.typeNames_eq, hnil]; rfl)
      obtain ⟨group, hg⟩ := List.exists_mem_of_ne_nil _ hgroups
      refine ⟨group, hg, ?_⟩
      rcases h.cases_group hg with
        ⟨object, ho, inputs, -, rfl⟩ | ⟨interface, hi, rfl⟩ | ⟨union, -, rfl⟩
      · exact (hobject ho inputs).mpr (.inl hcontext)
      · exact (hinterface hi).mpr (.inl hcontext)
      · exact hs.names_unionGroup.mpr hcontext
    · obtain ⟨inputs, -, hg⟩ := h.exists_objectGroup ho
      exact ⟨_, hg, (hobject ho inputs).mpr (.inr (.inl hmaps))⟩
    · exact ⟨_, h.interfaceGroup_mem hi, (hinterface hi).mpr (.inr hmaps)⟩
    · obtain ⟨others, hothers, hg⟩ := h.exists_objectGroup ho
      obtain rfl := Except.ok.inj (hinputs.symm.trans hothers)
      exact ⟨_, hg, (hobject ho inputs).mpr (.inr (.inr hnames))⟩

/-- A text that is no word and no model is named by an assembled document exactly where it is
configured for the context, unless no resolver is declared at all, or for a scalar whose values are
described. -/
theorem names_iff (hv : graph.IsValid) (hs : options.IsStray name) :
    document.Names name ↔ (options.contextType = some name ∧ graph.resolvableTypeNames ≠ []) ∨
      ∃ ref ∈ graph.describedReferences, options.MapsTo ref.base name := by
  have hn := hv.isLowered.isNamed
  have henums : ¬ ∃ d ∈ document.enums, d.Names name := by
    rw [h.enums_eq]
    rintro ⟨d, hd, hnames⟩
    obtain ⟨enum, -, rfl⟩ := List.mem_map.mp hd
    exact hs.not_names_enumDeclaration enum hnames
  have haggregate : ¬ document.aggregate.Names name :=
    h.aggregate_eq ▸ hs.not_names_aggregateDeclaration hn
  have hregistered : (∃ input ∈ graph.inputRegistry.values,
      (inputDeclaration options input).Names name) ↔ ∃ input ∈ graph.inputRegistry.values,
        ∃ field ∈ input.fields, options.MapsTo field.type.base name := by
    refine exists_congr fun input => and_congr_right fun hi => ?_
    have hinput : input ∈ graph.inputs :=
      List.mem_of_find?_eq_some (SchemaGraph.mem_values_inputRegistry_iff.mp hi).2
    exact hs.names_inputDeclaration fun field hf =>
      hn.references field.type (SchemaGraph.mem_references_of_inputField hinput hf)
  rw [Document.names_iff, h.names_groups_iff hv hs, SchemaGraph.exists_describedReference_iff,
    ← hregistered, ← h.names_inputs_iff hv.isLowered]
  -- the inputs of the module and those of groups, which stand apart, are one clause on the right
  simp only [henums, haggregate, false_or, or_false]
  exact iff_of_eq (by ac_rfl)

end Assembled

end

end ResolverTypes
