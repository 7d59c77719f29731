import ResolverTypes.Contract.Field
import ResolverTypes.Proofs.TypeScript.Nodes

/-!
# Functions in the contract of a field

The types of values are made of names, arrays and unions only.  The functions in the contract of a
field are therefore those that the contract puts there itself, and all of them have the same four
parameters.

## Main definitions

* `TypeExpr.IsPlain` : a type is made of names, arrays and unions.

## Main results

* `isPlain_valueType` : the types of values are plain.
* `function_within_fieldContract_iff` : the functions in the contract of a field.
-/

namespace ResolverTypes

open TypeScript

/-! ### Plain types -/

/-- A type is made of names, arrays and unions. -/
def TypeScript.TypeExpr.IsPlain (type : TypeExpr) : Prop :=
  ∀ node : TypeExpr, node.Within type →
    (∃ name, node = .named name) ∨ (∃ item, node = .array item) ∨ ∃ members, node = .union members

namespace TypeScript.TypeExpr

theorem isPlain_named (name : String) : (named name).IsPlain :=
  fun _ h => .inl ⟨name, within_named_iff.mp h⟩

theorem IsPlain.array {item : TypeExpr} (h : item.IsPlain) : (array item).IsPlain := by
  intro node hn
  rcases within_array_iff.mp hn with rfl | hn
  · exact .inr (.inl ⟨item, rfl⟩)
  · exact h node hn

theorem IsPlain.unionOf {types : List TypeExpr} (h : ∀ type ∈ types, type.IsPlain) :
    (unionOf types).IsPlain := by
  intro node hn
  by_cases hu : ∃ members, node = .union members
  · exact .inr (.inr hu)
  by_cases hnever : node = never
  · exact .inl ⟨"never", hnever⟩
  obtain ⟨type, ht, hn⟩ := (within_unionOf_iff (fun ms hm => hu ⟨ms, hm⟩) hnever).mp hn
  exact h type ht node hn

theorem IsPlain.not_function {type : TypeExpr} (h : type.IsPlain)
    {parameters : List (Parameter TypeExpr)} {result : TypeExpr} :
    ¬ (function parameters result).Within type := by
  intro hn
  rcases h _ hn with ⟨_, hf⟩ | ⟨_, hf⟩ | ⟨_, hf⟩ <;> cases hf

end TypeScript.TypeExpr

open TypeExpr

theorem isPlain_modelOr (models : ModelBinding) (typeName : String) {fallback : TypeExpr}
    (h : fallback.IsPlain) : (models.modelOr typeName fallback).IsPlain := by
  unfold ModelBinding.modelOr
  split
  · exact isPlain_named _
  · exact h

theorem isPlain_scalarType (options : Options) (name : String) :
    (options.scalarType name).IsPlain := by
  unfold Options.scalarType
  repeat' split
  all_goals exact isPlain_named _

theorem isPlain_context (options : Options) : options.context.IsPlain := by
  unfold Options.context
  split <;> exact isPlain_named _

/-- The types of values are plain. -/
theorem isPlain_valueType (options : Options) : (type : TypeRef) → (type.valueType options).IsPlain
  | .named type => by
      rw [TypeRef.valueType, NamedType.valueType]
      split
      · exact isPlain_scalarType options type.name
      · exact isPlain_named _
      · exact isPlain_named _
      all_goals exact isPlain_modelOr _ _ (isPlain_named _)
  | .list item => (isPlain_valueType options item).array
  | .nullable inner => by
      refine IsPlain.unionOf fun type ht => ?_
      rcases List.mem_cons.mp ht with rfl | ht
      · exact isPlain_valueType options inner
      · exact List.mem_singleton.mp ht ▸ isPlain_named _

theorem isPlain_parentType (graph : SchemaGraph) (options : Options) (owner : Owner) :
    (parentType graph options owner).IsPlain := by
  cases owner with
  | object definition => exact isPlain_modelOr _ _ (isPlain_named _)
  | interface definition =>
      refine IsPlain.unionOf fun type ht => ?_
      obtain ⟨o, -, rfl⟩ := List.mem_map.mp ht
      exact isPlain_modelOr _ _ (isPlain_named _)

/-! ### Functions -/

section

variable {parameters ps : List (Parameter TypeExpr)} {result r : TypeExpr}

theorem function_within_unionOf_iff {types : List TypeExpr} :
    (function ps r).Within (unionOf types) ↔ ∃ type ∈ types, (function ps r).Within type := by
  refine within_unionOf_iff (fun _ h => ?_) (fun h => ?_) <;> cases h

theorem function_within_deferred_iff {type : TypeExpr} :
    (function ps r).Within (deferred type) ↔ (function ps r).Within type := by
  rw [deferred, function_within_unionOf_iff]
  simp [within_promise_iff]

theorem function_within_function_iff
    (hp : ∀ p ∈ parameters, ¬ (function ps r).Within p.type)
    (hr : ¬ (function ps r).Within result) :
    (function ps r).Within (function parameters result) ↔ ps = parameters ∧ r = result := by
  rw [within_function_iff, TypeExpr.function.injEq]
  refine or_iff_left ?_
  rintro (⟨p, hmem, hw⟩ | hw)
  · exact hp p hmem hw
  · exact hr hw

variable {graph : SchemaGraph} {options : Options} {owner : Owner} {field : FieldDef}

theorem not_function_within_argsType : ¬ (function ps r).Within (argsType field) := by
  unfold argsType
  split
  · simp [emptyRecord, within_object_iff]
  · simp

theorem not_function_within_resolverParameters :
    ∀ p ∈ resolverParameters options (parentType graph options owner) (argsType field),
      ¬ (function ps r).Within p.type := by
  intro p hp
  simp only [resolverParameters, List.mem_cons, List.not_mem_nil, or_false] at hp
  rcases hp with rfl | rfl | rfl | rfl
  · exact (isPlain_parentType graph options owner).not_function
  · exact not_function_within_argsType
  · exact (isPlain_context options).not_function
  · exact (isPlain_named _).not_function

theorem not_function_within_deferred {type : TypeExpr} (h : type.IsPlain) :
    ¬ (function ps r).Within (deferred type) := by
  rw [function_within_deferred_iff]
  exact h.not_function

variable (graph options owner field) in
/-- The parameters of every function in the contract of a field. -/
def contractParameters : List (Parameter TypeExpr) :=
  resolverParameters options (parentType graph options owner) (argsType field)

/-- The functions in the contract of a field: of a subscription one that subscribes and one that
resolves an event, otherwise one that resolves the field. -/
theorem function_within_fieldContract_iff :
    (function ps r).Within (fieldContract graph options owner field) ↔
      ps = contractParameters graph options owner field ∧
        if owner.isSubscription then
          r = deferred (.asyncIterator (field.type.valueType options)) ∨
            r = deferred (field.type.valueType options)
        else r = field.type.resultType options := by
  have hvalue := isPlain_valueType options field.type
  have hevents : ¬ (function ps r).Within
      (deferred (.asyncIterator (field.type.valueType options))) := by
    rw [function_within_deferred_iff, within_asyncIterator_iff]
    exact not_or_intro nofun hvalue.not_function
  have here {result : TypeExpr} (hr : ¬ (function ps r).Within result) :
      (function ps r).Within (function (contractParameters graph options owner field) result) ↔
        ps = contractParameters graph options owner field ∧ r = result :=
    function_within_function_iff not_function_within_resolverParameters hr
  rw [fieldContract]
  split
  · simp only [subscriptionContract, within_object_iff, List.mem_cons, List.not_mem_nil, or_false,
      exists_eq_or_imp, exists_eq_left, reduceCtorEq, false_or]
    rw [← contractParameters, here hevents, here (not_function_within_deferred hvalue), and_or_left]
  · simp only [delegatingContract, function_within_unionOf_iff, List.mem_cons, List.not_mem_nil,
      or_false, exists_eq_or_imp, exists_eq_left, within_object_iff, reduceCtorEq, false_or,
      string, within_named_iff]
    rw [← contractParameters, TypeRef.resultType, here (not_function_within_deferred hvalue),
      or_self]

variable (graph options owner field) in
/-- The contract of every field has a function in it. -/
theorem exists_function_within_fieldContract : ∃ parameters result,
    (function parameters result).Within (fieldContract graph options owner field) := by
  by_cases hs : owner.isSubscription = true
  · exact ⟨_, _, function_within_fieldContract_iff.mpr ⟨rfl, by rw [if_pos hs]; exact .inl rfl⟩⟩
  · exact ⟨_, _, function_within_fieldContract_iff.mpr ⟨rfl, by rw [if_neg hs]⟩⟩

end

end ResolverTypes
