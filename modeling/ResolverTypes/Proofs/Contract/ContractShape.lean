import ResolverTypes.Proofs.Contract.ValueWrapping
import ResolverTypes.Proofs.Graph.LoweredGraph

/-!
# The shape of a field's contract

The contract of a field of the subscription root is a record of a function that subscribes and one
that may be left out; that of any other field is a function, or a record of the same function with
a fragment.  Nothing that a reference is resolved to can be taken for part of this: the types of
values and of the parameters have no iterator and no record with members in them.

## Main definitions

* `TypeExpr.IsShape` : a type is a record or an asynchronous iterator.
* `TypeExpr.HasMember` : a member of some name occurs in a type.
* `contractRecord` : the record in the contract of a field.
* `objectParameters` : the parameters of the functions that resolve a field of an object.
* `subscribingRecord`, `functionOrRecord` : the two shapes of contracts.
* `HasContractShape` : the contract of a field of an object has the shape that goes with the object.

## Main results

* `within_fieldContract_of_isShape` : the records and iterators in the contract of a field.
* `hasContractShape` : the contract of every field has its shape.
-/

namespace ResolverTypes

open TypeScript TypeExpr

/-! ### Records and iterators -/

namespace TypeScript.TypeExpr

/-- A type is a record or an asynchronous iterator. -/
def IsShape (type : TypeExpr) : Prop :=
  (∃ members, type = .object members) ∨ ∃ item, type = .asyncIterator item

/-- A member of some name occurs in a type, at any depth. -/
def HasMember (name : String) (type : TypeExpr) : Prop :=
  ∃ members, (object members).Within type ∧ ∃ member ∈ members, member.name = name

variable {node type : TypeExpr}

/-- A plain type has no record and no iterator in it. -/
theorem IsShape.not_within_of_isPlain (hs : node.IsShape) (h : type.IsPlain) :
    ¬ node.Within type := by
  intro hn
  rcases hs with ⟨members, rfl⟩ | ⟨item, rfl⟩ <;>
    rcases h _ hn with ⟨_, heq⟩ | ⟨_, heq⟩ | ⟨_, heq⟩ <;> cases heq

theorem IsShape.within_unionOf_iff (hs : node.IsShape) {types : List TypeExpr} :
    node.Within (unionOf types) ↔ ∃ type ∈ types, node.Within type := by
  refine TypeExpr.within_unionOf_iff (fun _ h => ?_) (fun h => ?_) <;>
    rcases hs with ⟨_, rfl⟩ | ⟨_, rfl⟩ <;> cases h

theorem IsShape.within_deferred_iff (hs : node.IsShape) :
    node.Within (deferred type) ↔ node.Within type := by
  have hpromise : node ≠ promise type := by
    rintro rfl
    rcases hs with ⟨_, h⟩ | ⟨_, h⟩ <;> cases h
  rw [deferred, hs.within_unionOf_iff]
  simp [within_promise_iff, hpromise]

end TypeScript.TypeExpr

/-! ### What a contract is made of -/

section

variable (graph : SchemaGraph) (options : Options) (owner : Owner) (field : FieldDef)

/-- The record in the contract of a field. -/
def contractRecord : List (Member TypeExpr) :=
  let parameters := contractParameters graph options owner field
  let event := field.type.valueType options
  if owner.isSubscription then
    [⟨"subscribe", false, .function parameters (.deferred (.asyncIterator event))⟩,
      ⟨"resolve", true, .function parameters (.deferred event)⟩]
  else
    [⟨"fragment", false, .string⟩,
      ⟨"resolve", false, .function parameters (field.type.resultType options)⟩]

variable {graph options owner field}

/-- A record or iterator in a function that resolves a field is the empty record of its arguments,
or it is in the result. -/
theorem within_resolver_of_isShape {node result : TypeExpr} (hs : node.IsShape)
    (h : node.Within (.function (contractParameters graph options owner field) result)) :
    node = .object [] ∨ node.Within result := by
  have hargs : node.Within (argsType field) → node = .object [] := by
    unfold argsType
    split
    · simp [emptyRecord, within_object_iff]
    · exact fun hn => absurd hn (hs.not_within_of_isPlain (isPlain_named _))
  rcases within_function_iff.mp h with rfl | ⟨p, hp, hn⟩ | hn
  · rcases hs with ⟨_, heq⟩ | ⟨_, heq⟩ <;> cases heq
  · simp only [contractParameters, resolverParameters, List.mem_cons, List.not_mem_nil,
      or_false] at hp
    rcases hp with rfl | rfl | rfl | rfl
    · exact absurd hn (hs.not_within_of_isPlain (isPlain_parentType graph options owner))
    · exact .inl (hargs hn)
    · exact absurd hn (hs.not_within_of_isPlain (isPlain_context options))
    · exact absurd hn (hs.not_within_of_isPlain (isPlain_named _))
  · exact .inr hn

theorem eq_of_within_valueResolver {node : TypeExpr} (hs : node.IsShape)
    (h : node.Within (.function (contractParameters graph options owner field)
      (.deferred (field.type.valueType options)))) : node = .object [] := by
  rcases within_resolver_of_isShape hs h with heq | hn
  · exact heq
  · exact absurd (hs.within_deferred_iff.mp hn)
      (hs.not_within_of_isPlain (isPlain_valueType options field.type))

/-- The records in the contract of a field are the record of the contract and the empty record; the
only iterator is that of the events of a subscription. -/
theorem within_fieldContract_of_isShape {node : TypeExpr} (hs : node.IsShape)
    (h : node.Within (fieldContract graph options owner field)) :
    node = .object [] ∨ node = .object (contractRecord graph options owner field) ∨
      owner.isSubscription = true ∧ node = .asyncIterator (field.type.valueType options) := by
  rw [contractRecord]
  rw [fieldContract, ← contractParameters] at h
  split at h
  next hsub =>
    rw [if_pos hsub]
    rcases within_object_iff.mp h with heq | ⟨member, hm, hn⟩
    · exact .inr (.inl heq)
    · simp only [List.mem_cons, List.not_mem_nil, or_false] at hm
      rcases hm with rfl | rfl
      · rcases within_resolver_of_isShape hs hn with heq | hn
        · exact .inl heq
        · rcases within_asyncIterator_iff.mp (hs.within_deferred_iff.mp hn) with heq | hn
          · exact .inr (.inr ⟨hsub, heq⟩)
          · exact absurd hn (hs.not_within_of_isPlain (isPlain_valueType options field.type))
      · exact .inl (eq_of_within_valueResolver hs hn)
  next hsub =>
    rw [if_neg hsub]
    obtain ⟨type, ht, hn⟩ := hs.within_unionOf_iff.mp h
    simp only [List.mem_cons, List.not_mem_nil, or_false] at ht
    rcases ht with rfl | rfl
    · exact .inl (eq_of_within_valueResolver hs hn)
    · rcases within_object_iff.mp hn with heq | ⟨member, hm, hn⟩
      · exact .inr (.inl heq)
      · simp only [List.mem_cons, List.not_mem_nil, or_false] at hm
        rcases hm with rfl | rfl
        · exact absurd hn (hs.not_within_of_isPlain (isPlain_named _))
        · exact .inl (eq_of_within_valueResolver hs hn)

/-- The members in the contract of a field are those of the record of the contract. -/
theorem mem_of_hasMember {name : String}
    (h : (fieldContract graph options owner field).HasMember name) :
    name ∈ if owner.isSubscription then ["subscribe", "resolve"] else ["fragment", "resolve"] := by
  have hnames : (contractRecord graph options owner field).map (·.name) =
      if owner.isSubscription then ["subscribe", "resolve"] else ["fragment", "resolve"] := by
    rw [contractRecord]
    split <;> rfl
  obtain ⟨members, hw, member, hm, rfl⟩ := h
  rcases within_fieldContract_of_isShape (.inl ⟨members, rfl⟩) hw with heq | heq | ⟨-, heq⟩
  · cases heq
    cases hm
  · cases heq
    exact hnames ▸ List.mem_map_of_mem hm
  · cases heq

end

/-! ### The contract of a field of an object -/

variable (graph : SchemaGraph) (options : Options) (object : ObjectDef) (field : FieldDef)

/-- The parameters of the functions that resolve a field of an object: the value of the object, of
the bound model or else `undefined`, the arguments, the context and the request's information. -/
def objectParameters : List (Parameter TypeExpr) :=
  [⟨"parent", (options.models.get? object.name).elim .undefined .named⟩, ⟨"args", argsType field⟩,
    ⟨"context", options.context⟩, ⟨"info", .named infoType⟩]

/-- A record of a function that subscribes to events and one that resolves an event, which may be
left out. -/
def subscribingRecord (parameters : List (Parameter TypeExpr)) (event : TypeExpr) : TypeExpr :=
  .object
    [⟨"subscribe", false,
        .function parameters (.union [.asyncIterator event, .promise (.asyncIterator event)])⟩,
      ⟨"resolve", true, .function parameters (.union (event.alternatives ++ [.promise event]))⟩]

/-- A function, or a record of the same function with a fragment. -/
def functionOrRecord (function : TypeExpr) : TypeExpr :=
  .union [function, .object [⟨"fragment", false, .string⟩, ⟨"resolve", false, function⟩]]

/-- The contract of a field of an object has the shape that goes with the object: of the root of
subscriptions, a record of a function that subscribes and one that may be left out; of any other
object, a function, or a record of the same function with a fragment.  Neither has a part of the
other in it at any depth, and all functions in it have the parameters of the object. -/
structure HasContractShape : Prop where
  subscription : object.isSubscription = true →
    fieldContract graph options (.object object) field =
        subscribingRecord (objectParameters options object field) (field.type.valueType options) ∧
      ¬ (fieldContract graph options (.object object) field).HasMember "fragment"
  delegating : object.isSubscription = false →
    fieldContract graph options (.object object) field =
        functionOrRecord (.function (objectParameters options object field)
          (field.type.resultType options)) ∧
      (∀ item, ¬ (asyncIterator item).Within (fieldContract graph options (.object object) field)) ∧
      ¬ (fieldContract graph options (.object object) field).HasMember "subscribe"
  parameters_eq : ∀ parameters result,
    (function parameters result).Within (fieldContract graph options (.object object) field) →
      parameters = objectParameters options object field
  isSubscription_iff : ∀ schema, SchemaGraph.ofSchema schema = .ok graph → object ∈ graph.objects →
    (object.isSubscription = true ↔ graph.roots.subscription = some object.name)

theorem contractParameters_object :
    contractParameters graph options (.object object) field =
      objectParameters options object field := by
  rw [contractParameters, resolverParameters, parentType, ModelBinding.modelOr, objectParameters]
  cases options.models.get? object.name <;> rfl

theorem subscriptionContract_eq (parameters : List (Parameter TypeExpr)) :
    subscriptionContract options parameters field =
      subscribingRecord parameters (field.type.valueType options) := by
  have hiterator : deferred (.asyncIterator (field.type.valueType options)) =
      .union [.asyncIterator (field.type.valueType options),
        .promise (.asyncIterator (field.type.valueType options))] :=
    deferred_eq_union (List.nodup_singleton _) (List.cons_ne_nil _ _)
  have hevent : deferred (field.type.valueType options) = _ := field.type.resultType_eq_union
  rw [subscriptionContract, hiterator, hevent, subscribingRecord]

theorem delegatingContract_function (parameters : List (Parameter TypeExpr)) (result : TypeExpr) :
    delegatingContract (.function parameters result) =
      functionOrRecord (.function parameters result) := by
  rw [delegatingContract, unionOf_eq_union, functionOrRecord]
  · simp [alternatives]
  · simp
  · simp

/-- The contract of every field of an object has the shape that goes with the object. -/
theorem hasContractShape : HasContractShape graph options object field where
  subscription hs := by
    have howner : (Owner.object object).isSubscription = true := hs
    constructor
    · rw [fieldContract, ← contractParameters, contractParameters_object, if_pos howner,
        subscriptionContract_eq]
    · intro hm
      have hname := mem_of_hasMember hm
      rw [if_pos howner] at hname
      exact absurd hname (by decide)
  delegating hs := by
    have howner : ¬ (Owner.object object).isSubscription = true := Bool.eq_false_iff.mp hs
    refine ⟨?_, fun item hw => ?_, fun hm => ?_⟩
    · rw [fieldContract, ← contractParameters, contractParameters_object, if_neg howner,
        delegatingContract_function]
    · rcases within_fieldContract_of_isShape (.inr ⟨item, rfl⟩) hw with heq | heq | ⟨hsub, -⟩
      · cases heq
      · cases heq
      · exact howner hsub
    · have hname := mem_of_hasMember hm
      rw [if_neg howner] at hname
      exact absurd hname (by decide)
  parameters_eq parameters result h := by
    rw [(function_within_fieldContract_iff.mp h).1, contractParameters_object]
  isSubscription_iff schema h ho := by
    have hg := ofSchema_mirrors h
    obtain ⟨type, -, hr⟩ := exists_mem_of_forall₂ hg.objects ho
    rw [hr.isSubscription_eq, hg.roots_eq, hr.name_eq, beq_iff_eq]

end ResolverTypes
