import ResolverTypes.Proofs.Contract.FieldContract
import ResolverTypes.Proofs.TypeScript.Alternatives
import ResolverTypes.Proofs.TypeScript.WellFormed

/-!
# Wrapping of values

A reference wraps a named type in lists and marks what may be null.  The type of its values wraps
the type of the named type's values in the same way, as long as the reference does not say twice in
a row that a value may be null, and as long as the values of the named type are not the missing
value themselves.  What a resolver returns is one of these values or a promise of one, and this
promise is the only one in the type.

## Main definitions

* `TypeExpr.promises` : the promises that occur in a type.
* `KeepsWrapping` : the types of values and of results keep the wrapping of references.

## Main results

* `TypeRef.eq_of_valueType_eq` : the type of the values determines the wrapping.
* `keepsWrapping` : the types of values and of results keep the wrapping of references.
-/

namespace ResolverTypes

open TypeScript

/-! ### Promises in a type -/

/-- Whether a type is a promise. -/
def TypeScript.TypeExpr.isPromise : TypeExpr → Bool
  | .promise _ => true
  | _ => false

/-- The promises that occur in a type, each as often as it does. -/
def TypeScript.TypeExpr.promises (type : TypeExpr) : List TypeExpr :=
  type.nodes.filter (·.isPromise)

namespace TypeScript.TypeExpr

theorem isPromise_iff {type : TypeExpr} :
    type.isPromise = true ↔ ∃ value, type = .promise value := by
  cases type <;> simp [isPromise]

theorem promises_eq (type : TypeExpr) :
    type.promises = (if type.isPromise then [type] else []) ++ type.parts.flatMap promises := by
  unfold promises
  rw [nodes_eq, List.filter_cons, List.filter_flatMap]
  split <;> rfl

/-- A plain type has no promise in it. -/
theorem IsPlain.promises_eq_nil {type : TypeExpr} (h : type.IsPlain) : type.promises = [] := by
  refine List.filter_eq_nil_iff.mpr fun node hn hp => ?_
  obtain ⟨value, rfl⟩ := isPromise_iff.mp hp
  rcases h _ (mem_nodes_iff.mp hn) with ⟨_, hnode⟩ | ⟨_, hnode⟩ | ⟨_, hnode⟩ <;> cases hnode

/-- The alternatives of a well-formed type differ, and there are some. -/
theorem WellFormed.nodup_alternatives {P : String → Prop} {type : TypeExpr}
    (h : type.WellFormed P) : type.alternatives.Nodup ∧ type.alternatives ≠ [] := by
  by_cases hu : ∃ members, type = .union members
  · obtain ⟨members, rfl⟩ := hu
    have hreduced := h.isReduced .self
    refine ⟨hreduced.nodup, fun hnil => ?_⟩
    have hlength := hreduced.two_le_length
    simp only [alternatives] at hnil
    simp [hnil] at hlength
  · rw [mem_alternatives_self fun members hm => hu ⟨members, hm⟩]
    simp

end TypeScript.TypeExpr

/-! ### Types of values -/

variable {options : Options}

variable (options) in
/-- The type of the values of a named type goes by a name. -/
theorem NamedType.exists_valueType_eq (type : NamedType) :
    ∃ name, type.valueType options = .named name := by
  unfold NamedType.valueType Options.scalarType ModelBinding.modelOr
  repeat' split
  all_goals exact ⟨_, rfl⟩

namespace TypeRef

/-- The type of the values of a reference is well-formed, whatever its names are. -/
theorem wellFormed_valueType_true (options : Options) :
    (type : TypeRef) → (type.valueType options).WellFormed fun _ => True
  | .named type => by
      obtain ⟨name, hname⟩ := type.exists_valueType_eq options
      rw [valueType, hname]
      exact TypeExpr.wellFormed_named trivial
  | .list item => (wellFormed_valueType_true options item).array
  | .nullable inner => by
      refine TypeExpr.WellFormed.unionOf (fun type ht => ?_) trivial
      rcases List.mem_cons.mp ht with rfl | ht
      · exact wellFormed_valueType_true options inner
      · exact List.mem_singleton.mp ht ▸ TypeExpr.wellFormed_named trivial

/-- A result is of one of the alternatives of the value, or it is a promise of the value. -/
theorem resultType_eq_union (type : TypeRef) : type.resultType options =
    .union ((type.valueType options).alternatives ++ [.promise (type.valueType options)]) :=
  have h := (wellFormed_valueType_true options type).nodup_alternatives
  TypeExpr.deferred_eq_union h.1 h.2

/-- The only promise in the type of a result is that of the value. -/
theorem promises_resultType (type : TypeRef) :
    (type.resultType options).promises = [.promise (type.valueType options)] := by
  have hplain := isPlain_valueType options type
  have hvalue : (type.valueType options).promises = [] := hplain.promises_eq_nil
  have halternatives : (type.valueType options).alternatives.flatMap TypeExpr.promises = [] := by
    refine List.flatMap_eq_nil_iff.mpr fun alternative ha => TypeExpr.IsPlain.promises_eq_nil ?_
    exact fun node hn => hplain node (hn.trans (TypeExpr.within_of_mem_alternatives ha))
  have hpromise : (TypeExpr.promise (type.valueType options)).promises =
      [.promise (type.valueType options)] := by
    rw [TypeExpr.promises_eq]
    simp [TypeExpr.isPromise, TypeExpr.parts, hvalue]
  rw [resultType_eq_union, TypeExpr.promises_eq]
  simp [TypeExpr.isPromise, TypeExpr.parts, halternatives, hpromise]

/-! ### Wrapping -/

/-- A value that is never null is of one type, and if null may be added to it, that type gets
`undefined` beside it. -/
theorem valueType_nullable {inner : TypeRef} (hn : inner.isNullable = false)
    (hu : inner.base.valueType options ≠ .undefined) :
    (nullable inner).valueType options = .union [inner.valueType options, .undefined] := by
  have hself : (inner.valueType options).alternatives = [inner.valueType options] ∧
      inner.valueType options ≠ .undefined := by
    cases inner with
    | named type =>
        obtain ⟨name, hname⟩ := type.exists_valueType_eq options
        rw [valueType, hname]
        exact ⟨rfl, hname ▸ hu⟩
    | list item => exact ⟨rfl, by simp [valueType, TypeExpr.undefined]⟩
    | nullable inner => cases hn
  obtain ⟨hself, hne⟩ := hself
  have hundefined : TypeExpr.undefined.alternatives = [.undefined] := rfl
  have hflat : [inner.valueType options, .undefined].flatMap TypeExpr.alternatives =
      [inner.valueType options, .undefined] := by
    simp [hself, hundefined]
  have hnodup : [inner.valueType options, .undefined].Nodup := by simp [hne]
  rw [valueType, TypeExpr.unionOf, hflat, eraseDups_of_nodup hnodup]

/-- Two references in canonical form to the same named type describe the same values only if they
are the same. -/
theorem eq_of_valueType_eq {a b : TypeRef} (ha : a.IsCanonical) (hb : b.IsCanonical)
    (hbase : a.base = b.base) (hu : a.base.valueType options ≠ .undefined)
    (h : a.valueType options = b.valueType options) : a = b := by
  induction a generalizing b with
  | named type =>
      obtain ⟨name, hname⟩ := type.exists_valueType_eq options
      rw [valueType, hname] at h
      cases b with
      | named other => exact congrArg named hbase
      | list item => cases h
      | nullable inner =>
          rw [valueType_nullable hb.1 (hbase ▸ hu)] at h
          cases h
  | list item ih =>
      cases b with
      | named other =>
          obtain ⟨name, hname⟩ := other.exists_valueType_eq options
          rw [valueType, valueType, hname] at h
          cases h
      | list other => exact congrArg list (ih ha hb hbase hu (TypeExpr.array.inj h))
      | nullable inner =>
          rw [valueType_nullable hb.1 (hbase ▸ hu)] at h
          cases h
  | nullable inner ih =>
      rw [valueType_nullable ha.1 hu] at h
      cases b with
      | named other =>
          obtain ⟨name, hname⟩ := other.exists_valueType_eq options
          rw [valueType, hname] at h
          cases h
      | list item => cases h
      | nullable other =>
          rw [valueType_nullable hb.1 (hbase ▸ hu)] at h
          have hinner := (List.cons.inj (TypeExpr.union.inj h)).1
          exact congrArg nullable (ih ha.2 hb.2 hbase hu hinner)

theorem valueType_eq_of_resultType_eq {a b : TypeRef}
    (h : a.resultType options = b.resultType options) :
    a.valueType options = b.valueType options := by
  have hpromises := congrArg TypeExpr.promises h
  rw [promises_resultType, promises_resultType] at hpromises
  exact TypeExpr.promise.inj (List.cons.inj hpromises).1

end TypeRef

variable (options) in
/-- The types of values and of results keep the wrapping of references: references in canonical form
to the same named type have different types if they are different, and the only promise is the one
that a result may be, which comes after the alternatives of the value. -/
structure KeepsWrapping : Prop where
  eq_of_valueType_eq : ∀ a b : TypeRef, a.IsCanonical → b.IsCanonical → a.base = b.base →
    a.base.valueType options ≠ .undefined → a.valueType options = b.valueType options → a = b
  eq_of_resultType_eq : ∀ a b : TypeRef, a.IsCanonical → b.IsCanonical → a.base = b.base →
    a.base.valueType options ≠ .undefined → a.resultType options = b.resultType options → a = b
  promises_valueType : ∀ type : TypeRef, (type.valueType options).promises = []
  promises_resultType : ∀ type : TypeRef,
    (type.resultType options).promises = [.promise (type.valueType options)]
  resultType_eq : ∀ type : TypeRef, type.resultType options =
    .union ((type.valueType options).alternatives ++ [.promise (type.valueType options)])

/-- Whatever the options, the types of values and of results keep the wrapping of references. -/
theorem keepsWrapping (options : Options) : KeepsWrapping options where
  eq_of_valueType_eq _ _ ha hb hbase hu h := TypeRef.eq_of_valueType_eq ha hb hbase hu h
  eq_of_resultType_eq _ _ ha hb hbase hu h :=
    TypeRef.eq_of_valueType_eq ha hb hbase hu (TypeRef.valueType_eq_of_resultType_eq h)
  promises_valueType type := (isPlain_valueType options type).promises_eq_nil
  promises_resultType type := type.promises_resultType
  resultType_eq type := type.resultType_eq_union

/-- A list that may be null. -/
def optionalPosts : TypeRef := .nullable (.list (.named ⟨.object, "Post"⟩))

/-- A list of what may be null. -/
def postsWithGaps : TypeRef := .list (.nullable (.named ⟨.object, "Post"⟩))

/-- A result that may be missing as a whole is told from one whose items may be missing. -/
theorem resultType_optionalPosts_ne : optionalPosts.IsCanonical ∧ postsWithGaps.IsCanonical ∧
    optionalPosts.resultType {} ≠ postsWithGaps.resultType {} := by
  have hoptional : optionalPosts.IsCanonical := ⟨rfl, trivial⟩
  have hgaps : postsWithGaps.IsCanonical := ⟨rfl, trivial⟩
  have hpost : optionalPosts.base.valueType {} ≠ .undefined := by decide +kernel
  refine ⟨hoptional, hgaps, fun h => ?_⟩
  cases (keepsWrapping {}).eq_of_resultType_eq _ _ hoptional hgaps rfl hpost h

end ResolverTypes
