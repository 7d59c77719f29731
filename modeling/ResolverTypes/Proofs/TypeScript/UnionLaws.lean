import ResolverTypes.Proofs.TypeScript.UnionOrder
import ResolverTypes.Proofs.TypeScript.WellFormed

/-!
# The laws of unions

A type whose unions are in normal form is determined by its alternatives.  The alternatives of a
union of such types are those of the types, one type after another, each alternative at its first
place only.  Unions are therefore associative, a union of one type is that type, and the order of
the types shows in the order of the alternatives only.

## Main definitions

* `TypeExpr.IsNormal` : all unions in a type are in normal form.
* `TypeExpr.ObeysUnionLaws` : the laws of unions, for the union of some types.

## Main results

* `TypeExpr.IsNormal.eq_of_alternatives_eq` : a type in normal form is determined by its
  alternatives.
* `TypeExpr.alternatives_deferred`, `TypeExpr.deferred_injective` : a value or a promise of it.
* `TypeExpr.obeysUnionLaws` : types in normal form obey the laws of unions.
-/

namespace ResolverTypes.TypeScript.TypeExpr

/-- A type is in normal form if every union in it is, at whatever depth. -/
def IsNormal (type : TypeExpr) : Prop :=
  ∀ members, (TypeExpr.union members).Within type → IsReduced members

variable {type other : TypeExpr} {types others : List TypeExpr}

theorem isNormal_iff : type.IsNormal ↔
    (∀ members, type = .union members → IsReduced members) ∧
      ∀ part ∈ type.parts, part.IsNormal := by
  constructor
  · exact fun h => ⟨fun members hm => h members (hm ▸ .self),
      fun part hp members hm => h members (.part hp hm)⟩
  · rintro ⟨hself, hparts⟩ members hm
    rcases within_iff.mp hm with heq | ⟨part, hp, hm⟩
    · exact hself members heq.symm
    · exact hparts part hp members hm

theorem isNormal_named (name : String) : (named name).IsNormal := isNormal_iff.mpr ⟨nofun, nofun⟩

theorem IsReduced.ne_nil {members : List TypeExpr} (h : IsReduced members) : members ≠ [] := by
  rintro rfl
  exact absurd h.two_le_length (by simp)

/-! ### Alternatives of types in normal form -/

namespace IsNormal

theorem cases_alternatives (h : type.IsNormal) :
    type.alternatives = [type] ∧ (∀ members, type ≠ .union members) ∨
      type = .union type.alternatives ∧ IsReduced type.alternatives := by
  by_cases hu : ∃ members, type = .union members
  · obtain ⟨members, rfl⟩ := hu
    exact .inr ⟨rfl, h members .self⟩
  · have hne (members : List TypeExpr) (hm : type = .union members) : False := hu ⟨members, hm⟩
    exact .inl ⟨mem_alternatives_self hne, hne⟩

/-- The alternatives of a type in normal form are in normal form, and none is a union. -/
theorem alternative (h : type.IsNormal) {alternative : TypeExpr}
    (ha : alternative ∈ type.alternatives) :
    alternative.IsNormal ∧ ∀ members, alternative ≠ .union members := by
  refine ⟨fun members hm => h members (hm.trans (within_of_mem_alternatives ha)), ?_⟩
  rcases h.cases_alternatives with ⟨heq, hne⟩ | ⟨-, hr⟩
  · rw [heq, List.mem_singleton] at ha
    exact ha ▸ hne
  · exact hr.ne_union alternative ha

theorem alternatives_ne_nil (h : type.IsNormal) : type.alternatives ≠ [] := by
  rcases h.cases_alternatives with ⟨heq, -⟩ | ⟨-, hr⟩
  · exact heq ▸ List.cons_ne_nil _ _
  · exact hr.ne_nil

theorem nodup_alternatives (h : type.IsNormal) : type.alternatives.Nodup := by
  rcases h.cases_alternatives with ⟨heq, -⟩ | ⟨-, hr⟩
  · exact heq ▸ List.nodup_singleton type
  · exact hr.nodup

/-- A type in normal form is determined by its alternatives. -/
theorem eq_of_alternatives_eq (h : type.IsNormal) (ho : other.IsNormal)
    (heq : type.alternatives = other.alternatives) : type = other := by
  rcases h.cases_alternatives with ⟨ht, -⟩ | ⟨ht, hr⟩ <;>
    rcases ho.cases_alternatives with ⟨hother, -⟩ | ⟨hother, hro⟩
  · exact List.singleton_inj.mp (ht.symm.trans (heq.trans hother))
  · have hlength := hro.two_le_length
    rw [← heq, ht] at hlength
    simp at hlength
  · have hlength := hr.two_le_length
    rw [heq, hother] at hlength
    simp at hlength
  · rw [ht, hother, heq]

end IsNormal

/-! ### Unions of types in normal form -/

theorem distinctAlternatives_ne_nil (h : ∀ type ∈ types, type.IsNormal) (hne : types ≠ []) :
    distinctAlternatives types ≠ [] := by
  obtain ⟨type, ht⟩ := List.exists_mem_of_ne_nil types hne
  obtain ⟨alternative, ha⟩ := List.exists_mem_of_ne_nil _ (h type ht).alternatives_ne_nil
  exact List.ne_nil_of_mem (mem_distinctAlternatives.mpr ⟨type, ht, ha⟩)

theorem isNormal_of_mem_distinctAlternatives (h : ∀ type ∈ types, type.IsNormal)
    {alternative : TypeExpr} (ha : alternative ∈ distinctAlternatives types) :
    alternative.IsNormal ∧ ∀ members, alternative ≠ .union members := by
  obtain ⟨type, ht, ha⟩ := mem_distinctAlternatives.mp ha
  exact (h type ht).alternative ha

/-- The alternatives of a union are those of the types, one type after another, each alternative at
its first place only. -/
theorem alternatives_unionOf_of_isNormal (h : ∀ type ∈ types, type.IsNormal) (hne : types ≠ []) :
    (unionOf types).alternatives = (types.flatMap alternatives).eraseDups := by
  rcases unionOf_eq types with ⟨hd, -⟩ | ⟨only, hd, heq⟩ | ⟨-, heq⟩
  · exact absurd hd (distinctAlternatives_ne_nil h hne)
  · have honly := isNormal_of_mem_distinctAlternatives h (hd ▸ List.mem_singleton_self only)
    rw [heq, mem_alternatives_self honly.2, ← hd, distinctAlternatives]
  · rw [heq, alternatives, distinctAlternatives]

/-- The union of types in normal form is in normal form. -/
theorem isNormal_unionOf (h : ∀ type ∈ types, type.IsNormal) : (unionOf types).IsNormal := by
  intro members hm
  rcases unionOf_eq types with ⟨-, heq⟩ | ⟨only, hd, heq⟩ | ⟨hlength, heq⟩
  · rw [heq] at hm
    cases within_named_iff.mp hm
  · rw [heq] at hm
    exact (isNormal_of_mem_distinctAlternatives h (hd ▸ List.mem_singleton_self only)).1 members hm
  · rw [heq] at hm
    rcases within_iff.mp hm with hself | ⟨part, hp, hm⟩
    · obtain rfl := union.inj hself
      exact ⟨hlength, nodup_distinctAlternatives types,
        fun member hmem => (isNormal_of_mem_distinctAlternatives h hmem).2⟩
    · exact (isNormal_of_mem_distinctAlternatives h hp).1 members hm

/-- A union of one type in normal form is that type. -/
theorem unionOf_singleton_of_isNormal (h : type.IsNormal) : unionOf [type] = type := by
  have hall : ∀ t ∈ [type], t.IsNormal := by simpa using h
  refine (isNormal_unionOf hall).eq_of_alternatives_eq h ?_
  rw [alternatives_unionOf_of_isNormal hall (List.cons_ne_nil _ _), List.flatMap_singleton,
    eraseDups_of_nodup h.nodup_alternatives]

/-- A union of unions is the union of the types of both. -/
theorem unionOf_pair (h : ∀ type ∈ types, type.IsNormal) (ho : ∀ type ∈ others, type.IsNormal)
    (hne : types ≠ []) (hneo : others ≠ []) :
    unionOf [unionOf types, unionOf others] = unionOf (types ++ others) := by
  have hpair : ∀ t ∈ [unionOf types, unionOf others], t.IsNormal := by
    simpa using ⟨isNormal_unionOf h, isNormal_unionOf ho⟩
  have hall : ∀ t ∈ types ++ others, t.IsNormal := List.forall_mem_append.mpr ⟨h, ho⟩
  refine (isNormal_unionOf hpair).eq_of_alternatives_eq (isNormal_unionOf hall) ?_
  rw [alternatives_unionOf_of_isNormal hpair (List.cons_ne_nil _ _),
    alternatives_unionOf_of_isNormal hall (List.append_ne_nil_of_left_ne_nil hne others)]
  calc ([unionOf types, unionOf others].flatMap alternatives).eraseDups
      = ((unionOf types).alternatives ++ (unionOf others).alternatives).eraseDups := by simp
    _ = ((types.flatMap alternatives).eraseDups ++
          (others.flatMap alternatives).eraseDups).eraseDups := by
        rw [alternatives_unionOf_of_isNormal h hne, alternatives_unionOf_of_isNormal ho hneo]
    _ = ((types ++ others).flatMap alternatives).eraseDups := by
        rw [eraseDups_append_eraseDups, List.flatMap_append]

/-- The order of the types shows in the order of the alternatives only. -/
theorem perm_alternatives_unionOf (h : ∀ type ∈ types, type.IsNormal) (hp : types.Perm others) :
    (unionOf types).alternatives.Perm (unionOf others).alternatives := by
  by_cases hne : types = []
  · rw [hne] at hp ⊢
    rw [hp.nil_eq]
  · have hneo : others ≠ [] := fun hnil => hne (List.perm_nil.mp (hnil ▸ hp))
    rw [alternatives_unionOf_of_isNormal h hne, alternatives_unionOf_of_isNormal
      (fun type ht => h type (hp.mem_iff.mpr ht)) hneo]
    exact perm_distinctAlternatives hp

/-! ### Deferred values -/

/-- A value or a promise of it has one alternative more than the value, the promise. -/
theorem alternatives_deferred (type : TypeExpr) :
    (deferred type).alternatives = type.alternatives.eraseDups ++ [promise type] := by
  have hd : distinctAlternatives [type, promise type] =
      type.alternatives.eraseDups ++ [promise type] := by
    have hpromise : (promise type).alternatives = [promise type] := rfl
    have hnew : [promise type].filter (fun a => !type.alternatives.contains a) = [promise type] :=
      List.filter_cons_of_pos (by simpa using promise_not_mem_alternatives type)
    rw [distinctAlternatives, List.flatMap_cons, List.flatMap_singleton, hpromise,
      eraseDups_append_eq, eraseDups_of_nodup (List.nodup_singleton _), hnew]
  rcases unionOf_eq [type, promise type] with ⟨hnil, -⟩ | ⟨only, hone, heq⟩ | ⟨-, heq⟩
  · rw [hd] at hnil
    cases List.append_ne_nil_of_right_ne_nil _ (List.cons_ne_nil _ _) hnil
  · rw [hd] at hone
    obtain ⟨hnil, hpromise⟩ : type.alternatives.eraseDups = [] ∧ [promise type] = [only] := by
      rcases List.append_eq_singleton_iff.mp hone with h | ⟨-, h⟩
      · exact h
      · cases h
    rw [deferred, heq, hnil, ← List.singleton_inj.mp hpromise]
    rfl
  · rw [deferred, heq, alternatives, hd]

/-- Types are told apart by the values of them that may be deferred. -/
theorem deferred_injective : Function.Injective deferred := by
  intro type other h
  have halternatives := congrArg alternatives h
  rw [alternatives_deferred, alternatives_deferred] at halternatives
  have hlast := (List.append_inj' halternatives rfl).2
  exact promise.inj (List.singleton_inj.mp hlast)

/-! ### The laws -/

/-- One type more adds those of its alternatives that are new, behind the others. -/
theorem alternatives_unionOf_concat (h : ∀ type ∈ types, type.IsNormal) (hne : types ≠ [])
    (ht : type.IsNormal) : (unionOf (types ++ [type])).alternatives =
      (unionOf types).alternatives ++
        type.alternatives.filter fun a => a ∉ (unionOf types).alternatives := by
  have hall : ∀ t ∈ types ++ [type], t.IsNormal :=
    List.forall_mem_append.mpr ⟨h, by simpa using ht⟩
  rw [alternatives_unionOf_of_isNormal hall (List.append_ne_nil_of_left_ne_nil hne _),
    alternatives_unionOf_of_isNormal h hne, List.flatMap_append, List.flatMap_singleton,
    eraseDups_append_eq, eraseDups_of_nodup ht.nodup_alternatives]
  refine congrArg (_ ++ ·) (List.filter_congr fun alternative _ => ?_)
  rw [Bool.eq_iff_iff]
  simp

/-- The laws of unions, for the union of some types.  It is in normal form, and it has the
alternatives of the types, each at its first place only.  Types are put together in any grouping,
and their order matters for that of the alternatives only.  A type that may be deferred has the
promise of it as one alternative more, and no other type is deferred to the same. -/
structure ObeysUnionLaws (types : List TypeExpr) : Prop where
  isNormal : (unionOf types).IsNormal
  eq_never : types = [] → unionOf types = never
  alternatives_eq : types ≠ [] →
    (unionOf types).alternatives = (types.flatMap alternatives).eraseDups
  concat : ∀ type, type.IsNormal → types ≠ [] → (unionOf (types ++ [type])).alternatives =
    (unionOf types).alternatives ++
      type.alternatives.filter fun a => a ∉ (unionOf types).alternatives
  pair : ∀ others, (∀ type ∈ others, type.IsNormal) → types ≠ [] → others ≠ [] →
    unionOf [unionOf types, unionOf others] = unionOf (types ++ others)
  singleton : ∀ type ∈ types, unionOf [type] = type
  perm : ∀ others, types.Perm others →
    (unionOf types).alternatives.Perm (unionOf others).alternatives
  deferred_eq : ∀ type ∈ types, deferred type = .union (type.alternatives ++ [promise type])
  deferred_inj : ∀ type ∈ types, ∀ other, deferred type = deferred other → type = other

/-- Types in normal form obey the laws of unions. -/
theorem obeysUnionLaws (h : ∀ type ∈ types, type.IsNormal) : ObeysUnionLaws types where
  isNormal := isNormal_unionOf h
  eq_never hnil := hnil ▸ unionOf_nil
  alternatives_eq := alternatives_unionOf_of_isNormal h
  concat _ ht hne := alternatives_unionOf_concat h hne ht
  pair _ ho hne hneo := unionOf_pair h ho hne hneo
  singleton type ht := unionOf_singleton_of_isNormal (h type ht)
  perm _ hp := perm_alternatives_unionOf h hp
  deferred_eq type ht :=
    deferred_eq_union (h type ht).nodup_alternatives (h type ht).alternatives_ne_nil
  deferred_inj _ _ _ heq := deferred_injective heq

/-- Texts that may be missing, numbers, the missing value, and lists of texts that may be
missing. -/
def mixedTypes : List TypeExpr :=
  [.union [.string, .undefined], .number, .undefined, .array (.union [.string, .undefined])]

theorem obeysUnionLaws_mixedTypes : (∀ type ∈ mixedTypes, type.IsNormal) ∧
    union [string, undefined] ∈ mixedTypes ∧ ObeysUnionLaws mixedTypes := by
  have hreduced : IsReduced [string, undefined] :=
    ⟨by decide, by decide +kernel, fun member hm => by
      rcases List.mem_pair.mp hm with rfl | rfl <;> exact nofun⟩
  have hunion : (union [string, undefined]).IsNormal :=
    isNormal_iff.mpr ⟨fun members hm => union.inj hm ▸ hreduced, fun part hp => by
      rcases List.mem_pair.mp hp with rfl | rfl <;> exact isNormal_named _⟩
  have harray : (array (union [string, undefined])).IsNormal :=
    isNormal_iff.mpr ⟨nofun, fun part hp => List.mem_singleton.mp hp ▸ hunion⟩
  have hall : ∀ type ∈ mixedTypes, type.IsNormal := by
    simp only [mixedTypes, List.forall_mem_cons]
    exact ⟨hunion, isNormal_named _, isNormal_named _, harray, nofun⟩
  exact ⟨hall, List.mem_cons_self, obeysUnionLaws hall⟩

end ResolverTypes.TypeScript.TypeExpr
