import ResolverTypes.Proofs.TypeScript.Alternatives

/-!
# Types up to the order of unions

What a union means does not depend on the order of its members.  Putting the same types together in
another order gives the same type up to that order, and so does a promise, a function or any other
type made of it.

## Main definitions

* `TypeExpr.SameUpToOrder` : two types are the same up to the order of the members of unions.

## Main results

* `TypeExpr.SameUpToOrder.refl` : a type is the same as itself.
* `TypeExpr.sameUpToOrder_unionOf` : the union of the same types in another order.
* `TypeExpr.SameUpToOrder.deferred` : a value or a promise of it.
-/

namespace ResolverTypes.TypeScript.TypeExpr

/-- Two types are the same up to the order of the members of unions, at any depth. -/
inductive SameUpToOrder : TypeExpr → TypeExpr → Prop where
  /-- A name is the same as itself. -/
  | named (name : String) : SameUpToOrder (.named name) (.named name)
  /-- A literal is the same as itself. -/
  | literal (value : String) : SameUpToOrder (.literal value) (.literal value)
  /-- Arrays are the same if their items are. -/
  | array {item other : TypeExpr} : SameUpToOrder item other →
      SameUpToOrder (.array item) (.array other)
  /-- Unions are the same if the members of one, put in some order, are the same as those of the
  other. -/
  | union {members ordered others : List TypeExpr} : members.Perm ordered →
      List.Forall₂ SameUpToOrder ordered others → SameUpToOrder (.union members) (.union others)
  /-- Promises are the same if their values are. -/
  | promise {value other : TypeExpr} : SameUpToOrder value other →
      SameUpToOrder (.promise value) (.promise other)
  /-- Iterators are the same if their items are. -/
  | asyncIterator {item other : TypeExpr} : SameUpToOrder item other →
      SameUpToOrder (.asyncIterator item) (.asyncIterator other)
  /-- Functions are the same if their parameters, in order, and their results are. -/
  | function {parameters others : List (Parameter TypeExpr)} {result other : TypeExpr} :
      parameters.map (·.name) = others.map (·.name) →
        List.Forall₂ SameUpToOrder (parameters.map (·.type)) (others.map (·.type)) →
          SameUpToOrder result other →
            SameUpToOrder (.function parameters result) (.function others other)
  /-- Objects are the same if their members, in order, are. -/
  | object {members others : List (Member TypeExpr)} :
      members.map (·.name) = others.map (·.name) →
        members.map (·.optional) = others.map (·.optional) →
          List.Forall₂ SameUpToOrder (members.map (·.type)) (others.map (·.type)) →
            SameUpToOrder (.object members) (.object others)

/-- Every type is the same as itself. -/
theorem SameUpToOrder.refl (type : TypeExpr) : SameUpToOrder type type := by
  induction type using induction_parts with
  | h type ih =>
      have parts {types : List TypeExpr} (h : types ⊆ type.parts) :
          List.Forall₂ SameUpToOrder types types :=
        List.forall₂_same.mpr fun part hp => ih part (h hp)
      cases type with
      | named name => exact .named name
      | literal value => exact .literal value
      | array item => exact .array (ih item List.mem_cons_self)
      | union members => exact .union (.refl members) (parts (List.Subset.refl members))
      | promise value => exact .promise (ih value List.mem_cons_self)
      | asyncIterator item => exact .asyncIterator (ih item List.mem_cons_self)
      | function parameters result =>
          exact .function rfl (parts (List.subset_append_left _ _))
            (ih result (List.mem_append_right _ List.mem_cons_self))
      | object members => exact .object rfl rfl (parts (List.Subset.refl _))

/-! ### Unions -/

theorem perm_distinctAlternatives {types others : List TypeExpr} (h : types.Perm others) :
    (distinctAlternatives types).Perm (distinctAlternatives others) := by
  refine (List.perm_ext_iff_of_nodup (nodup_distinctAlternatives types)
    (nodup_distinctAlternatives others)).mpr fun alternative => ?_
  simp only [mem_distinctAlternatives, h.mem_iff]

/-- The union of some types is the same as the union of these in another order. -/
theorem sameUpToOrder_unionOf {types others : List TypeExpr} (h : types.Perm others) :
    SameUpToOrder (unionOf types) (unionOf others) := by
  have hd : (types.flatMap TypeExpr.alternatives).eraseDups.Perm
      (others.flatMap TypeExpr.alternatives).eraseDups := perm_distinctAlternatives h
  unfold unionOf
  generalize (types.flatMap TypeExpr.alternatives).eraseDups = distinct at hd
  generalize (others.flatMap TypeExpr.alternatives).eraseDups = reordered at hd
  -- a union of fewer than two alternatives has no order
  match distinct, reordered with
  | [], _ => exact hd.nil_eq ▸ .refl never
  | [type], _ => exact List.singleton_perm.mp hd ▸ .refl type
  | _ :: _ :: _, [] => exact absurd hd.length_eq nofun
  | _ :: _ :: _, [_] => exact absurd hd.length_eq nofun
  | _ :: _ :: _, _ :: _ :: _ =>
      exact .union hd (List.forall₂_same.mpr fun member _ => .refl member)

/-- Types that are the same up to order have the same alternatives, in whatever order. -/
theorem SameUpToOrder.alternatives {type other : TypeExpr} (h : SameUpToOrder type other) :
    ∃ ordered, type.alternatives.Perm ordered ∧
      List.Forall₂ SameUpToOrder ordered other.alternatives := by
  cases h with
  | named name => exact ⟨_, .refl _, .cons (.named name) .nil⟩
  | literal value => exact ⟨_, .refl _, .cons (.literal value) .nil⟩
  | array h => exact ⟨_, .refl _, .cons (.array h) .nil⟩
  | union hp hs => exact ⟨_, hp, hs⟩
  | promise h => exact ⟨_, .refl _, .cons (.promise h) .nil⟩
  | asyncIterator h => exact ⟨_, .refl _, .cons (.asyncIterator h) .nil⟩
  | function hn hs h => exact ⟨_, .refl _, .cons (.function hn hs h) .nil⟩
  | object hn ho hs => exact ⟨_, .refl _, .cons (.object hn ho hs) .nil⟩

/-! ### Deferred values -/

/-- Values of types that are the same up to order are the same when deferred, for types whose
alternatives are distinct. -/
theorem SameUpToOrder.deferred {type other : TypeExpr} (h : SameUpToOrder type other)
    (ht : type.alternatives.Nodup ∧ type.alternatives ≠ [])
    (ho : other.alternatives.Nodup ∧ other.alternatives ≠ []) :
    SameUpToOrder type.deferred other.deferred := by
  obtain ⟨ordered, hp, hs⟩ := h.alternatives
  rw [deferred_eq_union ht.1 ht.2, deferred_eq_union ho.1 ho.2]
  exact .union (hp.append_right [TypeExpr.promise type])
    (List.rel_append hs (.cons (.promise h) .nil))

end ResolverTypes.TypeScript.TypeExpr
