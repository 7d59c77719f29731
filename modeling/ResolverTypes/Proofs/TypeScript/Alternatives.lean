import ResolverTypes.Proofs.TypeScript.Nodes

/-!
# Alternatives of unions

The alternatives of a union are what a reader of the type takes it for: a list of types, each of
which a value may be of.  Putting types together keeps their alternatives, each once, and a type
that may be deferred has one alternative more, the promise of the type.

## Main definitions

* `TypeExpr.literals` : the texts that a value of a type may be, as far as they are alternatives.

## Main results

* `TypeExpr.alternatives_unionOf`, `TypeExpr.unionOf_eq_union` : the union of types that are no
  unions.
* `TypeExpr.deferred_eq_union` : the alternatives of a value or a promise of it.
* `TypeExpr.literal_within_deferred_iff` : the literals in the union of some literals, or in a
  promise of it.
-/

namespace ResolverTypes.TypeScript.TypeExpr

/-! ### Unions of distinct types -/

theorem distinctAlternatives_eq_eraseDups {types : List TypeExpr}
    (h : ∀ type ∈ types, type.alternatives = [type]) :
    distinctAlternatives types = types.eraseDups := by
  rw [distinctAlternatives, List.flatMap_congr h, List.flatMap_singleton']

/-- The alternatives of a union of types that are no unions are the types, each once. -/
theorem alternatives_unionOf {types : List TypeExpr}
    (h : ∀ type ∈ types, type.alternatives = [type]) (hne : types ≠ []) :
    (unionOf types).alternatives = types.eraseDups := by
  rw [← distinctAlternatives_eq_eraseDups h]
  rcases unionOf_eq types with ⟨hd, -⟩ | ⟨type, hd, heq⟩ | ⟨-, heq⟩
  · obtain ⟨type, ht⟩ := List.exists_mem_of_ne_nil types hne
    have hmem : type ∈ distinctAlternatives types :=
      mem_distinctAlternatives.mpr ⟨type, ht, h type ht ▸ List.mem_cons_self⟩
    rw [hd] at hmem
    cases hmem
  · obtain ⟨other, ho, hmem⟩ := mem_distinctAlternatives.mp (hd ▸ List.mem_cons_self)
    rw [h other ho, List.mem_singleton] at hmem
    rw [hd, heq, hmem, h other ho]
  · rw [heq, alternatives]

/-- The union of types that are no unions has alternatives, and none of them twice. -/
theorem nodup_alternatives_unionOf {types : List TypeExpr}
    (h : ∀ type ∈ types, type.alternatives = [type]) :
    (unionOf types).alternatives.Nodup ∧ (unionOf types).alternatives ≠ [] := by
  by_cases hne : types = []
  · rw [hne]
    exact ⟨List.nodup_singleton _, List.cons_ne_nil _ _⟩
  · rw [alternatives_unionOf h hne]
    refine ⟨nodup_eraseDups types, ?_⟩
    obtain ⟨type, ht⟩ := List.exists_mem_of_ne_nil types hne
    exact List.ne_nil_of_mem (List.mem_eraseDups.mpr ht)

/-- A union of types that differ and are no unions is made of just these. -/
theorem unionOf_eq_union {types : List TypeExpr} (h : ∀ type ∈ types, type.alternatives = [type])
    (hn : types.Nodup) (hl : 2 ≤ types.length) : unionOf types = .union types := by
  have hd : distinctAlternatives types = types :=
    (distinctAlternatives_eq_eraseDups h).trans (eraseDups_of_nodup hn)
  rcases unionOf_eq types with ⟨hnil, -⟩ | ⟨only, hone, -⟩ | ⟨-, heq⟩
  · rw [hd] at hnil
    simp [hnil] at hl
  · rw [hd] at hone
    simp [hone] at hl
  · rw [heq, hd]

/-! ### Deferred values -/

/-- The promise of a type is none of its alternatives, for it is larger than they are. -/
theorem promise_not_mem_alternatives (type : TypeExpr) : promise type ∉ type.alternatives := by
  intro h
  have hlt : sizeOf type < sizeOf (promise type) :=
    sizeOf_lt_of_mem_parts List.mem_cons_self
  by_cases hu : ∃ members, type = .union members
  · obtain ⟨members, rfl⟩ := hu
    have : sizeOf (promise (union members)) < sizeOf (union members) := sizeOf_lt_of_mem_parts h
    omega
  · rw [mem_alternatives_self fun members hm => hu ⟨members, hm⟩, List.mem_singleton] at h
    rw [h] at hlt
    omega

/-- A value or a promise of it is of one of the alternatives of the value's type, or a promise. -/
theorem deferred_eq_union {type : TypeExpr} (hn : type.alternatives.Nodup)
    (hne : type.alternatives ≠ []) :
    deferred type = .union (type.alternatives ++ [promise type]) := by
  have hd : distinctAlternatives [type, promise type] = type.alternatives ++ [promise type] := by
    have hpromise : (promise type).alternatives = [promise type] := rfl
    rw [distinctAlternatives, List.flatMap_cons, List.flatMap_cons, List.flatMap_nil,
      List.append_nil, hpromise]
    refine eraseDups_of_nodup (hn.append (List.nodup_singleton _) ?_)
    rw [List.disjoint_singleton]
    exact promise_not_mem_alternatives type
  rcases unionOf_eq [type, promise type] with ⟨hnil, -⟩ | ⟨only, hone, -⟩ | ⟨-, heq⟩
  · rw [hd] at hnil
    cases List.append_ne_nil_of_right_ne_nil _ (List.cons_ne_nil _ _) hnil
  · rw [hd, List.append_eq_singleton_iff] at hone
    rcases hone with ⟨hnil, -⟩ | ⟨-, hnil⟩
    · exact absurd hnil hne
    · cases hnil
  · rw [deferred, heq, hd]

/-! ### Literals -/

/-- The text of a literal. -/
def literal? : TypeExpr → Option String
  | .literal value => some value
  | _ => none

/-- The texts of the literals among the alternatives of a type. -/
def literals (type : TypeExpr) : List String := type.alternatives.filterMap literal?

/-- The literals of the union of some literals are these. -/
theorem literals_unionOf {values : List String} (h : values.Nodup) :
    (unionOf (values.map .literal)).literals = values := by
  by_cases hv : values = []
  · rw [hv]
    rfl
  · have halternatives : (unionOf (values.map .literal)).alternatives = values.map .literal := by
      rw [alternatives_unionOf (by simp [alternatives]) (by simpa using hv),
        eraseDups_of_nodup (h.map fun _ _ => literal.inj)]
    rw [literals, halternatives, List.filterMap_map]
    exact List.filterMap_some

/-- A literal occurs in the union of some literals, or in a promise of it, exactly when it is one of
these. -/
theorem literal_within_deferred_iff {values : List String} {value : String} :
    (literal value).Within (deferred (unionOf (values.map .literal))) ↔ value ∈ values := by
  have hu : ∀ members, literal value ≠ .union members := nofun
  have hn : literal value ≠ never := nofun
  rw [deferred, within_unionOf_iff hu hn]
  simp [within_promise_iff, within_unionOf_iff hu hn]

end ResolverTypes.TypeScript.TypeExpr
