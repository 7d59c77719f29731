import Mathlib.Data.List.Dedup
import ResolverTypes.Proofs.Data.FirstOccurrences
import ResolverTypes.TypeScript.TypeExpr

/-!
# What occurs in a type

A type occurs in another if it is that type or occurs in one of its parts, at any depth.  The union
of some types keeps what occurs in them: apart from unions, only `never` can be new in it.

## Main definitions

* `TypeExpr.parts` : the types that a type is directly made of.
* `TypeExpr.Within` : a type occurs in another.
* `TypeExpr.nodes` : all types that occur in a type, each as often as it does.

## Main results

* `TypeExpr.induction_parts` : induction over the parts of a type.
* `TypeExpr.within_unionOf_iff` : what occurs in the union of some types.
-/

namespace ResolverTypes.TypeScript.TypeExpr

/-- The types that a type is directly made of. -/
def parts : TypeExpr → List TypeExpr
  | .named _ | .literal _ => []
  | .array item => [item]
  | .union members => members
  | .promise value => [value]
  | .asyncIterator item => [item]
  | .function parameters result => parameters.map (·.type) ++ [result]
  | .object members => members.map (·.type)

theorem sizeOf_lt_of_mem_parts {part type : TypeExpr} (h : part ∈ type.parts) :
    sizeOf part < sizeOf type := by
  cases type with
  | named name => cases h
  | literal value => cases h
  | array item =>
      obtain rfl := List.mem_singleton.mp h
      simp
  | union members =>
      have : sizeOf part < sizeOf members := List.sizeOf_lt_of_mem h
      simp only [union.sizeOf_spec]
      omega
  | promise value =>
      obtain rfl := List.mem_singleton.mp h
      simp
  | asyncIterator item =>
      obtain rfl := List.mem_singleton.mp h
      simp
  | function parameters result =>
      simp only [function.sizeOf_spec]
      rcases List.mem_append.mp h with h | h
      · obtain ⟨parameter, hp, rfl⟩ := List.mem_map.mp h
        have := List.sizeOf_lt_of_mem hp
        have : sizeOf parameter.type < sizeOf parameter := by
          cases parameter
          simp only [Parameter.mk.sizeOf_spec]
          omega
        omega
      · obtain rfl := List.mem_singleton.mp h
        omega
  | object members =>
      simp only [object.sizeOf_spec]
      obtain ⟨member, hm, rfl⟩ := List.mem_map.mp h
      have := List.sizeOf_lt_of_mem hm
      have : sizeOf member.type < sizeOf member := by
        cases member
        simp only [Member.mk.sizeOf_spec]
        omega
      omega

/-- What holds of a type whenever it holds of its parts holds of every type. -/
theorem induction_parts {P : TypeExpr → Prop}
    (h : ∀ type : TypeExpr, (∀ part ∈ type.parts, P part) → P type) (type : TypeExpr) : P type :=
  h type fun part _ => induction_parts h part
termination_by sizeOf type
decreasing_by exact sizeOf_lt_of_mem_parts ‹_›

/-- A type occurs in another, at any depth. -/
inductive Within (node : TypeExpr) : TypeExpr → Prop where
  /-- A type occurs in itself. -/
  | self : Within node node
  /-- What occurs in a part of a type occurs in the type. -/
  | part {part type : TypeExpr} : part ∈ type.parts → Within node part → Within node type

theorem within_iff {node type : TypeExpr} :
    node.Within type ↔ node = type ∨ ∃ part ∈ type.parts, node.Within part := by
  constructor
  · intro h
    cases h with
    | self => exact .inl rfl
    | part hp hn => exact .inr ⟨_, hp, hn⟩
  · rintro (rfl | ⟨part, hp, hn⟩)
    · exact .self
    · exact .part hp hn

theorem Within.trans {a b c : TypeExpr} (hab : a.Within b) (hbc : b.Within c) : a.Within c := by
  induction hbc with
  | self => exact hab
  | part hp _ ih => exact .part hp ih

/-- All types that occur in a type, each as often as it does: the type itself, and what occurs in
its parts. -/
def nodes (type : TypeExpr) : List TypeExpr :=
  type :: type.parts.attach.flatMap fun part => nodes part.val
termination_by sizeOf type
decreasing_by exact sizeOf_lt_of_mem_parts part.property

theorem nodes_eq (type : TypeExpr) : type.nodes = type :: type.parts.flatMap nodes := by
  rw [nodes, List.flatMap_subtype fun _ _ => rfl, List.unattach_attach]

/-- The types that occur in a type are listed among its nodes. -/
theorem mem_nodes_iff {node type : TypeExpr} : node ∈ type.nodes ↔ node.Within type := by
  induction type using induction_parts with
  | h type ih =>
    rw [nodes_eq, List.mem_cons, List.mem_flatMap, within_iff]
    exact or_congr_right (exists_congr fun part => and_congr_right (ih part))

/-! ### What occurs in each form of type -/

section

variable {node : TypeExpr}

@[simp]
theorem within_named_iff {name : String} : node.Within (.named name) ↔ node = .named name := by
  rw [within_iff]
  simp [parts]

@[simp]
theorem within_literal_iff {value : String} :
    node.Within (.literal value) ↔ node = .literal value := by
  rw [within_iff]
  simp [parts]

theorem within_array_iff {item : TypeExpr} :
    node.Within (.array item) ↔ node = .array item ∨ node.Within item := by
  rw [within_iff]
  simp [parts]

theorem within_promise_iff {value : TypeExpr} :
    node.Within (.promise value) ↔ node = .promise value ∨ node.Within value := by
  rw [within_iff]
  simp [parts]

theorem within_asyncIterator_iff {item : TypeExpr} :
    node.Within (.asyncIterator item) ↔ node = .asyncIterator item ∨ node.Within item := by
  rw [within_iff]
  simp [parts]

theorem within_function_iff {parameters : List (Parameter TypeExpr)} {result : TypeExpr} :
    node.Within (.function parameters result) ↔ node = .function parameters result ∨
      (∃ parameter ∈ parameters, node.Within parameter.type) ∨ node.Within result := by
  rw [within_iff]
  simp only [parts, List.mem_append, List.mem_map, List.mem_singleton]
  grind

theorem within_object_iff {members : List (Member TypeExpr)} :
    node.Within (.object members) ↔
      node = .object members ∨ ∃ member ∈ members, node.Within member.type := by
  rw [within_iff]
  simp [parts]

/-! ### Unions -/

theorem mem_alternatives_self {type : TypeExpr} (h : ∀ members, type ≠ .union members) :
    type.alternatives = [type] := by
  cases type <;> first | rfl | exact absurd rfl (h _)

theorem within_of_mem_alternatives {type alternative : TypeExpr}
    (h : alternative ∈ type.alternatives) : alternative.Within type := by
  by_cases hu : ∃ members, type = .union members
  · obtain ⟨members, rfl⟩ := hu
    exact .part h .self
  · rw [mem_alternatives_self fun members hm => hu ⟨members, hm⟩, List.mem_singleton] at h
    exact h ▸ .self

/-- What is no union occurs in a type exactly when it occurs in one of its alternatives. -/
theorem within_iff_alternatives (hu : ∀ members, node ≠ .union members) {type : TypeExpr} :
    node.Within type ↔ ∃ alternative ∈ type.alternatives, node.Within alternative := by
  by_cases h : ∃ members, type = .union members
  · obtain ⟨members, rfl⟩ := h
    rw [within_iff]
    exact or_iff_right (hu members)
  · rw [mem_alternatives_self fun members hm => h ⟨members, hm⟩]
    simp

/-- The distinct alternatives of some types. -/
def distinctAlternatives (types : List TypeExpr) : List TypeExpr :=
  (types.flatMap alternatives).eraseDups

theorem mem_distinctAlternatives {types : List TypeExpr} {alternative : TypeExpr} :
    alternative ∈ distinctAlternatives types ↔ ∃ type ∈ types, alternative ∈ type.alternatives := by
  rw [distinctAlternatives, List.mem_eraseDups, List.mem_flatMap]

theorem nodup_distinctAlternatives (types : List TypeExpr) : (distinctAlternatives types).Nodup :=
  nodup_eraseDups _

/-- What the union of some types is, by the number of their distinct alternatives. -/
theorem unionOf_eq (types : List TypeExpr) :
    (distinctAlternatives types = [] ∧ unionOf types = never) ∨
      (∃ type, distinctAlternatives types = [type] ∧ unionOf types = type) ∨
      (2 ≤ (distinctAlternatives types).length ∧
        unionOf types = .union (distinctAlternatives types)) := by
  unfold unionOf distinctAlternatives
  split
  next h => exact .inl ⟨h, rfl⟩
  next type h => exact .inr (.inl ⟨type, h, rfl⟩)
  next hnil hone =>
    refine .inr (.inr ⟨?_, rfl⟩)
    match h : (types.flatMap alternatives).eraseDups with
    | [] => exact absurd h hnil
    | [type] => exact absurd h (hone type)
    | _ :: _ :: rest => simp

/-- Apart from unions and `never`, the same occurs in the union of some types as in the types. -/
theorem within_unionOf_iff (hu : ∀ members, node ≠ .union members) (hn : node ≠ never)
    {types : List TypeExpr} : node.Within (unionOf types) ↔ ∃ type ∈ types, node.Within type := by
  have hall : (∃ type ∈ types, node.Within type) ↔
      ∃ alternative ∈ distinctAlternatives types, node.Within alternative := by
    constructor
    · rintro ⟨type, ht, hw⟩
      obtain ⟨alternative, ha, hw⟩ := (within_iff_alternatives hu).mp hw
      exact ⟨alternative, mem_distinctAlternatives.mpr ⟨type, ht, ha⟩, hw⟩
    · rintro ⟨alternative, ha, hw⟩
      obtain ⟨type, ht, ha⟩ := mem_distinctAlternatives.mp ha
      exact ⟨type, ht, (within_iff_alternatives hu).mpr ⟨alternative, ha, hw⟩⟩
  rw [hall]
  rcases unionOf_eq types with ⟨hd, heq⟩ | ⟨type, hd, heq⟩ | ⟨-, heq⟩
  · rw [hd, heq]
    exact iff_of_false (fun hw => hn (within_named_iff.mp hw)) (fun ⟨_, h, _⟩ => nomatch h)
  · rw [hd, heq]
    simp
  · rw [heq, within_iff]
    exact or_iff_right (hu _)

end

end ResolverTypes.TypeScript.TypeExpr
