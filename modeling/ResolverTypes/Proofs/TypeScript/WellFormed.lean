import ResolverTypes.Proofs.TypeScript.Nodes
import ResolverTypes.Text.Identifier
import ResolverTypes.TypeScript.Document

/-!
# Well-formed types and documents

What is asked of a type so that its text says what it is: parameters and members go by identifiers,
and a union has at least two members, no two equal and none a union itself.  What the names of types
have to be is left open.  A document is well-formed if its types are, if it imports and declares
identifiers, and if the parts of the document are declarations of the form that is expected there.

## Main definitions

* `IsIdentifier` : the texts that are identifiers.
* `IsWord` : identifiers, and the dotted names of what a namespace declares.
* `TypeExpr.IsReduced` : the members of a union in normal form.
* `TypeExpr.WellFormed` : a type is well-formed, and its names satisfy a condition.
* `Document.WellFormed` : a document is well-formed, and the names of types in it satisfy a
  condition.
* `Document.Mentions` : a name is imported by a document or stands in one of its types.

## Main results

* `TypeExpr.WellFormed.unionOf` : the union of well-formed types is well-formed.
* `Document.WellFormed.mono` : the names that a document mentions may be held to another condition.
-/

namespace ResolverTypes.TypeScript

/-! ### Identifiers and words -/

/-- A text that is an identifier. -/
def IsIdentifier (text : String) : Prop :=
  ∃ c cs, text.toList = c :: cs ∧ Text.isIdentifierStart c = true ∧
    ∀ d ∈ cs, Text.isIdentifierChar d = true

instance (text : String) : Decidable (IsIdentifier text) :=
  decidable_of_iff (text.toList.head?.any Text.isIdentifierStart = true ∧
      text.toList.tail.all Text.isIdentifierChar = true) <| by
    rw [IsIdentifier]
    cases text.toList <;> simp

/-- Whether a character may stand in the dotted name of a type. -/
def isWordChar (c : Char) : Bool := Text.isIdentifierChar c || c == '.'

/-- A text of characters that may stand in the dotted name of a type. -/
def IsWord (text : String) : Prop :=
  text.toList ≠ [] ∧ ∀ c ∈ text.toList, isWordChar c = true

instance (text : String) : Decidable (IsWord text) :=
  decidable_of_iff (text.toList ≠ [] ∧ text.toList.all isWordChar = true) <| by
    rw [IsWord, List.all_eq_true]

theorem isIdentifierChar_of_start {c : Char} (h : Text.isIdentifierStart c = true) :
    Text.isIdentifierChar c = true := by
  unfold Text.isIdentifierStart at h
  unfold Text.isIdentifierChar
  split at h
  next hc =>
    rw [if_pos hc]
    simp only [Char.isAlphanum, Bool.or_eq_true] at h ⊢
    tauto
  next hc => rw [if_neg hc, h, Bool.true_or]

theorem IsIdentifier.isWord {text : String} (h : IsIdentifier text) : IsWord text := by
  obtain ⟨c, cs, htext, hc, hcs⟩ := h
  refine ⟨by rw [htext]; exact List.cons_ne_nil c cs, fun d hd => ?_⟩
  rw [htext] at hd
  rcases List.mem_cons.mp hd with rfl | hd
  · rw [isWordChar, isIdentifierChar_of_start hc, Bool.true_or]
  · rw [isWordChar, hcs d hd, Bool.true_or]

theorem IsIdentifier.append {a b : String} (ha : IsIdentifier a) (hb : IsIdentifier b) :
    IsIdentifier (a ++ b) := by
  obtain ⟨c, cs, hatext, hc, hcs⟩ := ha
  obtain ⟨d, ds, hbtext, hd, hds⟩ := hb
  refine ⟨c, cs ++ d :: ds, ?_, hc, fun e he => ?_⟩
  · rw [String.toList_append, hatext, hbtext, List.cons_append]
  · rcases List.mem_append.mp he with he | he
    · exact hcs e he
    rcases List.mem_cons.mp he with rfl | he
    · exact isIdentifierChar_of_start hd
    · exact hds e he

theorem IsWord.append {a b : String} (ha : IsWord a) (hb : IsWord b) : IsWord (a ++ b) := by
  refine ⟨?_, fun c hc => ?_⟩
  · rw [String.toList_append]
    exact List.append_ne_nil_of_left_ne_nil ha.1 _
  · rw [String.toList_append] at hc
    rcases List.mem_append.mp hc with hc | hc
    · exact ha.2 c hc
    · exact hb.2 c hc

/-! ### Well-formed types -/

namespace TypeExpr

/-- What is asked of the outermost form of a type. -/
def FormedBy (P : String → Prop) : TypeExpr → Prop
  | .named name => P name
  | .union members =>
      2 ≤ members.length ∧ members.Nodup ∧ ∀ m ∈ members, ∀ inner, m ≠ .union inner
  | .function parameters _ => ∀ p ∈ parameters, IsIdentifier p.name
  | .object members => ∀ m ∈ members, IsIdentifier m.name
  | .literal _ | .array _ | .promise _ | .asyncIterator _ => True

/-- The members of a union in normal form: two at least, no two equal, and none a union itself. -/
structure IsReduced (members : List TypeExpr) : Prop where
  two_le_length : 2 ≤ members.length
  nodup : members.Nodup
  ne_union : ∀ member ∈ members, ∀ inner, member ≠ .union inner

/-- A type is well-formed, and the names of types in it satisfy a condition. -/
def WellFormed (P : String → Prop) (type : TypeExpr) : Prop :=
  ∀ node : TypeExpr, node.Within type → node.FormedBy P

section

variable {P Q : String → Prop} {type : TypeExpr}

theorem wellFormed_iff :
    type.WellFormed P ↔ type.FormedBy P ∧ ∀ part ∈ type.parts, part.WellFormed P := by
  constructor
  · exact fun h => ⟨h type .self, fun part hp node hn => h node (.part hp hn)⟩
  · rintro ⟨h, hparts⟩ node hn
    rcases within_iff.mp hn with rfl | ⟨part, hp, hn⟩
    · exact h
    · exact hparts part hp node hn

/-- The names in a well-formed type may be held to another condition that they satisfy. -/
theorem WellFormed.mono (h : type.WellFormed P)
    (hPQ : ∀ name, (named name).Within type → P name → Q name) : type.WellFormed Q := by
  intro node hn
  have hnode := h node hn
  cases node with
  | named name => exact hPQ name hn hnode
  | _ => exact hnode

theorem wellFormed_named {name : String} (h : P name) : (named name).WellFormed P :=
  wellFormed_iff.mpr ⟨h, nofun⟩

theorem wellFormed_literal (value : String) : (literal value).WellFormed P :=
  wellFormed_iff.mpr ⟨trivial, nofun⟩

theorem WellFormed.array (h : type.WellFormed P) : (array type).WellFormed P :=
  wellFormed_iff.mpr ⟨trivial, fun _ hp => List.mem_singleton.mp hp ▸ h⟩

theorem WellFormed.promise (h : type.WellFormed P) : (promise type).WellFormed P :=
  wellFormed_iff.mpr ⟨trivial, fun _ hp => List.mem_singleton.mp hp ▸ h⟩

theorem WellFormed.asyncIterator (h : type.WellFormed P) : (asyncIterator type).WellFormed P :=
  wellFormed_iff.mpr ⟨trivial, fun _ hp => List.mem_singleton.mp hp ▸ h⟩

theorem wellFormed_function {parameters : List (Parameter TypeExpr)}
    (hn : ∀ p ∈ parameters, IsIdentifier p.name) (hp : ∀ p ∈ parameters, p.type.WellFormed P)
    (hr : type.WellFormed P) : (function parameters type).WellFormed P := by
  refine wellFormed_iff.mpr ⟨hn, fun part h => ?_⟩
  rcases List.mem_append.mp h with h | h
  · obtain ⟨p, hmem, rfl⟩ := List.mem_map.mp h
    exact hp p hmem
  · exact List.mem_singleton.mp h ▸ hr

theorem wellFormed_object {members : List (Member TypeExpr)}
    (hn : ∀ m ∈ members, IsIdentifier m.name) (hm : ∀ m ∈ members, m.type.WellFormed P) :
    (object members).WellFormed P := by
  refine wellFormed_iff.mpr ⟨hn, fun part h => ?_⟩
  obtain ⟨m, hmem, rfl⟩ := List.mem_map.mp h
  exact hm m hmem

/-! ### Unions -/

/-- A union in a well-formed type is in normal form. -/
theorem WellFormed.isReduced (h : type.WellFormed P) {members : List TypeExpr}
    (hm : (TypeExpr.union members).Within type) : IsReduced members := by
  obtain ⟨hlength, hnodup, hne⟩ := h _ hm
  exact ⟨hlength, hnodup, hne⟩

/-- The alternatives of a well-formed type are well-formed and no unions. -/
theorem WellFormed.alternative (h : type.WellFormed P) {alternative : TypeExpr}
    (ha : alternative ∈ type.alternatives) :
    alternative.WellFormed P ∧ ∀ members, alternative ≠ .union members := by
  by_cases hu : ∃ members, type = .union members
  · obtain ⟨members, rfl⟩ := hu
    obtain ⟨⟨-, -, hn⟩, hparts⟩ := wellFormed_iff.mp h
    exact ⟨hparts alternative ha, hn alternative ha⟩
  · rw [mem_alternatives_self fun members hm => hu ⟨members, hm⟩, List.mem_singleton] at ha
    rw [ha]
    exact ⟨h, fun members hm => hu ⟨members, hm⟩⟩

/-- The union of well-formed types is well-formed. -/
theorem WellFormed.unionOf {types : List TypeExpr} (h : ∀ type ∈ types, type.WellFormed P)
    (hnever : P "never") : (unionOf types).WellFormed P := by
  have halternatives (alternative : TypeExpr) (ha : alternative ∈ distinctAlternatives types) :
      alternative.WellFormed P ∧ ∀ members, alternative ≠ .union members := by
    obtain ⟨type, ht, ha⟩ := mem_distinctAlternatives.mp ha
    exact (h type ht).alternative ha
  rcases unionOf_eq types with ⟨-, heq⟩ | ⟨type, hd, heq⟩ | ⟨hlen, heq⟩
  · rw [heq]
    exact wellFormed_named hnever
  · rw [heq]
    exact (halternatives type (hd ▸ List.mem_cons_self)).1
  · rw [heq]
    refine wellFormed_iff.mpr ⟨⟨hlen, nodup_distinctAlternatives types, ?_⟩, ?_⟩
    · exact fun member hm => (halternatives member hm).2
    · exact fun member hm => (halternatives member hm).1

theorem WellFormed.deferred (h : type.WellFormed P) (hnever : P "never") :
    (deferred type).WellFormed P := by
  refine WellFormed.unionOf (fun t ht => ?_) hnever
  rcases List.mem_cons.mp ht with rfl | ht
  · exact h
  · exact List.mem_singleton.mp ht ▸ h.promise

end

end TypeExpr

/-! ### Well-formed documents -/

/-- A declaration is well-formed, and the names of types in it satisfy a condition. -/
def Declaration.WellFormed (P : String → Prop) : Declaration → Prop
  | .interface name members =>
      IsIdentifier name ∧ ∀ m ∈ members, IsIdentifier m.name ∧ m.type.WellFormed P
  | .typeAlias name type => IsIdentifier name ∧ type.WellFormed P
  | .defaultResolvers parent fields =>
      parent.WellFormed P ∧ fields ≠ [] ∧ ∀ f ∈ fields, IsIdentifier f

/-- A group is well-formed, and the names of types in it satisfy a condition. -/
def Group.WellFormed (P : String → Prop) (group : Group) : Prop :=
  IsIdentifier group.typeName ∧ ∀ d ∈ group.declarations, d.WellFormed P

/-- An import is of one identifier or several, from a module without a quote in its name. -/
def Import.WellFormed (imported : Import) : Prop :=
  imported.names ≠ [] ∧ (∀ name ∈ imported.names, IsIdentifier name) ∧
    '"' ∉ imported.module.toList

/-- A document is well-formed, and the names of types in it satisfy a condition. -/
structure Document.WellFormed (P : String → Prop) (document : Document) : Prop where
  imports : ∀ i ∈ document.imports, i.WellFormed
  enums : ∀ d ∈ document.enums, (∃ name type, d = .typeAlias name type) ∧ d.WellFormed P
  sharedInputs : ∀ d ∈ document.sharedInputs,
    (∃ name members, d = .interface name members) ∧ d.WellFormed P
  groups : ∀ g ∈ document.groups, g.WellFormed P
  aggregate : (∃ name members, document.aggregate = .interface name members) ∧
    document.aggregate.WellFormed P

/-! ### Names that are mentioned -/

/-- The types that a declaration is made of. -/
def Declaration.types : Declaration → List TypeExpr
  | .interface _ members => members.map (·.type)
  | .typeAlias _ type => [type]
  | .defaultResolvers parent _ => [parent]

/-- All declarations of a document. -/
def Document.declarations (document : Document) : List Declaration :=
  document.enums ++ document.sharedInputs ++ document.groups.flatMap (·.declarations) ++
    [document.aggregate]

/-- A name is imported by a document or stands in one of its types. -/
def Document.Mentions (document : Document) (name : String) : Prop :=
  (∃ i ∈ document.imports, name ∈ i.names) ∨
    ∃ d ∈ document.declarations, ∃ type ∈ d.types, (TypeExpr.named name).Within type

section

variable {P Q : String → Prop}

/-- The types that a well-formed declaration is made of are well-formed. -/
theorem Declaration.WellFormed.types {d : Declaration}
    (h : d.WellFormed P) : ∀ type ∈ d.types, type.WellFormed P := by
  intro type ht
  cases d with
  | interface name members =>
      obtain ⟨member, hm, rfl⟩ := List.mem_map.mp ht
      exact (h.2 member hm).2
  | typeAlias name aliased => exact List.mem_singleton.mp ht ▸ h.2
  | defaultResolvers parent fields => exact List.mem_singleton.mp ht ▸ h.1

theorem Declaration.WellFormed.mono {d : Declaration} (h : d.WellFormed P)
    (hPQ : ∀ name, (∃ type ∈ d.types, (TypeExpr.named name).Within type) → P name → Q name) :
    d.WellFormed Q := by
  have htype (type : TypeExpr) (ht : type ∈ d.types) (hP : type.WellFormed P) :
      type.WellFormed Q :=
    hP.mono fun name hn => hPQ name ⟨type, ht, hn⟩
  cases d with
  | interface name members =>
      exact ⟨h.1, fun m hm => ⟨(h.2 m hm).1, htype m.type (List.mem_map_of_mem hm) (h.2 m hm).2⟩⟩
  | typeAlias name type => exact ⟨h.1, htype type List.mem_cons_self h.2⟩
  | defaultResolvers parent fields => exact ⟨htype parent List.mem_cons_self h.1, h.2⟩

/-- The names that a document mentions may be held to another condition that they satisfy. -/
theorem Document.WellFormed.mono {document : Document} (h : document.WellFormed P)
    (hPQ : ∀ name, document.Mentions name → P name → Q name) : document.WellFormed Q := by
  have hmono (d : Declaration) (hd : d ∈ document.declarations) (hP : d.WellFormed P) :
      d.WellFormed Q :=
    hP.mono fun name hn => hPQ name (.inr ⟨d, hd, hn⟩)
  constructor
  case imports => exact h.imports
  case enums =>
    intro d hd
    exact ⟨(h.enums d hd).1, hmono d (by simp [declarations, hd]) (h.enums d hd).2⟩
  case sharedInputs =>
    intro d hd
    exact ⟨(h.sharedInputs d hd).1, hmono d (by simp [declarations, hd]) (h.sharedInputs d hd).2⟩
  case groups =>
    intro g hg
    refine ⟨(h.groups g hg).1, fun d hd => hmono d ?_ ((h.groups g hg).2 d hd)⟩
    have hmem : d ∈ document.groups.flatMap (·.declarations) := List.mem_flatMap.mpr ⟨g, hg, hd⟩
    exact List.mem_append_left _ (List.mem_append_right _ hmem)
  case aggregate =>
    exact ⟨h.aggregate.1, hmono _ (List.mem_append_right _ List.mem_cons_self) h.aggregate.2⟩

end

end ResolverTypes.TypeScript
