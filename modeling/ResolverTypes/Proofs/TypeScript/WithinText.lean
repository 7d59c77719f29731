import ResolverTypes.Proofs.TypeScript.WellFormed
import ResolverTypes.TypeScript.Document

/-!
# Types within texts

The text of a type stands in the text of everything that the type is a part of: of the types around
it, of the declaration that it is made for, and of the document.

## Main definitions

* `StandsIn` : a text stands somewhere in another.

## Main results

* `standsIn_render_of_within` : the text of a type stands in that of every type in which it occurs.
* `Document.standsIn_render_of_mem_imports`, `Document.standsIn_render_of_within` : the texts of
  imports and of types stand in the text of a document.
-/

namespace ResolverTypes.TypeScript

/-! ### Texts in texts -/

/-- A text stands somewhere in another. -/
def StandsIn (piece text : String) : Prop := piece.toList <:+: text.toList

namespace StandsIn

variable {piece text : String}

theorem refl (text : String) : StandsIn text text := List.infix_refl text.toList

theorem trans {middle : String} (h : StandsIn piece middle) (h' : StandsIn middle text) :
    StandsIn piece text :=
  List.IsInfix.trans h h'

theorem behind (h : StandsIn piece text) (front : String) : StandsIn piece (front ++ text) := by
  rw [StandsIn, String.toList_append]
  exact List.IsInfix.trans h (List.suffix_append _ _).isInfix

theorem before (h : StandsIn piece text) (back : String) : StandsIn piece (text ++ back) := by
  rw [StandsIn, String.toList_append]
  exact List.IsInfix.trans h (List.prefix_append _ _).isInfix

theorem join {texts : List String} (h : StandsIn piece text) (hm : text ∈ texts) :
    StandsIn piece (String.join texts) := by
  induction texts with
  | nil => cases hm
  | cons first texts ih =>
    rw [String.join_cons]
    rcases List.mem_cons.mp hm with rfl | hm
    · exact h.before _
    · exact (ih hm).behind first

end StandsIn

/-! ### Types -/

namespace TypeExpr

theorem standsIn_renderAlternatives {member : TypeExpr} {members : List TypeExpr}
    (h : member ∈ members) : StandsIn member.render (renderAlternatives members) := by
  have own (t : TypeExpr) :
      StandsIn t.render (if t.needsParentheses then "(" ++ t.render ++ ")" else t.render) := by
    split
    · exact ((StandsIn.refl _).behind _).before _
    · exact .refl _
  induction members with
  | nil => cases h
  | cons first members ih =>
    cases members with
    | nil =>
      rw [List.mem_singleton.mp h]
      exact own first
    | cons second members =>
      rw [renderAlternatives]
      rcases List.mem_cons.mp h with rfl | h
      · exact ((own member).before _).before _
      · exact (ih h).behind _

theorem standsIn_renderParameters {parameter : Parameter TypeExpr}
    {parameters : List (Parameter TypeExpr)} (h : parameter ∈ parameters) :
    StandsIn parameter.type.render (renderParameters parameters) := by
  induction parameters with
  | nil => cases h
  | cons first parameters ih =>
    cases parameters with
    | nil =>
      rw [List.mem_singleton.mp h]
      exact (StandsIn.refl _).behind _
    | cons second parameters =>
      rw [renderParameters]
      rcases List.mem_cons.mp h with rfl | h
      · exact (((StandsIn.refl _).behind _).before _).before _
      · exact (ih h).behind _

theorem standsIn_renderMembers {member : Member TypeExpr} {members : List (Member TypeExpr)}
    (h : member ∈ members) : StandsIn member.type.render (renderMembers members) := by
  induction members with
  | nil => cases h
  | cons first members ih =>
    cases members with
    | nil =>
      rw [List.mem_singleton.mp h]
      exact (StandsIn.refl _).behind _
    | cons second members =>
      rw [renderMembers]
      rcases List.mem_cons.mp h with rfl | h
      · exact (((StandsIn.refl _).behind _).before _).before _
      · exact (ih h).behind _

theorem standsIn_render_of_mem_parts {part type : TypeExpr} (h : part ∈ type.parts) :
    StandsIn part.render type.render := by
  cases type with
  | named name => cases h
  | literal value => cases h
  | array item | promise item | asyncIterator item =>
    rw [List.mem_singleton.mp h, render]
    exact ((StandsIn.refl _).behind _).before _
  | union members =>
    rw [render]
    exact standsIn_renderAlternatives h
  | function parameters result =>
    rw [render]
    rcases List.mem_append.mp h with h | h
    · obtain ⟨parameter, hp, rfl⟩ := List.mem_map.mp h
      exact (((standsIn_renderParameters hp).behind _).before _).before _
    · rw [List.mem_singleton.mp h]
      exact (StandsIn.refl _).behind _
  | object members =>
    obtain ⟨member, hm, rfl⟩ := List.mem_map.mp h
    cases members with
    | nil => cases hm
    | cons first members =>
      rw [render]
      exact ((standsIn_renderMembers hm).behind _).before _

/-- The text of a type stands in that of every type in which it occurs. -/
theorem standsIn_render_of_within {node type : TypeExpr} (h : node.Within type) :
    StandsIn node.render type.render := by
  induction h with
  | self => exact .refl _
  | part hp _ ih => exact ih.trans (standsIn_render_of_mem_parts hp)

end TypeExpr

/-! ### Declarations -/

theorem standsIn_line (depth : Nat) (text : String) : StandsIn text (line depth text) :=
  ((StandsIn.refl text).behind _).before _

/-- The texts of the types that a declaration is made of stand in its text. -/
theorem Declaration.standsIn_render {P : String → Prop} {declaration : Declaration}
    (hd : declaration.WellFormed P) (depth : Nat) {type : TypeExpr}
    (ht : type ∈ declaration.types) : StandsIn type.render (declaration.render depth) := by
  cases declaration with
  | interface name members =>
    obtain ⟨member, hm, rfl⟩ := List.mem_map.mp ht
    have hmember : StandsIn member.type.render member.render := (StandsIn.refl _).behind _
    have hline : StandsIn member.type.render (line (depth + 1) (member.render ++ ";")) :=
      (hmember.before ";").trans (standsIn_line _ _)
    have hlines : StandsIn member.type.render
        (String.join (members.map fun m => line (depth + 1) (m.render ++ ";"))) :=
      hline.join (List.mem_map_of_mem hm)
    rw [render]
    exact (hlines.behind _).before _
  | typeAlias name aliased =>
    rw [List.mem_singleton.mp ht, render]
    exact (((StandsIn.refl _).behind _).before _).trans (standsIn_line _ _)
  | defaultResolvers parent fields =>
    -- there is a field, in whose line the type of the parent stands
    obtain ⟨-, hne, -⟩ := hd
    obtain ⟨field, hf⟩ := List.exists_mem_of_ne_nil fields hne
    have hresolver : StandsIn parent.render
        (field ++ ": (parent: " ++ parent.render ++ ") => parent." ++ field ++ ",") :=
      ((((StandsIn.refl _).behind _).before _).before _).before _
    have hlines : StandsIn parent.render (String.join (fields.map fun f =>
        line (depth + 1) (f ++ ": (parent: " ++ parent.render ++ ") => parent." ++ f ++ ","))) :=
      (hresolver.trans (standsIn_line (depth + 1) _)).join (List.mem_map_of_mem hf)
    rw [List.mem_singleton.mp ht, render]
    exact (hlines.behind _).before _

/-! ### Documents -/

/-- The module stands between quotes in the text of an import. -/
theorem Import.standsIn_render (imported : Import) :
    StandsIn ("\"" ++ imported.module ++ "\"") imported.render := by
  have hrender : imported.render = "import \x7b " ++ ", ".intercalate imported.names ++
      " \x7d from " ++ ("\"" ++ imported.module ++ "\"") ++ ";" := by
    have hfrom : " \x7d from \"" = " \x7d from " ++ "\"" := rfl
    have hend : "\";" = "\"" ++ ";" := rfl
    simp only [render, hfrom, hend, String.append_assoc]
  rw [hrender]
  exact ((StandsIn.refl _).behind _).before _

namespace Document

variable {document : Document}

/-- The texts of the imports stand in the text of a document. -/
theorem standsIn_render_of_mem_imports {i : Import} (hi : i ∈ document.imports) :
    StandsIn i.render document.render := by
  have hline : StandsIn i.render (i.render ++ "\n") := (StandsIn.refl _).before _
  have hlines : StandsIn i.render (String.join (document.imports.map fun i => i.render ++ "\n")) :=
    hline.join (List.mem_map_of_mem hi)
  rw [render]
  exact (((((hlines.behind _).before _).before _).before _).before _)

/-- The texts of the declarations, indented or not, stand in the text of a document. -/
theorem exists_standsIn_render_of_mem_declarations {d : Declaration}
    (hd : d ∈ document.declarations) :
    ∃ depth, StandsIn (d.render depth) document.render := by
  rw [declarations, List.mem_append, List.mem_append, List.mem_flatMap, List.mem_singleton] at hd
  rcases hd with (hd | ⟨g, hg, hd⟩) | rfl
  · refine ⟨0, ?_⟩
    have hblock : StandsIn (d.render 0) ("\n" ++ d.render 0) := (StandsIn.refl _).behind _
    have hblocks : StandsIn (d.render 0) (String.join
        ((document.enums ++ document.sharedInputs).map fun d => "\n" ++ d.render 0)) :=
      hblock.join (List.mem_map_of_mem hd)
    rw [render]
    exact (((hblocks.behind _).before _).before _).before _
  · refine ⟨1, ?_⟩
    have hdeclarations : StandsIn (d.render 1)
        (String.join (g.declarations.map (·.render 1))) :=
      (StandsIn.refl _).join (List.mem_map_of_mem hd)
    have hgroup : StandsIn (d.render 1) g.render := by
      rw [Group.render]
      exact (hdeclarations.behind _).before _
    have hgroups : StandsIn (d.render 1)
        (String.join (document.groups.map fun g => "\n" ++ g.render)) :=
      (hgroup.behind "\n").join (List.mem_map_of_mem hg)
    rw [render]
    exact ((hgroups.behind _).before _).before _
  · refine ⟨0, ?_⟩
    rw [render]
    exact (StandsIn.refl _).behind _

/-- The text of whatever occurs in a type of a well-formed declaration stands in the text of the
document. -/
theorem standsIn_render_of_within {P : String → Prop} {d : Declaration}
    (hd : d ∈ document.declarations) (hP : d.WellFormed P) {node type : TypeExpr}
    (ht : type ∈ d.types) (hn : node.Within type) : StandsIn node.render document.render := by
  obtain ⟨depth, hdocument⟩ := exists_standsIn_render_of_mem_declarations hd
  have htype : StandsIn type.render (d.render depth) := d.standsIn_render hP depth ht
  exact ((TypeExpr.standsIn_render_of_within hn).trans htype).trans hdocument

end Document

end ResolverTypes.TypeScript
