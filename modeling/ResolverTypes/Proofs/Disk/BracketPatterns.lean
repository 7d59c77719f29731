import Mathlib.Algebra.Order.BigOperators.Group.List
import Mathlib.Algebra.Order.Ring.Nat
import ResolverTypes.Proofs.Disk.LiteralPatterns

/-!
# Patterns with brackets

Without stars every part of a pattern stands for one character.  A list in brackets is written with
more than one, so that what fits a pattern with brackets is shorter than the pattern: a path with a
bracket in it never fits itself.

## Main definitions

* `StandsFor` : the pattern that a text without stars stands for.
* `FilePath.span` : the number of characters that a path is made of, but for what leads nowhere.
* `FileTree.reach` : the greatest number of characters that a part of a pattern finds.

## Main results

* `standsFor_of_readTokens` : what a text without stars is read as.
* `FileTree.span_le_of_mem_expand` : what fits is no longer than the parts reach.
* `FileTree.moves_ne_of_mem_pathsMatching` : a path with a bracket does not fit itself.
-/

namespace ResolverTypes

open FilePath (splitParts partComponent?)

/-! ### Patterns without stars -/

/-- What is in brackets is a part of the text, and not an empty one. -/
theorem exists_append_of_bracketed? {chars : List Char} {isOutside : Bool}
    {inside rest : List Char} (h : bracketed? chars = some (isOutside, inside, rest)) :
    ∃ lead ≠ [], chars = lead ++ rest := by
  unfold bracketed? at h
  split at h
  next flag marked heq =>
    have hmark : ∃ mark, chars = mark ++ marked := by
      split at heq
      next => exact ⟨['!'], by rw [(Prod.mk.inj heq).2]; rfl⟩
      next => exact ⟨[], (Prod.mk.inj heq).2⟩
    obtain ⟨mark, rfl⟩ := hmark
    match marked, h with
    | first :: more, h =>
        simp only at h
        split at h
        · cases h
        next bracket behind hdrop =>
          obtain ⟨-, -, rfl⟩ := by simpa using h
          have hmore := List.take_append_drop (more.takeWhile (· != ']')).length more
          rw [hdrop] at hmore
          refine ⟨mark ++ first :: (more.take (more.takeWhile (· != ']')).length ++ [bracket]),
            List.append_ne_nil_of_right_ne_nil mark (List.cons_ne_nil first _), ?_⟩
          simpa using hmore.symm

/-- A text without stars, with the parts of the pattern that it stands for: each of them stands for
one character. -/
inductive StandsFor : List Char → List PatternToken → Prop where
  | nil : StandsFor [] []
  | char {c : Char} {chars : List Char} {tokens : List PatternToken} :
      c ≠ '?' → c ≠ '[' → StandsFor chars tokens → StandsFor (c :: chars) (.char c :: tokens)
  | anyChar {chars : List Char} {tokens : List PatternToken} :
      StandsFor chars tokens → StandsFor ('?' :: chars) (.anyChar :: tokens)
  | bracket {lead chars : List Char} {tokens : List PatternToken} (isOutside : Bool)
      (ranges : List (Char × Char)) :
      lead ≠ [] → StandsFor chars tokens →
        StandsFor ('[' :: lead ++ chars)
          ((if isOutside then .outside ranges else .within ranges) :: tokens)

/-- What a text without stars is read as. -/
theorem standsFor_of_readTokens {position : ℕ} {previous : Option Char} {chars : List Char}
    {tokens : List PatternToken} (hstar : '*' ∉ chars)
    (h : readTokens position previous chars = .ok tokens) : StandsFor chars tokens := by
  fun_induction readTokens position previous chars generalizing tokens with
  | case1 =>
      obtain rfl := Except.ok.inj h
      exact .nil
  | case2 position previous rest ih =>
      obtain ⟨tokens, ht, rfl⟩ := map_eq_ok_iff.mp h
      exact .anyChar (ih (List.not_mem_of_not_mem_cons hstar) ht)
  | case9 => cases h
  | case10 position previous rest isOutside inside more hbracket token =>
      rename_i ih
      obtain ⟨tokens, ht, rfl⟩ := map_eq_ok_iff.mp h
      obtain ⟨lead, hne, rfl⟩ := exists_append_of_bracketed? hbracket
      refine .bracket isOutside (charRanges inside) hne (ih ?_ ht)
      exact fun hmem => hstar (List.mem_cons_of_mem _ (List.mem_append_right lead hmem))
  | case11 position previous c rest hquestion _ _ _ hbracket ih =>
      obtain ⟨tokens, ht, rfl⟩ := map_eq_ok_iff.mp h
      exact .char hquestion hbracket (ih (List.not_mem_of_not_mem_cons hstar) ht)
  | _ => exact absurd List.mem_cons_self hstar

namespace StandsFor

variable {chars : List Char} {tokens : List PatternToken}

theorem length_le (h : StandsFor chars tokens) : tokens.length ≤ chars.length := by
  induction h with
  | nil => exact Nat.le_refl _
  | char _ _ _ ih => exact Nat.succ_le_succ ih
  | anyChar _ ih => exact Nat.succ_le_succ ih
  | bracket _ _ _ _ ih =>
      simp only [List.length_cons, List.cons_append, List.length_append]
      omega

/-- A bracket stands for one character, but is written with more. -/
theorem length_lt (h : StandsFor chars tokens) (hmem : '[' ∈ chars) :
    tokens.length < chars.length := by
  induction h with
  | nil => cases hmem
  | char _ hne _ ih => exact Nat.succ_lt_succ (ih (List.mem_of_ne_of_mem hne.symm hmem))
  | anyChar _ ih => exact Nat.succ_lt_succ (ih (List.mem_of_ne_of_mem (by decide) hmem))
  | @bracket lead chars tokens _ _ hne h _ =>
      have hlead := List.length_pos_of_ne_nil hne
      have hrest := h.length_le
      simp only [List.length_cons, List.cons_append, List.length_append]
      omega

theorem not_mem_anyDirectories (h : StandsFor chars tokens) : .anyDirectories ∉ tokens := by
  induction h with
  | nil => exact List.not_mem_nil
  | char _ _ _ ih => simpa using ih
  | anyChar _ ih => simpa using ih
  | bracket isOutside _ _ _ ih => cases isOutside <;> simpa using ih

/-- The names that fit are as long as the pattern. -/
theorem length_of_matchesTokens (h : StandsFor chars tokens) {name : List Char}
    (hname : matchesTokens tokens name = true) : name.length = tokens.length := by
  have hcons {token : PatternToken} {tokens : List PatternToken} {name : List Char}
      (hsequence : token ≠ .anySequence) (hname : matchesTokens (token :: tokens) name = true) :
      ∃ c rest, name = c :: rest ∧ matchesTokens tokens rest = true := by
    cases name with
    | nil => cases token <;> simp [matchesTokens] at hname hsequence
    | cons c rest =>
        refine ⟨c, rest, rfl, ?_⟩
        cases token <;> simp [matchesTokens] at hname hsequence <;> simp [hname]
  induction h generalizing name with
  | nil =>
      rw [matchesTokens] at hname
      rw [List.isEmpty_iff.mp hname]
      rfl
  | char _ _ _ ih =>
      obtain ⟨c, rest, rfl, hrest⟩ := hcons (by simp) hname
      exact congrArg (· + 1) (ih hrest)
  | anyChar _ ih =>
      obtain ⟨c, rest, rfl, hrest⟩ := hcons (by simp) hname
      exact congrArg (· + 1) (ih hrest)
  | bracket isOutside _ _ _ ih =>
      obtain ⟨c, rest, rfl, hrest⟩ := hcons (by cases isOutside <;> simp) hname
      exact congrArg (· + 1) (ih hrest)

/-- A text that stands for itself has no wildcards. -/
theorem eq_of_map_char {own : List Char} (h : StandsFor chars (own.map .char)) :
    chars = own ∧ '?' ∉ chars ∧ '[' ∉ chars := by
  generalize htokens : own.map PatternToken.char = tokens at h
  induction h generalizing own with
  | nil => exact ⟨(List.map_eq_nil_iff.mp htokens).symm, by simp⟩
  | char hquestion hbracket _ ih =>
      obtain ⟨c, rest, rfl, hc, hrest⟩ := List.map_eq_cons_iff.mp htokens
      obtain rfl := PatternToken.char.inj hc
      obtain ⟨rfl, hq, hb⟩ := ih hrest
      exact ⟨rfl, List.not_mem_cons_of_ne_of_not_mem hquestion.symm hq,
        List.not_mem_cons_of_ne_of_not_mem hbracket.symm hb⟩
  | anyChar =>
      obtain ⟨c, rest, -, hc, -⟩ := List.map_eq_cons_iff.mp htokens
      cases hc
  | bracket isOutside =>
      obtain ⟨c, rest, -, hc, -⟩ := List.map_eq_cons_iff.mp htokens
      cases isOutside <;> cases hc

theorem eq_map_char (h : StandsFor chars tokens) (hquestion : '?' ∉ chars) (hbracket : '[' ∉ chars) :
    tokens = chars.map .char := by
  induction h with
  | nil => rfl
  | char _ _ _ ih =>
      rw [List.map_cons, ih (List.not_mem_of_not_mem_cons hquestion)
        (List.not_mem_of_not_mem_cons hbracket)]
  | anyChar => exact absurd List.mem_cons_self hquestion
  | bracket => exact absurd List.mem_cons_self hbracket

end StandsFor

theorem eq_map_char_of_literalText? {tokens : List PatternToken} {name : String}
    (h : literalText? tokens = some name) : tokens = name.toList.map .char := by
  obtain ⟨chars, hchars, rfl⟩ := Option.map_eq_some_iff.mp h
  rw [String.toList_ofList]
  clear h
  induction tokens generalizing chars with
  | nil =>
      obtain rfl := Option.some.inj hchars
      rfl
  | cons token tokens ih =>
      cases token with
      | char c =>
          rw [List.mapM_cons] at hchars
          obtain ⟨own, hown, hchars⟩ := Option.bind_eq_some_iff.mp hchars
          obtain ⟨rest, hrest, hchars⟩ := Option.bind_eq_some_iff.mp hchars
          obtain rfl := Option.some.inj hown
          obtain rfl := Option.some.inj hchars
          rw [List.map_cons, ← ih rest hrest]
      | _ => cases hchars

/-! ### How much a path names -/

/-- The number of characters with which a component is written, if it leads to another place. -/
def PathComponent.span : PathComponent → ℕ
  | .root => 0
  | .current => 0
  | .up => 2
  | .entry name => name.toList.length

namespace FilePath

/-- The number of characters with which the components of a path are written. -/
def span (path : FilePath) : ℕ := (path.moves.map PathComponent.span).sum

/-- The number of characters of a part, if it stands for a component. -/
def partSpan (part : List Char) : ℕ := if partComponent? part = none then 0 else part.length

theorem partSpan_le (part : List Char) : partSpan part ≤ part.length := by
  rw [partSpan]
  split
  · exact Nat.zero_le _
  · exact Nat.le_refl _

theorem sum_span_toList (part : List Char) :
    ((partComponent? part).toList.map PathComponent.span).sum = partSpan part := by
  unfold partSpan partComponent?
  split
  · rfl
  · rfl
  · rfl
  · simp [PathComponent.span]

theorem sum_span_filterMap (parts : List (List Char)) :
    ((parts.filterMap partComponent?).map PathComponent.span).sum = (parts.map partSpan).sum := by
  induction parts with
  | nil => rfl
  | cons part parts ih =>
      rw [filterMap_partComponent?_cons, List.map_append, List.sum_append, sum_span_toList, ih,
        List.map_cons, List.sum_cons]

theorem span_eq (path : FilePath) : path.span = (path.names.map partSpan).sum := by
  rw [span, moves_eq_names, List.map_append, List.sum_append, sum_span_filterMap]
  split <;> exact Nat.zero_add _

theorem sum_partSpan_splitParts_le (chars : List Char) :
    ((splitParts chars).map partSpan).sum ≤ chars.length := by
  have hlength : ((splitParts chars).map List.length).sum ≤ chars.length := by
    induction chars with
    | nil => exact Nat.le_refl 0
    | cons c chars ih =>
        rw [splitParts]
        split
        · exact (Nat.zero_add _).trans_le (ih.trans (Nat.le_succ _))
        · split
          next h => exact absurd h (splitParts_ne_nil chars)
          next part parts h =>
            rw [h] at ih
            simp only [List.map_cons, List.sum_cons, List.length_cons] at ih ⊢
            omega
  exact (List.sum_le_sum fun part _ => partSpan_le part).trans hlength

theorem span_le (path : FilePath) : path.span ≤ path.toList.length := by
  rw [span, moves_eq, List.map_append, List.sum_append, sum_span_filterMap]
  split <;> exact (Nat.zero_add _).trans_le (sum_partSpan_splitParts_le path.toList)

/-- A name adds at most its characters. -/
theorem span_join_le (path name : FilePath) :
    (path.join name).span ≤ path.span + name.toList.length := by
  by_cases hname : name.isAbsolute = true ∨ path = ""
  · rw [join_eq_right hname]
    exact (span_le name).trans (Nat.le_add_left _ _)
  · rw [not_or] at hname
    rw [span, moves, components_join hname.2 hname.1, List.filter_append,
      filter_filterMap_partComponent?, List.map_append, List.sum_append, sum_span_filterMap]
    exact Nat.add_le_add_left (sum_partSpan_splitParts_le _) _

theorem span_childPath_le (path : FilePath) (name : String) :
    (FileTree.childPath path name).span ≤ path.span + name.toList.length := by
  rw [FileTree.childPath]
  split
  · exact (span_le name).trans (Nat.le_add_left _ _)
  · exact span_join_le path name

theorem span_of_not_mem {part : List Char} (h : '/' ∉ part) :
    span (String.ofList part) = partSpan part := by
  rw [span, moves_of_not_mem (by rwa [String.toList_ofList]), String.toList_ofList,
    sum_span_toList]

/-- A part adds at most the characters of its component. -/
theorem span_childPath_ofList_le (path : FilePath) {part : List Char} (h : '/' ∉ part) :
    (FileTree.childPath path (String.ofList part)).span ≤ path.span + partSpan part := by
  have hpart : '/' ∉ (String.ofList part).toList := by rwa [String.toList_ofList]
  rw [FileTree.childPath]
  split
  · exact (span_of_not_mem h).trans_le (Nat.le_add_left _ _)
  · by_cases hempty : path = ""
    · rw [join_eq_right (.inr hempty), span_of_not_mem h]
      exact Nat.le_add_left _ _
    · rw [span, moves_join hempty hpart, List.map_append, List.sum_append, String.toList_ofList,
        sum_span_toList]
      rfl

end FilePath

/-! ### What fits a pattern without stars -/

namespace FileTree

variable {tree : FileTree} {directory : Location} {path : FilePath}

theorem matchesTokens_of_mem_specialNames {tokens : List PatternToken} {name : String}
    (h : name ∈ specialNames tokens) : matchesTokens tokens name.toList = true := by
  unfold specialNames at h
  split at h
  · exact (List.mem_filter.mp h).2
  · cases h

theorem eq_childPath_of_mem_childPaths {child : FilePath × String}
    (h : child ∈ tree.childPaths directory path) : child.1 = childPath path child.2 := by
  unfold childPaths at h
  split at h
  · obtain ⟨name, -, rfl⟩ := List.mem_map.mp h
    rfl
  · cases h

/-- Below a component that does not stand for itself, names are found that fit it. -/
theorem exists_of_mem_expand {tokens : List PatternToken} {rest : List (List PatternToken)}
    {found : FilePath} (hliteral : literalText? tokens = none)
    (hdirectories : isAnyDirectories tokens = false)
    (h : path ∈ tree.expand directory (tokens :: rest) found) :
    ∃ name : String, matchesTokens tokens name.toList = true ∧
      (path ∈ tree.expand directory rest (found.join name) ∨
        path ∈ tree.expand directory rest (childPath found name)) := by
  cases rest with
  | nil =>
      rw [expand, hliteral] at h
      dsimp only at h
      rw [if_neg (Bool.eq_false_iff.mp hdirectories)] at h
      split at h
      · cases h
      rcases List.mem_append.mp h with h | h
      · obtain ⟨name, hname, rfl⟩ := List.mem_map.mp h
        exact ⟨name, matchesTokens_of_mem_specialNames hname, .inl List.mem_cons_self⟩
      · obtain ⟨child, hchild, rfl⟩ := List.mem_map.mp h
        obtain ⟨hmem, hname⟩ := List.mem_filter.mp hchild
        refine ⟨child.2, hname, .inr ?_⟩
        rw [eq_childPath_of_mem_childPaths hmem]
        exact List.mem_cons_self
  | cons next rest =>
      rw [expand, hliteral] at h
      dsimp only at h
      rw [if_neg (Bool.eq_false_iff.mp hdirectories)] at h
      split at h
      · cases h
      rcases List.mem_append.mp h with h | h
      · obtain ⟨name, hname, hpath⟩ := List.mem_flatMap.mp h
        exact ⟨name, matchesTokens_of_mem_specialNames hname, .inl hpath⟩
      · obtain ⟨child, hmem, hpath⟩ := List.mem_flatMap.mp h
        split at hpath
        next hname =>
          rw [eq_childPath_of_mem_childPaths hmem] at hpath
          exact ⟨child.2, hname, .inr hpath⟩
        next => cases hpath

theorem eq_childPath_of_literalPath? {found next : FilePath} {name : String}
    (h : tree.literalPath? directory found name = some next) : next = childPath found name := by
  unfold literalPath? at h
  split at h
  · split at h
    · exact (Option.some.inj h).symm
    · cases h
  · dsimp only at h
    split at h
    · exact (Option.some.inj h).symm
    · cases h

theorem partSpan_of_mem {part : List Char} {c : Char} (h : c ∈ part) (hdot : c ≠ '.') :
    FilePath.partSpan part = part.length := by
  have hsome : partComponent? part ≠ none := by
    intro hnone
    rcases FilePath.partComponent?_eq_none_iff.mp hnone with rfl | rfl
    · cases h
    · exact hdot (List.mem_singleton.mp h)
  rw [FilePath.partSpan, if_neg hsome]

/-- The greatest number of characters that a part finds: a bracket finds one, but is written with
more. -/
def reach (part : List Char) : ℕ :=
  if '[' ∈ part then part.length - 1 else FilePath.partSpan part

/-- What fits a part that does not stand for itself is within its reach. -/
theorem length_le_reach {part : List Char} {tokens : List PatternToken}
    (h : StandsFor part tokens) (hliteral : literalText? tokens = none) :
    tokens.length ≤ reach part := by
  rw [reach]
  split
  next hbracket => exact Nat.le_sub_one_of_lt (h.length_lt hbracket)
  next hbracket =>
    have hquestion : '?' ∈ part := by
      by_contra hquestion
      rw [h.eq_map_char hquestion hbracket, literalText?_map_char] at hliteral
      cases hliteral
    rw [partSpan_of_mem hquestion (by decide)]
    exact h.length_le

/-- What fits parts without stars names no more than the parts reach. -/
theorem span_le_of_mem_expand {parts : List (List Char)} {components : List (List PatternToken)}
    (h : List.Forall₂ StandsFor parts components) (hslash : ∀ part ∈ parts, '/' ∉ part)
    {found : FilePath} (hpath : path ∈ tree.expand directory components found) :
    path.span ≤ found.span + (parts.map reach).sum := by
  induction h generalizing found with
  | nil =>
      rw [expand] at hpath
      rw [List.mem_singleton.mp hpath]
      exact Nat.le_add_right _ _
  | @cons part tokens parts rest hpart _ ih =>
      obtain ⟨hpartSlash, hrest⟩ := List.forall_mem_cons.mp hslash
      have behind {next : FilePath} (hnext : next.span ≤ found.span + reach part)
          (hpath : path ∈ tree.expand directory rest next) :
          path.span ≤ found.span + ((part :: parts).map reach).sum :=
        calc path.span ≤ next.span + (parts.map reach).sum := ih hrest hpath
          _ ≤ found.span + reach part + (parts.map reach).sum := Nat.add_le_add_right hnext _
          _ = found.span + ((part :: parts).map reach).sum := by
            rw [List.map_cons, List.sum_cons, Nat.add_assoc]
      cases hliteral : literalText? tokens with
      | some name =>
          rw [eq_map_char_of_literalText? hliteral] at hpart
          obtain ⟨rfl, -, hbracket⟩ := hpart.eq_of_map_char
          rw [expand_cons_of_literalText? hliteral] at hpath
          split at hpath
          next next hnext =>
            refine behind ?_ hpath
            rw [eq_childPath_of_literalPath? hnext, reach, if_neg hbracket]
            simpa using FilePath.span_childPath_ofList_le found hpartSlash
          next => cases hpath
      | none =>
          have hdirectories : isAnyDirectories tokens = false := by
            simpa [isAnyDirectories] using hpart.not_mem_anyDirectories
          obtain ⟨name, hname, hpath⟩ := exists_of_mem_expand hliteral hdirectories hpath
          have hlength : name.toList.length ≤ reach part :=
            (hpart.length_of_matchesTokens hname).trans_le (length_le_reach hpart hliteral)
          rcases hpath with hpath | hpath
          · exact behind ((FilePath.span_join_le found name).trans
              (Nat.add_le_add_left hlength _)) hpath
          · exact behind ((FilePath.span_childPath_le found name).trans
              (Nat.add_le_add_left hlength _)) hpath

theorem reach_lt {part : List Char} (h : '[' ∈ part) : reach part < FilePath.partSpan part := by
  rw [reach, if_pos h, partSpan_of_mem h (by decide)]
  exact Nat.sub_one_lt (List.length_pos_of_mem h).ne'

theorem reach_le (part : List Char) : reach part ≤ FilePath.partSpan part := by
  by_cases h : '[' ∈ part
  · exact (reach_lt h).le
  · rw [reach, if_neg h]

/-- The components of a pattern are read from its parts, and what fits it fits them. -/
theorem exists_components_of_pathsMatching {pattern : FilePath} {paths : List FilePath}
    (hlast : pattern.names.getLast? ≠ some [])
    (h : tree.pathsMatching directory pattern = .ok paths) :
    ∃ components, List.Forall₂ (fun part tokens => readTokens 0 none part = .ok tokens)
        pattern.names components ∧
      ∀ path ∈ paths, path ∈ tree.expand directory (collapseDirectories components)
        (if pattern.isAbsolute then "/" else ".") := by
  rw [pathsMatching, bind_eq_ok_iff] at h
  obtain ⟨_, -, h⟩ := h
  obtain ⟨components, hcomponents, h⟩ := bind_eq_ok_iff.mp h
  rw [patternComponents_eq hlast, mapM_eq_ok_iff, List.forall₂_map_left_iff] at hcomponents
  refine ⟨components, hcomponents.imp fun part tokens hp => ?_, ?_⟩
  · rwa [readPattern, String.toList_ofList] at hp
  · rw [← Except.ok.inj h, if_neg (getLast?_ne_slash hlast)]
    exact fun path hpath => hpath

/-- A path without stars, but with a bracket, is not among the paths that fit it as a pattern. -/
theorem moves_ne_of_mem_pathsMatching {pattern : FilePath} (hstar : '*' ∉ pattern.toList)
    (hbracket : '[' ∈ pattern.toList) (hlast : pattern.names.getLast? ≠ some [])
    {paths : List FilePath} (h : tree.pathsMatching directory pattern = .ok paths)
    (hpath : path ∈ paths) : path.moves ≠ pattern.moves := by
  obtain ⟨components, hcomponents, hmem⟩ := exists_components_of_pathsMatching hlast h
  have hstands : List.Forall₂ StandsFor pattern.names components :=
    forall₂_imp_of_mem hcomponents fun part hp tokens ht =>
      standsFor_of_readTokens (fun hin => hstar (FilePath.mem_of_mem_names hp '*' hin).1) ht
  have hdirectories : ∀ tokens ∈ components, isAnyDirectories tokens = false := by
    intro tokens ht
    obtain ⟨part, -, hpart⟩ := exists_mem_of_forall₂ hstands ht
    simpa [isAnyDirectories] using hpart.not_mem_anyDirectories
  have hslash : ∀ part ∈ pattern.names, '/' ∉ part := fun _ => FilePath.not_mem_of_mem_names
  have hfound := hmem path hpath
  rw [collapseDirectories_eq_self hdirectories] at hfound
  have hspan := span_le_of_mem_expand hstands hslash hfound
  have hstart : FilePath.span (if pattern.isAbsolute then "/" else ".") = 0 := by
    split <;> decide +kernel
  obtain ⟨part, hpart, hin⟩ := FilePath.exists_mem_names hbracket (by decide)
  have hlt : (pattern.names.map reach).sum < (pattern.names.map FilePath.partSpan).sum :=
    List.sum_lt_sum _ _ (fun part _ => reach_le part) ⟨part, hpart, reach_lt hin⟩
  rw [hstart, Nat.zero_add] at hspan
  rw [← FilePath.span_eq] at hlt
  intro hsame
  rw [FilePath.span, hsame] at hspan
  exact absurd hlt (Nat.not_lt.mpr hspan)

end FileTree

end ResolverTypes
