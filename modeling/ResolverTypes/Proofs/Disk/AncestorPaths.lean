import ResolverTypes.Config.Discovery
import ResolverTypes.Proofs.Disk.FileChanges
import ResolverTypes.Proofs.Disk.PathParts

/-!
# The directories above a path

The directory that a path stands in has all components of the path but the last.  Going from
directory to directory therefore comes to an end, at the root or at the empty path, and lists every
directory above the path once, the nearest first.

## Main definitions

* `FilePath.charComponents` : the components that characters stand for.

## Main results

* `FilePath.exists_components_eq_of_parent?` : the components of the directory of a path.
* `FilePath.induction_parent?` : induction over the directories above a path.
* `FilePath.mem_ancestors_iff`, `FilePath.pairwise_ancestors` : the directories above a path, in
  their order.
* `FilePath.exists_atOrAbove_iff` : the directories at or above a path by their components.
-/

namespace ResolverTypes.FilePath

variable {path parent ancestor : FilePath} {chars part before : List Char}

/-! ### Components of characters -/

/-- The components that characters stand for. -/
def charComponents (chars : List Char) : List PathComponent :=
  (if chars.head? = some '/' then [.root]
    else if (splitParts chars).head? = some ['.'] then [.current] else []) ++
    (splitParts chars).filterMap partComponent?

theorem components_eq_charComponents (path : FilePath) :
    path.components = charComponents path.toList := by
  rw [components_eq, charComponents, isAbsolute]
  simp only [beq_iff_eq]

theorem components_ofList (chars : List Char) :
    components (String.ofList chars) = charComponents chars := by
  rw [components_eq_charComponents, String.toList_ofList]

/-- A part behind a slash adds its own component. -/
theorem charComponents_append_cons (before : List Char) (h : '/' ∉ part) :
    charComponents (before ++ '/' :: part) =
      charComponents (before ++ ['/']) ++ (partComponent? part).toList := by
  have hhead : (before ++ '/' :: part).head? = (before ++ ['/']).head? := by
    cases before <;> rfl
  obtain ⟨first, rest, hparts⟩ := List.exists_cons_of_ne_nil (splitParts_ne_nil before)
  have hlong : splitParts (before ++ '/' :: part) = first :: rest ++ [part] := by
    rw [splitParts_append_cons, splitParts_of_not_mem h, hparts]
  have hshort : splitParts (before ++ ['/']) = first :: rest ++ [[]] := by
    rw [splitParts_append_cons, hparts]
    rfl
  rw [charComponents, charComponents, hhead, hlong, hshort, List.filterMap_append,
    List.filterMap_append, filterMap_partComponent?_singleton, ← List.append_assoc]
  simp [partComponent?]

/-- A slash at the end of a path that is more than the slash changes no component. -/
theorem charComponents_append_slash (h : before ≠ []) :
    charComponents (before ++ ['/']) = charComponents before := by
  obtain ⟨first, rest, hparts⟩ := List.exists_cons_of_ne_nil (splitParts_ne_nil before)
  have hhead : (before ++ ['/']).head? = before.head? := List.head?_append_of_ne_nil before h
  have hslash : splitParts (before ++ ['/']) = first :: rest ++ [[]] := by
    rw [splitParts_append_cons, hparts]
    rfl
  rw [charComponents, charComponents, hhead, hslash, hparts, List.filterMap_append]
  simp [partComponent?]

/-- A part without a slash has one component at most, which is not the root. -/
theorem charComponents_of_not_mem (h : '/' ∉ part) :
    charComponents part = [] ∨ ∃ component ≠ .root, charComponents part = [component] := by
  have hhead : part.head? ≠ some '/' := fun hh => h (List.mem_of_head? hh)
  rw [charComponents, if_neg hhead, splitParts_of_not_mem h, filterMap_partComponent?_singleton]
  by_cases hdot : part = ['.']
  · exact .inr ⟨.current, nofun, by rw [hdot]; rfl⟩
  · have hstart : [part].head? ≠ some ['.'] := fun hh => hdot (Option.some.inj hh)
    rw [if_neg hstart]
    cases hc : partComponent? part with
    | none => exact .inl rfl
    | some component =>
        refine .inr ⟨component, ?_, rfl⟩
        rcases eq_up_or_entry_of_partComponent? hc with rfl | ⟨name, rfl⟩ <;> exact nofun

/-! ### The end of a path -/

/-- What carries no meaning at the end of a path may be taken away. -/
theorem charComponents_trimEndReversed (chars : List Char) :
    charComponents (trimEndReversed chars).reverse = charComponents chars.reverse := by
  fun_induction trimEndReversed chars with
  | case1 => rfl
  | case2 => rfl
  | case3 rest hne ih =>
      rw [ih, List.reverse_cons, charComponents_append_slash]
      exact fun h => hne (List.reverse_eq_nil_iff.mp h)
  | case4 rest ih =>
      have hdot : ('.' :: '/' :: rest).reverse = rest.reverse ++ '/' :: ['.'] := by simp
      rw [ih, hdot, charComponents_append_cons _ (by decide), List.reverse_cons]
      exact (List.append_nil _).symm
  | case5 => rfl

/-- Of what carries no meaning nothing is left at the end of a path, the root apart. -/
theorem trimEndReversed_ne (chars rest : List Char) :
    trimEndReversed chars ≠ '.' :: '/' :: rest ∧
      (trimEndReversed chars = '/' :: rest → rest = []) := by
  fun_induction trimEndReversed chars with
  | case1 => exact ⟨nofun, nofun⟩
  | case2 => exact ⟨nofun, fun h => (List.cons.inj h).2.symm⟩
  | case3 rest' hne ih => exact ih
  | case4 rest' ih => exact ih
  | case5 chars hnil hslash hcons hdot => exact ⟨hdot rest, fun h => absurd h (hcons rest)⟩

/-! ### The directory of a path -/

/-- Characters have no slash, or they are those in front of the first slash and those from it on. -/
theorem dropWhile_ne_slash (chars : List Char) :
    '/' ∉ chars ∧ chars.dropWhile (· != '/') = [] ∨
      ∃ part rest, '/' ∉ part ∧ chars = part ++ '/' :: rest ∧
        chars.dropWhile (· != '/') = '/' :: rest := by
  induction chars with
  | nil => exact .inl ⟨nofun, rfl⟩
  | cons c chars ih =>
      by_cases hc : c = '/'
      · exact .inr ⟨[], chars, nofun, by rw [hc]; rfl, by rw [hc]; rfl⟩
      · rw [List.dropWhile_cons_of_pos (by simpa using hc)]
        rcases ih with ⟨hmem, hdrop⟩ | ⟨part, rest, hmem, heq, hdrop⟩
        · exact .inl ⟨List.not_mem_cons_of_ne_of_not_mem (Ne.symm hc) hmem, hdrop⟩
        · exact .inr ⟨c :: part, rest, List.not_mem_cons_of_ne_of_not_mem (Ne.symm hc) hmem,
            by rw [heq, List.cons_append], hdrop⟩

/-- The directory of a path has all components of the path but the last. -/
theorem exists_components_eq_of_parent? (h : parent? path = some parent) :
    ∃ component ≠ .root, path.components = parent.components ++ [component] := by
  unfold parent? at h
  split at h
  next => cases h
  next => cases h
  next last hroot hlast =>
    have hpath : path.components =
        charComponents (trimEndReversed path.toList.reverse).reverse := by
      rw [charComponents_trimEndReversed, List.reverse_reverse, components_eq_charComponents]
    have htrim := trimEndReversed_ne path.toList.reverse
    obtain rfl := Option.some.inj h
    rw [components_ofList, charComponents_trimEndReversed]
    generalize trimEndReversed path.toList.reverse = trimmed at hpath htrim ⊢
    rcases dropWhile_ne_slash trimmed with ⟨hmem, hdrop⟩ | ⟨part, rest, hmem, rfl, hdrop⟩
    · rw [hdrop]
      rcases charComponents_of_not_mem (mt List.mem_reverse.mp hmem) with
        hnil | ⟨component, hne, hone⟩
      · rw [hpath, hnil] at hlast
        cases hlast
      · exact ⟨component, hne, hpath.trans hone⟩
    · -- the last part stands behind a slash, and it is none of those that carry no meaning
      have hsplit : (part ++ '/' :: rest).reverse = rest.reverse ++ '/' :: part.reverse := by simp
      rw [hsplit, charComponents_append_cons _ (mt List.mem_reverse.mp hmem)] at hpath
      rw [hdrop, List.reverse_cons]
      cases hc : partComponent? part.reverse with
      | some component =>
          rw [hc] at hpath
          refine ⟨component, ?_, hpath⟩
          rcases eq_up_or_entry_of_partComponent? hc with rfl | ⟨name, rfl⟩ <;> exact nofun
      | none =>
          rcases partComponent?_eq_none_iff.mp hc with hnil | hdot
          · obtain rfl := List.reverse_eq_nil_iff.mp hnil
            obtain rfl := (htrim rest).2 rfl
            rw [hpath] at hlast
            exact absurd (Option.some.inj hlast).symm hroot
          · obtain rfl := List.reverse_eq_iff.mp hdot
            exact absurd rfl (htrim rest).1

/-- Only the first component of a path can be the root. -/
theorem components_eq_root (h : path.components.getLast? = some .root) :
    path.components = [.root] := by
  rw [components_eq] at h ⊢
  cases hparts : (splitParts path.toList).filterMap partComponent? with
  | nil =>
      rw [hparts, List.append_nil] at h
      rw [List.append_nil]
      split_ifs at h ⊢
      · rfl
      all_goals cases h
  | cons component components =>
      rw [hparts, List.getLast?_append_of_ne_nil _ (List.cons_ne_nil _ _)] at h
      obtain ⟨part, -, hpart⟩ := List.mem_filterMap.mp (hparts ▸ List.mem_of_getLast? h)
      rcases eq_up_or_entry_of_partComponent? hpart with h | ⟨name, h⟩ <;> cases h

/-- A path without components, and the root, stand in no directory; every other path does. -/
theorem parent?_eq_none_iff :
    parent? path = none ↔ path.components = [] ∨ path.components = [.root] := by
  unfold parent?
  split
  next h => exact iff_of_true rfl (.inl (List.getLast?_eq_none_iff.mp h))
  next h => exact iff_of_true rfl (.inr (components_eq_root h))
  next last hroot h =>
    refine iff_of_false nofun ?_
    rintro (hnil | hone)
    · rw [hnil] at h
      cases h
    · rw [hone] at h
      exact hroot (Option.some.inj h).symm

/-! ### All directories above a path -/

/-- What holds of a path whenever it holds of its directory holds of every path. -/
theorem induction_parent? {P : FilePath → Prop}
    (h : ∀ path, (∀ parent, parent? path = some parent → P parent) → P path) (path : FilePath) :
    P path :=
  h path fun parent _ => induction_parent? h parent
termination_by path.components.length
decreasing_by
  obtain ⟨component, -, hcomponents⟩ := exists_components_eq_of_parent? ‹_›
  rw [hcomponents, List.length_append]
  exact Nat.lt_succ_self _

theorem ancestors_of_parent?_eq_none (h : parent? path = none) : path.ancestors = [path] := by
  rw [ancestors]
  cases path.components.length with
  | zero => rfl
  | succ n => rw [ancestorRounds, h]

theorem ancestors_of_parent?_eq_some (h : parent? path = some parent) :
    path.ancestors = path :: parent.ancestors := by
  obtain ⟨component, -, hcomponents⟩ := exists_components_eq_of_parent? h
  rw [ancestors, hcomponents, List.length_append, List.length_singleton, ancestorRounds, h,
    ancestors]

/-- The directories above a path, and the path, are those that are reached by going from directory
to directory. -/
theorem mem_ancestors_iff : ancestor ∈ path.ancestors ↔ AtOrAbove ancestor path := by
  induction path using induction_parent? with
  | h path ih =>
      rw [AtOrAbove, Relation.ReflTransGen.cases_head_iff]
      cases hp : parent? path with
      | none => simp [ancestors_of_parent?_eq_none hp, eq_comm]
      | some parent =>
          rw [ancestors_of_parent?_eq_some hp, List.mem_cons, ih parent hp, AtOrAbove]
          simp [eq_comm]

/-- A directory above a path has the first of the components of the path. -/
theorem AtOrAbove.isPrefix_components (h : AtOrAbove ancestor path) :
    ancestor.components <+: path.components := by
  induction h with
  | refl => exact List.prefix_rfl
  | tail _ hp ih =>
      obtain ⟨component, -, hcomponents⟩ := exists_components_eq_of_parent? hp
      rw [hcomponents] at ih
      exact (List.prefix_append _ _).trans ih

/-- Above a path, and at it, is a directory for each of the first components of the path, but none
above the root. -/
theorem exists_atOrAbove_iff {components : List PathComponent} :
    (∃ ancestor, AtOrAbove ancestor path ∧ ancestor.components = components) ↔
      components <+: path.components ∧
        (components = [] → path.components.head? ≠ some .root) := by
  simp only [← mem_ancestors_iff]
  induction path using induction_parent? with
  | h path ih =>
      cases hp : parent? path with
      | none =>
          simp only [ancestors_of_parent?_eq_none hp, List.mem_singleton, exists_eq_left]
          rcases parent?_eq_none_iff.mp hp with hpath | hpath <;> rw [hpath] <;>
            cases components <;> simp [List.cons_prefix_cons, eq_comm]
      | some parent =>
          obtain ⟨last, hlast, hpath⟩ := exists_components_eq_of_parent? hp
          have hhead : path.components.head? = some .root ↔
              parent.components.head? = some .root := by
            rw [hpath]
            cases parent.components <;> simp [hlast]
          rw [ancestors_of_parent?_eq_some hp, ne_eq, hhead, hpath, List.prefix_concat_iff]
          have hparent := ih parent hp
          simp only [List.mem_cons, exists_eq_or_imp, hparent, hpath]
          constructor
          · rintro (rfl | h)
            · exact ⟨.inl rfl, fun hnil => absurd hnil (by simp)⟩
            · exact ⟨.inr h.1, h.2⟩
          · rintro ⟨rfl | h, hroot⟩
            · exact .inl rfl
            · exact .inr ⟨h, hroot⟩

/-- The directories above a path are listed one by one, each with fewer components than the ones
before. -/
theorem pairwise_ancestors (path : FilePath) :
    path.ancestors.Pairwise fun nearer farther =>
      farther.components.length < nearer.components.length := by
  induction path using induction_parent? with
  | h path ih =>
      cases hp : parent? path with
      | none => simp [ancestors_of_parent?_eq_none hp]
      | some parent =>
          rw [ancestors_of_parent?_eq_some hp]
          refine List.pairwise_cons.mpr ⟨fun farther hf => ?_, ih parent hp⟩
          obtain ⟨component, -, hcomponents⟩ := exists_components_eq_of_parent? hp
          have hle := (mem_ancestors_iff.mp hf).isPrefix_components.length_le
          rw [hcomponents, List.length_append, List.length_singleton]
          exact Nat.lt_succ_of_le hle

end ResolverTypes.FilePath
