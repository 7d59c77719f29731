import ResolverTypes.Proofs.Disk.FoundPaths

/-!
# Patterns without wildcards

A text without wildcards is a pattern of characters that stand for themselves.  Where it is a path to
a file, it yields that file alone.  There is one exception: a relative path with an empty part behind
the dots at its start yields nothing, since no path is found at the working directory for an empty
name.

## Main results

* `readTokens_eq` : the pattern of a text without wildcards.
* `FileTree.pathsMatching_eq` : the paths that fit it are found one part after the other.
* `FileTree.exists_pathsMatching_eq` : a path to a file yields that file.
* `FileTree.exists_pathsMatching_eq_of_startsBlank` : a path with such a start yields nothing.
-/

namespace ResolverTypes

open FilePath (partComponent?)

/-! ### The pattern of a text without wildcards -/

theorem hasWildcard_eq_false_iff {chars : List Char} :
    hasWildcard chars = false ↔ ∀ c ∈ chars, c ≠ '*' ∧ c ≠ '?' ∧ c ≠ '[' := by
  simp [hasWildcard, and_assoc]

theorem hasWildcard_of_subset {chars others : List Char} (h : hasWildcard others = false)
    (hsub : chars ⊆ others) : hasWildcard chars = false :=
  hasWildcard_eq_false_iff.mpr fun c hc => hasWildcard_eq_false_iff.mp h c (hsub hc)

/-- A text without wildcards is a pattern of characters that stand for themselves. -/
theorem readTokens_eq {chars : List Char} (h : hasWildcard chars = false) (position : ℕ)
    (previous : Option Char) : readTokens position previous chars = .ok (chars.map .char) := by
  induction chars generalizing position previous with
  | nil => rw [readTokens, List.map_nil]
  | cons c chars ih =>
      obtain ⟨⟨hstar, hquestion, hbracket⟩, hchars⟩ :=
        List.forall_mem_cons.mp (hasWildcard_eq_false_iff.mp h)
      rw [readTokens, ih (hasWildcard_eq_false_iff.mpr hchars)]
      · rfl
      -- No other form of a part starts with the character.
      all_goals grind

theorem literalText?_map_char (chars : List Char) :
    literalText? (chars.map .char) = some (String.ofList chars) := by
  refine congrArg (Option.map String.ofList) (?_ : _ = some chars)
  induction chars with
  | nil => rfl
  | cons c chars ih =>
      rw [List.map_cons, List.mapM_cons, ih]
      rfl

theorem isAnyDirectories_map_char (chars : List Char) :
    isAnyDirectories (chars.map .char) = false := by
  simp [isAnyDirectories]

theorem collapseDirectories_eq_self {components : List (List PatternToken)}
    (h : ∀ tokens ∈ components, isAnyDirectories tokens = false) :
    collapseDirectories components = components := by
  induction components with
  | nil => rfl
  | cons tokens components ih =>
      obtain ⟨htokens, hcomponents⟩ := List.forall_mem_cons.mp h
      rw [collapseDirectories, ih hcomponents, htokens]
      cases components <;> rfl

namespace FileTree

variable {tree : FileTree} {directory : Location} {path found : FilePath}
  {rest : List (List Char)}

/-- A component that stands for itself is looked up by its name. -/
theorem expand_cons_of_literalText? {tokens : List PatternToken} {name : String}
    (h : literalText? tokens = some name) (rest : List (List PatternToken)) (path : FilePath) :
    tree.expand directory (tokens :: rest) path =
      match tree.literalPath? directory path name with
      | some found => tree.expand directory rest found
      | none => [] := by
  cases rest with
  | nil =>
      rw [expand, h]
      dsimp only
      cases tree.literalPath? directory path name <;> rfl
  | cons next rest =>
      rw [expand]
      split
      next own hown =>
        obtain rfl := Option.some.inj (hown.symm.trans h)
        rfl
      next hnone => cases hnone.symm.trans h

/-- The paths that fit names are found one name after the other. -/
theorem expand_map_char (parts : List (List Char)) (path : FilePath) :
    tree.expand directory (parts.map (·.map .char)) path =
      (tree.findParts? directory parts path).toList := by
  induction parts generalizing path with
  | nil => rfl
  | cons part parts ih =>
      rw [findParts?_cons, List.map_cons, expand_cons_of_literalText? (literalText?_map_char part)]
      cases tree.literalPath? directory path (String.ofList part) with
      | none => rfl
      | some found => exact ih found

/-- The components of a pattern that does not end in a slash are its parts. -/
theorem patternComponents_eq (h : path.names.getLast? ≠ some []) :
    patternComponents path = path.names.map String.ofList := by
  have hne : (if path.toList.head? = some '/' then path.toList.drop 1 else path.toList) ≠ [] := by
    intro hnil
    rw [FilePath.names, hnil] at h
    exact h rfl
  rw [FilePath.names] at h ⊢
  unfold patternComponents
  dsimp only
  rw [if_neg hne, if_neg h]

theorem getLast?_ne_slash (h : path.names.getLast? ≠ some []) :
    path.toList.getLast? ≠ some '/' := by
  intro hslash
  obtain ⟨before, hb⟩ := List.getLast?_eq_some_iff.mp hslash
  rw [FilePath.getLast?_names, hb, FilePath.splitParts_append_cons] at h
  exact h List.getLast?_concat

theorem hasWildcard_of_mem_names (h : hasWildcard path.toList = false) {part : List Char}
    (hp : part ∈ path.names) : hasWildcard part = false :=
  hasWildcard_of_subset h fun c hc => (FilePath.mem_of_mem_names hp c hc).1

/-- The paths that fit a text without wildcards are found one part after the other. -/
theorem pathsMatching_eq (h : hasWildcard path.toList = false)
    (hlast : path.names.getLast? ≠ some []) :
    tree.pathsMatching directory path = .ok
      (tree.findParts? directory path.names (if path.isAbsolute then "/" else ".")).toList := by
  have hread : readPattern path = .ok (path.toList.map .char) := readTokens_eq h 0 none
  have hparts : (path.names.map String.ofList).mapM readPattern =
      .ok (path.names.map (·.map .char)) := by
    refine mapM_eq_ok_iff.mpr (List.forall₂_map_left_iff.mpr (List.forall₂_map_right_iff.mpr
      (List.forall₂_same.mpr fun part hp => ?_)))
    rw [readPattern, String.toList_ofList]
    exact readTokens_eq (hasWildcard_of_mem_names h hp) 0 none
  have hplain : ∀ tokens ∈ path.names.map (·.map PatternToken.char),
      isAnyDirectories tokens = false := by
    intro tokens ht
    obtain ⟨part, -, rfl⟩ := List.mem_map.mp ht
    exact isAnyDirectories_map_char part
  rw [pathsMatching, hread, patternComponents_eq hlast, hparts]
  dsimp only [discard, bind, Except.bind]
  rw [collapseDirectories_eq_self hplain, expand_map_char, if_neg (getLast?_ne_slash hlast)]
  rfl

/-! ### The files that fit -/

/-- A path to a file does not end in a slash, nor in a dot unless it is one. -/
theorem getLast?_names_of_isFile (hfile : tree.isFile directory path = true) :
    path.names.getLast? ≠ some [] ∧ (path ≠ "." → path.names.getLast? ≠ some ['.']) := by
  obtain ⟨content, hentry⟩ := isFile_iff.mp hfile
  obtain ⟨location, hl, -, hasks⟩ := entry_eq_file_iff.mp hentry
  have hne : path ≠ "" := (locate_eq_ok_iff.mp hl).1.2.1
  rw [FilePath.getLast?_names]
  constructor
  · intro hlast
    rcases FilePath.eq_or_exists_append_of_getLast? hlast with h | ⟨before, h⟩
    · exact hne (String.toList_eq_nil_iff.mp h)
    · rw [asksDirectory, h, List.reverse_append] at hasks
      cases hasks
  · intro hdot hlast
    rcases FilePath.eq_or_exists_append_of_getLast? hlast with h | ⟨before, h⟩
    · exact hdot (String.toList_inj.mp h)
    · rw [asksDirectory, h, List.reverse_append] at hasks
      cases hasks

/-- A path without wildcards to a file, read as a pattern, yields that file alone. -/
theorem exists_pathsMatching_eq (hplain : hasWildcard path.toList = false)
    (hfile : tree.isFile directory path = true)
    (hblank : path.startsBlank = false) :
    ∃ file, tree.pathsMatching directory path = .ok [file] ∧ file.components = path.moves ∧
      tree.entry directory file = tree.entry directory path := by
  obtain ⟨content, hentry⟩ := isFile_iff.mp hfile
  have hdot : path ≠ "." := by
    rintro rfl
    exact absurd hblank (by decide +kernel)
  rcases List.eq_nil_or_concat' path.names with hnil | ⟨init, part, hnames⟩
  · exact absurd hnil path.names_ne_nil
  have hlast : path.names.getLast? = some part := hnames ▸ List.getLast?_concat
  obtain ⟨hslash, hend⟩ := getLast?_names_of_isFile hfile
  have hpart : partComponent? part ≠ none := fun hnone =>
    (FilePath.partComponent?_eq_none_iff.mp hnone).elim (fun h => hslash (h ▸ hlast))
      fun h => hend hdot (h ▸ hlast)
  have hstart := FilePath.onTheWay_start hblank
  rw [hnames] at hstart
  obtain ⟨file, hfound, hcomponents, hsame⟩ := exists_file_of_onTheWay hentry hpart init hstart
  refine ⟨file, ?_, hcomponents, hsame.trans hentry.symm⟩
  rw [pathsMatching_eq hplain hslash, hnames, hfound]
  rfl

theorem literalPath?_dot :
    tree.literalPath? directory "." "." =
      if tree.isDirectory directory "." then some "." else none := by
  rw [literalPath?, if_pos (.inl rfl)]
  rfl

theorem literalPath?_dot_empty : tree.literalPath? directory "." "" = none := by
  have hchild : childPath "." "" = "" := by decide +kernel
  rw [literalPath?, if_neg (by decide), hchild]
  exact if_neg Bool.false_ne_true

/-- From the working directory dots lead nowhere else, and an empty part finds nothing. -/
theorem eq_dot_of_isBlankStart (hblank : FilePath.isBlankStart rest = true)
    (h : tree.findParts? directory rest "." = some found) :
    found = "." ∧ (rest = [] ∨ tree.isDirectory directory "." = true) := by
  induction rest with
  | nil => exact ⟨(Option.some.inj h).symm, .inl rfl⟩
  | cons part rest ih =>
      rw [FilePath.isBlankStart_cons] at hblank
      rw [findParts?_cons] at h
      split at hblank
      next hdot =>
        have hname : String.ofList part = "." := by rw [hdot]
        rw [hname, literalPath?_dot] at h
        split at h
        next hd => exact ⟨(ih hblank h).1, .inr hd⟩
        next => cases h
      next =>
        have hname : String.ofList part = "" := by rw [beq_iff_eq.mp hblank]
        rw [hname, literalPath?_dot_empty] at h
        cases h

/-- A path to a file that starts with an empty part, or is a dot, yields no file. -/
theorem exists_pathsMatching_eq_of_startsBlank (hplain : hasWildcard path.toList = false)
    (hfile : tree.isFile directory path = true) (hblank : path.startsBlank = true) :
    ∃ paths, tree.pathsMatching directory path = .ok paths ∧
      paths.filter (tree.isFile directory) = [] := by
  obtain ⟨hrelative, hparts⟩ := Bool.and_eq_true_iff.mp hblank
  refine ⟨_, pathsMatching_eq hplain (getLast?_names_of_isFile hfile).1, ?_⟩
  rw [if_neg (by simpa using hrelative)]
  refine List.filter_eq_nil_iff.mpr fun found hfound => ?_
  obtain ⟨rfl, hnil | hd⟩ := eq_dot_of_isBlankStart hparts (Option.mem_toList.mp hfound)
  · exact absurd hnil path.names_ne_nil
  · rw [isFile_of_isDirectory hd]
    exact Bool.false_ne_true

end FileTree

end ResolverTypes
