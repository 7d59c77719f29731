import ResolverTypes.Project.SchemaFiles
import ResolverTypes.Proofs.Data.FirstOccurrences
import ResolverTypes.Proofs.Data.Success

/-!
# The expansion of patterns

The files of a schema are those that its patterns yield, one pattern after the other, each file where
it is first found.  Whether a pattern yields files is asked before the files that are listed already
are left out, so that a pattern may add none; and the first pattern that is none, or yields no file,
is reported.

## Main definitions

* `FileTree.Yields` : the files that a pattern yields.
* `PlacedProject.ExpandsPatterns` : the files of a schema, said by what its patterns yield.

## Main results

* `addPaths_nil` : adding paths to none lists the first of each.
* `PlacedProject.schemaFiles_eq_ok_iff`, `PlacedProject.schemaFiles_eq_error_iff` : how the
  expansion ends.
* `PlacedProject.mem_schemaFiles_iff`, `PlacedProject.nodup_schemaFiles` : each place that a pattern
  yields is listed, and only once.
* `PlacedProject.expandsPatterns` : every project expands its patterns.
-/

namespace ResolverTypes

open FilePath (equivalent)

/-! ### Paths that are listed once -/

@[simp]
theorem FilePath.equivalent_iff {a b : FilePath} :
    equivalent a b = true ↔ a.components = b.components :=
  beq_iff_eq

/-- Adding paths lists the first of each that does not lead to a listed place. -/
theorem addPaths_eq_append (paths more : List FilePath) :
    addPaths paths more =
      paths ++ (more.filter fun path => !paths.any (equivalent path)).eraseDupsBy equivalent := by
  induction more generalizing paths with
  | nil => exact (List.append_nil paths).symm
  | cons path more ih =>
      rw [addPaths, List.foldl_cons]
      cases h : paths.any (equivalent path) with
      | true =>
          rw [if_pos rfl, List.filter_cons, h]
          exact ih paths
      | false =>
          rw [if_neg Bool.false_ne_true, List.filter_cons, h, Bool.not_false, if_pos rfl]
          refine (ih (paths ++ [path])).trans ?_
          rw [List.eraseDupsBy_cons, List.append_assoc, List.singleton_append, List.filter_filter]
          congr 4
          funext other
          simp [Bool.and_comm]

theorem addPaths_nil (more : List FilePath) : addPaths [] more = more.eraseDupsBy equivalent := by
  have hall : (more.filter fun path => !([] : List FilePath).any (equivalent path)) = more :=
    List.filter_eq_self.mpr fun _ _ => rfl
  rw [addPaths_eq_append, hall, List.nil_append]

theorem addPaths_append (paths more others : List FilePath) :
    addPaths paths (more ++ others) = addPaths (addPaths paths more) others :=
  List.foldl_append

theorem addPaths_eq_self {paths more : List FilePath}
    (h : ∀ path ∈ more, path.components ∈ paths.map FilePath.components) :
    addPaths paths more = paths := by
  have hnone : (more.filter fun path => !paths.any (equivalent path)) = [] :=
    List.filter_eq_nil_iff.mpr fun path hp => by
      obtain ⟨other, ho, hsame⟩ := List.mem_map.mp (h path hp)
      simpa using ⟨other, ho, hsame.symm⟩
  rw [addPaths_eq_append, hnone]
  exact List.append_nil paths

/-- Of some paths the first of each is kept, so that the places that they lead to stay. -/
theorem mem_components_eraseDupsBy_iff {paths : List FilePath} {place : List PathComponent} :
    place ∈ (paths.eraseDupsBy equivalent).map FilePath.components ↔
      place ∈ paths.map FilePath.components := by
  constructor
  · exact fun h => ((sublist_eraseDupsBy _ _).map _).subset h
  · intro h
    obtain ⟨path, hp, rfl⟩ := List.mem_map.mp h
    have hrefl : ∀ path, equivalent path path = true := fun _ => FilePath.equivalent_iff.mpr rfl
    obtain ⟨other, ho, hsame⟩ := exists_mem_eraseDupsBy hrefl _ path hp
    exact List.mem_map.mpr ⟨other, ho, (FilePath.equivalent_iff.mp hsame).symm⟩

theorem nodup_components_eraseDupsBy (paths : List FilePath) :
    ((paths.eraseDupsBy equivalent).map FilePath.components).Nodup := by
  refine List.pairwise_map.mpr ((pairwise_eraseDupsBy equivalent paths).imp fun h heq => ?_)
  rw [FilePath.equivalent_iff.mpr heq.symm] at h
  cases h

/-! ### What a pattern yields -/

section

variable (tree : FileTree) (directory : Location)

/-- A pattern yields the files among the paths that fit it, in their order. -/
def FileTree.Yields (pattern : FilePath) (files : List FilePath) : Prop :=
  ∃ paths, tree.pathsMatching directory pattern = .ok paths ∧
    files = paths.filter (tree.isFile directory)

/-- A pattern yields at least one file. -/
def FileTree.YieldsSome (pattern : FilePath) (files : List FilePath) : Prop :=
  tree.Yields directory pattern files ∧ files ≠ []

/-- A pattern that is none, or yields no file, with the error that reports it. -/
def FileTree.FailsToYield (pattern : FilePath) (error : SchemaFilesError) : Prop :=
  (∃ problem, tree.pathsMatching directory pattern = .error problem ∧
      error = .malformedPattern pattern problem) ∨
    tree.Yields directory pattern [] ∧ error = .noMatch pattern

end

variable {tree : FileTree} {directory : Location} {pattern : FilePath}

theorem FileTree.Yields.unique {files others : List FilePath}
    (h : tree.Yields directory pattern files) (ho : tree.Yields directory pattern others) :
    files = others := by
  obtain ⟨paths, hp, rfl⟩ := h
  obtain ⟨paths', hp', rfl⟩ := ho
  rw [Except.ok.inj (hp.symm.trans hp')]

namespace PlacedProject

theorem patternFiles_eq (tree : FileTree) (directory : Location) (pattern : FilePath) :
    patternFiles tree directory pattern =
      match tree.pathsMatching directory pattern with
      | .error problem => .error (.malformedPattern pattern problem)
      | .ok paths =>
          if (paths.filter (tree.isFile directory)).isEmpty then .error (.noMatch pattern)
          else .ok (paths.filter (tree.isFile directory)) := by
  rw [patternFiles, FileTree.filesMatching]
  cases tree.pathsMatching directory pattern with
  | error problem => rfl
  | ok paths =>
      dsimp only
      split
      next h =>
        change (if (paths.filter (tree.isFile directory)).isEmpty then _ else _) = _
        rw [if_pos h]
        rfl
      next h =>
        change (if (paths.filter (tree.isFile directory)).isEmpty then _ else _) = _
        rw [if_neg h]
        rfl

theorem patternFiles_eq_ok_iff {files : List FilePath} :
    patternFiles tree directory pattern = .ok files ↔
      tree.YieldsSome directory pattern files := by
  rw [patternFiles_eq, FileTree.YieldsSome, FileTree.Yields]
  cases tree.pathsMatching directory pattern with
  | error problem => exact iff_of_false nofun fun ⟨⟨_, h, _⟩, _⟩ => nomatch h
  | ok paths =>
      simp only [Except.ok.injEq, exists_eq_left']
      split
      next h =>
        refine iff_of_false nofun ?_
        rintro ⟨rfl, hne⟩
        exact hne (List.isEmpty_iff.mp h)
      next h =>
        rw [Except.ok.injEq]
        constructor
        · rintro rfl
          exact ⟨rfl, fun hnil => h (List.isEmpty_iff.mpr hnil)⟩
        · exact fun hf => hf.1.symm

theorem failure?_patternFiles_eq_some_iff {error : SchemaFilesError} :
    failure? (patternFiles tree directory pattern) = some error ↔
      tree.FailsToYield directory pattern error := by
  rw [failure?_eq_some_iff, patternFiles_eq, FileTree.FailsToYield, FileTree.Yields]
  cases tree.pathsMatching directory pattern with
  | error problem =>
      simp only [Except.error.injEq, exists_eq_left', reduceCtorEq, false_and, exists_false, or_false]
      exact eq_comm
  | ok paths =>
      simp only [reduceCtorEq, false_and, exists_false, false_or, Except.ok.injEq, exists_eq_left']
      split
      next h =>
        rw [List.isEmpty_iff.mp h, and_iff_right rfl, Except.error.injEq, eq_comm]
      next h => exact iff_of_false nofun fun hf => h (List.isEmpty_iff.mpr hf.1.symm)

theorem failure?_patternFiles_eq_none_iff :
    failure? (patternFiles tree directory pattern) = none ↔
      ∃ files, tree.YieldsSome directory pattern files := by
  simp only [← patternFiles_eq_ok_iff]
  cases patternFiles tree directory pattern with
  | error error => exact iff_of_false nofun nofun
  | ok files => exact iff_of_true rfl ⟨files, rfl⟩

/-! ### What a project finds -/

variable {project : PlacedProject}

/-- The step of the expansion: the files of a pattern are added to those found before. -/
def addFiles (tree : FileTree) (directory : Location) (files : List FilePath)
    (pattern : FilePath) : Except SchemaFilesError (List FilePath) := do
  return addPaths files (← patternFiles tree directory pattern)

theorem addFiles_eq_ok_iff {files more : List FilePath} :
    addFiles tree directory files pattern = .ok more ↔
      ∃ found, tree.YieldsSome directory pattern found ∧ addPaths files found = more := by
  rw [addFiles, bind_eq_ok_iff]
  simp only [patternFiles_eq_ok_iff]
  exact exists_congr fun found => and_congr_right fun _ =>
    ⟨fun h => Except.ok.inj h, fun h => congrArg _ h⟩

theorem schemaFiles_eq (project : PlacedProject) (tree : FileTree) (directory : Location) :
    project.schemaFiles tree directory =
      project.patterns.foldlM (addFiles tree directory) [] := rfl

theorem foldlM_addFiles_eq_ok_iff {patterns : List FilePath} {start files : List FilePath} :
    patterns.foldlM (addFiles tree directory) start = .ok files ↔
      ∃ found, List.Forall₂ (tree.YieldsSome directory) patterns found ∧
        files = addPaths start found.flatten := by
  induction patterns generalizing start with
  | nil =>
      simp only [List.foldlM_nil, List.forall₂_nil_left_iff, exists_eq_left, List.flatten_nil]
      exact ⟨fun h => (Except.ok.inj h).symm, fun h => congrArg _ h.symm⟩
  | cons pattern patterns ih =>
      rw [List.foldlM_cons, bind_eq_ok_iff]
      simp only [addFiles_eq_ok_iff, ih, List.forall₂_cons_left_iff]
      constructor
      · rintro ⟨_, ⟨found, hf, rfl⟩, rest, hr, rfl⟩
        exact ⟨_, ⟨found, rest, hf, hr, rfl⟩, (addPaths_append ..).symm⟩
      · rintro ⟨_, ⟨found, rest, hf, hr, rfl⟩, rfl⟩
        exact ⟨_, ⟨found, hf, rfl⟩, rest, hr, addPaths_append ..⟩

/-- The files of a schema are found exactly when every pattern yields some, and they are the first
of each in what the patterns yield. -/
theorem schemaFiles_eq_ok_iff {files : List FilePath} :
    project.schemaFiles tree directory = .ok files ↔
      ∃ found, List.Forall₂ (tree.YieldsSome directory) project.patterns found ∧
        files = found.flatten.eraseDupsBy equivalent := by
  rw [schemaFiles_eq, foldlM_addFiles_eq_ok_iff]
  simp only [addPaths_nil]

/-- The files of a schema are not found exactly when some pattern is none or yields no file, and the
first such pattern is reported. -/
theorem schemaFiles_eq_error_iff {error : SchemaFilesError} :
    project.schemaFiles tree directory = .error error ↔
      ∃ before pattern after, project.patterns = before ++ pattern :: after ∧
        (∀ earlier ∈ before, ∃ files, tree.YieldsSome directory earlier files) ∧
        tree.FailsToYield directory pattern error := by
  have hstep (files : List FilePath) (pattern : FilePath) :
      failure? (addFiles tree directory files pattern) =
        failure? (patternFiles tree directory pattern) := failure?_bind_pure
  rw [schemaFiles_eq, ← failure?_eq_some_iff, failure?_foldlM hstep, List.findSome?_eq_some_iff]
  simp only [failure?_patternFiles_eq_some_iff, failure?_patternFiles_eq_none_iff]
  constructor
  · rintro ⟨before, pattern, after, heq, hf, hb⟩
    exact ⟨before, pattern, after, heq, hb, hf⟩
  · rintro ⟨before, pattern, after, heq, hb, hf⟩
    exact ⟨before, pattern, after, heq, hf, hb⟩

/-- What the patterns of a list yield, one after the other. -/
theorem mem_flatten_map_iff {patterns : List FilePath} {found : List (List FilePath)}
    (h : List.Forall₂ (tree.YieldsSome directory) patterns found) {place : List PathComponent} :
    place ∈ found.flatten.map FilePath.components ↔ ∃ pattern ∈ patterns, ∃ files,
      tree.YieldsSome directory pattern files ∧ place ∈ files.map FilePath.components := by
  constructor
  · intro hp
    obtain ⟨file, hfile, rfl⟩ := List.mem_map.mp hp
    obtain ⟨files, hfiles, hmem⟩ := List.mem_flatten.mp hfile
    obtain ⟨pattern, hpattern, hy⟩ := exists_mem_of_forall₂ h hfiles
    exact ⟨pattern, hpattern, files, hy, List.mem_map_of_mem hmem⟩
  · rintro ⟨pattern, hpattern, files, hy, hp⟩
    obtain ⟨files', hfiles', hy'⟩ := exists_mem_of_forall₂ h.flip hpattern
    obtain ⟨file, hfile, rfl⟩ := List.mem_map.mp hp
    rw [hy.1.unique hy'.1] at hfile
    exact List.mem_map_of_mem (List.mem_flatten_of_mem hfiles' hfile)

/-- A pattern adds nothing where all its files are yielded before. -/
theorem foldlM_addFiles_append_cons {before after : List FilePath} {files : List FilePath}
    (hf : tree.YieldsSome directory pattern files)
    (hseen : ∀ file ∈ files, ∃ earlier ∈ before, ∃ others,
      tree.YieldsSome directory earlier others ∧ file.components ∈ others.map FilePath.components) :
    (before ++ pattern :: after).foldlM (addFiles tree directory) [] =
      (before ++ after).foldlM (addFiles tree directory) [] := by
  rw [List.foldlM_append, List.foldlM_append]
  cases hb : before.foldlM (addFiles tree directory) [] with
  | error error => rfl
  | ok listed =>
      obtain ⟨found, hfound, rfl⟩ := foldlM_addFiles_eq_ok_iff.mp hb
      have hadd : addFiles tree directory (addPaths [] found.flatten) pattern =
          .ok (addPaths [] found.flatten) := by
        refine addFiles_eq_ok_iff.mpr ⟨files, hf, addPaths_eq_self fun file hfile => ?_⟩
        rw [addPaths_nil, mem_components_eraseDupsBy_iff, mem_flatten_map_iff hfound]
        exact hseen file hfile
      change (pattern :: after).foldlM (addFiles tree directory) (addPaths [] found.flatten) =
        after.foldlM (addFiles tree directory) (addPaths [] found.flatten)
      rw [List.foldlM_cons, hadd]
      rfl

theorem mem_schemaFiles_iff {files : List FilePath}
    (h : project.schemaFiles tree directory = .ok files) {place : List PathComponent} :
    place ∈ files.map FilePath.components ↔ ∃ pattern ∈ project.patterns, ∃ found,
      tree.YieldsSome directory pattern found ∧ place ∈ found.map FilePath.components := by
  obtain ⟨found, hfound, rfl⟩ := schemaFiles_eq_ok_iff.mp h
  rw [mem_components_eraseDupsBy_iff, mem_flatten_map_iff hfound]

theorem nodup_schemaFiles {files : List FilePath}
    (h : project.schemaFiles tree directory = .ok files) :
    (files.map FilePath.components).Nodup := by
  obtain ⟨found, -, rfl⟩ := schemaFiles_eq_ok_iff.mp h
  exact nodup_components_eraseDupsBy found.flatten

/-- Patterns that are the same but for order and repetition find the same places. -/
theorem exists_perm_schemaFiles {other : PlacedProject}
    (hsame : ∀ pattern, pattern ∈ other.patterns ↔ pattern ∈ project.patterns)
    {files : List FilePath} (h : project.schemaFiles tree directory = .ok files) :
    ∃ others, other.schemaFiles tree directory = .ok others ∧
      (others.map FilePath.components).Perm (files.map FilePath.components) := by
  obtain ⟨found, hfound, -⟩ := schemaFiles_eq_ok_iff.mp h
  have heach : ∀ pattern ∈ other.patterns, ∃ some, tree.YieldsSome directory pattern some := by
    intro pattern hp
    obtain ⟨some, -, hy⟩ := exists_mem_of_forall₂ hfound.flip ((hsame pattern).mp hp)
    exact ⟨some, hy⟩
  obtain ⟨found', hfound'⟩ := exists_forall₂_of_forall_mem heach
  have hother := schemaFiles_eq_ok_iff.mpr ⟨found', hfound', rfl⟩
  refine ⟨_, hother, (List.perm_ext_iff_of_nodup (nodup_schemaFiles hother)
    (nodup_schemaFiles h)).mpr fun place => ?_⟩
  rw [mem_schemaFiles_iff hother, mem_schemaFiles_iff h]
  simp only [hsame]

/-- The files of a schema, said by what its patterns yield.  They are found exactly when every
pattern yields some; they are the first of each place in what the patterns yield, one pattern after
the other, so that no place is listed twice and none is lost.  Otherwise the first pattern that is
none, or yields no file, is reported.  A pattern whose files are all yielded before it adds nothing,
and patterns that are the same but for order and repetition find the same places. -/
structure ExpandsPatterns (project : PlacedProject) (tree : FileTree) (directory : Location) :
    Prop where
  eq_ok_iff : ∀ files, project.schemaFiles tree directory = .ok files ↔
    ∃ found, List.Forall₂ (tree.YieldsSome directory) project.patterns found ∧
      files = found.flatten.eraseDupsBy equivalent
  eq_error_iff : ∀ error, project.schemaFiles tree directory = .error error ↔
    ∃ before pattern after, project.patterns = before ++ pattern :: after ∧
      (∀ earlier ∈ before, ∃ files, tree.YieldsSome directory earlier files) ∧
      tree.FailsToYield directory pattern error
  nodup : ∀ files, project.schemaFiles tree directory = .ok files →
    (files.map FilePath.components).Nodup
  mem_iff : ∀ files, project.schemaFiles tree directory = .ok files → ∀ place,
    place ∈ files.map FilePath.components ↔ ∃ pattern ∈ project.patterns, ∃ found,
      tree.YieldsSome directory pattern found ∧ place ∈ found.map FilePath.components
  adds_nothing : ∀ before pattern after files, project.patterns = before ++ pattern :: after →
    tree.YieldsSome directory pattern files →
    (∀ file ∈ files, ∃ earlier ∈ before, ∃ others, tree.YieldsSome directory earlier others ∧
      file.components ∈ others.map FilePath.components) →
    project.schemaFiles tree directory =
      { project with patterns := before ++ after }.schemaFiles tree directory
  same_places : ∀ other : PlacedProject,
    (∀ pattern, pattern ∈ other.patterns ↔ pattern ∈ project.patterns) →
    ∀ files, project.schemaFiles tree directory = .ok files →
      ∃ others, other.schemaFiles tree directory = .ok others ∧
        (others.map FilePath.components).Perm (files.map FilePath.components)

/-- Every project expands its patterns, whatever files there are. -/
theorem expandsPatterns (project : PlacedProject) (tree : FileTree) (directory : Location) :
    project.ExpandsPatterns tree directory where
  eq_ok_iff _ := schemaFiles_eq_ok_iff
  eq_error_iff _ := schemaFiles_eq_error_iff
  nodup _ := nodup_schemaFiles
  mem_iff _ h _ := mem_schemaFiles_iff h
  adds_nothing before pattern after files heq hf hseen := by
    rw [schemaFiles_eq, schemaFiles_eq, heq]
    exact foldlM_addFiles_append_cons hf hseen
  same_places _ hsame _ := exists_perm_schemaFiles hsame

end PlacedProject

end ResolverTypes
