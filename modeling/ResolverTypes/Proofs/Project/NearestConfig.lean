import ResolverTypes.Proofs.Disk.AncestorPaths
import ResolverTypes.Proofs.Project.CheckedProjects

/-!
# The nearest configuration

The search for a configuration goes from the start to the directories above it, and through the
names of configuration files in each.  Nearness comes before preference: a file of any of the names
is found before all that stands farther away.  Only files count, so that a directory of such a name
is passed over, and what is found is loaded whether it can be loaded or not.

## Main definitions

* `configCandidates` : the paths that a search looks at, in order.
* `Config.IsNearest` : the file that a search is to find.
* `Config.FindsNearest` : what is found, and what is made of it.

## Main results

* `Config.find?_eq_some_iff`, `Config.find?_eq_none_iff` : how a search ends.
* `Config.findsNearest` : every search finds the nearest configuration, and resolving loads it.
-/

namespace ResolverTypes

/-- The paths of configuration files for a directory, the nearest first and in each directory the
most preferred first. -/
def configCandidates (start : FilePath) : List FilePath :=
  start.ancestors.flatMap fun ancestor => configFileNames.map ancestor.join

/-- A configuration file stands in the directory that its name is joined to. -/
theorem components_join_configFileName (directory : FilePath) {name : FilePath}
    (h : name ∈ configFileNames) :
    (directory.join name).components = directory.components ++ [.entry name] := by
  have hname : name.isAbsolute = false ∧ name.components = [.entry name] ∧
      (FilePath.splitParts name.toList).filterMap FilePath.partComponent? = [.entry name] := by
    revert name
    decide +kernel
  obtain ⟨hrelative, hcomponents, hparts⟩ := hname
  by_cases hd : directory = ""
  · have hempty : FilePath.components "" = [] := by decide +kernel
    rw [FilePath.join_eq_right (.inr hd), hcomponents, hd, hempty, List.nil_append]
  · rw [FilePath.components_join hd (Bool.eq_false_iff.mp hrelative), hparts]

namespace Config

variable {tree : FileTree} {directory : Location} {start found : FilePath}

/-! ### Searching -/

/-- A search looks at one candidate after another. -/
theorem find?_eq_find?_candidates (tree : FileTree) (directory : Location) (start : FilePath) :
    find? tree directory start = (configCandidates start).find? (tree.isFile directory) := by
  rw [configCandidates, List.find?_flatMap]
  rfl

/-- The file that a search is to find: of the directories at and above the start it stands in the
nearest one that has any file of a known name, and of these files its name is the most preferred. -/
def IsNearest (tree : FileTree) (directory : Location) (start found : FilePath) : Prop :=
  ∃ ancestor preferred name others, FilePath.AtOrAbove ancestor start ∧
    configFileNames = preferred ++ name :: others ∧ found = ancestor.join name ∧
    tree.isFile directory found = true ∧
    (∀ other ∈ preferred, tree.isFile directory (ancestor.join other) = false) ∧
    ∀ nearer, FilePath.AtOrAbove nearer start →
      ancestor.components.length < nearer.components.length →
        ∀ other ∈ configFileNames, tree.isFile directory (nearer.join other) = false

theorem find?_names_eq_some_iff {ancestor : FilePath} :
    (configFileNames.map ancestor.join).find? (tree.isFile directory) = some found ↔
      ∃ preferred name others, configFileNames = preferred ++ name :: others ∧
        found = ancestor.join name ∧ tree.isFile directory found = true ∧
        ∀ other ∈ preferred, tree.isFile directory (ancestor.join other) = false := by
  rw [List.find?_map, Option.map_eq_some_iff]
  simp only [List.find?_eq_some_iff_append, Function.comp_apply, Bool.not_eq_true']
  constructor
  · rintro ⟨name, ⟨hfile, preferred, others, hnames, hpreferred⟩, rfl⟩
    exact ⟨preferred, name, others, hnames, rfl, hfile, hpreferred⟩
  · rintro ⟨preferred, name, others, hnames, rfl, hfile, hpreferred⟩
    exact ⟨name, ⟨hfile, preferred, others, hnames, hpreferred⟩, rfl⟩

theorem find?_names_eq_none_iff {ancestor : FilePath} :
    (configFileNames.map ancestor.join).find? (tree.isFile directory) = none ↔
      ∀ name ∈ configFileNames, tree.isFile directory (ancestor.join name) = false := by
  simp

/-- What a search finds is the nearest configuration file. -/
theorem find?_eq_some_iff :
    find? tree directory start = some found ↔ IsNearest tree directory start found := by
  rw [find?, List.findSome?_eq_some_iff]
  simp only [find?_names_eq_some_iff, find?_names_eq_none_iff]
  have before_iff {nearer farther : List FilePath} {ancestor : FilePath}
      (h : start.ancestors = nearer ++ ancestor :: farther) (other : FilePath) :
      other ∈ nearer ↔ FilePath.AtOrAbove other start ∧
        ancestor.components.length < other.components.length := by
    rw [← FilePath.mem_ancestors_iff, h]
    exact mem_before_iff_of_pairwise (fun _ _ hlt => Nat.lt_asymm hlt)
      (h ▸ FilePath.pairwise_ancestors start)
  constructor
  · rintro ⟨nearer, ancestor, farther, hsplit, ⟨preferred, name, others, hfound⟩, hnearer⟩
    have hancestor : ancestor ∈ start.ancestors :=
      hsplit ▸ List.mem_append_right _ List.mem_cons_self
    exact ⟨ancestor, preferred, name, others, FilePath.mem_ancestors_iff.mp hancestor, hfound.1,
      hfound.2.1, hfound.2.2.1, hfound.2.2.2,
      fun other ho hlength => hnearer other ((before_iff hsplit other).mpr ⟨ho, hlength⟩)⟩
  · rintro ⟨ancestor, preferred, name, others, ha, hnames, hjoin, hfile, hpreferred, hnearer⟩
    obtain ⟨nearer, farther, hsplit⟩ := List.append_of_mem (FilePath.mem_ancestors_iff.mpr ha)
    refine ⟨nearer, ancestor, farther, hsplit,
      ⟨preferred, name, others, hnames, hjoin, hfile, hpreferred⟩, fun other ho => ?_⟩
    obtain ⟨habove, hlength⟩ := (before_iff hsplit other).mp ho
    exact hnearer other habove hlength

/-- A search finds nothing exactly when no directory at or above the start has a configuration
file. -/
theorem find?_eq_none_iff :
    find? tree directory start = none ↔ ∀ ancestor, FilePath.AtOrAbove ancestor start →
      ∀ name ∈ configFileNames, tree.isFile directory (ancestor.join name) = false := by
  rw [find?_eq_find?_candidates, List.find?_eq_none, configCandidates]
  simp only [List.mem_flatMap, List.mem_map, FilePath.mem_ancestors_iff]
  grind

/-- Directories among the candidates make no difference to a search. -/
theorem find?_eq_find?_filter (tree : FileTree) (directory : Location) (start : FilePath) :
    find? tree directory start = ((configCandidates start).filter
      fun candidate => !tree.isDirectory directory candidate).find? (tree.isFile directory) := by
  rw [find?_eq_find?_candidates, List.find?_filter]
  congr 1
  funext candidate
  cases hd : tree.isDirectory directory candidate with
  | false => simp
  | true => simp [FileTree.isFile_of_isDirectory hd]

/-! ### Resolving -/

theorem resolve_none_eq_ok_iff {path : FilePath} {config : Config} :
    resolve tree directory none start = .ok (path, config) ↔
      find? tree directory start = some path ∧ load tree directory path = .ok config := by
  rw [resolve_eq, path?, Option.none_or]
  cases find? tree directory start with
  | none => exact iff_of_false nofun nofun
  | some found =>
      dsimp only
      rw [map_eq_ok_iff, Option.some.injEq]
      constructor
      · rintro ⟨loaded, hload, h⟩
        obtain ⟨rfl, rfl⟩ := Prod.mk.inj h
        exact ⟨rfl, hload⟩
      · rintro ⟨rfl, hload⟩
        exact ⟨config, hload, rfl⟩

/-- What is found is loaded, and if it cannot be there is no other configuration. -/
theorem resolve_none_eq_error_iff {error : ConfigError} :
    resolve tree directory none start = .error error ↔
      (find? tree directory start = none ∧ error = .notFound start) ∨
        ∃ path, find? tree directory start = some path ∧
          load tree directory path = .error error := by
  rw [resolve_eq, path?, Option.none_or]
  cases find? tree directory start with
  | none => simp [eq_comm]
  | some found =>
      dsimp only
      cases hload : load tree directory found <;> simp [Except.map, hload]

/-- The configuration at a given path depends on nothing but what is read there. -/
theorem resolve_some_eq {other : FileTree} {path : FilePath}
    (h : other.readText directory path = tree.readText directory path) :
    resolve other directory (some path) start = (load tree directory path).map (path, ·) := by
  have hload : load other directory path = load tree directory path := by
    unfold load
    rw [h]
  rw [resolve_eq, path?, Option.some_or, ← hload]

/-! ### The nearest configuration -/

/-- What a search finds, and what is made of it.  The directories at and above the start are those
of its first components, and what is found is an entry of the nearest one that has a configuration
file.  Directories that bear the name of a configuration file count for nothing.  What is found is
loaded, however that ends, and where a path is given nothing else is looked at. -/
structure FindsNearest (tree : FileTree) (directory : Location) (start : FilePath) : Prop where
  eq_some_iff : ∀ found,
    find? tree directory start = some found ↔ IsNearest tree directory start found
  eq_none_iff : find? tree directory start = none ↔
    ∀ ancestor, FilePath.AtOrAbove ancestor start →
      ∀ name ∈ configFileNames, tree.isFile directory (ancestor.join name) = false
  above_iff : ∀ components,
    (∃ ancestor, FilePath.AtOrAbove ancestor start ∧ ancestor.components = components) ↔
      components <+: start.components ∧
        (components = [] → start.components.head? ≠ some .root)
  components_join : ∀ ancestor : FilePath, ∀ name ∈ configFileNames,
    (ancestor.join name).components = ancestor.components ++ [.entry name]
  not_isDirectory : ∀ found, find? tree directory start = some found →
    tree.isDirectory directory found = false
  passes_directories : find? tree directory start = ((configCandidates start).filter
    fun candidate => !tree.isDirectory directory candidate).find? (tree.isFile directory)
  resolve_eq_ok_iff : ∀ path config, resolve tree directory none start = .ok (path, config) ↔
    find? tree directory start = some path ∧ load tree directory path = .ok config
  resolve_eq_error_iff : ∀ error, resolve tree directory none start = .error error ↔
    (find? tree directory start = none ∧ error = .notFound start) ∨
      ∃ path, find? tree directory start = some path ∧ load tree directory path = .error error
  resolve_given : ∀ other path, other.readText directory path = tree.readText directory path →
    resolve other directory (some path) start = (load tree directory path).map (path, ·)

/-- Every search finds the nearest configuration file, and resolving loads it. -/
theorem findsNearest (tree : FileTree) (directory : Location) (start : FilePath) :
    FindsNearest tree directory start where
  eq_some_iff _ := find?_eq_some_iff
  eq_none_iff := find?_eq_none_iff
  above_iff _ := FilePath.exists_atOrAbove_iff
  components_join ancestor _ h := components_join_configFileName ancestor h
  not_isDirectory found h := by
    obtain ⟨-, -, -, -, -, -, -, hfile, -⟩ := find?_eq_some_iff.mp h
    refine Bool.eq_false_iff.mpr fun hd => ?_
    rw [FileTree.isFile_of_isDirectory hd] at hfile
    cases hfile
  passes_directories := find?_eq_find?_filter tree directory start
  resolve_eq_ok_iff _ _ := resolve_none_eq_ok_iff
  resolve_eq_error_iff _ := resolve_none_eq_error_iff
  resolve_given _ _ h := resolve_some_eq h

/-- A file tree with a configuration in the directory of an inner package that cannot be loaded, a
directory of a preferred name beside it, and a configuration of that name in the directory above. -/
def packagesTree : FileTree where
  entries := [(["pkg"], .directory), (["pkg", "api"], .directory),
    (["pkg", ".graphqlrc.yml"], .file (.text "schema: a.graphql")),
    (["pkg", "api", ".graphqlrc.yml"], .directory),
    (["pkg", "api", "graphql.config.json"], .file (.text "[]"))]

example : find? packagesTree [] "/pkg/api/src" = some "/pkg/api/graphql.config.json" := by
  decide +kernel

end Config

end ResolverTypes
