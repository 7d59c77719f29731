import ResolverTypes.Proofs.Disk.BracketPatterns
import ResolverTypes.Proofs.Project.PatternExpansion

/-!
# Plain paths to a schema

The path of a schema is seen from the directory of its project, and the whole is read as a pattern.
A path without wildcards finds its file as long as the directory has none either.  The directory's
name is not protected: where it has a bracket, but no star, the file is never found, since what
stands in brackets finds one character and is written with more.

## Main definitions

* `PlacedProject.FindsPlainPath` : where a project finds the file that its path leads to.

## Main results

* `PlacedProject.findsPlainPath` : every project with one plain path does so.
-/

namespace ResolverTypes

theorem FilePath.mem_of_mem_join {base entry : FilePath} {c : Char}
    (h : c ∈ (base.join entry).toList) : c ∈ base.toList ∨ c = '/' ∨ c ∈ entry.toList := by
  unfold join at h
  split at h
  · exact .inr (.inr h)
  · split at h
    · rw [String.toList_append, List.mem_append] at h
      exact h.imp_right .inr
    · rw [String.toList_append, String.toList_append, List.mem_append, List.mem_append, or_assoc] at h
      exact h.imp_right (Or.imp_left List.mem_singleton.mp)

theorem hasWildcard_join {base entry : FilePath} (hbase : hasWildcard base.toList = false)
    (hentry : hasWildcard entry.toList = false) : hasWildcard (base.join entry).toList = false := by
  rw [hasWildcard_eq_false_iff] at hbase hentry ⊢
  intro c hc
  rcases FilePath.mem_of_mem_join hc with hc | rfl | hc
  · exact hbase c hc
  · decide
  · exact hentry c hc

theorem Project.patterns_of_place {project : Project} {placed : PlacedProject} {name : String}
    {base entry : FilePath} (hplace : project.place name base = .ok placed)
    (hentry : project.schema.patterns = [entry]) : placed.patterns = [base.join entry] := by
  obtain ⟨settings, -, hplace⟩ := bind_eq_ok_iff.mp hplace
  cases settings with
  | none => cases hplace
  | some settings =>
      obtain rfl := Except.ok.inj hplace
      rw [Project.schemaPatterns, hentry]
      rfl

namespace PlacedProject

variable {project : PlacedProject} {tree : FileTree} {directory : Location} {pattern : FilePath}

/-- A path without wildcards to a file finds that file alone. -/
theorem exists_schemaFiles_eq (hpatterns : project.patterns = [pattern])
    (hplain : hasWildcard pattern.toList = false)
    (hfile : tree.isFile directory pattern = true) (hblank : pattern.startsBlank = false) :
    ∃ file, project.schemaFiles tree directory = .ok [file] ∧ file.components = pattern.moves ∧
      tree.entry directory file = tree.entry directory pattern := by
  obtain ⟨file, hpaths, hcomponents, hsame⟩ := FileTree.exists_pathsMatching_eq hplain hfile hblank
  have hown : tree.isFile directory file = true := by
    rwa [FileTree.isFile, hsame, ← FileTree.isFile]
  have hyields : tree.YieldsSome directory pattern [file] :=
    ⟨⟨[file], hpaths, by rw [List.filter_cons_of_pos hown, List.filter_nil]⟩,
      List.cons_ne_nil file []⟩
  exact ⟨file, schemaFiles_eq_ok_iff.mpr ⟨[[file]], hpatterns ▸ .cons hyields .nil, rfl⟩,
    hcomponents, hsame⟩

/-- A path to a file that starts with an empty part finds nothing. -/
theorem schemaFiles_eq_noMatch (hpatterns : project.patterns = [pattern])
    (hplain : hasWildcard pattern.toList = false)
    (hfile : tree.isFile directory pattern = true) (hblank : pattern.startsBlank = true) :
    project.schemaFiles tree directory = .error (.noMatch pattern) := by
  obtain ⟨paths, hpaths, hnone⟩ :=
    FileTree.exists_pathsMatching_eq_of_startsBlank hplain hfile hblank
  exact schemaFiles_eq_error_iff.mpr
    ⟨[], pattern, [], hpatterns, nofun, .inr ⟨⟨paths, hpaths, hnone.symm⟩, rfl⟩⟩

/-- A path to a file that has a bracket, but no star, does not find the file. -/
theorem moves_ne_of_mem_schemaFiles (hpatterns : project.patterns = [pattern])
    (hstar : '*' ∉ pattern.toList) (hbracket : '[' ∈ pattern.toList)
    (hfile : tree.isFile directory pattern = true) {files : List FilePath}
    (hfiles : project.schemaFiles tree directory = .ok files) {file : FilePath}
    (hmem : file ∈ files) : file.moves ≠ pattern.moves := by
  obtain ⟨found, hfound, rfl⟩ := schemaFiles_eq_ok_iff.mp hfiles
  obtain ⟨own, hown, hin⟩ := List.mem_flatten.mp ((sublist_eraseDupsBy _ _).subset hmem)
  obtain ⟨other, hother, ⟨paths, hpaths, rfl⟩, -⟩ := exists_mem_of_forall₂ hfound hown
  rw [hpatterns, List.mem_singleton] at hother
  rw [hother] at hpaths
  exact FileTree.moves_ne_of_mem_pathsMatching hstar hbracket
    (FileTree.getLast?_names_of_isFile hfile).1 hpaths (List.mem_filter.mp hin).1

/-- Where a project finds the file that a plain path leads to, seen from a base.  From a base without
wildcards it finds that file alone, at the same components but for a dot at the start, unless an
empty part stands behind the dots at the start of a relative path: then it finds nothing.  From a
base with a bracket, but no star, it does not find the file. -/
structure FindsPlainPath (project : PlacedProject) (tree : FileTree) (directory : Location)
    (base entry : FilePath) : Prop where
  plain : hasWildcard base.toList = false → (base.join entry).startsBlank = false →
    ∃ file, project.schemaFiles tree directory = .ok [file] ∧
      file.components = (base.join entry).components.filter (· ≠ .current) ∧
      tree.entry directory file = tree.entry directory (base.join entry)
  blank : hasWildcard base.toList = false → (base.join entry).startsBlank = true →
    project.schemaFiles tree directory = .error (.noMatch (base.join entry))
  bracket : '[' ∈ base.toList → '*' ∉ base.toList → ∀ files,
    project.schemaFiles tree directory = .ok files → ∀ file ∈ files,
      file.components.filter (· ≠ .current) ≠ (base.join entry).components.filter (· ≠ .current)

/-- A project with one plain path to its schema finds the file there, wherever it is. -/
theorem findsPlainPath {project : Project} {placed : PlacedProject} {name : String}
    {base entry : FilePath} (hplace : project.place name base = .ok placed)
    (hentry : project.schema.patterns = [entry]) (hrelative : entry.isAbsolute = false)
    (hplain : hasWildcard entry.toList = false) {tree : FileTree} {directory : Location}
    (hfile : tree.isFile directory (base.join entry) = true) :
    placed.FindsPlainPath tree directory base entry := by
  have hpatterns := Project.patterns_of_place hplace hentry
  constructor
  · exact fun hbase => exists_schemaFiles_eq hpatterns (hasWildcard_join hbase hplain) hfile
  · exact fun hbase => schemaFiles_eq_noMatch hpatterns (hasWildcard_join hbase hplain) hfile
  · intro hbracket hstar files hfiles file
    have hne : base ≠ "" := by
      rintro rfl
      cases hbracket
    refine moves_ne_of_mem_schemaFiles hpatterns (fun hin => ?_) ?_ hfile hfiles
    · rcases FilePath.mem_of_mem_join hin with hin | hin | hin
      · exact hstar hin
      · cases hin
      · exact (hasWildcard_eq_false_iff.mp hplain '*' hin).1 rfl
    · rw [FilePath.toList_join hne (Bool.eq_false_iff.mp hrelative)]
      exact List.mem_append_left _ ((FilePath.toList_sublist_slashed base).subset hbracket)

/-- A project whose schema is in a file beside its configuration. -/
def pageProject : Project where
  schema := .path "schema.graphql"
  extensions := some (.ofList [("resolvers", .object [("output", .string "resolvers.ts")])])

/-- The file of the schema in two directories, one of them with a bracket in its name. -/
def pageTree : FileTree where
  entries := [
    (["pages"], .directory),
    (["pages", "slug"], .directory),
    (["pages", "slug", "schema.graphql"], .file (.text "type Query { me: Int }")),
    (["pages", "[slug]"], .directory),
    (["pages", "[slug]", "schema.graphql"], .file (.text "type Query { me: Int }"))]

/-- The schema beside the configuration is found in one of the directories, but not in the other. -/
theorem findsPlainPath_pageProject : pageProject.schema.patterns = ["schema.graphql"] ∧
    (∀ base ∈ ["/pages/slug", "/pages/[slug]"],
      pageTree.isFile [] (FilePath.join base "schema.graphql") = true ∧
      ∃ placed, pageProject.place "default" base = .ok placed ∧
        placed.FindsPlainPath pageTree [] base "schema.graphql") ∧
    (pageProject.place "default" "/pages/[slug]").toOption.map (·.schemaFiles pageTree []) =
      some (.error (.noMatch "/pages/[slug]/schema.graphql")) := by
  have hfiles : ∀ base ∈ ["/pages/slug", "/pages/[slug]"],
      pageTree.isFile [] (FilePath.join base "schema.graphql") = true := by decide +kernel
  have hplaced : ∀ base ∈ ["/pages/slug", "/pages/[slug]"],
      (pageProject.place "default" base).toOption.isSome = true := by decide +kernel
  refine ⟨rfl, fun base hbase => ⟨hfiles base hbase, ?_⟩, by decide +kernel⟩
  obtain ⟨placed, hplace⟩ := isSome_toOption_iff.mp (hplaced base hbase)
  exact ⟨placed, hplace, findsPlainPath hplace rfl (by decide +kernel) (by decide +kernel)
    (hfiles base hbase)⟩

end PlacedProject

end ResolverTypes
