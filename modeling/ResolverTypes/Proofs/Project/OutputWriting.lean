import ResolverTypes.Project.Output
import ResolverTypes.Proofs.Disk.FileChanges

/-!
# Writing the generated module

Where the text of a module is put at a path, the path finds the text; nothing else changes but for
directories that were missing above the path.  Putting the same text there once more succeeds and
changes nothing.

## Main definitions

* `Writes` : a text is put at a path, and nothing else changes but for directories above it.

## Main results

* `writes_of_writeOutput` : a text that is written is put at its path.
* `writeOutput_again` : what is written can be written again, and nothing changes.
* `addsDirectories_writeOutput` : writing what stands there changes no file.
-/

namespace ResolverTypes

open FileTree

variable {tree after : FileTree} {directory : Location} {path : FilePath} {text : String}

/-- A text is put at a path: the path finds the text, and all places stay as they are apart from
that of the path and from those where nothing stood and directories are, to which the parent of the
path or a path above it leads. -/
structure Writes (directory : Location) (path : FilePath) (text : String)
    (tree after : FileTree) : Prop where
  readText_eq : after.readText directory path = .ok text
  at?_eq : ∀ location, after.locate directory path = .ok location ∨
    after.at? location = tree.at? location ∨
    tree.at? location = none ∧ after.at? location = some .directory ∧
      ∃ parent ancestor, FilePath.parent? path = some parent ∧
        FilePath.AtOrAbove ancestor parent ∧ after.locate directory ancestor = .ok location

/-- A text is written when the directory above its path is made, and then its file. -/
theorem exists_made_of_writeOutput {done : Unit}
    (h : writeOutput tree directory path text = (after, .ok done)) :
    ∃ made, tree.createDirectories directory ((FilePath.parent? path).getD "") = (made, .ok ()) ∧
      made.writeText directory path text = .ok after := by
  unfold writeOutput at h
  dsimp only at h
  split at h
  next => cases h
  next made hmade =>
    split at h
    next written hw =>
      cases h
      exact ⟨made, hmade, hw⟩
    next => cases h

/-- A text that is written is put at its path. -/
theorem writes_of_writeOutput {done : Unit}
    (h : writeOutput tree directory path text = (after, .ok done)) :
    Writes directory path text tree after := by
  obtain ⟨made, hmade, hw⟩ := exists_made_of_writeOutput h
  obtain ⟨location, hl, hne, hasks, rfl⟩ := writeText_eq_ok_iff.mp hw
  have hkeeps := keepsDirectories_put hne (.file (.text text))
  have hadds := addsDirectories_createDirectories tree directory ((FilePath.parent? path).getD "")
  refine ⟨readText_put hl hne hasks, fun place => ?_⟩
  by_cases hp : place = location
  · rw [hp]
    exact .inl (locate_of_keepsDirectories hkeeps hl)
  rw [at?_put_of_ne made hp]
  cases hparent : FilePath.parent? path with
  | none =>
      rw [hparent, Option.getD_none, createDirectories_of_isDirectory (.inl rfl)] at hmade
      cases hmade
      exact .inr (.inl rfl)
  | some parent =>
      rw [hparent, Option.getD_some] at hmade hadds
      rw [hmade] at hadds
      rcases hadds place with heq | ⟨hnone, hd, ancestor, ha, hlocated⟩
      · exact .inr (.inl heq)
      · exact .inr (.inr ⟨hnone, hd, parent, ancestor, rfl, ha,
          locate_of_keepsDirectories hkeeps hlocated⟩)

/-- What is written can be written again, and nothing changes. -/
theorem writeOutput_again {done : Unit}
    (h : writeOutput tree directory path text = (after, .ok done)) :
    ∃ again, writeOutput after directory path text = (again, .ok ()) ∧
      ∀ location, again.at? location = after.at? location := by
  obtain ⟨made, hmade, hw⟩ := exists_made_of_writeOutput h
  obtain ⟨location, hl, hne, hasks, rfl⟩ := writeText_eq_ok_iff.mp hw
  have hkeeps := keepsDirectories_put hne (.file (.text text))
  have hparent := (isDirectory_of_createDirectories hmade).imp_right
    (isDirectory_of_keepsDirectories hkeeps)
  have hread : (made.put location (.file (.text text))).readText directory path = .ok text :=
    readText_put hl hne hasks
  obtain ⟨again, hagain, hsame⟩ := writeText_of_readText hread
  refine ⟨again, ?_, hsame⟩
  unfold writeOutput
  dsimp only
  rw [createDirectories_of_isDirectory hparent]
  dsimp only
  rw [hagain]

/-- Writing the text that the path finds changes nothing but for directories above the path. -/
theorem addsDirectories_writeOutput (h : tree.readText directory path = .ok text) :
    AddsDirectories directory ((FilePath.parent? path).getD "") tree
      (writeOutput tree directory path text).1 := by
  have hadds := addsDirectories_createDirectories tree directory ((FilePath.parent? path).getD "")
  unfold writeOutput
  dsimp only
  split
  next made e hmade =>
    rw [hmade] at hadds
    exact hadds
  next made done hmade =>
    rw [hmade] at hadds
    obtain ⟨written, hw, hsame⟩ := writeText_of_readText (hadds.readText_eq h)
    rw [hw]
    exact hadds.trans .refl fun location => .inl (hsame location)

end ResolverTypes
