import Mathlib.Logic.Relation
import ResolverTypes.Disk.FileTree
import ResolverTypes.Proofs.Data.Success

/-!
# What operations change in a file tree

A path leads to the same place as long as the directories on its way stay.  No operation takes a
directory away: a text is written where no directory stands, and nothing but that place changes; and
directories are made only where nothing stands, on the way to the path that asks for them.

## Main definitions

* `FilePath.AtOrAbove` : a path, or that of a directory above it.
* `FileTree.KeepsDirectories` : the directories of a tree stay.
* `FileTree.AddsDirectories` : directories are added on the way to a path, and nothing else changes.

## Main results

* `FileTree.locate_of_keepsDirectories` : paths lead to the same places if directories stay.
* `FileTree.readText_eq_ok_iff`, `FileTree.writeText_eq_ok_iff` : reading and writing a text.
* `FileTree.addsDirectories_createDirectories`, `FileTree.isDirectory_of_createDirectories`,
  `FileTree.createDirectories_of_isDirectory` : what making directories changes.
-/

namespace ResolverTypes

open Relation (ReflTransGen)

/-- A path is another one, or that of a directory above it. -/
def FilePath.AtOrAbove (ancestor path : FilePath) : Prop :=
  ReflTransGen (fun path parent => FilePath.parent? path = some parent) path ancestor

namespace FileTree

variable {tree other : FileTree} {directory : Location} {path : FilePath} {location : Location}

/-! ### Following paths -/

/-- The directories of a tree stay in another one. -/
def KeepsDirectories (tree other : FileTree) : Prop :=
  ∀ location, tree.at? location = some .directory → other.at? location = some .directory

theorem requireDirectory_eq_ok_iff {done : Unit} :
    tree.requireDirectory location = .ok done ↔ tree.at? location = some .directory := by
  rw [requireDirectory]
  split
  next h => exact iff_of_true rfl h
  next h => exact iff_of_false nofun (by rw [h]; exact nofun)
  next h => exact iff_of_false nofun (by rw [h]; exact nofun)

theorem step_of_keepsDirectories (h : KeepsDirectories tree other) {component : PathComponent}
    {next : Location} (hs : tree.step location component = .ok next) :
    other.step location component = .ok next := by
  have required {done : Unit} (hr : tree.requireDirectory location = .ok done) :
      other.requireDirectory location = .ok done :=
    requireDirectory_eq_ok_iff.mpr (h _ (requireDirectory_eq_ok_iff.mp hr))
  cases component with
  | root => exact hs
  | current => exact hs
  | up =>
      obtain ⟨_, hr, hs⟩ := bind_eq_ok_iff.mp hs
      exact bind_eq_ok_iff.mpr ⟨_, required hr, hs⟩
  | entry name =>
      obtain ⟨_, hr, hs⟩ := bind_eq_ok_iff.mp hs
      exact bind_eq_ok_iff.mpr ⟨_, required hr, hs⟩

theorem foldlM_step_of_keepsDirectories (h : KeepsDirectories tree other)
    {components : List PathComponent} {start : Location}
    (hs : components.foldlM tree.step start = .ok location) :
    components.foldlM other.step start = .ok location := by
  induction components generalizing start with
  | nil => exact hs
  | cons component components ih =>
      rw [List.foldlM_cons] at hs ⊢
      obtain ⟨next, hc, hs⟩ := bind_eq_ok_iff.mp hs
      exact bind_eq_ok_iff.mpr ⟨next, step_of_keepsDirectories h hc, ih hs⟩

/-- A path leads to the same place in a tree that has at least the directories. -/
theorem locate_of_keepsDirectories (h : KeepsDirectories tree other)
    (hl : tree.locate directory path = .ok location) :
    other.locate directory path = .ok location := by
  unfold locate at hl ⊢
  split_ifs at hl with hnull hempty hlong
  rw [if_neg hnull, if_neg hempty, if_neg hlong]
  exact foldlM_step_of_keepsDirectories h hl

/-! ### Reading and writing -/

/-- A path finds a file exactly when it leads to it and asks for no directory. -/
theorem entry_eq_file_iff {content : FileContent} :
    tree.entry directory path = .ok (.file content) ↔
      ∃ location, tree.locate directory path = .ok location ∧
        tree.at? location = some (.file content) ∧ asksDirectory path = false := by
  rw [entry, bind_eq_ok_iff]
  refine exists_congr fun location => and_congr_right fun _ => ?_
  split
  next h => exact iff_of_false nofun (by rw [h]; exact nofun)
  next h => exact iff_of_false nofun (by rw [h]; exact nofun)
  next own h =>
    rw [h]
    split
    next hasks => exact iff_of_false nofun (by rw [hasks]; exact nofun)
    next hasks =>
      rw [Bool.not_eq_true] at hasks
      simp [hasks, pure, Except.pure]

/-- A path finds a text exactly when it leads to a file that holds it and asks for no directory. -/
theorem readText_eq_ok_iff {text : String} :
    tree.readText directory path = .ok text ↔
      ∃ location, tree.locate directory path = .ok location ∧
        tree.at? location = some (.file (.text text)) ∧ asksDirectory path = false := by
  rw [← entry_eq_file_iff, readText, bind_eq_ok_iff]
  constructor
  · rintro ⟨found, he, ht⟩
    match found, ht with
    | .directory, ht => cases ht
    | .file (.text own), ht =>
        obtain rfl := Except.ok.inj ht
        exact he
    | .file (.binary bytes), ht => cases ht
  · exact fun he => ⟨_, he, rfl⟩

theorem ne_nil_of_at?_ne_directory (h : tree.at? location ≠ some .directory) : location ≠ [] := by
  rintro rfl
  exact h rfl

/-- A path that ends in a dot asks for a directory. -/
theorem asksDirectory_of_endsInDot (h : endsInDot path = true) : asksDirectory path = true := by
  unfold endsInDot at h
  unfold asksDirectory
  cases hchars : path.toList.reverse with
  | nil =>
      rw [hchars] at h
      cases h
  | cons c chars =>
      by_cases hc : c = '/'
      · rw [hc]
        rfl
      · rw [hchars, List.dropWhile_cons_of_neg (by simpa using hc)] at h
        split at h
        next heq =>
          rw [heq]
          rfl
        next => cases h

/-- A text is written exactly where a path leads and no directory stands, unless the path asks for
one. -/
theorem writeText_eq_ok_iff {text : String} {written : FileTree} :
    tree.writeText directory path text = .ok written ↔
      ∃ location, tree.locate directory path = .ok location ∧
        tree.at? location ≠ some .directory ∧ asksDirectory path = false ∧
        written = tree.put location (.file (.text text)) := by
  unfold writeText
  rw [bind_eq_ok_iff]
  refine exists_congr fun location => and_congr_right fun _ => ?_
  have written_iff {found : Option FileEntry} (hne : found ≠ some .directory) :
      (pure (tree.put location (.file (.text text))) : Except FileError FileTree) = .ok written ↔
        found ≠ some .directory ∧ false = false ∧
          written = tree.put location (.file (.text text)) := by
    rw [and_iff_right hne, and_iff_right rfl]
    exact ⟨fun h => (Except.ok.inj h).symm, fun h => congrArg _ h.symm⟩
  cases hasks : asksDirectory path with
  | true =>
      refine iff_of_false ?_ fun h => nomatch h.2.1
      split
      next => exact nofun
      next =>
        rw [if_pos rfl]
        exact nofun
      next =>
        rw [if_pos rfl]
        split <;> exact nofun
  | false =>
      have hdot : endsInDot path ≠ true := fun h => by
        rw [asksDirectory_of_endsInDot h] at hasks
        cases hasks
      rw [if_neg hdot, if_neg Bool.false_ne_true]
      split
      next ha => exact iff_of_false nofun fun h => h.1 ha
      next ha => exact written_iff (by rw [ha]; exact nofun)
      next ha => exact written_iff (by rw [ha]; exact nofun)

theorem keepsDirectories_put (h : tree.at? location ≠ some .directory) (entry : FileEntry) :
    KeepsDirectories tree (tree.put location entry) := by
  intro other ho
  have hne : other ≠ location := by
    rintro rfl
    exact h ho
  rw [at?_put_of_ne tree hne, ho]

/-- Putting at a place what stands there changes nothing. -/
theorem at?_put_same {entry : FileEntry} (h : tree.at? location = some entry)
    (hne : location ≠ []) (place : Location) :
    (tree.put location entry).at? place = tree.at? place := by
  by_cases hp : place = location
  · rw [hp, at?_put tree hne, h]
  · exact at?_put_of_ne tree hp entry

/-- After a text is written, the path finds it. -/
theorem readText_put {text : String} (hl : tree.locate directory path = .ok location)
    (ha : tree.at? location ≠ some .directory) (hasks : asksDirectory path = false) :
    (tree.put location (.file (.text text))).readText directory path = .ok text :=
  readText_eq_ok_iff.mpr ⟨location, locate_of_keepsDirectories (keepsDirectories_put ha _) hl,
    at?_put tree (ne_nil_of_at?_ne_directory ha) _, hasks⟩

/-- Writing the text that a path finds succeeds, and changes nothing. -/
theorem writeText_of_readText {text : String} (h : tree.readText directory path = .ok text) :
    ∃ written, tree.writeText directory path text = .ok written ∧
      ∀ place, written.at? place = tree.at? place := by
  obtain ⟨location, hl, ha, hasks⟩ := readText_eq_ok_iff.mp h
  have hne : tree.at? location ≠ some .directory := by rw [ha]; exact nofun
  exact ⟨_, writeText_eq_ok_iff.mpr ⟨location, hl, hne, hasks, rfl⟩,
    at?_put_same ha (ne_nil_of_at?_ne_directory hne)⟩

/-! ### Making directories -/

/-- A tree is another one with, at most, directories where nothing stood, at places to which a path
or that of a directory above it leads. -/
def AddsDirectories (directory : Location) (path : FilePath) (tree other : FileTree) : Prop :=
  ∀ location, other.at? location = tree.at? location ∨
    tree.at? location = none ∧ other.at? location = some .directory ∧
      ∃ ancestor, FilePath.AtOrAbove ancestor path ∧
        other.locate directory ancestor = .ok location

namespace AddsDirectories

theorem refl (tree : FileTree) : AddsDirectories directory path tree tree := fun _ => .inl rfl

theorem keepsDirectories (h : AddsDirectories directory path tree other) :
    KeepsDirectories tree other := by
  intro location hd
  rcases h location with heq | ⟨hnone, -⟩
  · rw [heq, hd]
  · rw [hd] at hnone
    cases hnone

/-- What stands in a tree stays when directories are added. -/
theorem at?_eq_some (h : AddsDirectories directory path tree other) {entry : FileEntry}
    (ha : tree.at? location = some entry) : other.at? location = some entry := by
  rcases h location with heq | ⟨hnone, -⟩
  · rw [heq, ha]
  · rw [ha] at hnone
    cases hnone

/-- A path that finds a text still does when directories are added. -/
theorem readText_eq {text : String} (h : AddsDirectories directory path tree other)
    {place : Location} {file : FilePath} (hr : tree.readText place file = .ok text) :
    other.readText place file = .ok text := by
  obtain ⟨location, hl, ha, hasks⟩ := readText_eq_ok_iff.mp hr
  exact readText_eq_ok_iff.mpr
    ⟨location, locate_of_keepsDirectories h.keepsDirectories hl, h.at?_eq_some ha, hasks⟩

/-- The files are the same when directories are added. -/
theorem at?_eq_file_iff (h : AddsDirectories directory path tree other) {content : FileContent} :
    other.at? location = some (.file content) ↔ tree.at? location = some (.file content) := by
  refine ⟨fun ho => ?_, h.at?_eq_some⟩
  rcases h location with heq | ⟨-, hd, -⟩
  · rw [← heq, ho]
  · rw [ho] at hd
    cases hd

/-- Directories are added on the way to a path, and then at the path. -/
theorem trans {parent : FilePath} {made : FileTree} (hp : FilePath.AtOrAbove parent path)
    (h : AddsDirectories directory parent tree made)
    (h' : AddsDirectories directory path made other) :
    AddsDirectories directory path tree other := by
  intro location
  rcases h' location with heq' | ⟨hnone, hd, hlocated⟩
  · rcases h location with heq | ⟨hnone, hd, ancestor, ha, hl⟩
    · exact .inl (heq'.trans heq)
    · exact .inr ⟨hnone, heq'.trans hd, ancestor, hp.trans ha,
        locate_of_keepsDirectories h'.keepsDirectories hl⟩
  · rcases h location with heq | ⟨-, hd', -⟩
    · exact .inr ⟨heq ▸ hnone, hd, hlocated⟩
    · rw [hd'] at hnone
      cases hnone

end AddsDirectories

theorem isDirectory_iff_entry : tree.isDirectory directory path = true ↔
    tree.entry directory path = .ok .directory := by
  unfold isDirectory
  split
  next h => exact iff_of_true rfl h
  next h => exact iff_of_false nofun h

theorem isFile_of_isDirectory (h : tree.isDirectory directory path = true) :
    tree.isFile directory path = false := by
  rw [isFile, isDirectory_iff_entry.mp h]

theorem isDirectory_iff : tree.isDirectory directory path = true ↔
    ∃ location, tree.locate directory path = .ok location ∧
      tree.at? location = some .directory := by
  rw [isDirectory_iff_entry, entry, bind_eq_ok_iff]
  refine exists_congr fun location => and_congr_right fun _ => ?_
  split
  next h => exact iff_of_false nofun (by rw [h]; exact nofun)
  next h => exact iff_of_true rfl h
  next h =>
    refine iff_of_false ?_ (by rw [h]; exact nofun)
    split <;> exact nofun

theorem isDirectory_of_keepsDirectories (h : KeepsDirectories tree other)
    (hd : tree.isDirectory directory path = true) : other.isDirectory directory path = true := by
  obtain ⟨location, hl, ha⟩ := isDirectory_iff.mp hd
  exact isDirectory_iff.mpr ⟨location, locate_of_keepsDirectories h hl, h _ ha⟩

/-- A directory is made where the path leads, and nothing stands there. -/
theorem createDirectory_eq_ok_iff {made : FileTree} :
    tree.createDirectory directory path = .ok made ↔
      ∃ location, tree.locate directory path = .ok location ∧ tree.at? location = none ∧
        made = tree.put location .directory := by
  rw [createDirectory, bind_eq_ok_iff]
  refine exists_congr fun location => and_congr_right fun _ => ?_
  cases tree.at? location with
  | some entry => exact iff_of_false nofun nofun
  | none =>
      rw [and_iff_right rfl]
      exact ⟨fun h => (Except.ok.inj h).symm, fun h => congrArg _ h.symm⟩

/-- Where a directory is ensured, one stands, and at most this one is new. -/
theorem of_ensureDirectory {made : FileTree} (h : tree.ensureDirectory directory path = .ok made) :
    AddsDirectories directory path tree made ∧ made.isDirectory directory path = true := by
  unfold ensureDirectory at h
  split at h
  next created hc =>
    obtain rfl := Except.ok.inj h
    obtain ⟨location, hl, hnone, rfl⟩ := createDirectory_eq_ok_iff.mp hc
    have hne : tree.at? location ≠ some .directory := by rw [hnone]; exact nofun
    have hplaced : (tree.put location .directory).at? location = some .directory :=
      at?_put tree (ne_nil_of_at?_ne_directory hne) _
    have hlocated := locate_of_keepsDirectories (keepsDirectories_put hne .directory) hl
    refine ⟨fun place => ?_, isDirectory_iff.mpr ⟨location, hlocated, hplaced⟩⟩
    by_cases hp : place = location
    · rw [hp]
      exact .inr ⟨hnone, hplaced, path, .refl, hlocated⟩
    · exact .inl (at?_put_of_ne tree hp _)
  next =>
    split at h
    next hd =>
      obtain rfl := Except.ok.inj h
      exact ⟨.refl _, hd⟩
    next => cases h

/-- Above the parent of a path are directories above the path. -/
theorem addsDirectories_parent {made : FileTree}
    (h : AddsDirectories directory ((FilePath.parent? path).getD "") tree made)
    (hnone : FilePath.parent? path = none → made = tree)
    (h' : AddsDirectories directory path made other) :
    AddsDirectories directory path tree other := by
  cases hp : FilePath.parent? path with
  | none =>
      rw [hnone hp] at h'
      exact h'
  | some parent =>
      rw [hp] at h
      exact h.trans (.single hp) h'

/-- Making directories in rounds adds directories on the way to the path, however it ends. -/
theorem addsDirectories_createRounds (directory : Location) (n : ℕ) (tree : FileTree)
    (path : FilePath) :
    AddsDirectories directory path tree (tree.createRounds directory n path).1 := by
  induction n generalizing path with
  | zero => exact .refl _
  | succ n ih =>
      have hparent := ih ((FilePath.parent? path).getD "")
      have hempty : FilePath.parent? path = none →
          (tree.createRounds directory n ((FilePath.parent? path).getD "")).1 = tree := by
        intro hp
        rw [hp]
        cases n <;> rfl
      rw [createRounds]
      split
      · exact .refl _
      · split
        next made he => exact (of_ensureDirectory he).1
        next =>
          split
          next made e hr =>
            rw [hr] at hparent hempty
            exact addsDirectories_parent hparent hempty (.refl _)
          next made done hr =>
            rw [hr] at hparent hempty
            split
            next whole he => exact addsDirectories_parent hparent hempty (of_ensureDirectory he).1
            next => exact addsDirectories_parent hparent hempty (.refl _)
        next => exact .refl _

/-- Making directories adds directories on the way to the path, however it ends. -/
theorem addsDirectories_createDirectories (tree : FileTree) (directory : Location)
    (path : FilePath) :
    AddsDirectories directory path tree (tree.createDirectories directory path).1 :=
  addsDirectories_createRounds directory _ tree path

/-- Where directories are made, one stands; the empty path asks for none. -/
theorem isDirectory_of_createDirectories {made : FileTree} {done : Unit}
    (h : tree.createDirectories directory path = (made, .ok done)) :
    path.isEmpty = true ∨ made.isDirectory directory path = true := by
  rw [createDirectories, createRounds] at h
  split at h
  next he => exact .inl he
  next =>
    refine .inr ?_
    split at h
    next he =>
      cases h
      exact (of_ensureDirectory he).2
    next =>
      split at h
      next => cases h
      next =>
        split at h
        next he =>
          cases h
          exact (of_ensureDirectory he).2
        next => cases h
    next => cases h

theorem ensureDirectory_of_isDirectory (h : tree.isDirectory directory path = true) :
    tree.ensureDirectory directory path = .ok tree := by
  obtain ⟨location, hl, ha⟩ := isDirectory_iff.mp h
  unfold ensureDirectory
  split
  next created hc =>
    obtain ⟨place, hp, hnone, -⟩ := createDirectory_eq_ok_iff.mp hc
    rw [Except.ok.inj (hp.symm.trans hl), ha] at hnone
    cases hnone
  next => rw [if_pos h]

/-- Where a directory stands, none is made. -/
theorem createDirectories_of_isDirectory
    (h : path.isEmpty = true ∨ tree.isDirectory directory path = true) :
    tree.createDirectories directory path = (tree, .ok ()) := by
  rw [createDirectories, createRounds]
  split
  · rfl
  next hne =>
    rw [ensureDirectory_of_isDirectory (h.resolve_left hne)]

end FileTree

end ResolverTypes
