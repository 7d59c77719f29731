import Mathlib.Data.String.Basic
import ResolverTypes.Disk.Matching
import ResolverTypes.Proofs.Disk.FileChanges
import ResolverTypes.Proofs.Disk.PathParts

/-!
# Paths that are found part by part

A path to a file is looked up one part after the other.  What is found on the way leads where the
parts that are taken lead, and is written with characters of the path, so that it can be followed
wherever the path can.  Only the working directory is written as a dot; in front of the next part it
is left out.

## Main definitions

* `FilePath.OnTheWay` : a path that is found on the way to another, with the parts that are left.
* `FileTree.IsFollowable` : a path that is short enough, without the character zero.
* `FileTree.findParts?` : the path that parts find, one after the other.

## Main results

* `FilePath.onTheWay_start`, `FilePath.OnTheWay.next` : the way starts, and goes on with each part.
* `FileTree.exists_locate_of_onTheWay` : where what is found leads.
* `FileTree.exists_file_of_onTheWay` : the parts that are left find a file at the same place.
-/

namespace ResolverTypes

open FilePath (partComponent?)

namespace FilePath

/-! ### Paths on the way -/

variable {target found : FilePath} {rest : List (List Char)} {name : List Char}

/-- A path that is found on the way to another: the working directory, before any name is taken, or
a path that leads somewhere and does not start in a dot. -/
def IsFound (found : FilePath) : Prop :=
  found = "." ∨ found.components = found.moves ∧ found.moves ≠ []

/-- The text of a path that is found, in front of the next name; the working directory is not
named. -/
def lead (found : FilePath) : List Char := if found = "." then [] else found.slashed

theorem moves_dot : moves "." = [] := by decide +kernel

theorem moves_empty : moves "" = [] := by decide +kernel

theorem IsFound.ne_empty (h : IsFound found) : found ≠ "" := by
  rcases h with rfl | ⟨-, hmoves⟩
  · decide
  · rintro rfl
    exact hmoves moves_empty

theorem IsFound.equivalent_dot_iff (h : IsFound found) :
    equivalent found "." = true ↔ found = "." := by
  constructor
  · intro heq
    rcases h with h | ⟨-, hmoves⟩
    · exact h
    · rw [equivalent, beq_iff_eq] at heq
      rw [moves, heq] at hmoves
      exact absurd moves_dot hmoves
  · rintro rfl
    decide +kernel

/-- What a name makes of a path that is found. -/
theorem IsFound.childPath_eq (h : IsFound found) (name : String) :
    FileTree.childPath found name = if found = "." then name else found.join name := by
  simp only [FileTree.childPath, h.equivalent_dot_iff]

/-- The path that a name is joined to starts with the text in front of the name. -/
theorem IsFound.toList_childPath (h : IsFound found) (hname : '/' ∉ name) :
    (FileTree.childPath found (String.ofList name)).toList = found.lead ++ name := by
  rw [h.childPath_eq, lead]
  split
  · exact String.toList_ofList
  · rw [← String.toList_ofList (l := name)] at hname
    rw [toList_join h.ne_empty (not_isAbsolute hname), String.toList_ofList]

/-- A name adds its component to a path that is found. -/
theorem IsFound.moves_childPath (h : IsFound found) (hname : '/' ∉ name) :
    moves (FileTree.childPath found (String.ofList name)) =
      found.moves ++ (partComponent? name).toList := by
  rw [← String.toList_ofList (l := name)] at hname
  rw [h.childPath_eq]
  split
  next hdot => rw [hdot, moves_dot, moves_of_not_mem hname, String.toList_ofList, List.nil_append]
  next => rw [moves_join h.ne_empty hname, String.toList_ofList]

theorem IsFound.childPath (h : IsFound found) (hname : '/' ∉ name)
    (hsome : found = "." → name ≠ []) :
    IsFound (FileTree.childPath found (String.ofList name)) := by
  have hmoves := h.moves_childPath hname
  rw [← String.toList_ofList (l := name)] at hname
  rw [h.childPath_eq] at hmoves ⊢
  split at hmoves
  next hdot =>
    rw [if_pos hdot]
    by_cases hname' : name = ['.']
    · rw [hname']
      exact .inl rfl
    · have hsome : partComponent? name ≠ none := fun hnone =>
        (partComponent?_eq_none_iff.mp hnone).elim (hsome hdot) hname'
      rw [hdot, moves_dot, List.nil_append] at hmoves
      refine .inr ⟨?_, ?_⟩
      · rw [hmoves, components_of_not_mem hname (by rwa [String.toList_ofList]),
          String.toList_ofList]
      · rw [hmoves]
        exact fun hnil => hsome (Option.toList_eq_nil_iff.mp hnil)
  next hdot =>
    obtain ⟨hcomponents, hne⟩ := h.resolve_left hdot
    rw [if_neg hdot]
    refine .inr ⟨?_, ?_⟩
    · rw [hmoves, components_join h.ne_empty (not_isAbsolute hname), hcomponents,
        filterMap_splitParts_of_not_mem hname, String.toList_ofList]
    · rw [hmoves]
      exact List.append_ne_nil_of_left_ne_nil hne _

/-- Whether nothing but dots stands in front of an empty part, or of the end. -/
def isBlankStart (parts : List (List Char)) : Bool :=
  (parts.dropWhile (· == ['.'])).headD [] == []

/-- Whether a relative path has an empty part behind the dots at its start, or nothing. -/
def startsBlank (path : FilePath) : Bool := !path.isAbsolute && isBlankStart path.names

/-- A path that is found on the way to another, with the parts that are left: they lead from where
the path leads to where the other does, and the path is written with characters of the other. -/
structure OnTheWay (target found : FilePath) (rest : List (List Char)) : Prop where
  isFound : IsFound found
  moves_eq : found.moves ++ rest.filterMap partComponent? = target.moves
  sublist : (found.lead ++ ['/'].intercalate rest).Sublist target.toList
  notBlank : found = "." → isBlankStart rest = false
  notMem : ∀ part ∈ rest, '/' ∉ part

theorem isBlankStart_cons (part : List Char) (rest : List (List Char)) :
    isBlankStart (part :: rest) = if part = ['.'] then isBlankStart rest else part == [] := by
  by_cases h : part = ['.']
  · rw [if_pos h, isBlankStart, List.dropWhile_cons_of_pos (by simpa using h)]
    rfl
  · rw [if_neg h, isBlankStart, List.dropWhile_cons_of_neg (by simpa using h)]
    rfl

theorem lead_sublist (path : FilePath) : path.lead.Sublist (path.toList ++ ['/']) := by
  rw [lead, slashed]
  split
  · exact List.nil_sublist _
  · split
    · exact List.sublist_append_left _ _
    · exact List.Sublist.refl _

theorem toList_sublist_lead (h : found ≠ ".") : found.toList.Sublist found.lead := by
  rw [lead, if_neg h]
  exact toList_sublist_slashed found

/-- A path is on its own way, with all its parts left, from the root or the working directory. -/
theorem onTheWay_start (hblank : target.startsBlank = false) :
    OnTheWay target (if target.isAbsolute then "/" else ".") target.names := by
  have hmem : ∀ part ∈ target.names, '/' ∉ part := fun _ => not_mem_of_mem_names
  have htext := intercalate_splitParts target.toList
  rcases target.cases_names with ⟨ha, hparts⟩ | ⟨ha, hparts⟩
  · have hroot : moves "/" = [.root] := by decide +kernel
    have hlead : lead "/" = ['/'] := by decide +kernel
    rw [hparts, List.intercalate_cons_of_ne_nil target.names_ne_nil] at htext
    rw [if_pos ha]
    refine ⟨.inr (by decide +kernel), ?_, ?_, fun h => absurd h (by decide), hmem⟩
    · rw [moves_eq_names target, if_pos ha, hroot]
    · rw [hlead, ← htext, List.nil_append]
  · rw [hparts] at htext
    rw [if_neg (Bool.eq_false_iff.mp ha)]
    refine ⟨.inl rfl, ?_, ?_, fun _ => ?_, hmem⟩
    · rw [moves_eq_names target, if_neg (Bool.eq_false_iff.mp ha), moves_dot]
    · rw [lead, if_pos rfl, htext, List.nil_append]
    · rwa [startsBlank, ha] at hblank

namespace OnTheWay

variable {part : List Char}

theorem isFound_childPath (h : OnTheWay target found (part :: rest)) :
    IsFound (FileTree.childPath found (String.ofList part)) := by
  refine h.isFound.childPath (h.notMem part List.mem_cons_self) fun hdot hnil => ?_
  have hblank := h.notBlank hdot
  rw [hnil, isBlankStart_cons] at hblank
  cases hblank

theorem moves_childPath (h : OnTheWay target found (part :: rest)) :
    moves (FileTree.childPath found (String.ofList part)) ++ rest.filterMap partComponent? =
      target.moves := by
  rw [h.isFound.moves_childPath (h.notMem part List.mem_cons_self), List.append_assoc,
    ← filterMap_partComponent?_cons, h.moves_eq]

/-- The working directory is found only by dots. -/
theorem childPath_eq_dot (h : OnTheWay target found (part :: rest))
    (hdot : FileTree.childPath found (String.ofList part) = ".") : found = "." ∧ part = ['.'] := by
  have hmoves := h.isFound.moves_childPath (h.notMem part List.mem_cons_self)
  rw [hdot, moves_dot] at hmoves
  have hfound : found = "." :=
    h.isFound.resolve_right fun hf => hf.2 (List.append_eq_nil_iff.mp hmoves.symm).1
  refine ⟨hfound, ?_⟩
  rw [h.isFound.childPath_eq, if_pos hfound] at hdot
  rw [← String.toList_ofList (l := part), hdot]
  rfl

/-- What is found with the next part is on the way, too. -/
theorem next (h : OnTheWay target found (part :: rest)) (hrest : rest ≠ []) :
    OnTheWay target (FileTree.childPath found (String.ofList part)) rest where
  isFound := h.isFound_childPath
  moves_eq := h.moves_childPath
  sublist := by
    refine List.Sublist.trans ?_ h.sublist
    rw [List.intercalate_cons_of_ne_nil hrest, ← List.append_assoc, ← List.append_assoc]
    refine List.Sublist.append ((lead_sublist _).trans ?_) (List.Sublist.refl _)
    rw [h.isFound.toList_childPath (h.notMem part List.mem_cons_self)]
  notBlank hdot := by
    obtain ⟨hfound, hpart⟩ := h.childPath_eq_dot hdot
    have hblank := h.notBlank hfound
    rwa [isBlankStart_cons, if_pos hpart] at hblank
  notMem other ho := h.notMem other (List.mem_cons_of_mem part ho)

/-- What is found with the last part is the path that was asked for, but for a dot at its start. -/
theorem components_last (h : OnTheWay target found [part]) (hpart : partComponent? part ≠ none) :
    (FileTree.childPath found (String.ofList part)).components = target.moves := by
  have hmoves := h.moves_childPath
  rw [List.filterMap_nil, List.append_nil] at hmoves
  rw [← hmoves]
  refine (h.isFound_childPath.resolve_left fun hdot => hpart ?_).1
  rw [(h.childPath_eq_dot hdot).2]
  rfl

theorem sublist_last (h : OnTheWay target found [part]) :
    (FileTree.childPath found (String.ofList part)).toList.Sublist target.toList := by
  rw [h.isFound.toList_childPath (h.notMem part List.mem_cons_self)]
  have hs := h.sublist
  rwa [List.intercalate_singleton] at hs

/-- A path whose last part stands for a component asks for no directory. -/
theorem asksDirectory_last (h : OnTheWay target found [part]) (hpart : partComponent? part ≠ none) :
    FileTree.asksDirectory (FileTree.childPath found (String.ofList part)) = false := by
  have hmem := h.notMem part List.mem_cons_self
  have hslash : ∀ c ∈ part.reverse, c ≠ '/' :=
    fun c hc heq => hmem (heq ▸ List.mem_reverse.mp hc)
  rw [FileTree.asksDirectory, h.isFound.toList_childPath hmem, List.reverse_append]
  match hreverse : part.reverse with
  | [] =>
      rw [List.reverse_eq_nil_iff.mp hreverse] at hpart
      exact absurd rfl hpart
  | c :: chars =>
      rw [hreverse] at hslash
      split
      next heq => exact absurd (List.cons.inj heq).1 (hslash c List.mem_cons_self)
      next heq =>
        -- A dot that ends the text is the whole part, or no slash stands in front of it.
        obtain ⟨rfl, hrest⟩ := List.cons.inj heq
        cases chars with
        | nil =>
            rw [List.reverse_eq_cons_iff.mp hreverse] at hpart
            exact absurd rfl hpart
        | cons d chars =>
            exact absurd (List.cons.inj hrest).1
              (hslash d (List.mem_cons_of_mem _ List.mem_cons_self))
      next => rfl

end OnTheWay

end FilePath

namespace FileTree

variable {tree : FileTree} {directory location : Location} {path target found : FilePath}
  {rest : List (List Char)} {part : List Char}

/-! ### Following a path -/

/-- A path that is short enough to be followed, and holds no character zero. -/
def IsFollowable (path : FilePath) : Prop :=
  Char.ofNat 0 ∉ path.toList ∧ path ≠ "" ∧ path.utf8ByteSize ≤ pathLimit

theorem locate_eq_ok_iff : tree.locate directory path = .ok location ↔
    IsFollowable path ∧ path.components.foldlM tree.step directory = .ok location := by
  unfold locate
  simp only [List.contains_iff_mem, String.isEmpty_iff, gt_iff_lt]
  split_ifs with hzero hempty hlong
  · exact iff_of_false nofun fun h => h.1.1 hzero
  · exact iff_of_false nofun fun h => h.1.2.1 hempty
  · exact iff_of_false nofun fun h => absurd h.1.2.2 (Nat.not_le.mpr hlong)
  · exact (and_iff_right ⟨hzero, hempty, Nat.not_lt.mp hlong⟩).symm

theorem IsFollowable.of_sublist (h : IsFollowable target)
    (hs : path.toList.Sublist target.toList) (hne : path ≠ "") : IsFollowable path := by
  refine ⟨fun hzero => h.1 (hs.subset hzero), hne, ?_⟩
  rw [← String.utf8Len_toList]
  exact (String.utf8Len_le_of_sublist hs).trans (String.utf8Len_toList target ▸ h.2.2)

/-- A dot at the start of a path changes no place. -/
theorem foldlM_step_moves (path : FilePath) :
    path.moves.foldlM tree.step directory = path.components.foldlM tree.step directory := by
  rw [FilePath.moves]
  induction path.components generalizing directory with
  | nil => rfl
  | cons component components ih =>
      cases component with
      | current => exact ih
      | root | up | entry name =>
          rw [List.filter_cons_of_pos rfl, List.foldlM_cons, List.foldlM_cons]
          simp only [ih]

/-- What is found on the way leads to a place from which the parts that are left lead on. -/
theorem exists_locate_of_onTheWay (hl : tree.locate directory target = .ok location)
    (h : FilePath.OnTheWay target found rest) :
    ∃ place, tree.locate directory found = .ok place ∧
      (rest.filterMap partComponent?).foldlM tree.step place = .ok location := by
  obtain ⟨hfollow, hsteps⟩ := locate_eq_ok_iff.mp hl
  rw [← foldlM_step_moves, ← h.moves_eq, List.foldlM_append, bind_eq_ok_iff] at hsteps
  obtain ⟨place, hfound, hrest⟩ := hsteps
  refine ⟨place, locate_eq_ok_iff.mpr ⟨?_, foldlM_step_moves found ▸ hfound⟩, hrest⟩
  by_cases hdot : found = "."
  · rw [hdot]
    exact ⟨by decide +kernel, by decide, by decide +kernel⟩
  · exact hfollow.of_sublist ((FilePath.toList_sublist_lead hdot).trans
      ((List.sublist_append_left _ _).trans h.sublist)) h.isFound.ne_empty

/-- Only a directory has a parent directory and entries. -/
theorem at?_of_step {component : PathComponent} {place next : Location}
    (hpart : partComponent? part = some component) (hs : tree.step place component = .ok next) :
    tree.at? place = some .directory := by
  rcases FilePath.eq_up_or_entry_of_partComponent? hpart with rfl | ⟨name, rfl⟩
  all_goals
    obtain ⟨_, hr, -⟩ := bind_eq_ok_iff.mp hs
    exact requireDirectory_eq_ok_iff.mp hr

/-- A path that is found on the way is a directory as long as a component is left. -/
theorem isDirectory_of_onTheWay (hl : tree.locate directory target = .ok location)
    (h : FilePath.OnTheWay target found rest) (hpart : part ∈ rest)
    (hsome : partComponent? part ≠ none) : tree.isDirectory directory found = true := by
  obtain ⟨place, hfound, hrest⟩ := exists_locate_of_onTheWay hl h
  refine isDirectory_iff.mpr ⟨place, hfound, ?_⟩
  obtain ⟨own, hown⟩ := Option.ne_none_iff_exists'.mp hsome
  have hmem : own ∈ rest.filterMap partComponent? := List.mem_filterMap.mpr ⟨part, hpart, hown⟩
  obtain ⟨component, components, hcomponents⟩ :=
    List.exists_cons_of_ne_nil (List.ne_nil_of_mem hmem)
  rw [hcomponents, List.foldlM_cons, bind_eq_ok_iff] at hrest
  obtain ⟨next, hs, -⟩ := hrest
  obtain ⟨first, -, hfirst⟩ := List.mem_filterMap.mp
    (hcomponents ▸ List.mem_cons_self : component ∈ rest.filterMap partComponent?)
  exact at?_of_step hfirst hs

theorem holds_of_entry {entry : FileEntry} (h : tree.entry directory path = .ok entry) :
    tree.holds directory path = true := by
  rw [holds, h]
  rfl

theorem isFile_iff : tree.isFile directory path = true ↔
    ∃ content, tree.entry directory path = .ok (.file content) := by
  unfold isFile
  split
  next content heq => exact iff_of_true rfl ⟨content, heq⟩
  next hne => exact iff_of_false Bool.false_ne_true fun ⟨content, h⟩ => hne content h

/-- The path that parts find below another, each looked up by its name. -/
def findParts? (tree : FileTree) (directory : Location) (parts : List (List Char))
    (found : FilePath) : Option FilePath :=
  parts.foldlM (fun found part => tree.literalPath? directory found (String.ofList part)) found

theorem findParts?_cons (part : List Char) (parts : List (List Char)) (found : FilePath) :
    tree.findParts? directory (part :: parts) found =
      (tree.literalPath? directory found (String.ofList part)).bind
        (tree.findParts? directory parts) :=
  List.foldlM_cons

theorem literalPath?_eq_some (hd : tree.isDirectory directory found = true)
    (hh : tree.holds directory (childPath found (String.ofList part)) = true) :
    tree.literalPath? directory found (String.ofList part) =
      some (childPath found (String.ofList part)) := by
  rw [literalPath?, if_pos hd, if_pos hh, ite_self]

/-- From a path on the way to a file, the parts that are left find the same file. -/
theorem exists_file_of_onTheWay {content : FileContent}
    (htarget : tree.entry directory target = .ok (.file content))
    (hpart : partComponent? part ≠ none) (init : List (List Char))
    (h : FilePath.OnTheWay target found (init ++ [part])) :
    ∃ file, tree.findParts? directory (init ++ [part]) found = some file ∧
      file.components = target.moves ∧ tree.entry directory file = .ok (.file content) := by
  obtain ⟨location, hl, ha, -⟩ := entry_eq_file_iff.mp htarget
  have hd {found : FilePath} {init : List (List Char)}
      (h : FilePath.OnTheWay target found (init ++ [part])) :
      tree.isDirectory directory found = true :=
    isDirectory_of_onTheWay hl h (List.mem_append_right init List.mem_cons_self) hpart
  induction init generalizing found with
  | nil =>
      have hcomponents := h.components_last hpart
      have hfile : tree.entry directory (childPath found (String.ofList part)) =
          .ok (.file content) := by
        refine entry_eq_file_iff.mpr ⟨location, locate_eq_ok_iff.mpr ⟨?_, ?_⟩, ha,
          h.asksDirectory_last hpart⟩
        · exact (locate_eq_ok_iff.mp hl).1.of_sublist h.sublist_last h.isFound_childPath.ne_empty
        · rw [hcomponents, foldlM_step_moves]
          exact (locate_eq_ok_iff.mp hl).2
      refine ⟨_, ?_, hcomponents, hfile⟩
      rw [List.nil_append, findParts?_cons, literalPath?_eq_some (hd h) (holds_of_entry hfile)]
      rfl
  | cons first init ih =>
      have hnext := h.next (List.append_ne_nil_of_right_ne_nil init (List.cons_ne_nil part []))
      have hholds := holds_of_entry (isDirectory_iff_entry.mp (hd hnext))
      obtain ⟨file, hfile, hrest⟩ := ih hnext
      refine ⟨file, ?_, hrest⟩
      rw [List.cons_append, findParts?_cons, literalPath?_eq_some (hd h) hholds]
      exact hfile

end FileTree

end ResolverTypes
