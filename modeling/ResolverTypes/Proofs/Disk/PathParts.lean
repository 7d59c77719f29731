import ResolverTypes.Disk.FilePath

/-!
# The parts of a path

A path is made up of its parts and the slashes between them.  A name that is joined to a path adds
its component to those of the path.

## Main definitions

* `FilePath.moves` : the components of a path that lead to another place.
* `FilePath.slashed` : the text of a path in front of a name that is joined to it.

## Main results

* `FilePath.splitParts_append_cons`, `FilePath.intercalate_splitParts` : the parts of a text.
* `FilePath.components_join` : the components of a path that a name is joined to.
-/

namespace ResolverTypes

namespace FilePath

variable {path : FilePath} {chars part : List Char}

/-! ### Parts between slashes -/

theorem splitParts_ne_nil (chars : List Char) : splitParts chars ≠ [] := by
  cases chars with
  | nil => exact nofun
  | cons c chars =>
      rw [splitParts]
      split
      · exact nofun
      · split <;> exact nofun

theorem splitParts_eq_splitOn (chars : List Char) : splitParts chars = chars.splitOn '/' := by
  induction chars with
  | nil => rfl
  | cons c chars ih =>
      rw [splitParts, List.splitOn_cons_eq_if_modifyHead, ← ih]
      simp only [beq_iff_eq]
      split
      next => rfl
      next =>
        split
        next h => exact absurd h (splitParts_ne_nil chars)
        next h => rw [h, List.modifyHead_cons]

theorem splitParts_append_cons (before behind : List Char) :
    splitParts (before ++ '/' :: behind) = splitParts before ++ splitParts behind := by
  simp only [splitParts_eq_splitOn, List.splitOn_append_cons_self]

theorem splitParts_of_not_mem (h : '/' ∉ part) : splitParts part = [part] :=
  (splitParts_eq_splitOn part).trans (List.splitOn_eq_singleton h)

theorem intercalate_splitParts (chars : List Char) :
    ['/'].intercalate (splitParts chars) = chars := by
  rw [splitParts_eq_splitOn, List.intercalate_splitOn]

/-- The parts of a text have its characters but for the slashes. -/
theorem mem_of_mem_splitParts (h : part ∈ splitParts chars) :
    ∀ c ∈ part, c ∈ chars ∧ c ≠ '/' := by
  induction chars generalizing part with
  | nil =>
      rw [List.mem_singleton.mp h]
      exact nofun
  | cons first chars ih =>
      have behind {part : List Char} (h : part ∈ splitParts chars) :
          ∀ c ∈ part, c ∈ first :: chars ∧ c ≠ '/' :=
        fun c hc => ⟨List.mem_cons_of_mem first (ih h c hc).1, (ih h c hc).2⟩
      rw [splitParts] at h
      split at h
      next =>
        rcases List.mem_cons.mp h with rfl | h
        · exact nofun
        · exact behind h
      next hfirst =>
        split at h
        next hparts => exact absurd hparts (splitParts_ne_nil chars)
        next next parts hparts =>
          rcases List.mem_cons.mp h with rfl | h
          · exact List.forall_mem_cons.mpr
              ⟨⟨List.mem_cons_self, hfirst⟩, behind (hparts ▸ List.mem_cons_self)⟩
          · exact behind (hparts ▸ List.mem_cons_of_mem next h)

/-- Every character but a slash is in a part. -/
theorem exists_mem_splitParts {c : Char} (h : c ∈ chars) (hc : c ≠ '/') :
    ∃ part ∈ splitParts chars, c ∈ part := by
  induction chars with
  | nil => cases h
  | cons first chars ih =>
      rw [splitParts]
      split
      next hfirst =>
        obtain ⟨part, hpart, hmem⟩ := ih (List.mem_of_ne_of_mem (hfirst ▸ hc) h)
        exact ⟨part, List.mem_cons_of_mem [] hpart, hmem⟩
      next =>
        split
        next hparts => exact absurd hparts (splitParts_ne_nil chars)
        next next parts hparts =>
          rw [hparts] at ih
          rcases List.mem_cons.mp h with rfl | h
          · exact ⟨_, List.mem_cons_self, List.mem_cons_self⟩
          · obtain ⟨part, hpart, hmem⟩ := ih h
            rcases List.mem_cons.mp hpart with rfl | hpart
            · exact ⟨_, List.mem_cons_self, List.mem_cons_of_mem first hmem⟩
            · exact ⟨part, List.mem_cons_of_mem _ hpart, hmem⟩

/-- A text is its last part, with a slash in front of it unless it is the only one. -/
theorem eq_or_exists_append_of_getLast? (h : (splitParts chars).getLast? = some part) :
    chars = part ∨ ∃ before, chars = before ++ '/' :: part := by
  obtain ⟨init, hparts⟩ := List.getLast?_eq_some_iff.mp h
  rw [← intercalate_splitParts chars, hparts]
  clear h hparts
  induction init with
  | nil => exact .inl List.intercalate_singleton
  | cons first init ih =>
      rw [List.cons_append, List.intercalate_cons_of_ne_nil (by simp), List.append_assoc,
        List.singleton_append]
      rcases ih with ih | ⟨before, ih⟩
      · exact .inr ⟨first, by rw [ih]⟩
      · exact .inr ⟨first ++ '/' :: before, by rw [ih, List.append_assoc, List.cons_append]⟩

/-! ### Components -/

theorem components_eq (path : FilePath) :
    path.components =
      (if path.isAbsolute then [.root]
        else if (splitParts path.toList).head? = some ['.'] then [.current] else []) ++
        (splitParts path.toList).filterMap partComponent? := by
  simp only [components, beq_iff_eq]

/-- The components of a path that lead to another place: all but a dot at its start. -/
def moves (path : FilePath) : List PathComponent := path.components.filter (· ≠ .current)

/-- A part stands for the parent directory or for an entry. -/
theorem eq_up_or_entry_of_partComponent? {component : PathComponent}
    (h : partComponent? part = some component) :
    component = .up ∨ ∃ name, component = .entry name := by
  unfold partComponent? at h
  split at h
  next => cases h
  next => cases h
  next => exact .inl (Option.some.inj h).symm
  next => exact .inr ⟨_, (Option.some.inj h).symm⟩

theorem partComponent?_eq_none_iff : partComponent? part = none ↔ part = [] ∨ part = ['.'] := by
  unfold partComponent?
  split <;> simp_all

theorem filter_filterMap_partComponent? (parts : List (List Char)) :
    (parts.filterMap partComponent?).filter (· ≠ .current) = parts.filterMap partComponent? := by
  refine List.filter_eq_self.mpr fun component hc => ?_
  obtain ⟨part, -, hp⟩ := List.mem_filterMap.mp hc
  rcases eq_up_or_entry_of_partComponent? hp with rfl | ⟨name, rfl⟩ <;> rfl

theorem moves_eq (path : FilePath) :
    path.moves = (if path.isAbsolute then [.root] else []) ++
      (splitParts path.toList).filterMap partComponent? := by
  rw [moves, components_eq, List.filter_append, filter_filterMap_partComponent?]
  congr 1
  split
  · rfl
  · split <;> rfl

theorem isAbsolute_iff : path.isAbsolute = true ↔ ∃ chars, path.toList = '/' :: chars := by
  rw [isAbsolute, beq_iff_eq, List.head?_eq_some_iff]

theorem not_isAbsolute (h : '/' ∉ path.toList) : ¬path.isAbsolute = true := by
  rw [isAbsolute_iff]
  rintro ⟨chars, hchars⟩
  exact h (hchars ▸ List.mem_cons_self)

/-! ### Parts behind the root -/

/-- The parts of a path behind the slash that it may start with. -/
def names (path : FilePath) : List (List Char) :=
  splitParts (if path.toList.head? = some '/' then path.toList.drop 1 else path.toList)

theorem cases_names (path : FilePath) :
    path.isAbsolute = true ∧ splitParts path.toList = [] :: path.names ∨
      path.isAbsolute = false ∧ splitParts path.toList = path.names := by
  rw [names, isAbsolute]
  cases path.toList with
  | nil => exact .inr ⟨rfl, rfl⟩
  | cons c chars =>
      by_cases hc : c = '/'
      · subst hc
        exact .inl ⟨rfl, rfl⟩
      · refine .inr ⟨by simpa using hc, ?_⟩
        rw [if_neg (by simpa using hc)]

theorem names_ne_nil (path : FilePath) : path.names ≠ [] := splitParts_ne_nil _

/-- The parts behind the root have the characters of the path but for the slashes. -/
theorem mem_of_mem_names (h : part ∈ path.names) : ∀ c ∈ part, c ∈ path.toList ∧ c ≠ '/' := by
  refine mem_of_mem_splitParts ?_
  rcases path.cases_names with ⟨-, heq⟩ | ⟨-, heq⟩ <;> rw [heq]
  · exact List.mem_cons_of_mem _ h
  · exact h

theorem not_mem_of_mem_names (h : part ∈ path.names) : '/' ∉ part :=
  fun hslash => (mem_of_mem_names h '/' hslash).2 rfl

theorem exists_mem_names {c : Char} (h : c ∈ path.toList) (hc : c ≠ '/') :
    ∃ part ∈ path.names, c ∈ part := by
  obtain ⟨part, hpart, hmem⟩ := exists_mem_splitParts h hc
  rcases path.cases_names with ⟨-, heq⟩ | ⟨-, heq⟩ <;> rw [heq] at hpart
  · refine ⟨part, List.mem_of_ne_of_mem ?_ hpart, hmem⟩
    rintro rfl
    cases hmem
  · exact ⟨part, hpart, hmem⟩

theorem moves_eq_names (path : FilePath) :
    path.moves = (if path.isAbsolute then [.root] else []) ++
      path.names.filterMap partComponent? := by
  rw [moves_eq]
  rcases path.cases_names with ⟨-, h⟩ | ⟨-, h⟩ <;> rw [h]
  rfl

theorem getLast?_names (path : FilePath) :
    path.names.getLast? = (splitParts path.toList).getLast? := by
  rcases path.cases_names with ⟨-, h⟩ | ⟨-, h⟩ <;> rw [h]
  exact (List.getLast?_cons_of_ne_nil (splitParts_ne_nil _)).symm

/-! ### A name joined to a path -/

/-- The text of a path in front of a name that is joined to it. -/
def slashed (path : FilePath) : List Char :=
  if path.toList.getLast? = some '/' then path.toList else path.toList ++ ['/']

theorem toList_sublist_slashed (path : FilePath) : path.toList.Sublist path.slashed := by
  rw [slashed]
  split
  · exact List.Sublist.refl _
  · exact List.sublist_append_left _ _

theorem join_eq_right {path name : FilePath} (h : name.isAbsolute = true ∨ path = "") :
    path.join name = name := by
  rw [join, if_pos]
  simpa [String.isEmpty_iff] using h

theorem toList_join (h : path ≠ "") {name : FilePath} (hname : ¬name.isAbsolute = true) :
    (path.join name).toList = path.slashed ++ name.toList := by
  have hsome : path.isEmpty = false := by
    rw [← Bool.not_eq_true, String.isEmpty_iff]
    exact h
  rw [join, Bool.eq_false_iff.mpr hname, hsome, slashed, Bool.or_false, if_neg Bool.false_ne_true]
  simp only [beq_iff_eq]
  split
  · exact String.toList_append
  · simp [String.toList_append]

theorem toList_ne_nil (h : path ≠ "") : path.toList ≠ [] :=
  fun hnil => h (String.toList_eq_nil_iff.mp hnil)

theorem head?_slashed_append (h : path ≠ "") (name : List Char) :
    (path.slashed ++ name).head? = path.toList.head? := by
  obtain ⟨c, chars, hpath⟩ := List.exists_cons_of_ne_nil (toList_ne_nil h)
  rw [slashed, hpath]
  split <;> rfl

/-- The last part of a path is given up for what is joined where it is empty, and else stays. -/
theorem splitParts_slashed_append (path : FilePath) (chars : List Char) :
    ∃ first rest, splitParts (path.slashed ++ chars) = first :: rest ++ splitParts chars ∧
      (splitParts path.toList = first :: rest ∨ splitParts path.toList = first :: rest ++ [[]]) := by
  rw [slashed]
  split
  next h =>
    obtain ⟨before, hb⟩ := List.getLast?_eq_some_iff.mp h
    obtain ⟨first, rest, hparts⟩ := List.exists_cons_of_ne_nil (splitParts_ne_nil before)
    refine ⟨first, rest, ?_, .inr ?_⟩
    · rw [hb, List.append_assoc, List.singleton_append, splitParts_append_cons, hparts]
    · rw [hb, splitParts_append_cons, hparts]
      rfl
  next =>
    obtain ⟨first, rest, hparts⟩ := List.exists_cons_of_ne_nil (splitParts_ne_nil path.toList)
    refine ⟨first, rest, ?_, .inl hparts⟩
    rw [List.append_assoc, List.singleton_append, splitParts_append_cons, hparts]

theorem filterMap_partComponent?_cons (part : List Char) (parts : List (List Char)) :
    (part :: parts).filterMap partComponent? =
      (partComponent? part).toList ++ parts.filterMap partComponent? := by
  rw [List.filterMap_cons]
  cases partComponent? part <;> rfl

theorem filterMap_partComponent?_singleton (part : List Char) :
    [part].filterMap partComponent? = (partComponent? part).toList :=
  (filterMap_partComponent?_cons part []).trans (List.append_nil _)

theorem filterMap_splitParts_of_not_mem (h : '/' ∉ part) :
    (splitParts part).filterMap partComponent? = (partComponent? part).toList := by
  rw [splitParts_of_not_mem h, filterMap_partComponent?_singleton]

/-- What is joined to a path adds the components of its parts. -/
theorem components_join (h : path ≠ "") {name : FilePath} (hname : ¬name.isAbsolute = true) :
    (path.join name).components =
      path.components ++ (splitParts name.toList).filterMap partComponent? := by
  obtain ⟨first, rest, hjoin, hparts⟩ := splitParts_slashed_append path name.toList
  have habsolute : (path.join name).isAbsolute = path.isAbsolute := by
    rw [isAbsolute, toList_join h hname, head?_slashed_append h, isAbsolute]
  have hhead : (splitParts path.toList).head? = some first := by
    rcases hparts with hp | hp <;> rw [hp] <;> rfl
  have hfilter : (splitParts path.toList).filterMap partComponent? =
      (first :: rest).filterMap partComponent? := by
    rcases hparts with hp | hp <;> rw [hp]
    rw [List.filterMap_append]
    exact List.append_nil _
  rw [components_eq, components_eq, habsolute, toList_join h hname, hjoin, hhead, hfilter,
    List.filterMap_append, ← List.append_assoc]
  rfl

/-- A name that is no dot has its own component only. -/
theorem components_of_not_mem {name : FilePath} (hname : '/' ∉ name.toList)
    (hdot : name.toList ≠ ['.']) : name.components = (partComponent? name.toList).toList := by
  rw [components_eq, if_neg (not_isAbsolute hname), filterMap_splitParts_of_not_mem hname,
    splitParts_of_not_mem hname, List.head?_cons, if_neg fun h => hdot (Option.some.inj h)]
  rfl

theorem moves_join (h : path ≠ "") {name : FilePath} (hname : '/' ∉ name.toList) :
    (path.join name).moves = path.moves ++ (partComponent? name.toList).toList := by
  rw [moves, components_join h (not_isAbsolute hname), List.filter_append,
    filter_filterMap_partComponent?, filterMap_splitParts_of_not_mem hname]
  rfl

theorem moves_of_not_mem {name : FilePath} (hname : '/' ∉ name.toList) :
    name.moves = (partComponent? name.toList).toList := by
  rw [moves_eq, if_neg (not_isAbsolute hname), filterMap_splitParts_of_not_mem hname]
  rfl

end FilePath

end ResolverTypes
