/-!
# Maps from names

A map from names to values is kept as the list of its entries, in strictly increasing order of
the names.  Two maps with the same entries are therefore equal, and listing a map needs no sorting.

## Main definitions

* `NameMap` : the type of maps.
* `NameMap.get?`, `NameMap.insert`, `NameMap.ofList` : look-up, insertion, and construction from a
  list in which a later entry replaces an earlier one of the same name.
* `sortedNames` : the names of a list in increasing order, each once.

## Main results

* `NameMap.get?_insert` : what a look-up finds after an insertion.
-/

namespace ResolverTypes

/-- A map from names to values: its entries, in strictly increasing order of the names. -/
structure NameMap (α : Type) where
  /-- The entries of the map. -/
  entries : List (String × α)
  /-- No name stands twice, and the names increase. -/
  sorted : entries.Pairwise fun a b => a.1 < b.1
deriving DecidableEq

namespace NameMap

variable {α : Type}

/-- The map without entries. -/
def empty : NameMap α := ⟨[], .nil⟩

instance : EmptyCollection (NameMap α) := ⟨empty⟩

instance : Inhabited (NameMap α) := ⟨empty⟩

/-- The names of the entries, in increasing order. -/
def keys (m : NameMap α) : List String := m.entries.map (·.1)

/-- The values of the entries, in the order of their names. -/
def values (m : NameMap α) : List α := m.entries.map (·.2)

/-- The number of entries. -/
def size (m : NameMap α) : Nat := m.entries.length

/-- The value at a name. -/
def get? (m : NameMap α) (name : String) : Option α := m.entries.lookup name

/-- Whether the map has an entry at a name. -/
def contains (m : NameMap α) (name : String) : Bool := (m.get? name).isSome

/-! ### Insertion -/

/-- Puts an entry at its place in a sorted list of entries; an entry of the same name gives way. -/
def insertEntry (name : String) (value : α) : List (String × α) → List (String × α)
  | [] => [(name, value)]
  | (n, v) :: rest =>
      if name < n then (name, value) :: (n, v) :: rest
      else if n < name then (n, v) :: insertEntry name value rest
      else (name, value) :: rest

theorem mem_insertEntry {name : String} {value : α} {l : List (String × α)} {e : String × α}
    (h : e ∈ insertEntry name value l) : e = (name, value) ∨ e ∈ l := by
  induction l with
  | nil => simpa [insertEntry] using h
  | cons a l ih =>
      obtain ⟨n, v⟩ := a
      simp only [insertEntry] at h
      split at h
      · simpa using h
      · split at h
        · rcases List.mem_cons.mp h with rfl | h
          · exact .inr List.mem_cons_self
          · exact (ih h).imp id (List.mem_cons_of_mem _)
        · rcases List.mem_cons.mp h with rfl | h
          · exact .inl rfl
          · exact .inr (List.mem_cons_of_mem _ h)

theorem pairwise_insertEntry (name : String) (value : α) {l : List (String × α)}
    (h : l.Pairwise fun a b => a.1 < b.1) :
    (insertEntry name value l).Pairwise fun a b => a.1 < b.1 := by
  induction l with
  | nil => exact List.pairwise_singleton _ _
  | cons a l ih =>
      obtain ⟨n, v⟩ := a
      obtain ⟨hn, hl⟩ := List.pairwise_cons.mp h
      simp only [insertEntry]
      split
      next hlt =>
        refine List.pairwise_cons.mpr ⟨fun e he => ?_, h⟩
        rcases List.mem_cons.mp he with rfl | he
        · exact hlt
        · exact String.lt_trans hlt (hn e he)
      next hge =>
        split
        next hlt =>
          refine List.pairwise_cons.mpr ⟨fun e he => ?_, ih hl⟩
          rcases mem_insertEntry he with rfl | he
          · exact hlt
          · exact hn e he
        next hle =>
          have : name = n := String.le_antisymm (String.not_lt.mp hle) (String.not_lt.mp hge)
          exact List.pairwise_cons.mpr ⟨fun e he => this ▸ hn e he, hl⟩

/-- Sets the value at a name. -/
def insert (m : NameMap α) (name : String) (value : α) : NameMap α :=
  ⟨insertEntry name value m.entries, pairwise_insertEntry name value m.sorted⟩

/-- The map with the entries of a list, a later entry replacing an earlier one. -/
def ofList (l : List (String × α)) : NameMap α :=
  l.foldl (fun m e => m.insert e.1 e.2) ∅

/-- Applies a function to every value. -/
def map {β : Type} (f : α → β) (m : NameMap α) : NameMap β :=
  ⟨m.entries.map fun e => (e.1, f e.2), m.sorted.map _ fun _ _ h => h⟩

/-! ### Look-up -/

theorem lookup_insertEntry (name : String) (value : α) (l : List (String × α)) (other : String) :
    (insertEntry name value l).lookup other =
      if other = name then some value else l.lookup other := by
  induction l with
  | nil =>
      by_cases h : other = name
      · subst h; simp [insertEntry]
      · simp [insertEntry, List.lookup_cons, h, beq_false_of_ne h]
  | cons a l ih =>
      obtain ⟨n, v⟩ := a
      simp only [insertEntry]
      split
      next hlt =>
        by_cases h : other = name
        · subst h; simp
        · simp [List.lookup_cons, h, beq_false_of_ne h]
      next hge =>
        split
        next hlt =>
          by_cases ho : other = n
          · subst ho
            have : other ≠ name := fun h => String.lt_irrefl name (h ▸ hlt)
            simp [this]
          · simp [List.lookup_cons, beq_false_of_ne ho, ih]
        next hle =>
          have : name = n := String.le_antisymm (String.not_lt.mp hle) (String.not_lt.mp hge)
          subst this
          by_cases h : other = name
          · subst h; simp
          · simp [List.lookup_cons, h, beq_false_of_ne h]

/-- An insertion is seen at its name and nowhere else. -/
theorem get?_insert (m : NameMap α) (name : String) (value : α) (other : String) :
    (m.insert name value).get? other = if other = name then some value else m.get? other :=
  lookup_insertEntry name value m.entries other

theorem get?_empty (name : String) : (∅ : NameMap α).get? name = none := rfl

end NameMap

/-- The names of a list in increasing order, each once. -/
def sortedNames (names : List String) : List String :=
  (NameMap.ofList (names.map fun name => (name, ()))).keys

end ResolverTypes
