import Mathlib.Data.List.Sort
import ResolverTypes.Data.NameMap

/-!
# Looking up names

In a list whose items have names of their own, looking an item up by its name finds it and no other.
A map from names finds the values of its entries, and a map made from a list the values that stand
last in the list.

## Main definitions

* `NameMap.erase` : a map without the entry of a name.

## Main results

* `find?_name_eq_some_iff`, `filter_name_eq_singleton` : look-up among items with distinct names.
* `mem_before_iff_of_pairwise`, `mem_before_iff` : what stands before an item in the order of a
  relation, and before an entry in the order of the names.
* `NameMap.get?_ofList` : what is found in the map of a list.
* `NameMap.ext_get?` : a map is determined by what it finds.
* `NameMap.ofList_entries` : a map is made from its entries.
* `NameMap.get?_erase` : what is found when an entry is taken away.
* `mem_sortedNames`, `nodup_sortedNames` : sorting keeps the names of a list, each once.
-/

namespace ResolverTypes

/-! ### Items with names of their own -/

section

variable {α : Type} {nameOf : α → String} {items : List α}

theorem find?_name_eq_some_of_mem (h : (items.map nameOf).Nodup) {a : α} (ha : a ∈ items) :
    items.find? (nameOf · == nameOf a) = some a := by
  obtain ⟨b, hb⟩ : ∃ b, items.find? (nameOf · == nameOf a) = some b :=
    Option.isSome_iff_exists.mp (List.find?_isSome.mpr ⟨a, ha, beq_self_eq_true (nameOf a)⟩)
  have hname : nameOf b = nameOf a := by simpa using List.find?_some hb
  rw [hb, List.inj_on_of_nodup_map h (List.mem_of_find?_eq_some hb) ha hname]

/-- Among items with names of their own, an item is found at a name exactly when it is one of them
and has the name. -/
theorem find?_name_eq_some_iff (h : (items.map nameOf).Nodup) {name : String} {a : α} :
    items.find? (nameOf · == name) = some a ↔ a ∈ items ∧ nameOf a = name := by
  constructor
  · intro ha
    exact ⟨List.mem_of_find?_eq_some ha, by simpa using List.find?_some ha⟩
  · rintro ⟨ha, rfl⟩
    exact find?_name_eq_some_of_mem h ha

theorem find?_name_eq_none_iff {name : String} :
    items.find? (nameOf · == name) = none ↔ name ∉ items.map nameOf := by
  simp only [List.find?_eq_none, List.mem_map, beq_iff_eq]
  exact ⟨fun h ⟨a, ha, hn⟩ => h a ha hn, fun h a ha hn => h ⟨a, ha, hn⟩⟩

/-- Among items with names of their own, what is found at a name does not depend on their order. -/
theorem find?_name_eq_of_perm {others : List α} (h : (items.map nameOf).Nodup)
    (hp : items.Perm others) (name : String) :
    others.find? (nameOf · == name) = items.find? (nameOf · == name) := by
  ext a
  rw [find?_name_eq_some_iff h, find?_name_eq_some_iff ((hp.map nameOf).nodup_iff.mp h), hp.mem_iff]

/-- Among items with names of their own, an item is the only one with its name. -/
theorem filter_name_eq_singleton (h : (items.map nameOf).Nodup) {a : α} (ha : a ∈ items) :
    items.filter (nameOf · == nameOf a) = [a] := by
  induction items with
  | nil => cases ha
  | cons b items ih =>
      rw [List.map_cons, List.nodup_cons] at h
      have rest_ne {c : α} (hc : c ∈ items) : (nameOf c == nameOf b) = false :=
        beq_false_of_ne fun hn => h.1 (hn ▸ List.mem_map_of_mem hc)
      rcases List.mem_cons.mp ha with rfl | ha
      · have hrest : items.filter (nameOf · == nameOf a) = [] :=
          List.filter_eq_nil_iff.mpr fun c hc => by rw [rest_ne hc]; exact Bool.false_ne_true
        rw [List.filter_cons, if_pos (beq_self_eq_true _), hrest]
      · have hb : (nameOf b == nameOf a) = false := by
          rw [BEq.comm]
          exact rest_ne ha
        rw [List.filter_cons, hb, if_neg Bool.false_ne_true, ih h.2 ha]

end

/-- In a list in the order of an asymmetric relation, what stands before an item is what comes before
it by the relation. -/
theorem mem_before_iff_of_pairwise {α : Type} {r : α → α → Prop} (hr : ∀ a b, r a b → ¬ r b a)
    {before after : List α} {item other : α} (h : (before ++ item :: after).Pairwise r) :
    other ∈ before ↔ other ∈ before ++ item :: after ∧ r other item := by
  obtain ⟨-, hafter, hbefore⟩ := List.pairwise_append.mp h
  constructor
  · intro ho
    exact ⟨List.mem_append_left _ ho, hbefore other ho item List.mem_cons_self⟩
  · rintro ⟨ho, hlt⟩
    rcases List.mem_append.mp ho with ho | ho
    · exact ho
    rcases List.mem_cons.mp ho with rfl | ho
    · exact absurd hlt (hr _ _ hlt)
    · exact absurd hlt (hr _ _ ((List.pairwise_cons.mp hafter).1 other ho))

/-- In a list in the order of the names, what stands before an entry is what comes before it by its
name. -/
theorem mem_before_iff {α : Type} {before after : List (String × α)} {entry other : String × α}
    (h : (before ++ entry :: after).Pairwise (·.1 < ·.1)) :
    other ∈ before ↔ other ∈ before ++ entry :: after ∧ other.1 < entry.1 :=
  mem_before_iff_of_pairwise (fun _ _ => String.lt_asymm) h

/-! ### Maps -/

namespace NameMap

variable {α : Type}

theorem nodup_keys (m : NameMap α) : m.keys.Nodup :=
  List.pairwise_map.mpr (m.sorted.imp String.ne_of_lt)

/-- In a list in which no name stands twice, a name is found with what stands beside it. -/
theorem lookup_eq_some_iff_mem {l : List (String × α)} (h : (l.map (·.1)).Nodup) {name : String}
    {value : α} : l.lookup name = some value ↔ (name, value) ∈ l := by
  constructor
  · intro hl
    obtain ⟨l₁, l₂, rfl, -⟩ := List.lookup_eq_some_iff.mp hl
    exact List.mem_append_right l₁ List.mem_cons_self
  · intro hm
    cases hl : l.lookup name with
    | none => exact absurd (List.lookup_eq_none_iff.mp hl _ hm) (by simp)
    | some other =>
        obtain ⟨l₁, l₂, rfl, -⟩ := List.lookup_eq_some_iff.mp hl
        have hother : (name, other) ∈ l₁ ++ (name, other) :: l₂ :=
          List.mem_append_right l₁ List.mem_cons_self
        exact congrArg some (congrArg Prod.snd (List.inj_on_of_nodup_map h hother hm rfl))

/-- A map finds, at a name, the value of the entry of that name. -/
theorem get?_eq_some_iff {m : NameMap α} {name : String} {value : α} :
    m.get? name = some value ↔ (name, value) ∈ m.entries :=
  lookup_eq_some_iff_mem (nodup_keys m)

/-- Maps that find the same are the same. -/
theorem ext_get? {m other : NameMap α} (h : ∀ name, m.get? name = other.get? name) :
    m = other := by
  have hmem (e : String × α) : e ∈ m.entries ↔ e ∈ other.entries := by
    obtain ⟨name, value⟩ := e
    rw [← get?_eq_some_iff, ← get?_eq_some_iff, h]
  have hperm : m.entries.Perm other.entries :=
    (List.perm_ext_iff_of_nodup (.of_map _ (nodup_keys m)) (.of_map _ (nodup_keys other))).mpr hmem
  have heq : m.entries = other.entries :=
    hperm.eq_of_pairwise (fun _ _ _ _ hlt hgt => absurd (String.lt_trans hlt hgt)
      (String.lt_irrefl _)) m.sorted other.sorted
  cases m
  cases other
  cases heq
  rfl

theorem mem_keys_iff {m : NameMap α} {name : String} :
    name ∈ m.keys ↔ ∃ value, m.get? name = some value := by
  simp only [keys, get?_eq_some_iff, List.mem_map, Prod.exists, exists_and_right, exists_eq_right]

theorem mem_values_iff {m : NameMap α} {value : α} :
    value ∈ m.values ↔ ∃ name, m.get? name = some value := by
  simp only [values, get?_eq_some_iff, List.mem_map, Prod.exists, exists_eq_right]

/-- The map without the entry of a name. -/
def erase (m : NameMap α) (name : String) : NameMap α :=
  ⟨m.entries.filter (·.1 != name), m.sorted.filter _⟩

theorem get?_erase_eq_some_iff {m : NameMap α} {name other : String} {value : α} :
    (m.erase name).get? other = some value ↔ other ≠ name ∧ m.get? other = some value := by
  simp only [get?_eq_some_iff, erase, List.mem_filter, bne_iff_ne, and_comm]

/-- Without the entry of a name the other names find what they found. -/
theorem get?_erase {m : NameMap α} {name other : String} (h : other ≠ name) :
    (m.erase name).get? other = m.get? other := by
  ext value
  rw [get?_erase_eq_some_iff, and_iff_right h]

theorem mem_values_erase_iff {m : NameMap α} {name : String} {value : α} :
    value ∈ (m.erase name).values ↔ ∃ other ≠ name, m.get? other = some value := by
  simp only [mem_values_iff, get?_erase_eq_some_iff, ne_eq]

theorem get?_foldl_insert (l : List (String × α)) (m : NameMap α) (name : String) :
    (l.foldl (fun m e => m.insert e.1 e.2) m).get? name =
      (l.reverse.lookup name).or (m.get? name) := by
  induction l generalizing m with
  | nil => rfl
  | cons e l ih =>
      obtain ⟨n, value⟩ := e
      rw [List.foldl_cons, ih, get?_insert, List.reverse_cons, List.lookup_append]
      cases l.reverse.lookup name with
      | some value => rfl
      | none =>
          by_cases h : name = n
          · subst h; simp
          · simp [List.lookup_cons, h, beq_false_of_ne h]

/-- The map of a list finds, at a name, the value that stands with it last in the list. -/
theorem get?_ofList (l : List (String × α)) (name : String) :
    (ofList l).get? name = l.reverse.lookup name := by
  rw [ofList, get?_foldl_insert, get?_empty, Option.or_none]

/-- The entries of a map make up that map. -/
theorem ofList_entries (m : NameMap α) : ofList m.entries = m := by
  refine ext_get? fun name => Option.ext fun value => ?_
  have hreverse : (m.entries.reverse.map (·.1)).Nodup := by
    rw [List.map_reverse]
    exact List.nodup_reverse.mpr m.nodup_keys
  rw [get?_ofList, lookup_eq_some_iff_mem hreverse, List.mem_reverse, get?_eq_some_iff]

theorem mem_keys_ofList {l : List (String × α)} {name : String} :
    name ∈ (ofList l).keys ↔ name ∈ l.map (·.1) := by
  rw [mem_keys_iff]
  simp only [get?_ofList]
  rw [← Option.isSome_iff_exists, List.lookup_isSome_iff, List.mem_map]
  simp only [List.mem_reverse, beq_iff_eq, eq_comm (a := name)]

end NameMap

/-! ### Sorted names -/

/-- Sorting keeps the names of a list. -/
@[simp]
theorem mem_sortedNames {names : List String} {name : String} :
    name ∈ sortedNames names ↔ name ∈ names := by
  rw [sortedNames, NameMap.mem_keys_ofList, List.map_map]
  simp

/-- Sorted names increase. -/
theorem pairwise_sortedNames (names : List String) : (sortedNames names).Pairwise (· < ·) :=
  List.pairwise_map.mpr (NameMap.sorted _)

/-- No name stands twice among sorted names. -/
theorem nodup_sortedNames (names : List String) : (sortedNames names).Nodup :=
  NameMap.nodup_keys _

/-- Of more names, more are sorted, and the others keep their places. -/
theorem sublist_sortedNames {names more : List String} (h : names ⊆ more) :
    (sortedNames names).Sublist (sortedNames more) := by
  refine List.sublist_of_subperm_of_pairwise (List.subperm_of_subset (nodup_sortedNames names) ?_)
    (pairwise_sortedNames names) (pairwise_sortedNames more)
  exact fun name hn => mem_sortedNames.mpr (h (mem_sortedNames.mp hn))

/-- The same names are sorted in the same way. -/
theorem sortedNames_congr {names others : List String} (h : ∀ name, name ∈ names ↔ name ∈ others) :
    sortedNames names = sortedNames others :=
  (sublist_sortedNames fun name hn => (h name).mp hn).antisymm
    (sublist_sortedNames fun name hn => (h name).mpr hn)

/-- Names may be chosen from before they are sorted. -/
theorem filter_sortedNames (names : List String) (p : String → Bool) :
    (sortedNames names).filter p = sortedNames (names.filter p) := by
  have hmem (name : String) :
      name ∈ (sortedNames names).filter p ↔ name ∈ sortedNames (names.filter p) := by
    simp only [List.mem_filter, mem_sortedNames]
  have hperm : ((sortedNames names).filter p).Perm (sortedNames (names.filter p)) :=
    (List.perm_ext_iff_of_nodup ((nodup_sortedNames names).filter p) (nodup_sortedNames _)).mpr hmem
  exact hperm.eq_of_pairwise (fun _ _ _ _ hlt hgt => absurd (String.lt_trans hlt hgt)
    (String.lt_irrefl _)) ((pairwise_sortedNames names).filter p) (pairwise_sortedNames _)

end ResolverTypes
