import Mathlib.Data.List.Nodup

/-!
# First occurrences

Of the items of a list that a relation takes for the same, the first is kept and the later ones are
dropped.

## Main results

* `pairwise_eraseDupsBy` : no item that is kept is taken for one that is kept before it.
* `exists_mem_eraseDupsBy` : every item is taken for one that is kept.
* `nodup_eraseDups`, `eraseDups_of_nodup` : the distinct items of a list.
* `eraseDups_append_eraseDups` : dropping repeats in two lists before they are joined changes
  nothing.
-/

namespace ResolverTypes

variable {α : Type}

section

variable {same : α → α → Bool}

theorem sublist_eraseDupsBy (same : α → α → Bool) : (l : List α) → (l.eraseDupsBy same).Sublist l
  | [] => .slnil
  | a :: l => by
      rw [List.eraseDupsBy_cons]
      exact ((sublist_eraseDupsBy same _).trans List.filter_sublist).cons_cons a
termination_by l => l.length
decreasing_by exact Nat.lt_succ_of_le (List.length_filter_le _ l)

/-- No item that is kept is taken for one that is kept before it. -/
theorem pairwise_eraseDupsBy (same : α → α → Bool) : (l : List α) →
    (l.eraseDupsBy same).Pairwise fun a b => same b a = false
  | [] => .nil
  | a :: l => by
      rw [List.eraseDupsBy_cons]
      refine List.pairwise_cons.mpr ⟨fun b hb => ?_, pairwise_eraseDupsBy same _⟩
      simpa using (List.mem_filter.mp ((sublist_eraseDupsBy same _).subset hb)).2
termination_by l => l.length
decreasing_by exact Nat.lt_succ_of_le (List.length_filter_le _ l)

/-- Every item is taken for one that is kept. -/
theorem exists_mem_eraseDupsBy (hrefl : ∀ a, same a a = true) : (l : List α) →
    ∀ a ∈ l, ∃ b ∈ l.eraseDupsBy same, same a b = true
  | [] => nofun
  | first :: l => by
      intro a ha
      rw [List.eraseDupsBy_cons]
      by_cases hsame : same a first = true
      · exact ⟨first, List.mem_cons_self, hsame⟩
      rcases List.mem_cons.mp ha with rfl | ha
      · exact absurd (hrefl a) hsame
      · have hkept : a ∈ l.filter fun b => same b first = false := by simp [ha, hsame]
        obtain ⟨b, hb, hab⟩ := exists_mem_eraseDupsBy hrefl _ a hkept
        exact ⟨b, List.mem_cons_of_mem _ hb, hab⟩
termination_by l => l.length
decreasing_by exact Nat.lt_succ_of_le (List.length_filter_le _ l)

end

variable [BEq α] [LawfulBEq α]

theorem nodup_eraseDups (l : List α) : l.eraseDups.Nodup :=
  (pairwise_eraseDupsBy (· == ·) l).imp fun h => (ne_of_beq_false h).symm

theorem eraseDups_of_nodup {l : List α} (h : l.Nodup) : l.eraseDups = l := by
  induction l with
  | nil => rfl
  | cons a l ih =>
      obtain ⟨ha, hl⟩ := List.nodup_cons.mp h
      have hfilter : l.filter (fun b => !b == a) = l :=
        List.filter_eq_self.mpr fun b hb => by simpa using ne_of_mem_of_not_mem hb ha
      rw [List.eraseDups_cons, hfilter, ih hl]

theorem eraseDups_eraseDups (l : List α) : l.eraseDups.eraseDups = l.eraseDups :=
  eraseDups_of_nodup (nodup_eraseDups l)

/-- Of the items that satisfy a condition the same are kept, whether the others are dropped before
or after. -/
theorem eraseDups_filter (p : α → Bool) : (l : List α) →
    (l.filter p).eraseDups = l.eraseDups.filter p
  | [] => rfl
  | a :: l => by
      rw [List.eraseDups_cons]
      by_cases ha : p a = true
      · rw [List.filter_cons_of_pos ha, List.filter_cons_of_pos ha, List.eraseDups_cons,
          ← eraseDups_filter p, List.filter_comm]
      · have hkept : (l.filter fun b => !b == a).filter p = l.filter p := by
          rw [List.filter_filter]
          refine List.filter_congr fun b _ => ?_
          by_cases hb : b = a
          · simp [hb, ha]
          · simp [hb]
        rw [List.filter_cons_of_neg ha, List.filter_cons_of_neg ha, ← eraseDups_filter p, hkept]
termination_by l => l.length
decreasing_by all_goals exact Nat.lt_succ_of_le (List.length_filter_le _ l)

/-- Of two lists that are joined, those items of the second are kept that are not in the first. -/
theorem eraseDups_append_eq (l m : List α) :
    (l ++ m).eraseDups = l.eraseDups ++ m.eraseDups.filter fun b => !l.contains b := by
  rw [List.eraseDups_append, List.removeAll, eraseDups_filter]

/-- Dropping repeats in two lists before they are joined changes nothing. -/
theorem eraseDups_append_eraseDups (l m : List α) :
    (l.eraseDups ++ m.eraseDups).eraseDups = (l ++ m).eraseDups := by
  rw [eraseDups_append_eq, eraseDups_append_eq, eraseDups_eraseDups, eraseDups_eraseDups]
  refine congrArg (l.eraseDups ++ ·) (List.filter_congr fun b _ => ?_)
  rw [Bool.eq_iff_iff]
  simp

end ResolverTypes
