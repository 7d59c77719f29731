import Mathlib.Order.Bounds.Basic
import Mathlib.Order.MinMax
import ResolverTypes.Text.EditDistance

/-!
# The least number of edits

An edit puts one element into a list, takes one out, or replaces one by another, at any place.  The
rows by which the distance of two lists is computed speak of heads only.  Here the distance is shown
to be the least number of edits, at whatever places and in whatever order, that lead from one list
to the other.

## Main definitions

* `Edit`, `Edits` : one edit of a list, and a number of them in turn.
* `EditsApart` : how many edits two texts are apart.

## Main results

* `listDistance_cons_cons` : the distance of two lists in terms of shorter ones.
* `edits_listDistance` : as many edits as the distance are enough.
* `Edits.listDistance_le` : no fewer are.
* `editsApart_iff` : two texts are as many edits apart as their edit distance.
-/

namespace ResolverTypes.Text

variable {α : Type}

/-! ### Edits -/

/-- One edit of a list. -/
inductive Edit : List α → List α → Prop where
  | insert (before after : List α) (a : α) : Edit (before ++ after) (before ++ a :: after)
  | delete (before after : List α) (a : α) : Edit (before ++ a :: after) (before ++ after)
  | replace (before after : List α) (a b : α) : Edit (before ++ a :: after) (before ++ b :: after)

/-- A number of edits, one after the other. -/
inductive Edits : Nat → List α → List α → Prop where
  | none (as : List α) : Edits 0 as as
  | step {n : Nat} {as bs cs : List α} (first : Edit as bs) (rest : Edits n bs cs) :
      Edits (n + 1) as cs

section

variable {as bs : List α}

theorem Edit.cons (h : Edit as bs) (c : α) : Edit (c :: as) (c :: bs) := by
  cases h with
  | insert before after a => exact .insert (c :: before) after a
  | delete before after a => exact .delete (c :: before) after a
  | replace before after a b => exact .replace (c :: before) after a b

/-- The same edits are made behind one more element. -/
theorem Edits.cons {n : Nat} (h : Edits n as bs) (c : α) : Edits n (c :: as) (c :: bs) := by
  induction h with
  | none as => exact .none (c :: as)
  | step first _ ih => exact .step (first.cons c) ih

end

/-! ### The distance in terms of shorter lists -/

variable [DecidableEq α] (a b : α) (as bs : List α)

@[simp] theorem listDistance_nil_left : listDistance [] bs = bs.length := by
  cases bs <;> rfl

/-- What the rows keep: a row holds the distances of its list to another and to its end pieces. -/
theorem distanceRow_cons :
    distanceRow (b :: bs) as = listDistance as (b :: bs) :: distanceRow bs as := by
  induction as with
  | nil => rfl
  | cons a as ih =>
    rw [listDistance, distanceRow, ih]
    rfl

@[simp] theorem listDistance_nil_right : listDistance as [] = as.length := by
  have hrow : distanceRow [] as = [as.length] := by
    induction as with
    | nil => rfl
    | cons a as ih => rw [distanceRow, ih]; rfl
  rw [listDistance, hrow, List.headD_cons]

/-- The first elements of two lists are kept or replaced, or one of them is left out. -/
theorem listDistance_cons_cons :
    listDistance (a :: as) (b :: bs) =
      min (listDistance as bs + if a = b then 0 else 1)
        (min (listDistance as (b :: bs) + 1) (listDistance (a :: as) bs + 1)) := by
  rw [listDistance, distanceRow, distanceRow_cons b as bs, nextRow, List.headD_cons]
  split_ifs <;> rfl

/-! ### Enough edits -/

/-- As many edits as the distance of two lists lead from one to the other. -/
theorem edits_listDistance : Edits (listDistance as bs) as bs := by
  induction as generalizing bs with
  | nil =>
    rw [listDistance_nil_left]
    induction bs with
    | nil => exact .none []
    | cons b bs ih => exact .step (.insert [] [] b) (ih.cons b)
  | cons a as ihas =>
    induction bs with
    | nil =>
      have h := ihas []
      rw [listDistance_nil_right] at h ⊢
      exact .step (.delete [] as a) h
    | cons b bs ihbs =>
      -- The least of the three numbers says which edit comes first.
      rw [listDistance_cons_cons]
      rcases min_choice (listDistance as bs + if a = b then 0 else 1)
        (min (listDistance as (b :: bs) + 1) (listDistance (a :: as) bs + 1)) with h | h <;> rw [h]
      · split_ifs with hab
        · exact hab ▸ (ihas bs).cons a
        · exact .step (.replace [] as a b) ((ihas bs).cons b)
      rcases min_choice (listDistance as (b :: bs) + 1) (listDistance (a :: as) bs + 1) with h | h <;>
        rw [h]
      · exact .step (.delete [] as a) (ihas (b :: bs))
      · exact .step (.insert [] (a :: as) b) (ihbs.cons b)

/-! ### No fewer edits -/

theorem listDistance_cons_left_le : listDistance (a :: as) bs ≤ listDistance as bs + 1 := by
  cases bs with
  | nil => simp
  | cons b bs => rw [listDistance_cons_cons]; omega

theorem listDistance_cons_right_le : listDistance as (b :: bs) ≤ listDistance as bs + 1 := by
  cases as with
  | nil => simp
  | cons a as => rw [listDistance_cons_cons]; omega

theorem listDistance_le_cons_left : listDistance as bs ≤ listDistance (a :: as) bs + 1 := by
  induction bs with
  | nil => simp only [listDistance_nil_right, List.length_cons]; omega
  | cons b bs ih =>
    have hright := listDistance_cons_right_le b as bs
    rw [listDistance_cons_cons]
    omega

theorem listDistance_replace_le (c : α) :
    listDistance (a :: as) bs ≤ listDistance (c :: as) bs + 1 := by
  induction bs with
  | nil => simp
  | cons b bs ih =>
    rw [listDistance_cons_cons a, listDistance_cons_cons c]
    split_ifs <;> omega

variable {as} in
/-- If two lists are about as far from any other, so are they behind one more element. -/
theorem listDistance_cons_le_of_forall {as' : List α}
    (h : ∀ bs, listDistance as bs ≤ listDistance as' bs + 1) :
    listDistance (a :: as) bs ≤ listDistance (a :: as') bs + 1 := by
  induction bs with
  | nil => simpa using h []
  | cons b bs ih =>
    have hboth := h bs
    have hleft := h (b :: bs)
    rw [listDistance_cons_cons a b as, listDistance_cons_cons a b as']
    omega

variable {as} in
theorem listDistance_append_le_of_forall {as' : List α}
    (h : ∀ bs, listDistance as bs ≤ listDistance as' bs + 1) (before : List α) :
    listDistance (before ++ as) bs ≤ listDistance (before ++ as') bs + 1 := by
  induction before generalizing bs with
  | nil => exact h bs
  | cons a before ih => exact listDistance_cons_le_of_forall a bs ih

variable {as bs} in
/-- One edit brings a list closer to another by one at most. -/
theorem Edit.listDistance_le (h : Edit as bs) (cs : List α) :
    listDistance as cs ≤ listDistance bs cs + 1 := by
  cases h with
  | insert before after a =>
    exact listDistance_append_le_of_forall cs (listDistance_le_cons_left a after) before
  | delete before after a =>
    exact listDistance_append_le_of_forall cs (listDistance_cons_left_le a after) before
  | replace before after a b =>
    exact listDistance_append_le_of_forall cs (listDistance_replace_le a after · b) before

@[simp] theorem listDistance_self : listDistance as as = 0 := by
  induction as with
  | nil => rfl
  | cons a as ih => simp [listDistance_cons_cons, ih]

variable {as bs} in
/-- However many edits lead from one list to another, their distance is not greater. -/
theorem Edits.listDistance_le {n : Nat} (h : Edits n as bs) : listDistance as bs ≤ n := by
  induction h with
  | none as => exact (listDistance_self as).le
  | step first _ ih => exact (first.listDistance_le _).trans (Nat.succ_le_succ ih)

/-- The distance of two lists is the least number of edits that lead from one to the other. -/
theorem isLeast_listDistance : IsLeast {n | Edits n as bs} (listDistance as bs) :=
  ⟨edits_listDistance as bs, fun _ h => h.listDistance_le⟩

/-- Two texts are a number of edits apart if that many edits of single characters lead from one to
the other, and no fewer. -/
def EditsApart (n : Nat) (a b : String) : Prop := IsLeast {m | Edits m a.toList b.toList} n

/-- Two texts are as many edits apart as their edit distance. -/
theorem editsApart_iff {n : Nat} {a b : String} : EditsApart n a b ↔ n = editDistance a b := by
  have hleast : EditsApart (editDistance a b) a b := isLeast_listDistance a.toList b.toList
  exact ⟨fun h => h.unique hleast, fun h => h ▸ hleast⟩

end ResolverTypes.Text
