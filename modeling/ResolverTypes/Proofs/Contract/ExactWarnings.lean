import ResolverTypes.Contract.BindingWarning
import ResolverTypes.Proofs.Data.NameLookup
import ResolverTypes.Proofs.Text.EditDistance

/-!
# Exact warnings

The warnings on bindings go through the bindings first and through the types after that.  Between
them they name exactly the bindings of no type and the types of no binding, each once and in a known
order.  A binding of no type is taken for a misspelling of the type that is the fewest edits away,
if there is one near enough; of several as near, it is the first in the order of the names, in
whatever order the types are listed.

## Main definitions

* `IsClosest` : a name is what a misspelt one was most likely meant to be.
* `UnknownExactly`, `UnboundExactly` : the two kinds of warnings, each with all that it is about.
* `WarnsExactly` : a list of warnings has exactly these two kinds in it.

## Main results

* `closestMatch_eq_some_iff`, `closestMatch_eq_none_iff` : what is suggested for a name.
* `warnsExactly_bindingWarnings` : the warnings on the bindings of a project are exact.
-/

namespace ResolverTypes

/-! ### Candidates and their distances -/

/-- Of two candidates, each with its distance, the first is nearer, or as near and not behind the
other in the order of the names. -/
def IsAhead (a b : Nat × String) : Prop := a.1 < b.1 ∨ a.1 = b.1 ∧ a.2 ≤ b.2

namespace IsAhead

theorem refl (a : Nat × String) : IsAhead a a := .inr ⟨rfl, String.le_refl a.2⟩

theorem trans {a b c : Nat × String} (hab : IsAhead a b) (hbc : IsAhead b c) : IsAhead a c := by
  rcases hab with hab | ⟨hab, hnames⟩
  · exact .inl (hbc.elim (hab.trans ·) fun h => h.1 ▸ hab)
  · rw [IsAhead, hab]
    exact hbc.imp id fun h => ⟨h.1, String.le_trans hnames h.2⟩

theorem antisymm {a b : Nat × String} (hab : IsAhead a b) (hba : IsAhead b a) : a.2 = b.2 := by
  rcases hab with hab | ⟨hab, hnames⟩ <;> rcases hba with hba | ⟨hba, hnames'⟩
  · omega
  · omega
  · omega
  · exact String.le_antisymm hnames hnames'

end IsAhead

theorem nearer_eq_or (a b : Nat × String) : nearer a b = a ∨ nearer a b = b := by
  unfold nearer
  split_ifs
  · exact .inr rfl
  · exact .inl rfl

theorem isAhead_nearer_left (a b : Nat × String) : IsAhead (nearer a b) a := by
  unfold nearer
  split_ifs with h
  · refine h.imp id fun h => ⟨h.1, String.not_lt.mp fun hlt => ?_⟩
    exact String.lt_irrefl _ (String.lt_trans h.2 hlt)
  · exact .refl a

theorem isAhead_nearer_right (a b : Nat × String) : IsAhead (nearer a b) b := by
  unfold nearer
  split_ifs with h
  · exact .refl b
  · rcases Nat.lt_trichotomy a.1 b.1 with hlt | heq | hgt
    · exact .inl hlt
    · exact .inr ⟨heq, String.not_lt.mp fun hlt => h (.inr ⟨heq.symm, hlt⟩)⟩
    · exact absurd (.inl hgt) h

/-- What is kept on the way through the candidates is one of those seen, and ahead of them all. -/
theorem foldl_nearer_mem_and_isAhead (first : Nat × String) (rest : List (Nat × String)) :
    rest.foldl nearer first ∈ first :: rest ∧
      ∀ c ∈ first :: rest, IsAhead (rest.foldl nearer first) c := by
  induction rest generalizing first with
  | nil => simp [IsAhead.refl]
  | cons second rest ih =>
    obtain ⟨hmem, hahead⟩ := ih (nearer first second)
    rw [List.foldl_cons]
    have hkept := hahead _ List.mem_cons_self
    constructor
    · rcases List.mem_cons.mp hmem with h | h
      · rw [h]
        rcases nearer_eq_or first second with h | h <;> simp [h]
      · exact List.mem_cons_of_mem _ (List.mem_cons_of_mem _ h)
    · intro c hc
      rcases List.mem_cons.mp hc with rfl | hc
      · exact hkept.trans (isAhead_nearer_left c second)
      rcases List.mem_cons.mp hc with rfl | hc
      · exact hkept.trans (isAhead_nearer_right first c)
      · exact hahead c (List.mem_cons_of_mem _ hc)

/-! ### Suggestions -/

/-- A name is what a misspelt one was most likely meant to be: it is listed and near enough, and
every other listed name is farther away, or as far and behind it in the order of the names. -/
structure IsClosest (name : String) (candidates : List String) (closest : String) : Prop where
  mem : closest ∈ candidates
  near : ∃ n ≤ max 2 (name.length / 3), Text.EditsApart n name closest
  first : ∀ other ∈ candidates, ∀ m n, Text.EditsApart m name closest →
    Text.EditsApart n name other → m < n ∨ m = n ∧ closest ≤ other

variable {name closest : String} {candidates : List String}

theorem isClosest_iff : IsClosest name candidates closest ↔
    closest ∈ candidates ∧ Text.editDistance name closest ≤ misspellingBound name ∧
      ∀ other ∈ candidates, IsAhead (Text.editDistance name closest, closest)
        (Text.editDistance name other, other) := by
  rw [misspellingBound, max_comm]
  constructor
  · rintro ⟨hmem, ⟨n, hn, hapart⟩, hfirst⟩
    rw [Text.editsApart_iff] at hapart
    subst hapart
    refine ⟨hmem, hn, fun other ho => ?_⟩
    exact hfirst other ho _ _ (Text.editsApart_iff.mpr rfl) (Text.editsApart_iff.mpr rfl)
  · rintro ⟨hmem, hnear, hfirst⟩
    refine ⟨hmem, ⟨_, hnear, Text.editsApart_iff.mpr rfl⟩, fun other ho m n hm hn => ?_⟩
    rw [Text.editsApart_iff] at hm hn
    subst hm hn
    exact hfirst other ho

/-- Two names cannot both be the closest. -/
theorem IsClosest.eq {other : String} (h : IsClosest name candidates closest)
    (ho : IsClosest name candidates other) : closest = other := by
  obtain ⟨hmem, -, hfirst⟩ := isClosest_iff.mp h
  obtain ⟨homem, -, hofirst⟩ := isClosest_iff.mp ho
  exact (hfirst other homem).antisymm (hofirst closest hmem)

/-- Which name is the closest does not depend on how the names are listed. -/
theorem IsClosest.congr {others : List String} (hsame : ∀ c, c ∈ candidates ↔ c ∈ others)
    (h : IsClosest name candidates closest) : IsClosest name others closest where
  mem := (hsame closest).mp h.mem
  near := h.near
  first := fun other ho => h.first other ((hsame other).mpr ho)

/-- The candidates that are near enough, each with its distance. -/
def nearCandidates (name : String) (candidates : List String) : List (Nat × String) :=
  (candidates.map fun c => (Text.editDistance name c, c)).filter
    fun c => c.1 ≤ misspellingBound name

theorem mem_nearCandidates_iff {c : Nat × String} : c ∈ nearCandidates name candidates ↔
    c.2 ∈ candidates ∧ c.1 = Text.editDistance name c.2 ∧ c.1 ≤ misspellingBound name := by
  obtain ⟨distance, c⟩ := c
  simp only [nearCandidates, List.mem_filter, List.mem_map, Prod.mk.injEq, exists_eq_right_right,
    decide_eq_true_eq, and_assoc, @eq_comm _ distance]

theorem closestMatch_eq_none_iff_nearCandidates :
    closestMatch name candidates = none ↔ nearCandidates name candidates = [] := by
  unfold closestMatch
  rw [nearCandidates]
  generalize List.filter _ _ = near
  cases near <;> simp

/-- No name is suggested exactly when all are too many edits away. -/
theorem closestMatch_eq_none_iff : closestMatch name candidates = none ↔
    ∀ c ∈ candidates, ∀ n ≤ max 2 (name.length / 3), ¬ Text.EditsApart n name c := by
  rw [closestMatch_eq_none_iff_nearCandidates, List.eq_nil_iff_forall_not_mem, max_comm]
  constructor
  · intro h c hc n hn hapart
    exact h (n, c) (mem_nearCandidates_iff.mpr ⟨hc, Text.editsApart_iff.mp hapart, hn⟩)
  · intro h c hc
    obtain ⟨hmem, hdistance, hnear⟩ := mem_nearCandidates_iff.mp hc
    exact h c.2 hmem c.1 hnear (Text.editsApart_iff.mpr hdistance)

/-- A suggested name is the closest. -/
theorem isClosest_of_closestMatch (h : closestMatch name candidates = some closest) :
    IsClosest name candidates closest := by
  obtain ⟨first, rest, hnear, rfl⟩ : ∃ first rest, nearCandidates name candidates = first :: rest ∧
      (rest.foldl nearer first).2 = closest := by
    unfold closestMatch at h
    rw [nearCandidates]
    generalize List.filter _ _ = near at h
    cases near with
    | nil => cases h
    | cons first rest => exact ⟨first, rest, rfl, Option.some.inj h⟩
  obtain ⟨hmem, hahead⟩ := foldl_nearer_mem_and_isAhead first rest
  generalize rest.foldl nearer first = best at hmem hahead
  simp only [← hnear, mem_nearCandidates_iff] at hmem hahead
  obtain ⟨hc, hdistance, hbound⟩ := hmem
  refine isClosest_iff.mpr ⟨hc, hdistance ▸ hbound, fun other ho => ?_⟩
  rw [← hdistance]
  by_cases hother : Text.editDistance name other ≤ misspellingBound name
  · exact hahead _ ⟨ho, rfl, hother⟩
  · exact .inl (hbound.trans_lt (not_le.mp hother))

/-- The suggested name is the closest, and the closest name is suggested. -/
theorem closestMatch_eq_some_iff :
    closestMatch name candidates = some closest ↔ IsClosest name candidates closest := by
  refine ⟨isClosest_of_closestMatch, fun h => ?_⟩
  cases hmatch : closestMatch name candidates with
  | none =>
    obtain ⟨n, hn, hapart⟩ := h.near
    exact absurd hapart (closestMatch_eq_none_iff.mp hmatch closest h.mem n hn)
  | some other => rw [(isClosest_of_closestMatch hmatch).eq h]

/-- What is suggested does not depend on how the names are listed. -/
theorem closestMatch_congr {others : List String} (hsame : ∀ c, c ∈ candidates ↔ c ∈ others) :
    closestMatch name candidates = closestMatch name others := by
  ext closest
  rw [closestMatch_eq_some_iff, closestMatch_eq_some_iff]
  exact ⟨.congr hsame, .congr fun c => (hsame c).symm⟩

/-! ### All warnings -/

/-- The warnings on some bindings, each with its suggestion, and on some types. -/
def warningsOn (unknown : List (String × Option String)) (unbound : List String) :
    List BindingWarning :=
  unknown.map (fun u => .unknownType u.1 u.2) ++ unbound.map .unbound

/-- The bindings of no type, in the order of the names, each with the closest type if there is one
near enough. -/
structure UnknownExactly (models : ModelBinding) (typeNames : List String)
    (unknown : List (String × Option String)) : Prop where
  increasing : (unknown.map (·.1)).Pairwise (· < ·)
  mem_iff : ∀ name, name ∈ unknown.map (·.1) ↔
    (∃ model, models.get? name = some model) ∧ name ∉ typeNames
  suggested_iff : ∀ u ∈ unknown, ∀ closest, u.2 = some closest ↔ IsClosest u.1 typeNames closest
  unsuggested_iff : ∀ u ∈ unknown, u.2 = none ↔
    ∀ c ∈ typeNames, ∀ n ≤ max 2 (u.1.length / 3), ¬ Text.EditsApart n u.1 c

/-- The types of no binding, roots apart, in the order in which they are listed. -/
structure UnboundExactly (models : ModelBinding) (typeNames : List String)
    (isRoot : String → Bool) (unbound : List String) : Prop where
  sublist : unbound.Sublist typeNames
  mem_iff : ∀ name, name ∈ unbound ↔
    name ∈ typeNames ∧ isRoot name = false ∧ models.get? name = none

/-- Warnings name the bindings of no type and after them the types of no binding, nothing else, and
nothing twice.  Those on bindings stay what they are when the types are listed in another order. -/
structure WarnsExactly (models : ModelBinding) (typeNames : List String) (isRoot : String → Bool)
    (warnings : List BindingWarning) : Prop where
  parts : ∃ unknown unbound, warnings = warningsOn unknown unbound ∧
    UnknownExactly models typeNames unknown ∧ UnboundExactly models typeNames isRoot unbound ∧
    ∀ others, typeNames.Perm others →
      ∃ unbound', bindingWarnings models others isRoot = warningsOn unknown unbound'
  nodup : (warnings.map (·.typeName)).Nodup
  eq_nil_iff : warnings = [] ↔
    (∀ name model, models.get? name = some model → name ∈ typeNames) ∧
      ∀ name ∈ typeNames, isRoot name = false → ∃ model, models.get? name = some model

variable {models : ModelBinding} {typeNames : List String} {isRoot : String → Bool}

/-- The warnings on the bindings of a project, in the two parts in which they are computed. -/
theorem bindingWarnings_eq_warningsOn : bindingWarnings models typeNames isRoot =
    warningsOn
      ((models.keys.filter fun bound => !typeNames.contains bound).map
        fun bound => (bound, closestMatch bound typeNames))
      (typeNames.filter fun name => !isRoot name && !models.contains name) := by
  simp only [bindingWarnings, warningsOn, List.map_map, Function.comp_def]

theorem map_typeName_warningsOn (unknown : List (String × Option String)) (unbound : List String) :
    (warningsOn unknown unbound).map (·.typeName) = unknown.map (·.1) ++ unbound := by
  simp [warningsOn, Function.comp_def, BindingWarning.typeName]

theorem unknownExactly_keys : UnknownExactly models typeNames
    ((models.keys.filter fun bound => !typeNames.contains bound).map
      fun bound => (bound, closestMatch bound typeNames)) where
  increasing := by
    rw [List.map_map, Function.comp_def, List.map_id']
    exact (List.pairwise_map.mpr models.sorted).filter _
  mem_iff := fun name => by
    rw [List.map_map, Function.comp_def, List.map_id', ← NameMap.mem_keys_iff]
    simp
  suggested_iff := by
    simp only [List.forall_mem_map, closestMatch_eq_some_iff, implies_true]
  unsuggested_iff := by
    simp only [List.forall_mem_map, closestMatch_eq_none_iff, implies_true]

theorem unboundExactly_typeNames : UnboundExactly models typeNames isRoot
    (typeNames.filter fun name => !isRoot name && !models.contains name) where
  sublist := List.filter_sublist
  mem_iff := fun name => by simp [NameMap.contains]

/-- No name is warned of twice: those of the bindings are not those of types. -/
theorem nodup_append_of_exactly {unknown : List (String × Option String)} {unbound : List String}
    (h : typeNames.Nodup) (hunknown : UnknownExactly models typeNames unknown)
    (hunbound : UnboundExactly models typeNames isRoot unbound) :
    (unknown.map (·.1) ++ unbound).Nodup := by
  refine List.nodup_append.mpr ⟨hunknown.increasing.imp String.ne_of_lt, hunbound.sublist.nodup h, ?_⟩
  rintro name hname _ hother rfl
  exact ((hunknown.mem_iff name).mp hname).2 (hunbound.sublist.mem hother)

/-- There is nothing to be warned of exactly when every binding is of a type, and every type but the
roots has a binding. -/
theorem nil_and_nil_iff_of_exactly {unknown : List (String × Option String)}
    {unbound : List String} (hunknown : UnknownExactly models typeNames unknown)
    (hunbound : UnboundExactly models typeNames isRoot unbound) :
    unknown = [] ∧ unbound = [] ↔
      (∀ name model, models.get? name = some model → name ∈ typeNames) ∧
        ∀ name ∈ typeNames, isRoot name = false → ∃ model, models.get? name = some model := by
  have hbindings : unknown = [] ↔
      ∀ name model, models.get? name = some model → name ∈ typeNames := by
    rw [← List.map_eq_nil_iff (f := (·.1)), List.eq_nil_iff_forall_not_mem]
    simp only [hunknown.mem_iff, not_and, not_not, forall_exists_index]
  have htypes : unbound = [] ↔
      ∀ name ∈ typeNames, isRoot name = false → ∃ model, models.get? name = some model := by
    rw [List.eq_nil_iff_forall_not_mem]
    simp only [hunbound.mem_iff, not_and, ← Option.ne_none_iff_exists', ne_eq]
  rw [hbindings, htypes]

/-- The warnings on the bindings of a project are exact. -/
theorem warnsExactly_bindingWarnings (h : typeNames.Nodup) :
    WarnsExactly models typeNames isRoot (bindingWarnings models typeNames isRoot) where
  parts := by
    refine ⟨_, _, bindingWarnings_eq_warningsOn, unknownExactly_keys, unboundExactly_typeNames,
      fun others hp => ⟨others.filter fun name => !isRoot name && !models.contains name, ?_⟩⟩
    -- The suggestions and the choice of the bindings depend on which types there are only.
    have hcontains (name : String) : others.contains name = typeNames.contains name := by
      rw [Bool.eq_iff_iff, List.contains_iff_mem, List.contains_iff_mem, hp.mem_iff]
    have hclosest (name : String) : closestMatch name others = closestMatch name typeNames :=
      closestMatch_congr fun c => hp.mem_iff.symm
    simp only [bindingWarnings_eq_warningsOn, hcontains, hclosest]
  nodup := by
    rw [bindingWarnings_eq_warningsOn, map_typeName_warningsOn]
    exact nodup_append_of_exactly h unknownExactly_keys unboundExactly_typeNames
  eq_nil_iff := by
    rw [← nil_and_nil_iff_of_exactly unknownExactly_keys unboundExactly_typeNames,
      bindingWarnings_eq_warningsOn, warningsOn, List.append_eq_nil_iff, List.map_eq_nil_iff,
      List.map_eq_nil_iff (f := BindingWarning.unbound)]

/-- A project that binds a misspelt type and leaves the type that was meant without a model. -/
theorem warnsExactly_misspelt : ["Query", "Post", "User"].Nodup ∧
    WarnsExactly (.ofList [("Post", "PostModel"), ("Usr", "UserModel")]) ["Query", "Post", "User"]
      (· == "Query") [.unknownType "Usr" (some "User"), .unbound "User"] := by
  have hnodup : ["Query", "Post", "User"].Nodup := by decide
  have hwarnings : bindingWarnings (.ofList [("Post", "PostModel"), ("Usr", "UserModel")])
      ["Query", "Post", "User"] (· == "Query") =
        [.unknownType "Usr" (some "User"), .unbound "User"] := by decide +kernel
  exact ⟨hnodup, hwarnings ▸ warnsExactly_bindingWarnings hnodup⟩

end ResolverTypes
