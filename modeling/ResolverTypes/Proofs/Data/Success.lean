import Mathlib.Data.List.Forall2

/-!
# Computations that succeed

What it means for a computation made of others to succeed: each of its parts does.  A computation
for each item of a list fails where the first of its parts fails.

## Main definitions

* `failure?` : the error of a computation that fails.

## Main results

* `bind_eq_ok_iff`, `map_eq_ok_iff`, `mapError_eq_ok_iff` : a step, and what is made of its result or
  its error.
* `mapM_eq_ok_iff`, `forM_eq_ok_iff` : a computation for each item of a list.
* `forM_eq_error_iff` : an action that fails for an item of a list.
* `failure?_bind`, `failure?_mapM`, `failure?_foldlM` : the error of a computation made of others.
* `forall₂_imp_of_mem`, `exists_append_of_forall₂`, `exists_forall₂_of_forall₂`,
  `exists_forall₂_of_forall_mem` : lists that agree item by item.
-/

namespace ResolverTypes

variable {ε ε' α β : Type}

theorem bind_eq_ok_iff {x : Except ε α} {f : α → Except ε β} {b : β} :
    x >>= f = .ok b ↔ ∃ a, x = .ok a ∧ f a = .ok b := by
  cases x with
  | error e => exact ⟨nofun, fun ⟨_, h, _⟩ => nomatch h⟩
  | ok a => exact ⟨fun h => ⟨a, rfl, h⟩, fun ⟨_, h, hf⟩ => by cases h; exact hf⟩

theorem mapError_eq_ok_iff {x : Except ε α} {f : ε → ε'} {a : α} :
    x.mapError f = .ok a ↔ x = .ok a := by
  cases x with
  | error e => exact ⟨nofun, nofun⟩
  | ok b => exact ⟨fun h => congrArg _ (Except.ok.inj h), fun h => congrArg _ (Except.ok.inj h)⟩

theorem map_eq_ok_iff {x : Except ε α} {f : α → β} {b : β} :
    x.map f = .ok b ↔ ∃ a, x = .ok a ∧ f a = b := by
  cases x with
  | error e => exact iff_of_false nofun fun ⟨_, h, _⟩ => nomatch h
  | ok a =>
      constructor
      · exact fun h => ⟨a, rfl, Except.ok.inj h⟩
      · rintro ⟨_, h, rfl⟩
        rw [← Except.ok.inj h]
        rfl

theorem toOption_eq_some_iff {x : Except ε α} {a : α} : x.toOption = some a ↔ x = .ok a := by
  cases x with
  | error e => exact iff_of_false nofun nofun
  | ok b => exact ⟨fun h => congrArg _ (Option.some.inj h), fun h => congrArg _ (Except.ok.inj h)⟩

theorem isSome_toOption_iff {x : Except ε α} : x.toOption.isSome ↔ ∃ a, x = .ok a := by
  cases x with
  | error e => exact iff_of_false nofun nofun
  | ok a => exact iff_of_true rfl ⟨a, rfl⟩

/-- A computation for each item of a list succeeds exactly when it does so item by item. -/
theorem mapM_eq_ok_iff {f : α → Except ε β} {l : List α} {l' : List β} :
    l.mapM f = .ok l' ↔ List.Forall₂ (fun a b => f a = .ok b) l l' := by
  induction l generalizing l' with
  | nil =>
      rw [List.mapM_nil, List.forall₂_nil_left_iff]
      exact ⟨fun h => (Except.ok.inj h).symm, fun h => congrArg _ h.symm⟩
  | cons a l ih =>
      rw [List.mapM_cons, bind_eq_ok_iff, List.forall₂_cons_left_iff]
      simp only [bind_eq_ok_iff, ih]
      constructor
      · rintro ⟨b, hb, bs, hbs, h⟩
        exact ⟨b, bs, hb, hbs, (Except.ok.inj h).symm⟩
      · rintro ⟨b, bs, hb, hbs, rfl⟩
        exact ⟨b, hb, bs, hbs, rfl⟩

/-- An action for each item of a list succeeds exactly when it does so for each of them. -/
theorem forM_eq_ok_iff {f : α → Except ε Unit} {l : List α} {done : Unit} :
    l.forM f = .ok done ↔ ∀ a ∈ l, f a = .ok () := by
  induction l with
  | nil => exact iff_of_true rfl nofun
  | cons a l ih =>
      rw [List.forM, bind_eq_ok_iff, List.forall_mem_cons, ← ih]
      exact ⟨fun ⟨_, h, hl⟩ => ⟨h, hl⟩, fun ⟨h, hl⟩ => ⟨_, h, hl⟩⟩

/-- An action for each item of a list fails as it does for the first item that it fails for. -/
theorem forM_eq_error_iff {f : α → Except ε Unit} {l : List α} {e : ε} :
    l.forM f = .error e ↔
      ∃ l₁ a l₂, l = l₁ ++ a :: l₂ ∧ (∀ b ∈ l₁, f b = .ok ()) ∧ f a = .error e := by
  constructor
  · intro h
    induction l with
    | nil => cases h
    | cons a l ih =>
        rw [List.forM] at h
        cases hf : f a with
        | error e' =>
            rw [hf] at h
            exact ⟨[], a, l, rfl, nofun, hf.trans (congrArg Except.error (Except.error.inj h))⟩
        | ok done =>
            rw [hf] at h
            obtain ⟨l₁, b, l₂, rfl, hbefore, hb⟩ := ih h
            exact ⟨a :: l₁, b, l₂, rfl, List.forall_mem_cons.mpr ⟨hf, hbefore⟩, hb⟩
  · rintro ⟨l₁, a, l₂, rfl, hbefore, ha⟩
    induction l₁ with
    | nil =>
        rw [List.nil_append, List.forM, ha]
        rfl
    | cons b l₁ ih =>
        obtain ⟨hb, hbefore⟩ := List.forall_mem_cons.mp hbefore
        rw [List.cons_append, List.forM, hb]
        exact ih hbefore

/-! ### How a computation fails -/

/-- The error of a computation, if it fails. -/
def failure? : Except ε α → Option ε
  | .error e => some e
  | .ok _ => none

theorem failure?_eq_some_iff {x : Except ε α} {e : ε} : failure? x = some e ↔ x = .error e := by
  cases x with
  | error e' =>
      exact ⟨fun h => congrArg _ (Option.some.inj h), fun h => congrArg _ (Except.error.inj h)⟩
  | ok a => exact iff_of_false nofun nofun

/-- Where the second step fails in the same way whatever it is given, two steps fail as the first
does, or else as the second does. -/
theorem failure?_bind {x : Except ε α} {f : α → Except ε β} {e? : Option ε}
    (h : ∀ a, failure? (f a) = e?) : failure? (x >>= f) = (failure? x).or e? := by
  cases x with
  | error e => rfl
  | ok a => exact h a

/-- What is made of a result cannot fail. -/
theorem failure?_bind_pure {x : Except ε α} {f : α → β} :
    failure? (do return f (← x)) = failure? x := by
  cases x <;> rfl

/-- A computation for each item of a list fails as it does for the first item it fails for. -/
theorem failure?_mapM {f : α → Except ε β} {l : List α} :
    failure? (l.mapM f) = l.findSome? fun a => failure? (f a) := by
  induction l with
  | nil => rfl
  | cons a l ih =>
      rw [List.mapM_cons, List.findSome?_cons]
      cases hf : f a with
      | error e => rfl
      | ok b =>
          exact failure?_bind_pure.trans ih

/-- Steps that each fail in the same way whatever they are given fail together as the first of them
that fails. -/
theorem failure?_foldlM {f : β → α → Except ε β} {failsWith : α → Option ε}
    (h : ∀ b a, failure? (f b a) = failsWith a) {l : List α} {b : β} :
    failure? (l.foldlM f b) = l.findSome? failsWith := by
  induction l generalizing b with
  | nil => rfl
  | cons a l ih =>
      rw [List.foldlM_cons, failure?_bind fun _ => ih, h, List.findSome?_cons]
      cases failsWith a <;> rfl

/-! ### Lists that agree item by item -/

/-- What follows for the items of a list follows for lists that agree item by item. -/
theorem forall₂_imp_of_mem {R S : α → β → Prop} {l : List α} {l' : List β}
    (h : List.Forall₂ R l l') (himp : ∀ a ∈ l, ∀ b, R a b → S a b) : List.Forall₂ S l l' :=
  ((List.forall₂_and_left l l').mpr ⟨fun _ ha => ha, h⟩).imp fun a b hab => himp a hab.1 b hab.2

/-- An item of one of two lists that agree item by item has its counterpart in the other. -/
theorem exists_mem_of_forall₂ {R : α → β → Prop} {l : List α} {l' : List β}
    (h : List.Forall₂ R l l') {b : β} (hb : b ∈ l') : ∃ a ∈ l, R a b := by
  induction h with
  | nil => cases hb
  | cons hr _ ih =>
      rcases List.mem_cons.mp hb with rfl | hb
      · exact ⟨_, List.mem_cons_self, hr⟩
      · obtain ⟨a, ha, hr⟩ := ih hb
        exact ⟨a, List.mem_cons_of_mem _ ha, hr⟩

/-- What agrees item by item with two lists in a row consists of what agrees with each. -/
theorem exists_append_of_forall₂ {R : α → β → Prop} {l₁ l₂ : List α} {l' : List β}
    (h : List.Forall₂ R (l₁ ++ l₂) l') :
    ∃ l₁' l₂', List.Forall₂ R l₁ l₁' ∧ List.Forall₂ R l₂ l₂' ∧ l' = l₁' ++ l₂' :=
  ⟨l'.take l₁.length, l'.drop l₁.length, (List.forall₂_take_append l' l₁ l₂ h.flip).flip,
    (List.forall₂_drop_append l' l₁ l₂ h.flip).flip, (List.take_append_drop ..).symm⟩

/-- Where every counterpart of an item has a further counterpart, so have the lists. -/
theorem exists_forall₂_of_forall₂ {γ : Type} {R : α → β → Prop} {S : α → γ → Prop}
    {T : β → γ → Prop} {l : List α} {l' : List β} (h : List.Forall₂ R l l')
    (hex : ∀ a b, R a b → ∃ c, S a c ∧ T b c) :
    ∃ l'', List.Forall₂ S l l'' ∧ List.Forall₂ T l' l'' := by
  induction h with
  | nil => exact ⟨[], .nil, .nil⟩
  | cons hr _ ih =>
      obtain ⟨c, hs, ht⟩ := hex _ _ hr
      obtain ⟨l'', hS, hT⟩ := ih
      exact ⟨c :: l'', .cons hs hS, .cons ht hT⟩

/-- Where every item of a list has a counterpart, so has the list. -/
theorem exists_forall₂_of_forall_mem {R : α → β → Prop} {l : List α} (h : ∀ a ∈ l, ∃ b, R a b) :
    ∃ l', List.Forall₂ R l l' := by
  induction l with
  | nil => exact ⟨[], .nil⟩
  | cons a l ih =>
      obtain ⟨⟨b, hb⟩, hl⟩ := List.forall_mem_cons.mp h
      obtain ⟨l', hR⟩ := ih hl
      exact ⟨b :: l', .cons hb hR⟩

theorem map_eq_map_of_forall₂ {γ : Type} {R : α → β → Prop} {l : List α} {l' : List β}
    (h : List.Forall₂ R l l') {f : α → γ} {g : β → γ} (hfg : ∀ a b, R a b → g b = f a) :
    l'.map g = l.map f := by
  induction h with
  | nil => rfl
  | cons hr _ ih => rw [List.map_cons, List.map_cons, hfg _ _ hr, ih]

end ResolverTypes
