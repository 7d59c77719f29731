import ResolverTypes.Config.Loading
import ResolverTypes.Proofs.Data.NameLookup
import ResolverTypes.Proofs.Data.Success

/-!
# The checks of projects

What can be wrong with a project is told fault by fault, each without regard to the others.  A
project is checked for its faults in a fixed order, and a configuration project by project in the
order of the names, so that what is reported is the first fault of the first project that has any.

## Main definitions

* `Project.IsUsable` : nothing is wrong with a project.
* `Project.HasFault`, `ProjectFault.step` : a project has a fault; the order of the faults.
* `Project.FirstFault` : the fault of a project that comes first.
* `Config.FirstOffends` : the first project of a configuration that has a fault, with its first one.

## Main results

* `Project.check_eq_ok_iff`, `Project.check_eq_error_iff` : how the check of a project ends.
* `Config.check_eq_ok_iff`, `Config.check_eq_error_iff` : how that of a configuration ends.
-/

namespace ResolverTypes

/-! ### Faults -/

/-- The place of a fault in the order in which faults are looked for. -/
def ProjectFault.step : ProjectFault → Nat
  | .noSchema => 0
  | .blankSchema => 1
  | .malformedSettings _ => 2
  | .missingSettings => 3
  | .blankOutput => 4
  | .blankModel _ => 5

namespace Project

/-- Nothing is wrong with a project: it says where its schema is, and it has settings with a place
for the generated module and with a name for each model. -/
structure IsUsable (project : Project) : Prop where
  patterns_ne_nil : project.schema.patterns ≠ []
  pattern_not_blank : ∀ pattern ∈ project.schema.patterns, Text.isBlank pattern = false
  exists_settings : ∃ settings, project.settings = .ok (some settings) ∧
    Text.isBlank settings.output = false ∧
    ∀ typeName model, settings.models.get? typeName = some model → Text.isBlank model = false

/-- A project has a fault, whatever else may be wrong with it.  Of several blank models the one of
the first type by name counts. -/
inductive HasFault (project : Project) : ProjectFault → Prop where
  | noSchema : project.schema.patterns = [] → HasFault project .noSchema
  | blankSchema {pattern : String} : pattern ∈ project.schema.patterns →
      Text.isBlank pattern = true → HasFault project .blankSchema
  | malformedSettings {mismatch : Mismatch} : project.settings = .error mismatch →
      HasFault project (.malformedSettings mismatch)
  | missingSettings : project.settings = .ok none → HasFault project .missingSettings
  | blankOutput {settings : ResolverSettings} : project.settings = .ok (some settings) →
      Text.isBlank settings.output = true → HasFault project .blankOutput
  | blankModel {settings : ResolverSettings} {typeName model : String} :
      project.settings = .ok (some settings) → settings.models.get? typeName = some model →
      Text.isBlank model = true →
      (∀ other bound, other < typeName → settings.models.get? other = some bound →
        Text.isBlank bound = false) →
      HasFault project (.blankModel typeName)

/-- A project has a fault, and none that is looked for before. -/
structure FirstFault (project : Project) (fault : ProjectFault) : Prop where
  hasFault : project.HasFault fault
  step_le : ∀ other, project.HasFault other → fault.step ≤ other.step

variable {project : Project} {fault other : ProjectFault} {settings : ResolverSettings}

theorem IsUsable.not_hasFault (h : project.IsUsable) : ¬ project.HasFault fault := by
  obtain ⟨settings, hs, houtput, hmodels⟩ := h.exists_settings
  rintro (hnil | ⟨hm, hb⟩ | hmalformed | hmissing | ⟨hs', hb⟩ | ⟨hs', hm, hb, -⟩)
  · exact h.patterns_ne_nil hnil
  · exact Bool.false_ne_true ((h.pattern_not_blank _ hm).symm.trans hb)
  · cases hs.symm.trans hmalformed
  · cases hs.symm.trans hmissing
  · cases hs.symm.trans hs'
    exact Bool.false_ne_true (houtput.symm.trans hb)
  · cases hs.symm.trans hs'
    exact Bool.false_ne_true ((hmodels _ _ hm).symm.trans hb)

/-- At each place in the order a project has one fault at most. -/
theorem HasFault.eq_of_step_eq (h : project.HasFault fault) (ho : project.HasFault other)
    (heq : fault.step = other.step) : fault = other := by
  cases h with
  | noSchema => cases other <;> first | rfl | cases heq
  | blankSchema => cases other <;> first | rfl | cases heq
  | malformedSettings hs =>
      cases ho with
      | malformedSettings hs' =>
          cases hs.symm.trans hs'
          rfl
      | _ => cases heq
  | missingSettings => cases other <;> first | rfl | cases heq
  | blankOutput => cases other <;> first | rfl | cases heq
  | @blankModel settings typeName model hs hm hb hfirst =>
      cases ho with
      | @blankModel _ typeName' _ hs' hm' hb' hfirst' =>
          cases hs.symm.trans hs'
          have hle : typeName' ≤ typeName := String.not_lt.mp fun hlt =>
            absurd hb (Bool.eq_false_iff.mp (hfirst' _ _ hlt hm))
          have hge : typeName ≤ typeName' := String.not_lt.mp fun hlt =>
            absurd hb' (Bool.eq_false_iff.mp (hfirst _ _ hlt hm'))
          rw [String.le_antisymm hge hle]
      | _ => cases heq

/-- A project has one first fault at most. -/
theorem FirstFault.unique (h : project.FirstFault fault) (ho : project.FirstFault other) :
    fault = other :=
  h.hasFault.eq_of_step_eq ho.hasFault
    (Nat.le_antisymm (h.step_le other ho.hasFault) (ho.step_le fault h.hasFault))

/-! ### Checking a project -/

/-- The first blank model of some settings, in the order of the names. -/
theorem find?_isBlank_eq_some {typeName model : String}
    (h : settings.models.entries.find? (fun e => Text.isBlank e.2) = some (typeName, model)) :
    settings.models.get? typeName = some model ∧ Text.isBlank model = true ∧
      ∀ other bound, other < typeName → settings.models.get? other = some bound →
        Text.isBlank bound = false := by
  obtain ⟨hb, before, after, hentries, hbefore⟩ := List.find?_eq_some_iff_append.mp h
  refine ⟨NameMap.get?_eq_some_iff.mpr (List.mem_of_find?_eq_some h), hb, ?_⟩
  intro other bound hlt hother
  have hmem : (other, bound) ∈ before := (mem_before_iff (hentries ▸ settings.models.sorted)).mpr
    ⟨hentries ▸ NameMap.get?_eq_some_iff.mp hother, hlt⟩
  simpa using hbefore _ hmem

/-- A project says where its schema is. -/
def HasPatterns (project : Project) : Prop :=
  project.schema.patterns ≠ [] ∧ ∀ pattern ∈ project.schema.patterns, Text.isBlank pattern = false

/-- If nothing is wrong with the patterns of a project, its settings are looked at next. -/
theorem HasPatterns.two_le_step (h : project.HasPatterns) :
    ∀ fault, project.HasFault fault → 2 ≤ fault.step := by
  intro fault hf
  cases hf with
  | noSchema hnil => exact absurd hnil h.1
  | blankSchema hm hb => exact absurd hb (Bool.eq_false_iff.mp (h.2 _ hm))
  | _ => simp [ProjectFault.step]

/-- If a project has patterns and settings, what the settings say is looked at next. -/
theorem HasPatterns.four_le_step (h : project.HasPatterns)
    (hs : project.settings = .ok (some settings)) :
    ∀ fault, project.HasFault fault → 4 ≤ fault.step := by
  intro fault hf
  cases fault with
  | noSchema | blankSchema => exact absurd (h.two_le_step _ hf) (by decide)
  | malformedSettings mismatch =>
      cases hf with
      | malformedSettings hs' => cases hs.symm.trans hs'
  | missingSettings =>
      cases hf with
      | missingSettings hs' => cases hs.symm.trans hs'
  | blankOutput | blankModel => simp [ProjectFault.step]

/-- The check of a project with patterns, by what its settings are. -/
theorem HasPatterns.check_eq (h : project.HasPatterns) : project.check =
    match project.settings with
    | .error mismatch => .error (.malformedSettings mismatch)
    | .ok none => .error .missingSettings
    | .ok (some settings) =>
        if Text.isBlank settings.output then .error .blankOutput
        else
          match settings.models.entries.find? fun e => Text.isBlank e.2 with
          | some (typeName, _) => .error (.blankModel typeName)
          | none => .ok settings := by
  have hblank : project.schema.patterns.any Text.isBlank = false := List.any_eq_false.mpr
    fun pattern hm => Bool.eq_false_iff.mp (h.2 pattern hm)
  simp only [check, List.isEmpty_iff, h.1, hblank, Bool.false_eq_true, ↓reduceIte]
  rcases project.settings with mismatch | _ | settings <;> rfl

/-- The check of a project without patterns, or with a blank one, ends with that fault. -/
theorem exists_check_of_not_hasPatterns (h : ¬ project.HasPatterns) :
    ∃ fault, project.check = .error fault ∧ project.FirstFault fault := by
  by_cases hnil : project.schema.patterns = []
  · refine ⟨.noSchema, ?_, .noSchema hnil, fun _ _ => Nat.zero_le _⟩
    simp only [check, hnil, List.isEmpty_nil, ↓reduceIte]
    rfl
  · obtain ⟨pattern, hm, hb⟩ : ∃ pattern ∈ project.schema.patterns,
        Text.isBlank pattern = true := by
      by_contra hnone
      exact h ⟨hnil, fun pattern hm => Bool.eq_false_iff.mpr fun hb => hnone ⟨pattern, hm, hb⟩⟩
    have hblank : project.schema.patterns.any Text.isBlank = true :=
      List.any_eq_true.mpr ⟨pattern, hm, hb⟩
    refine ⟨.blankSchema, ?_, .blankSchema hm hb, fun other ho => ?_⟩
    · simp only [check, List.isEmpty_iff, hnil, hblank, ↓reduceIte]
      rfl
    · cases ho with
      | noSchema h => exact absurd h hnil
      | _ => exact Nat.succ_le_succ (Nat.zero_le _)

/-- The check of a project with patterns and settings, by what the settings say. -/
theorem check_cases_of_settings (h : project.HasPatterns)
    (hs : project.settings = .ok (some settings)) :
    (project.check = .ok settings ∧ project.IsUsable) ∨
      ∃ fault, project.check = .error fault ∧ project.FirstFault fault := by
  have hcheck := h.check_eq
  have hfour := h.four_le_step hs
  simp only [hs] at hcheck
  split at hcheck
  next houtput => exact .inr ⟨_, hcheck, .blankOutput hs houtput, hfour⟩
  next houtput =>
    split at hcheck
    next typeName model hfind =>
      obtain ⟨hm, hb, hfirst⟩ := find?_isBlank_eq_some hfind
      refine .inr ⟨_, hcheck, .blankModel hs hm hb hfirst, fun other ho => ?_⟩
      refine Nat.lt_of_le_of_ne (hfour other ho) fun heq => houtput ?_
      obtain rfl : other = .blankOutput := by
        cases other <;> first | rfl | cases heq
      cases ho with
      | blankOutput hs' hb' =>
          cases hs.symm.trans hs'
          exact hb'
    next hfind =>
      refine .inl ⟨hcheck, h.1, h.2, settings, hs, Bool.eq_false_iff.mpr houtput, ?_⟩
      intro typeName model hm
      simpa using List.find?_eq_none.mp hfind _ (NameMap.get?_eq_some_iff.mp hm)

/-- The check of a project ends with its settings if the project is usable, and otherwise with its
first fault. -/
theorem check_cases (project : Project) :
    (∃ settings, project.check = .ok settings ∧ project.IsUsable ∧
      project.settings = .ok (some settings)) ∨
    ∃ fault, project.check = .error fault ∧ project.FirstFault fault := by
  by_cases h : project.HasPatterns
  · cases hs : project.settings with
    | error mismatch =>
        exact .inr ⟨_, h.check_eq.trans (by rw [hs]), .malformedSettings hs, h.two_le_step⟩
    | ok found =>
        cases found with
        | none =>
            refine .inr ⟨_, h.check_eq.trans (by rw [hs]), .missingSettings hs, fun other ho => ?_⟩
            refine Nat.lt_of_le_of_ne (h.two_le_step other ho) fun heq => ?_
            cases ho with
            | malformedSettings hs' => cases hs.symm.trans hs'
            | _ => cases heq
        | some settings =>
            refine (check_cases_of_settings h hs).imp_left fun ⟨hcheck, husable⟩ => ?_
            exact ⟨settings, hcheck, husable, rfl⟩
  · exact .inr (exists_check_of_not_hasPatterns h)

/-- The check of a project succeeds, with the settings of the project, exactly when the project is
usable. -/
theorem check_eq_ok_iff : project.check = .ok settings ↔
    project.IsUsable ∧ project.settings = .ok (some settings) := by
  rcases check_cases project with ⟨found, hcheck, husable, hs⟩ | ⟨fault, hcheck, hfirst⟩
  · rw [hcheck, hs, and_iff_right husable]
    exact ⟨fun h => by cases h; rfl, fun h => by cases h; rfl⟩
  · rw [hcheck]
    exact iff_of_false nofun fun h => h.1.not_hasFault hfirst.hasFault

/-- The check of a project fails exactly with the first fault of the project. -/
theorem check_eq_error_iff : project.check = .error fault ↔ project.FirstFault fault := by
  rcases check_cases project with ⟨found, hcheck, husable, -⟩ | ⟨first, hcheck, hfirst⟩
  · rw [hcheck]
    exact iff_of_false nofun fun h => husable.not_hasFault h.hasFault
  · rw [hcheck]
    exact ⟨fun h => Except.error.inj h ▸ hfirst, fun h => congrArg _ (hfirst.unique h)⟩

/-- A project is usable exactly when its check succeeds. -/
theorem exists_check_iff : (∃ settings, project.check = .ok settings) ↔ project.IsUsable := by
  simp only [check_eq_ok_iff, exists_and_left]
  exact and_iff_left_of_imp fun h => h.exists_settings.imp fun _ hs => hs.1

end Project

/-! ### Checking a configuration -/

namespace Config

variable {config : Config} {name : String} {fault : ProjectFault}

/-- The projects of a configuration are listed in the order of their names. -/
theorem pairwise_projects (config : Config) : config.projects.Pairwise (·.1 < ·.1) := by
  cases config with
  | single project => exact List.pairwise_singleton _ _
  | multi projects => exact projects.sorted

/-- Of the projects of a configuration that are not usable, the one of a name comes first, and it
has a fault that comes first. -/
structure FirstOffends (config : Config) (name : String) (fault : ProjectFault) : Prop where
  exists_project : ∃ project, (name, project) ∈ config.projects ∧ project.FirstFault fault
  usable_before : ∀ other ∈ config.projects, other.1 < name → other.2.IsUsable

theorem check_project_eq_ok_iff {project : String × Project} :
    discard (project.2.check.mapError (ConfigFault.project project.1)) = .ok () ↔
      project.2.IsUsable := by
  rw [← Project.exists_check_iff]
  cases project.2.check with
  | error fault => exact iff_of_false nofun nofun
  | ok settings => exact iff_of_true rfl ⟨settings, rfl⟩

theorem check_project_eq_error_iff {project : String × Project} {error : ConfigFault} :
    discard (project.2.check.mapError (ConfigFault.project project.1)) = .error error ↔
      ∃ fault, error = .project project.1 fault ∧ project.2.FirstFault fault := by
  simp only [← Project.check_eq_error_iff]
  cases project.2.check with
  | error fault =>
      constructor
      · intro h
        exact ⟨fault, (Except.error.inj h).symm, rfl⟩
      · rintro ⟨other, rfl, h⟩
        cases h
        rfl
  | ok settings => exact iff_of_false nofun nofun

/-- The check of a configuration succeeds exactly when all its projects are usable. -/
theorem check_eq_ok_iff :
    config.check = .ok () ↔ ∀ project ∈ config.projects, project.2.IsUsable := by
  rw [check, forM_eq_ok_iff]
  exact forall₂_congr fun project _ => check_project_eq_ok_iff

/-- The check of a configuration fails exactly with the first fault of the first project that is not
usable. -/
theorem check_eq_error_iff {error : ConfigFault} : config.check = .error error ↔
    ∃ name fault, error = .project name fault ∧ config.FirstOffends name fault := by
  rw [check, forM_eq_error_iff]
  constructor
  · rintro ⟨before, ⟨name, project⟩, after, hl, hbefore, h⟩
    obtain ⟨fault, rfl, hfault⟩ := check_project_eq_error_iff.mp h
    have hsorted := hl ▸ config.pairwise_projects
    have hmem : (name, project) ∈ config.projects := hl ▸ List.mem_append_right _ List.mem_cons_self
    refine ⟨name, fault, rfl, ⟨project, hmem, hfault⟩, fun other ho hlt => ?_⟩
    have hmem : other ∈ before := (mem_before_iff hsorted).mpr ⟨hl ▸ ho, hlt⟩
    exact check_project_eq_ok_iff.mp (hbefore other hmem)
  · rintro ⟨name, fault, rfl, ⟨project, hmem, hfault⟩, hbefore⟩
    obtain ⟨before, after, hl⟩ := List.append_of_mem hmem
    have hsorted := hl ▸ config.pairwise_projects
    refine ⟨before, (name, project), after, hl, fun other ho => ?_,
      check_project_eq_error_iff.mpr ⟨fault, rfl, hfault⟩⟩
    obtain ⟨hother, hlt⟩ := (mem_before_iff hsorted).mp ho
    exact check_project_eq_ok_iff.mpr (hbefore other (hl ▸ hother) hlt)

end Config

end ResolverTypes
