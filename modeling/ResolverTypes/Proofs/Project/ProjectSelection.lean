import ResolverTypes.Config.Selection
import ResolverTypes.Proofs.Data.NameLookup

/-!
# Selecting a project and looking it up

A project is selected from the list of all projects, but looked up by its name in the configuration.
Both find the same: a name selects exactly the project that is found under it, and what is selected
without a name is selected again by the name that it bears.

## Main definitions

* `Config.AgreesWithLookup` : what is selected, said by what is looked up.

## Main results

* `Config.find?_projects` : the first project of a name is what is found under the name.
* `Config.select_none_eq_ok_iff` : what is selected without a name.
* `Config.agreesWithLookup` : every configuration selects what is looked up.
-/

namespace ResolverTypes

/-- The first entry of a name is the name with what a look-up finds under it. -/
theorem find?_eq_map_lookup {α : Type} (entries : List (String × α)) (name : String) :
    entries.find? (·.1 == name) = (entries.lookup name).map (name, ·) := by
  induction entries with
  | nil => rfl
  | cons entry entries ih =>
      obtain ⟨other, value⟩ := entry
      by_cases h : other = name
      · subst h
        simp
      · rw [List.find?_cons_of_neg (by simpa using h), List.lookup_cons,
          beq_false_of_ne (Ne.symm h), ih]

namespace Config

variable {config : Config} {name : String} {project : Project}

/-! ### The projects of a configuration -/

theorem projectCount_eq_length (config : Config) :
    config.projectCount = config.projects.length := by
  cases config <;> rfl

/-- The names of the projects increase, so that none stands twice. -/
theorem pairwise_projectNames (config : Config) : config.projectNames.Pairwise (· < ·) := by
  cases config with
  | single project => exact List.pairwise_singleton _ _
  | multi projects => exact List.pairwise_map.mpr projects.sorted

/-- The first project of a name is what is found under the name. -/
theorem find?_projects (config : Config) (name : String) :
    config.projects.find? (·.1 == name) = (config.project? name).map (name, ·) := by
  cases config with
  | single project =>
      by_cases h : name = defaultName
      · simp [projects, project?, h]
      · simp [projects, project?, h, beq_false_of_ne (Ne.symm h)]
  | multi projects => exact find?_eq_map_lookup projects.entries name

theorem mem_projects_iff :
    (name, project) ∈ config.projects ↔ config.project? name = some project := by
  have hfound : config.project? name = some project ↔
      config.projects.find? (·.1 == name) = some (name, project) := by
    rw [find?_projects, Option.map_eq_some_iff]
    simp
  have hnodup : (config.projects.map (·.1)).Nodup :=
    (pairwise_projectNames config).imp String.ne_of_lt
  rw [hfound, find?_name_eq_some_iff hnodup]
  simp

theorem mem_projectNames_iff :
    name ∈ config.projectNames ↔ ∃ project, config.project? name = some project := by
  simp [projectNames, ← mem_projects_iff]

/-! ### Selecting -/

theorem select_some (config : Config) (name : String) :
    config.select (some name) =
      match config.project? name with
      | some project => .ok (name, project)
      | none => .error (.unknownProject name config.projectNames) := by
  simp only [select, find?_projects]
  cases config.project? name <;> rfl

/-- Without a name the only project is selected, or else the one of the default name. -/
theorem select_none (config : Config) :
    config.select none =
      match config.projects with
      | [selected] => .ok selected
      | _ =>
          match config.project? defaultName with
          | some project => .ok (defaultName, project)
          | none => .error (.projectRequired config.projectNames) := by
  simp only [select, find?_projects, projectCount_eq_length]
  rcases config.projects with _ | ⟨selected, _ | ⟨other, rest⟩⟩
  · rw [if_neg (by simp)]
    cases config.project? defaultName <;> rfl
  · rfl
  · rw [if_neg (by simp)]
    cases config.project? defaultName <;> rfl

theorem select_none_of_eq_singleton {selected : String × Project}
    (h : config.projects = [selected]) : config.select none = .ok selected := by
  rw [select_none, h]

theorem select_none_of_projectCount_ne_one (h : config.projectCount ≠ 1) :
    config.select none =
      match config.project? defaultName with
      | some project => .ok (defaultName, project)
      | none => .error (.projectRequired config.projectNames) := by
  rw [projectCount_eq_length] at h
  rw [select_none]
  rcases hp : config.projects with _ | ⟨selected, _ | ⟨other, rest⟩⟩
  · rfl
  · exact absurd (by rw [hp, List.length_singleton]) h
  · rfl

theorem exists_eq_singleton_of_projectCount_eq_one (h : config.projectCount = 1) :
    ∃ selected, config.projects = [selected] :=
  List.length_eq_one_iff.mp (projectCount_eq_length config ▸ h)

theorem select_some_eq_ok_iff {selected : String × Project} :
    config.select (some name) = .ok selected ↔
      selected.1 = name ∧ config.project? name = some selected.2 := by
  obtain ⟨found, project⟩ := selected
  rw [select_some]
  cases config.project? name with
  | none => exact iff_of_false nofun nofun
  | some other => simp [eq_comm]

theorem select_some_eq_error_iff {error : ConfigError} :
    config.select (some name) = .error error ↔
      config.project? name = none ∧ error = .unknownProject name config.projectNames := by
  rw [select_some]
  cases config.project? name with
  | none => simp [eq_comm]
  | some other => exact iff_of_false nofun nofun

theorem select_none_eq_ok_iff {selected : String × Project} :
    config.select none = .ok selected ↔ config.projects = [selected] ∨
      config.projectCount ≠ 1 ∧ selected.1 = defaultName ∧
        config.project? defaultName = some selected.2 := by
  obtain ⟨found, project⟩ := selected
  by_cases h : config.projectCount = 1
  · obtain ⟨only, honly⟩ := exists_eq_singleton_of_projectCount_eq_one h
    simp [select_none_of_eq_singleton honly, honly, h]
  · have hne : config.projects ≠ [(found, project)] := fun hp =>
      h (by rw [projectCount_eq_length, hp, List.length_singleton])
    rw [select_none_of_projectCount_ne_one h]
    cases config.project? defaultName with
    | none => simp [hne]
    | some other => simp [hne, h, eq_comm]

theorem select_none_eq_error_iff {error : ConfigError} :
    config.select none = .error error ↔ config.projectCount ≠ 1 ∧
      config.project? defaultName = none ∧ error = .projectRequired config.projectNames := by
  by_cases h : config.projectCount = 1
  · obtain ⟨only, honly⟩ := exists_eq_singleton_of_projectCount_eq_one h
    simp [select_none_of_eq_singleton honly, h]
  · rw [select_none_of_projectCount_ne_one h]
    cases config.project? defaultName with
    | none => simp [h, eq_comm]
    | some other => exact iff_of_false nofun nofun

/-- What is selected without a name is found under the name that it bears. -/
theorem project?_of_select_none {selected : String × Project}
    (h : config.select none = .ok selected) : config.project? selected.1 = some selected.2 := by
  rcases select_none_eq_ok_iff.mp h with hp | ⟨-, hname, hd⟩
  · exact mem_projects_iff.mp (hp ▸ List.mem_singleton_self selected)
  · rw [hname, hd]

/-- What a configuration selects is what is looked up in it: under a name exactly the project that is
found under it, and without a name the only project, whatever its name, or else, where there is not
just one, the project of the default name.  Every failure lists all names in increasing order. -/
structure AgreesWithLookup (config : Config) : Prop where
  projectCount_eq : config.projectCount = config.projects.length
  increasing : config.projectNames.Pairwise (· < ·)
  mem_projectNames : ∀ name,
    name ∈ config.projectNames ↔ ∃ project, config.project? name = some project
  named_eq_ok : ∀ name selected, config.select (some name) = .ok selected ↔
    selected.1 = name ∧ config.project? name = some selected.2
  named_eq_error : ∀ name error, config.select (some name) = .error error ↔
    config.project? name = none ∧ error = .unknownProject name config.projectNames
  unnamed_eq_ok : ∀ selected, config.select none = .ok selected ↔
    config.projects = [selected] ∨ config.projectCount ≠ 1 ∧ selected.1 = defaultName ∧
      config.project? defaultName = some selected.2
  unnamed_eq_error : ∀ error, config.select none = .error error ↔
    config.projectCount ≠ 1 ∧ config.project? defaultName = none ∧
      error = .projectRequired config.projectNames
  selected_again : ∀ selected, config.select none = .ok selected →
    config.select (some selected.1) = .ok selected

/-- Every configuration selects what is looked up in it. -/
theorem agreesWithLookup (config : Config) : AgreesWithLookup config where
  projectCount_eq := projectCount_eq_length config
  increasing := pairwise_projectNames config
  mem_projectNames _ := mem_projectNames_iff
  named_eq_ok _ _ := select_some_eq_ok_iff
  named_eq_error _ _ := select_some_eq_error_iff
  unnamed_eq_ok _ := select_none_eq_ok_iff
  unnamed_eq_error _ := select_none_eq_error_iff
  selected_again _ h := select_some_eq_ok_iff.mpr ⟨rfl, project?_of_select_none h⟩

end Config

end ResolverTypes
