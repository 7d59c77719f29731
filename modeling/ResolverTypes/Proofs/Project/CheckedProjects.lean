import ResolverTypes.Config.Discovery
import ResolverTypes.Config.Selection
import ResolverTypes.Project.Placement
import ResolverTypes.Proofs.Project.ProjectChecks

/-!
# Projects of loaded configurations

All projects of a configuration are checked when it is loaded, and a project that is selected is one
of them.  It therefore has settings, so that placing it in a directory cannot fail any more.

## Main definitions

* `Config.path?` : the path of the configuration for a directory.
* `Config.LoadsUsable` : what is loaded from a text can be worked with, and nothing else is loaded.

## Main results

* `Config.ofText_eq_ok_iff`, `Config.ofText_eq_error_iff` : how loading a text ends.
* `Config.resolve_eq` : the configuration for a directory is that of its path.
* `Config.exists_place_of_select` : a selected project of a loaded configuration is placed.
* `Config.loadsUsable` : loading accepts the configurations whose projects are usable, and reports
  the first fault of the first project of another.
-/

namespace ResolverTypes

/-- A usable project has a place in every directory. -/
theorem Project.IsUsable.exists_place {project : Project} (h : project.IsUsable) (name : String)
    (directory : FilePath) : ∃ placed, project.place name directory = .ok placed := by
  obtain ⟨settings, hs, -⟩ := h.exists_settings
  unfold Project.place
  rw [hs]
  exact ⟨_, rfl⟩

namespace Config

variable {tree : FileTree} {directory : Location} {config : Config}

/-! ### Loading -/

section

variable {text : String} {path : FilePath} {format : ConfigFormat}

/-- A text is loaded exactly when it stands for a configuration, in the format that the path says,
all projects of which are usable. -/
theorem ofText_eq_ok_iff : ofText text path = .ok config ↔
    ∃ format, ConfigFormat.ofPath? path = some format ∧ parse format text = .ok config ∧
      ∀ project ∈ config.projects, project.2.IsUsable := by
  unfold ofText
  cases ConfigFormat.ofPath? path with
  | none => exact iff_of_false nofun nofun
  | some format =>
      simp only [bind_eq_ok_iff, mapError_eq_ok_iff, Option.some.injEq, exists_eq_left']
      constructor
      · rintro ⟨read, hread, _, hcheck, h⟩
        obtain rfl := Except.ok.inj h
        exact ⟨hread, check_eq_ok_iff.mp hcheck⟩
      · rintro ⟨hread, husable⟩
        exact ⟨config, hread, (), check_eq_ok_iff.mpr husable, rfl⟩

/-- What a text stands for is not loaded exactly when a project is at fault, and it is then the
first fault of the first such project that is reported. -/
theorem ofText_eq_error_iff (hf : ConfigFormat.ofPath? path = some format)
    (hp : parse format text = .ok config) {error : ConfigError} :
    ofText text path = .error error ↔ ∃ name fault,
      error = .invalid path (.project name fault) ∧ config.FirstOffends name fault := by
  have htext : ofText text path =
      (config.check.mapError (.invalid path)).bind fun _ => .ok config := by
    unfold ofText
    rw [hf]
    dsimp only
    rw [hp]
    rfl
  rw [htext]
  cases hc : config.check with
  | ok done =>
      refine iff_of_false nofun ?_
      rintro ⟨name, fault, -, h⟩
      cases hc.symm.trans (check_eq_error_iff.mpr ⟨name, fault, rfl, h⟩)
  | error found =>
      obtain ⟨name, fault, rfl, h⟩ := check_eq_error_iff.mp hc
      constructor
      · intro he
        exact ⟨name, fault, (Except.error.inj he).symm, h⟩
      · rintro ⟨other, otherFault, rfl, ho⟩
        cases hc.symm.trans (check_eq_error_iff.mpr ⟨other, otherFault, rfl, ho⟩)
        rfl

end

/-! ### Selecting and placing -/

theorem mem_projects_of_select {name : Option String} {selected : String × Project}
    (h : config.select name = .ok selected) : selected ∈ config.projects := by
  unfold select at h
  dsimp only at h
  split at h
  · split at h
    next hfind =>
      obtain rfl := Except.ok.inj h
      exact List.mem_of_find?_eq_some hfind
    next => cases h
  · split at h
    · split at h
      next hprojects =>
        obtain rfl := Except.ok.inj h
        rw [hprojects]
        exact List.mem_cons_self
      next => cases h
    · split at h
      next hfind =>
        obtain rfl := Except.ok.inj h
        exact List.mem_of_find?_eq_some hfind
      next => cases h

/-- The path of the configuration for a directory, unless one is given. -/
def path? (tree : FileTree) (directory : Location) (explicit : Option FilePath)
    (start : FilePath) : Option FilePath :=
  explicit.or (find? tree directory start)

/-- The configuration for a directory is that of its path. -/
theorem resolve_eq (explicit : Option FilePath) (start : FilePath) :
    resolve tree directory explicit start =
      match path? tree directory explicit start with
      | some path => (load tree directory path).map (path, ·)
      | none => .error (.notFound start) := by
  have loaded (path : FilePath) :
      (do return (path, ← load tree directory path)) =
        (load tree directory path).map (path, ·) := by
    cases load tree directory path <;> rfl
  unfold resolve path?
  cases explicit with
  | some path => exact loaded path
  | none =>
      cases find? tree directory start with
      | some path => exact loaded path
      | none => rfl

theorem load_of_resolve {explicit : Option FilePath} {start path : FilePath}
    (h : resolve tree directory explicit start = .ok (path, config)) :
    load tree directory path = .ok config := by
  rw [resolve_eq] at h
  split at h
  next found hfound =>
    cases hload : load tree directory found with
    | error e =>
        rw [hload] at h
        cases h
    | ok loaded =>
        rw [hload] at h
        cases h
        exact hload
  next => cases h

/-- A selected project of a configuration that is resolved has a place in every directory. -/
theorem exists_place_of_select {explicit : Option FilePath} {start path : FilePath}
    (h : resolve tree directory explicit start = .ok (path, config)) {name : Option String}
    {selected : String × Project} (hs : config.select name = .ok selected) (base : FilePath) :
    ∃ placed, selected.2.place selected.1 base = .ok placed := by
  obtain ⟨text, -, htext⟩ := bind_eq_ok_iff.mp (load_of_resolve h)
  obtain ⟨-, -, -, husable⟩ := ofText_eq_ok_iff.mp htext
  exact (husable selected (mem_projects_of_select hs)).exists_place selected.1 base

/-! ### What loading accepts -/

/-- A text is loaded exactly when what it stands for can be worked with: every project that is then
selected has a place, and what is not loaded is reported by the first fault of its first project at
fault. -/
structure LoadsUsable (text : String) (path : FilePath) : Prop where
  usable : ∀ config, ofText text path = .ok config →
    ∀ project ∈ config.projects, project.2.IsUsable
  placed : ∀ config, ofText text path = .ok config →
    ∀ name selected, config.select name = .ok selected →
      ∀ base, ∃ placed, selected.2.place selected.1 base = .ok placed
  loads : ∀ format config, ConfigFormat.ofPath? path = some format →
    parse format text = .ok config → (∀ project ∈ config.projects, project.2.IsUsable) →
      ofText text path = .ok config
  reports : ∀ format config, ConfigFormat.ofPath? path = some format →
    parse format text = .ok config → (∃ project ∈ config.projects, ¬ project.2.IsUsable) →
      ∃ name fault, config.FirstOffends name fault ∧
        ofText text path = .error (.invalid path (.project name fault))

/-- Loading accepts the configurations that can be worked with, and says of any other what is wrong
with it. -/
theorem loadsUsable (text : String) (path : FilePath) : LoadsUsable text path where
  usable config h := by
    obtain ⟨-, -, -, husable⟩ := ofText_eq_ok_iff.mp h
    exact husable
  placed config h name selected hs base := by
    obtain ⟨-, -, -, husable⟩ := ofText_eq_ok_iff.mp h
    exact (husable selected (mem_projects_of_select hs)).exists_place selected.1 base
  loads format config hf hp husable := ofText_eq_ok_iff.mpr ⟨format, hf, hp, husable⟩
  reports format config hf hp hnot := by
    cases h : ofText text path with
    | ok loaded =>
        obtain ⟨other, hother, hread, husable⟩ := ofText_eq_ok_iff.mp h
        cases hf.symm.trans hother
        cases hp.symm.trans hread
        obtain ⟨project, hmem, hfault⟩ := hnot
        exact absurd (husable project hmem) hfault
    | error error =>
        obtain ⟨name, fault, rfl, hfirst⟩ := (ofText_eq_error_iff hf hp).mp h
        exact ⟨name, fault, hfirst, rfl⟩

/-- The text of a configuration of one project. -/
def bookText : String :=
  "schema: books.graphql\nextensions:\n  resolvers:\n    output: books.ts\n"

theorem loadsUsable_bookText : ∃ config selected, ofText bookText ".graphqlrc.yml" = .ok config ∧
    (∀ project ∈ config.projects, project.2.IsUsable) ∧ config.select none = .ok selected ∧
    ∀ base, ∃ placed, selected.2.place selected.1 base = .ok placed := by
  have hselect : ((ofText bookText ".graphqlrc.yml").toOption.bind fun config =>
      (config.select none).toOption).isSome = true := by decide +kernel
  obtain ⟨selected, h⟩ := Option.isSome_iff_exists.mp hselect
  obtain ⟨config, hconfig, hs⟩ := Option.bind_eq_some_iff.mp h
  have hload := toOption_eq_some_iff.mp hconfig
  have hselected := toOption_eq_some_iff.mp hs
  have hloads := loadsUsable bookText ".graphqlrc.yml"
  exact ⟨config, selected, hload, hloads.usable config hload, hselected,
    hloads.placed config hload none selected hselected⟩

end Config

end ResolverTypes
