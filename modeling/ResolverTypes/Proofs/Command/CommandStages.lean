import ResolverTypes.Command.Run
import ResolverTypes.Proofs.Contract.AssembledDocument
import ResolverTypes.Proofs.Project.CheckedProjects
import ResolverTypes.Proofs.Project.OutputWriting

/-!
# The stages of a command

A command selects a project, generates its module, and then reads or writes the place of the module.
How it ends says which of these stages has failed; and only the last one of `generate`, when it
writes to a file, changes the file tree.

## Main definitions

* `Selects`, `Generates` : the first stages succeed.
* `Ends` : how a command ends, and what it leaves, by what its stages come to.
* `IsStale`, `OutputFails` : what the last stage comes to.
* `ReportsStage` : an exit code says which stage has failed.
* `ChangesOnlyOutput` : nothing changes but for the place of the module.

## Main results

* `exists_prepare_iff` : a project is prepared as soon as it is selected.
* `ends_runInvocation` : every command that runs once ends in one of these ways.
* `check_exit_eq_success_iff` : when a check succeeds.
* `reportsStage_and_changesOnlyOutput` : the exit code tells the stage, and nothing changes but for
  the place of the module.
-/

namespace ResolverTypes.Command

variable {tree after : FileTree} {world : Surroundings} {common : CommonOptions}
  {subcommand : Subcommand} {project : PlacedProject} {generation : Generation} {exit : ExitCode}

/-! ### Preparing -/

/-- A configuration is found and read, and a project of it is selected. -/
def Selects (tree : FileTree) (world : Surroundings) (common : CommonOptions) : Prop :=
  ∃ path config selected,
    Config.resolve tree world.location common.config world.directory = .ok (path, config) ∧
      config.select common.project = .ok selected

/-- A project is prepared as soon as it is selected. -/
theorem exists_prepare_iff :
    (∃ project, prepare tree world common = .ok project) ↔ Selects tree world common := by
  constructor
  · rintro ⟨project, h⟩
    obtain ⟨⟨path, config⟩, hr, h⟩ := bind_eq_ok_iff.mp h
    obtain ⟨selected, hs, -⟩ := bind_eq_ok_iff.mp h
    exact ⟨path, config, selected, mapError_eq_ok_iff.mp hr, mapError_eq_ok_iff.mp hs⟩
  · rintro ⟨path, config, selected, hr, hs⟩
    obtain ⟨project, hp⟩ :=
      Config.exists_place_of_select hr hs (configDirectory path world.directory)
    exact ⟨project, bind_eq_ok_iff.mpr ⟨_, mapError_eq_ok_iff.mpr hr,
      bind_eq_ok_iff.mpr ⟨_, mapError_eq_ok_iff.mpr hs, mapError_eq_ok_iff.mpr hp⟩⟩⟩

/-! ### How a command ends -/

/-- A project is prepared, and its module is generated. -/
def Generates (tree : FileTree) (world : Surroundings) (common : CommonOptions)
    (project : PlacedProject) (generation : Generation) : Prop :=
  prepare tree world common = .ok project ∧
    project.generate tree world.location = .ok generation

/-- A subcommand does its work once, and does not wait for changes. -/
def Subcommand.RunsOnce : Subcommand → Prop
  | .generate _ _ watch => watch = false
  | .check => True

variable (tree world common) in
/-- How a command that runs once ends, and what it leaves, by what its stages come to. -/
inductive Ends : Subcommand → FileTree → ExitCode → Prop where
  | unprepared {subcommand : Subcommand} {error : PrepareError} :
      prepare tree world common = .error error → Ends subcommand tree .configError
  | ungenerated {subcommand : Subcommand} {project : PlacedProject} {error : ProjectError} :
      prepare tree world common = .ok project →
      project.generate tree world.location = .error error → Ends subcommand tree .schemaError
  | unreadable {project : PlacedProject} {generation : Generation} {error : FileError} :
      Generates tree world common project generation →
      readExisting tree world.location project.outputPath = .error error →
      Ends .check tree .ioError
  | compared {project : PlacedProject} {generation : Generation} {existing : Option String} :
      Generates tree world common project generation →
      readExisting tree world.location project.outputPath = .ok existing →
      Ends .check tree (freshnessExit (Freshness.ofTexts generation.output.code existing))
  | shown {project : PlacedProject} {generation : Generation} {output : Option FilePath} :
      Generates tree world common project generation →
      Ends (.generate output true false) tree .success
  | unwritten {project : PlacedProject} {generation : Generation} {output : Option FilePath}
      {left : FileTree} {error : WriteError} :
      Generates tree world common project generation →
      writeOutput tree world.location (output.getD project.outputPath) generation.output.code =
        (left, .error error) →
      Ends (.generate output false false) left .ioError
  | written {project : PlacedProject} {generation : Generation} {output : Option FilePath}
      {left : FileTree} {done : Unit} :
      Generates tree world common project generation →
      writeOutput tree world.location (output.getD project.outputPath) generation.output.code =
        (left, .ok done) →
      Ends (.generate output false false) left .success

theorem ends_check (colored : Bool) :
    Ends tree world common .check tree (runCheck tree world colored common).exit := by
  unfold runCheck
  split
  next error hp => exact .unprepared hp
  next project hp =>
    split
    next error hg => exact .ungenerated hp hg
    next generation hg =>
      unfold compareOutput
      dsimp only
      split
      next error hr => exact .unreadable ⟨hp, hg⟩ hr
      next existing hr =>
        split <;> exact .compared ⟨hp, hg⟩ hr

theorem ends_generate (colored : Bool) (output : Option FilePath) (stdout : Bool) :
    Ends tree world common (.generate output stdout false)
      (runGenerate tree world colored common output stdout).1
      (runGenerate tree world colored common output stdout).2.exit := by
  unfold runGenerate
  split
  next error hp => exact .unprepared hp
  next project hp =>
    split
    next error hg => exact .ungenerated hp hg
    next generation hg =>
      cases stdout with
      | true => exact .shown ⟨hp, hg⟩
      | false =>
          unfold emit Target.select
          rw [if_neg Bool.false_ne_true]
          dsimp only
          split
          next left error hw => exact .unwritten ⟨hp, hg⟩ hw
          next left hw => exact .written ⟨hp, hg⟩ hw

/-- Every command that runs once ends in one of these ways. -/
theorem ends_runInvocation (h : subcommand.RunsOnce) (tree : FileTree) (world : Surroundings)
    (common : CommonOptions) :
    Ends tree world common subcommand (runInvocation tree world ⟨common, subcommand⟩).1
      (runInvocation tree world ⟨common, subcommand⟩).2.exit := by
  cases subcommand with
  | check => exact ends_check _
  | generate output stdout watch =>
      obtain rfl : watch = false := h
      exact ends_generate _ output stdout

/-! ### Exit codes -/

/-- The place of the module is missing, or holds another text. -/
def IsStale (tree : FileTree) (world : Surroundings) (project : PlacedProject)
    (generation : Generation) : Prop :=
  tree.readText world.location project.outputPath = .error .notFound ∨
    ∃ text, tree.readText world.location project.outputPath = .ok text ∧
      text ≠ generation.output.code

/-- The place of the module cannot be read, or not be written. -/
def OutputFails (tree : FileTree) (world : Surroundings) (project : PlacedProject)
    (generation : Generation) : Subcommand → Prop
  | .check => ∃ error, tree.readText world.location project.outputPath = .error error ∧
      error ≠ .notFound
  | .generate output stdout _ => stdout = false ∧ ∃ left error,
      writeOutput tree world.location (output.getD project.outputPath) generation.output.code =
        (left, .error error)

/-- An exit code says which stage of a command has failed. -/
structure ReportsStage (tree : FileTree) (world : Surroundings) (common : CommonOptions)
    (subcommand : Subcommand) (exit : ExitCode) : Prop where
  config_iff : exit.number = 2 ↔ ¬ Selects tree world common
  schema_iff : exit.number = 3 ↔ ∃ project error, prepare tree world common = .ok project ∧
    project.generate tree world.location = .error error
  io_iff : exit.number = 4 ↔ ∃ project generation,
    Generates tree world common project generation ∧
      OutputFails tree world project generation subcommand
  stale_iff : exit.number = 1 ↔ subcommand = .check ∧ ∃ project generation,
    Generates tree world common project generation ∧ IsStale tree world project generation

/-- What a command leaves: the tree as it is, unless a module is written to its place. -/
structure ChangesOnlyOutput (tree : FileTree) (world : Surroundings) (common : CommonOptions)
    (subcommand : Subcommand) (after : FileTree) (exit : ExitCode) : Prop where
  unchanged : (subcommand = .check ∨ ∃ output, subcommand = .generate output true false) ∨
    exit.number = 2 ∨ exit.number = 3 → after = tree
  written : ∀ output, subcommand = .generate output false false → exit.number = 0 →
    ∃ project generation, Generates tree world common project generation ∧
      Writes world.location (output.getD project.outputPath) generation.output.code tree after

theorem readExisting_eq_error_iff {directory : Location} {path : FilePath} {error : FileError} :
    readExisting tree directory path = .error error ↔
      tree.readText directory path = .error error ∧ error ≠ .notFound := by
  unfold readExisting
  split
  next text hr => exact iff_of_false nofun fun h => nomatch hr.symm.trans h.1
  next hr =>
    refine iff_of_false nofun fun h => h.2 ?_
    exact (Except.error.inj (hr.symm.trans h.1)).symm
  next e hne hr =>
    rw [hr]
    constructor
    · intro h
      obtain rfl := Except.error.inj h
      exact ⟨rfl, hne⟩
    · rintro ⟨h, -⟩
      rw [Except.error.inj h]

/-- What is read at the place of a module is up to date exactly when it is what is generated. -/
theorem ofTexts_eq_upToDate_iff {existing : Option String}
    (h : readExisting tree world.location project.outputPath = .ok existing) :
    Freshness.ofTexts generation.output.code existing = .upToDate ↔
      tree.readText world.location project.outputPath = .ok generation.output.code := by
  unfold readExisting at h
  unfold Freshness.ofTexts
  split at h
  next text hr =>
    obtain rfl := Except.ok.inj h
    simp [hr]
  next hr =>
    obtain rfl := Except.ok.inj h
    simp [hr]
  next => cases h

/-- A place that is read is stale exactly when it is not up to date. -/
theorem isStale_iff_ofTexts_ne {existing : Option String}
    (h : readExisting tree world.location project.outputPath = .ok existing) :
    IsStale tree world project generation ↔
      Freshness.ofTexts generation.output.code existing ≠ .upToDate := by
  rw [ne_eq, ofTexts_eq_upToDate_iff h]
  unfold readExisting at h
  unfold IsStale
  split at h
  next text hr => simp [hr]
  next hr => simp [hr]
  next => cases h

theorem freshnessExit_eq_success_iff {freshness : Freshness} :
    freshnessExit freshness = .success ↔ freshness = .upToDate := by
  cases freshness <;> decide

theorem number_freshnessExit_eq_one_iff {freshness : Freshness} :
    (freshnessExit freshness).number = 1 ↔ freshness ≠ .upToDate := by
  cases freshness <;> decide

theorem number_freshnessExit_ne (freshness : Freshness) :
    (freshnessExit freshness).number ≠ 2 ∧ (freshnessExit freshness).number ≠ 3 ∧
      (freshnessExit freshness).number ≠ 4 := by
  cases freshness <;> decide

namespace Generates

variable (h : Generates tree world common project generation)

include h

theorem unique {other : PlacedProject} {others : Generation}
    (h' : Generates tree world common other others) : project = other ∧ generation = others := by
  obtain ⟨hp, hg⟩ := h
  obtain ⟨hp', hg'⟩ := h'
  obtain rfl := Except.ok.inj (hp.symm.trans hp')
  exact ⟨rfl, Except.ok.inj (hg.symm.trans hg')⟩

theorem prepare_ne_error {error : PrepareError} : prepare tree world common ≠ .error error := by
  rw [h.1]
  exact nofun

theorem generate_ne_error {other : PlacedProject} {error : ProjectError}
    (hp : prepare tree world common = .ok other) :
    other.generate tree world.location ≠ .error error := by
  obtain rfl := Except.ok.inj (h.1.symm.trans hp)
  rw [h.2]
  exact nofun

theorem exists_and_iff (P : PlacedProject → Generation → Prop) :
    (∃ project generation, Generates tree world common project generation ∧
      P project generation) ↔ P project generation := by
  constructor
  · rintro ⟨other, others, h', hP⟩
    obtain ⟨rfl, rfl⟩ := h.unique h'
    exact hP
  · exact fun hP => ⟨project, generation, h, hP⟩

/-- Once a module is generated, the exit code tells what becomes of it. -/
theorem reportsStage (hconfig : exit.number ≠ 2) (hschema : exit.number ≠ 3)
    (hio : exit.number = 4 ↔ OutputFails tree world project generation subcommand)
    (hstale : exit.number = 1 ↔
      subcommand = .check ∧ IsStale tree world project generation) :
    ReportsStage tree world common subcommand exit where
  config_iff := iff_of_false hconfig fun hs => hs (exists_prepare_iff.mp ⟨project, h.1⟩)
  schema_iff := iff_of_false hschema fun ⟨_, _, hp, he⟩ => h.generate_ne_error hp he
  io_iff := hio.trans (h.exists_and_iff (OutputFails tree world · · subcommand)).symm
  stale_iff := hstale.trans (and_congr_right fun _ => (h.exists_and_iff (IsStale tree world)).symm)

end Generates

/-- However a command ends, its exit code says which stage has failed. -/
theorem Ends.reportsStage (h : Ends tree world common subcommand after exit) :
    ReportsStage tree world common subcommand exit := by
  cases h with
  | unprepared hp =>
      have hnone : ∀ project, prepare tree world common ≠ .ok project := by
        rw [hp]
        exact nofun
      constructor
      · exact iff_of_true rfl fun hs => (exists_prepare_iff.mpr hs).elim hnone
      · exact iff_of_false (by decide) fun ⟨project, _, h, _⟩ => hnone project h
      · exact iff_of_false (by decide) fun ⟨_, _, hg, _⟩ => hg.prepare_ne_error hp
      · exact iff_of_false (by decide) fun ⟨_, _, _, hg, _⟩ => hg.prepare_ne_error hp
  | @ungenerated _ project error hp he =>
      constructor
      · exact iff_of_false (by decide) fun hs => hs (exists_prepare_iff.mp ⟨project, hp⟩)
      · exact iff_of_true rfl ⟨project, error, hp, he⟩
      · exact iff_of_false (by decide) fun ⟨_, _, hg, _⟩ => hg.generate_ne_error hp he
      · exact iff_of_false (by decide) fun ⟨_, _, _, hg, _⟩ => hg.generate_ne_error hp he
  | unreadable hg hr =>
      obtain ⟨hr, hne⟩ := readExisting_eq_error_iff.mp hr
      refine hg.reportsStage (by decide) (by decide) (iff_of_true rfl ⟨_, hr, hne⟩) ?_
      refine iff_of_false (by decide) ?_
      rintro ⟨-, hmissing | ⟨text, hread, -⟩⟩
      · exact hne (Except.error.inj (hr.symm.trans hmissing))
      · cases hr.symm.trans hread
  | @compared project generation existing hg hr =>
      obtain ⟨hconfig, hschema, hio⟩ :=
        number_freshnessExit_ne (Freshness.ofTexts generation.output.code existing)
      refine hg.reportsStage hconfig hschema (iff_of_false hio ?_) ?_
      · rintro ⟨error, he⟩
        cases hr.symm.trans (readExisting_eq_error_iff.mpr he)
      · rw [number_freshnessExit_eq_one_iff, and_iff_right rfl, isStale_iff_ofTexts_ne hr]
  | shown hg =>
      exact hg.reportsStage (by decide) (by decide) (iff_of_false (by decide) fun h => nomatch h.1)
        (iff_of_false (by decide) fun h => nomatch h.1)
  | unwritten hg hw =>
      exact hg.reportsStage (by decide) (by decide) (iff_of_true rfl ⟨rfl, _, _, hw⟩)
        (iff_of_false (by decide) fun h => nomatch h.1)
  | written hg hw =>
      refine hg.reportsStage (by decide) (by decide) (iff_of_false (by decide) ?_)
        (iff_of_false (by decide) fun h => nomatch h.1)
      rintro ⟨-, left, error, he⟩
      cases hw.symm.trans he

/-- However a command ends, nothing changes but for the place of the module. -/
theorem Ends.changesOnlyOutput (h : Ends tree world common subcommand after exit) :
    ChangesOnlyOutput tree world common subcommand after exit := by
  cases h with
  | unprepared hp => exact ⟨fun _ => rfl, nofun⟩
  | ungenerated hp he => exact ⟨fun _ => rfl, nofun⟩
  | unreadable hg hr => exact ⟨fun _ => rfl, nofun⟩
  | compared hg hr => exact ⟨fun _ => rfl, nofun⟩
  | shown hg => exact ⟨fun _ => rfl, nofun⟩
  | unwritten hg hw =>
      refine ⟨?_, nofun⟩
      rintro ((h | ⟨_, h⟩) | h | h) <;> cases h
  | @written project generation _ _ _ hg hw =>
      refine ⟨?_, fun output h _ => ?_⟩
      · rintro ((h | ⟨_, h⟩) | h | h) <;> cases h
      · cases h
        exact ⟨project, generation, hg, writes_of_writeOutput hw⟩

/-! ### Commands that succeed -/

/-- Once a module is generated, `generate` ends as writing the module does. -/
theorem Ends.of_generates {output : Option FilePath}
    (h : Ends tree world common (.generate output false false) after exit)
    (hg : Generates tree world common project generation) :
    ∃ result, writeOutput tree world.location (output.getD project.outputPath)
      generation.output.code = (after, result) ∧ (exit = .success ↔ result = .ok ()) := by
  cases h with
  | unprepared hp => exact absurd hp hg.prepare_ne_error
  | ungenerated hp he => exact absurd he (hg.generate_ne_error hp)
  | unwritten hg' hw =>
      obtain ⟨rfl, rfl⟩ := hg.unique hg'
      exact ⟨_, hw, iff_of_false nofun nofun⟩
  | written hg' hw =>
      obtain ⟨rfl, rfl⟩ := hg.unique hg'
      exact ⟨_, hw, iff_of_true rfl rfl⟩

/-- Once a module is generated, `generate` leaves what writing the module leaves, and succeeds
exactly when that does. -/
theorem Generates.runInvocation_generate (h : Generates tree world common project generation)
    (output : Option FilePath) :
    ∃ result, writeOutput tree world.location (output.getD project.outputPath)
      generation.output.code =
        ((runInvocation tree world ⟨common, .generate output false false⟩).1, result) ∧
      ((runInvocation tree world ⟨common, .generate output false false⟩).2.exit = .success ↔
        result = .ok ()) :=
  (ends_generate _ output false).of_generates h

/-- Where a module is generated and written, `generate` succeeds. -/
theorem Generates.exists_outcome (h : Generates tree world common project generation)
    (output : Option FilePath)
    (hw : writeOutput tree world.location (output.getD project.outputPath)
      generation.output.code = (after, .ok ())) :
    ∃ outcome, runInvocation tree world ⟨common, .generate output false false⟩ =
      (after, outcome) ∧ outcome.exit = .success := by
  obtain ⟨result, hw', hexit⟩ := h.runInvocation_generate output
  obtain ⟨rfl, rfl⟩ := Prod.mk.inj (hw'.symm.trans hw)
  exact ⟨_, rfl, hexit.mpr rfl⟩

/-- Where `generate` succeeds, a module is generated. -/
theorem exists_generates_of_exit_eq_success {output : Option FilePath}
    (h : (runInvocation tree world ⟨common, .generate output false false⟩).2.exit = .success) :
    ∃ project generation, Generates tree world common project generation := by
  have hends := ends_runInvocation (show (Subcommand.generate output false false).RunsOnce from rfl)
    tree world common
  rw [h] at hends
  generalize (runInvocation tree world ⟨common, .generate output false false⟩).1 = after at hends
  cases hends with
  | written hg hw => exact ⟨_, _, hg⟩

/-- Checking succeeds exactly when the place of the module holds what is generated. -/
theorem check_exit_eq_success_iff :
    (runInvocation tree world ⟨common, .check⟩).2.exit = .success ↔
      ∃ project generation, Generates tree world common project generation ∧
        tree.readText world.location project.outputPath = .ok generation.output.code := by
  have hends := ends_runInvocation (show Subcommand.check.RunsOnce from trivial) tree world common
  generalize (runInvocation tree world ⟨common, .check⟩).1 = after at hends
  generalize (runInvocation tree world ⟨common, .check⟩).2.exit = exit at hends
  constructor
  · rintro rfl
    generalize hexit : ExitCode.success = exit at hends
    cases hends with
    | unprepared => cases hexit
    | ungenerated => cases hexit
    | unreadable => cases hexit
    | compared hg hr =>
        have hfresh := freshnessExit_eq_success_iff.mp hexit.symm
        exact ⟨_, _, hg, (ofTexts_eq_upToDate_iff hr).mp hfresh⟩
  · rintro ⟨project, generation, hg, hread⟩
    cases hends with
    | unprepared hp => exact absurd hp hg.prepare_ne_error
    | ungenerated hp he => exact absurd he (hg.generate_ne_error hp)
    | unreadable hg' hr =>
        obtain ⟨rfl, rfl⟩ := hg.unique hg'
        cases hread.symm.trans (readExisting_eq_error_iff.mp hr).1
    | compared hg' hr =>
        obtain ⟨rfl, rfl⟩ := hg.unique hg'
        exact freshnessExit_eq_success_iff.mpr ((ofTexts_eq_upToDate_iff hr).mpr hread)

/-- The exit code of a command that runs once says which of its stages has failed, and the command
changes nothing but for the place of the module. -/
theorem reportsStage_and_changesOnlyOutput (h : subcommand.RunsOnce) (tree : FileTree)
    (world : Surroundings) (common : CommonOptions) {outcome : Outcome}
    (hrun : runInvocation tree world ⟨common, subcommand⟩ = (after, outcome)) :
    ReportsStage tree world common subcommand outcome.exit ∧
      ChangesOnlyOutput tree world common subcommand after outcome.exit := by
  have hends := ends_runInvocation h tree world common
  rw [hrun] at hends
  exact ⟨hends.reportsStage, hends.changesOnlyOutput⟩

/-! ### A small tree -/

/-- The text of a configuration of one project. -/
def workConfigText : String :=
  "schema: schema.graphql\nextensions:\n  resolvers:\n    output: gen/out.ts\n    format: false\n"

/-- A tree with the configuration and the schema of a project, and without its module. -/
def workTree : FileTree where
  entries :=
    [(["work"], .directory), (["work", ".graphqlrc.yml"], .file (.text workConfigText)),
      (["work", "schema.graphql"], .file (.text "type Query { a: Int }"))]

/-- The directory of the project. -/
def workWorld : Surroundings := { directory := "/work" }

/-- The project of `workTree`. -/
def workProject : PlacedProject where
  name := "default"
  patterns := ["/work/schema.graphql"]
  settings := { output := "gen/out.ts", format := false }
  directory := "/work"

/-- The graph of the schema in `workTree`. -/
def workGraph : SchemaGraph where
  objects := [⟨"Query", [⟨"a", .nullable (.named ⟨.scalar, "Int"⟩), []⟩], [], false⟩]
  roots := { query := some "Query" }

theorem prepare_workTree : prepare workTree workWorld {} = .ok workProject :=
  toOption_eq_some_iff.mp (by decide +kernel)

theorem exists_generates_workTree :
    ∃ generation, Generates workTree workWorld {} workProject generation := by
  have hgraph : (workProject.loadGraph workTree workWorld.location).toOption = some workGraph := by
    decide +kernel
  have houtput : ResolverTypes.generate workGraph workProject.options =
      .ok { code := (bareDocument workGraph workProject.options).render } :=
    bind_eq_ok_iff.mpr ⟨_, assemble_eq_bareDocument rfl (by decide +kernel), rfl⟩
  exact ⟨_, prepare_workTree, bind_eq_ok_iff.mpr ⟨workGraph,
    mapError_eq_ok_iff.mpr (toOption_eq_some_iff.mp hgraph),
    bind_eq_ok_iff.mpr ⟨_, mapError_eq_ok_iff.mpr houtput, rfl⟩⟩⟩

/-- The module of the project. -/
def workCode : String :=
  ((workProject.generate workTree workWorld.location).toOption.map (·.output.code)).getD ""

/-- The tree with the module in its place. -/
def workTreeAfter : FileTree :=
  (workTree.put ["work", "gen"] .directory).put ["work", "gen", "out.ts"] (.file (.text workCode))

theorem writeOutput_workTree :
    writeOutput workTree workWorld.location workProject.outputPath workCode =
      (workTreeAfter, .ok ()) := by
  have hpath : workProject.outputPath = "/work/gen/out.ts" := by decide +kernel
  have hparent : FilePath.parent? "/work/gen/out.ts" = some "/work/gen" := by decide +kernel
  have hmade : workTree.createDirectories workWorld.location "/work/gen" =
      (workTree.put ["work", "gen"] .directory, .ok ()) := by
    decide +kernel
  have hwritten : (workTree.put ["work", "gen"] .directory).writeText workWorld.location
      "/work/gen/out.ts" workCode = .ok workTreeAfter := by
    refine FileTree.writeText_eq_ok_iff.mpr ⟨["work", "gen", "out.ts"], ?_, ?_, ?_, rfl⟩
    · exact toOption_eq_some_iff.mp (by decide +kernel)
    · decide +kernel
    · decide +kernel
  unfold writeOutput
  dsimp only
  rw [hpath, hparent, Option.getD_some, hmade]
  dsimp only
  rw [hwritten]

theorem runInvocation_workTree : ∃ outcome,
    runInvocation workTree workWorld ⟨{}, .generate none false false⟩ =
      (workTreeAfter, outcome) ∧ outcome.exit = .success := by
  obtain ⟨generation, hg⟩ := exists_generates_workTree
  have hcode : workCode = generation.output.code := by
    rw [workCode, hg.2]
    rfl
  have hw := writeOutput_workTree
  rw [hcode] at hw
  exact hg.exists_outcome none hw

theorem reportsStage_workTree : (Subcommand.generate none false false).RunsOnce ∧
    ∃ after outcome, runInvocation workTree workWorld ⟨{}, .generate none false false⟩ =
      (after, outcome) ∧ outcome.exit = .success ∧
      ReportsStage workTree workWorld {} (.generate none false false) outcome.exit ∧
      ChangesOnlyOutput workTree workWorld {} (.generate none false false) after
        outcome.exit := by
  obtain ⟨outcome, hrun, hexit⟩ := runInvocation_workTree
  have honce : (Subcommand.generate none false false).RunsOnce := rfl
  obtain ⟨hstage, hchanges⟩ :=
    reportsStage_and_changesOnlyOutput honce workTree workWorld {} hrun
  exact ⟨honce, _, outcome, hrun, hexit, hstage, hchanges⟩

end ResolverTypes.Command
