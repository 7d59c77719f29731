import ResolverTypes.Proofs.Command.CommandStages

/-!
# Checking what was generated

What a command generates depends on its configuration and on the files of its schema.  As long as
writing the module changes none of them, a check finds the module up to date, and generating once
more changes nothing.  Conversely, where a check succeeds, generating changes no file.

## Main definitions

* `SameRequest` : two commands are asked for the same project from the same directory.
* `SameSources` : two trees have the same configuration and the same schema.

## Main results

* `Generates.of_sameSources` : the module is the same for the same sources.
* `check_after_generate` : generating and checking agree.
-/

namespace ResolverTypes.Command

variable {tree other : FileTree} {world again : Surroundings} {common others : CommonOptions}
  {project : PlacedProject} {generation : Generation}

/-- Two commands are asked for the same project, from the same directory. -/
structure SameRequest (world again : Surroundings) (common others : CommonOptions) : Prop where
  directory_eq : again.directory = world.directory
  config_eq : others.config = common.config
  project_eq : others.project = common.project

/-- Two trees have the same sources for a command: the configuration is found at the same path with
the same text, and the patterns of the project fit the same files with the same texts. -/
structure SameSources (tree other : FileTree) (world : Surroundings) (common : CommonOptions) :
    Prop where
  path?_eq : Config.path? other world.location common.config world.directory =
    Config.path? tree world.location common.config world.directory
  configText_eq : ∀ path,
    Config.path? tree world.location common.config world.directory = some path →
      other.readText world.location path = tree.readText world.location path
  schemaFiles_eq : ∀ project, prepare tree world common = .ok project →
    project.schemaFiles other world.location = project.schemaFiles tree world.location
  schemaText_eq : ∀ project files, prepare tree world common = .ok project →
    project.schemaFiles tree world.location = .ok files → ∀ file ∈ files,
      other.readText world.location file = tree.readText world.location file

theorem SameRequest.location_eq (h : SameRequest world again common others) :
    again.location = world.location := by
  unfold Surroundings.location
  rw [h.directory_eq]

/-- What is generated depends only on what a command is asked for. -/
theorem SameRequest.generates_iff (h : SameRequest world again common others) :
    Generates tree again others project generation ↔
      Generates tree world common project generation := by
  have hlocation := h.location_eq
  have hprepare : prepare tree again others = prepare tree world common := by
    unfold prepare
    rw [hlocation, h.directory_eq, h.config_eq, h.project_eq]
  rw [Generates, Generates, hprepare, hlocation]

/-- For the same sources the same project is prepared. -/
theorem prepare_of_sameSources (h : SameSources tree other world common) :
    prepare other world common = prepare tree world common := by
  have hresolve : Config.resolve other world.location common.config world.directory =
      Config.resolve tree world.location common.config world.directory := by
    rw [Config.resolve_eq, Config.resolve_eq, h.path?_eq]
    cases hpath : Config.path? tree world.location common.config world.directory with
    | none => rfl
    | some path =>
        have hload : Config.load other world.location path =
            Config.load tree world.location path := by
          unfold Config.load
          rw [h.configText_eq path hpath]
        dsimp only
        rw [hload]
  unfold prepare
  rw [hresolve]

/-- For the same sources the same module is generated. -/
theorem Generates.of_sameSources (hg : Generates tree world common project generation)
    (h : SameSources tree other world common) :
    Generates other world common project generation := by
  obtain ⟨hp, hg⟩ := hg
  refine ⟨(prepare_of_sameSources h).trans hp, ?_⟩
  obtain ⟨graph, hgraph, hg⟩ := bind_eq_ok_iff.mp hg
  obtain ⟨files, hfiles, hload⟩ := bind_eq_ok_iff.mp (mapError_eq_ok_iff.mp hgraph)
  obtain ⟨sources, hsources, hload⟩ := bind_eq_ok_iff.mp hload
  have hfiles := mapError_eq_ok_iff.mp hfiles
  have hread : List.Forall₂ (PlacedProject.readSource other world.location · = .ok ·)
      files sources := by
    refine forall₂_imp_of_mem (mapM_eq_ok_iff.mp hsources) fun file hf source hs => ?_
    unfold PlacedProject.readSource at hs ⊢
    rw [h.schemaText_eq project files hp hfiles file hf]
    exact hs
  have hgraph' : project.loadGraph other world.location = .ok graph := by
    refine bind_eq_ok_iff.mpr ⟨files, mapError_eq_ok_iff.mpr ?_,
      bind_eq_ok_iff.mpr ⟨sources, mapM_eq_ok_iff.mpr hread, hload⟩⟩
    rw [h.schemaFiles_eq project hp, hfiles]
  exact bind_eq_ok_iff.mpr ⟨graph, mapError_eq_ok_iff.mpr hgraph', hg⟩

/-- Generating and checking agree.  If a module is generated and written, and writing it changes
none of its sources, a check succeeds, and generating once more succeeds and changes nothing; and
where a check succeeds, generating leaves the text at the place of the module, and every file. -/
theorem check_after_generate (hrequest : SameRequest world again common others)
    (tree : FileTree) :
    (∀ after outcome, runInvocation tree world ⟨common, .generate none false false⟩ =
        (after, outcome) → outcome.exit = .success → SameSources tree after world common →
      (runInvocation after again ⟨others, .check⟩).2.exit = .success ∧
      (runInvocation after again ⟨others, .generate none false false⟩).2.exit = .success ∧
      ∀ location, (runInvocation after again ⟨others, .generate none false false⟩).1.at? location =
        after.at? location) ∧
    ((runInvocation tree world ⟨common, .check⟩).2.exit = .success →
      ∃ project, prepare tree world common = .ok project ∧
        (runInvocation tree again ⟨others, .generate none false false⟩).1.readText world.location
          project.outputPath = tree.readText world.location project.outputPath ∧
        ∀ location content,
          (runInvocation tree again ⟨others, .generate none false false⟩).1.at? location =
              some (.file content) ↔
            tree.at? location = some (.file content)) := by
  constructor
  · intro after outcome hrun hexit hsame
    have hsuccess : (runInvocation tree world ⟨common, .generate none false false⟩).2.exit =
        .success := by
      rw [hrun, hexit]
    obtain ⟨project, generation, hg⟩ := exists_generates_of_exit_eq_success hsuccess
    obtain ⟨result, hw, hresult⟩ := hg.runInvocation_generate none
    rw [hrun, hresult.mp hsuccess] at hw
    have hg' := hrequest.generates_iff.mpr (hg.of_sameSources hsame)
    have hread := (writes_of_writeOutput hw).readText_eq
    obtain ⟨left, hw', hleft⟩ := writeOutput_again hw
    rw [← hrequest.location_eq] at hread hw'
    obtain ⟨outcome', hrun', hexit'⟩ := hg'.exists_outcome none hw'
    rw [hrun']
    exact ⟨check_exit_eq_success_iff.mpr ⟨project, generation, hg', hread⟩, hexit', hleft⟩
  · intro hexit
    obtain ⟨project, generation, hg, hread⟩ := check_exit_eq_success_iff.mp hexit
    obtain ⟨result, hw, -⟩ := (hrequest.generates_iff.mpr hg).runInvocation_generate none
    have hadds := addsDirectories_writeOutput hread
    rw [hrequest.location_eq, Option.getD_none] at hw
    rw [hw] at hadds
    exact ⟨project, hg.1, (hadds.readText_eq hread).trans hread.symm,
      fun location content => hadds.at?_eq_file_iff⟩

theorem sameSources_workTree : SameSources workTree workTreeAfter workWorld {} := by
  have hpath : Config.path? workTree workWorld.location none workWorld.directory =
      some "/work/.graphqlrc.yml" := by
    decide +kernel
  have hfiles : workProject.schemaFiles workTree workWorld.location =
      .ok ["/work/schema.graphql"] := by
    decide +kernel
  constructor
  · exact Eq.trans (by decide +kernel) hpath.symm
  · intro path h
    obtain rfl := Option.some.inj (hpath.symm.trans h)
    decide +kernel
  · intro project h
    obtain rfl := Except.ok.inj (prepare_workTree.symm.trans h)
    exact Eq.trans (by decide +kernel) hfiles.symm
  · intro project files h hf file hmem
    obtain rfl := Except.ok.inj (prepare_workTree.symm.trans h)
    obtain rfl := Except.ok.inj (hfiles.symm.trans hf)
    obtain rfl := List.mem_singleton.mp hmem
    decide +kernel

theorem check_after_generate_workTree :
    SameRequest workWorld { workWorld with elapsed := "0.01" } {} { quiet := true } ∧
      (∃ outcome, runInvocation workTree workWorld ⟨{}, .generate none false false⟩ =
        (workTreeAfter, outcome) ∧ outcome.exit = .success) ∧
      SameSources workTree workTreeAfter workWorld {} ∧
      (runInvocation workTreeAfter { workWorld with elapsed := "0.01" }
        ⟨{ quiet := true }, .check⟩).2.exit = .success ∧
      ∃ project, prepare workTreeAfter { workWorld with elapsed := "0.01" } { quiet := true } =
        .ok project ∧
        (runInvocation workTreeAfter workWorld ⟨{}, .generate none false false⟩).1.readText
            workWorld.location project.outputPath =
          workTreeAfter.readText workWorld.location project.outputPath := by
  have hrequest : SameRequest workWorld { workWorld with elapsed := "0.01" } {}
      { quiet := true } :=
    ⟨rfl, rfl, rfl⟩
  have hback : SameRequest { workWorld with elapsed := "0.01" } workWorld { quiet := true } {} :=
    ⟨rfl, rfl, rfl⟩
  obtain ⟨outcome, hrun, hexit⟩ := runInvocation_workTree
  obtain ⟨hchecked, -, -⟩ := (check_after_generate hrequest workTree).1 workTreeAfter outcome
    hrun hexit sameSources_workTree
  obtain ⟨project, hproject, hread, -⟩ := (check_after_generate hback workTreeAfter).2 hchecked
  exact ⟨hrequest, ⟨outcome, hrun, hexit⟩, sameSources_workTree, hchecked, project, hproject,
    hread⟩

end ResolverTypes.Command
