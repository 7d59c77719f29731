import Mathlib.Data.List.Chain
import Mathlib.Data.List.Flatten
import Mathlib.Data.List.Perm.Basic
import ResolverTypes.Proofs.Graph.InputReach

/-!
# The search for inputs

The registry is the outcome of a search that goes on as long as names are pending.  In every round
one of them is taken up; if it is that of an input not found so far, the input is found and the
names in its fields are pending from then on.  A round neither removes an input nor finds one twice,
so that every name that ever becomes pending is taken up exactly once: the number of rounds is
known in advance, and the order in which names are taken up does not matter for what is found.

## Main definitions

* `SchemaGraph.Search`, `SchemaGraph.Round`, `SchemaGraph.Rounds` : a search, one round of it, and
  several in a row.
* `SchemaGraph.roundCount` : the number of rounds that a search takes.
* `SchemaGraph.IsInputChain` : a chain of inputs that starts at the argument of a field.
* `SchemaGraph.FindsReach` : every search comes to an end with the registry, which holds the inputs
  within reach in the order of their names.

## Main results

* `SchemaGraph.Rounds.length_pending_add` : what is counted by the rounds of a search.
* `SchemaGraph.reachable_iff_exists_chain` : an input is within reach exactly when a chain ends at
  it.
* `SchemaGraph.findsReach` : every search comes to an end with the registry.
-/

namespace ResolverTypes

namespace SchemaGraph

/-! ### Rounds of a search -/

/-- A search for inputs. -/
structure Search where
  /-- The names that are still to be taken up. -/
  pending : List String
  /-- The inputs found, each once. -/
  found : List InputDef

/-- The map of the inputs found, by their names. -/
def Search.registry (search : Search) : NameMap InputDef :=
  .ofList (search.found.map fun input => (input.name, input))

variable {graph : SchemaGraph}

/-- A round of a search takes up a pending name, whichever it is.  The name of an input that was
found before, or of none, leads nowhere. -/
inductive Round (graph : SchemaGraph) : Search → Search → Prop where
  /-- The name leads nowhere. -/
  | skip {name : String} {pending rest : List String} {found : List InputDef} :
      pending.Perm (name :: rest) →
      name ∈ found.map (·.name) ∨ graph.input? name = none →
      Round graph ⟨pending, found⟩ ⟨rest, found⟩
  /-- An input is found, and the names in its fields become pending. -/
  | visit {name : String} {input : InputDef} {pending rest next : List String}
      {found : List InputDef} :
      pending.Perm (name :: rest) → name ∉ found.map (·.name) → graph.input? name = some input →
      next.Perm (rest ++ input.fieldInputs) →
      Round graph ⟨pending, found⟩ ⟨next, input :: found⟩

/-- A number of rounds in a row. -/
inductive Rounds (graph : SchemaGraph) : Nat → Search → Search → Prop where
  /-- Without a round, a search stays as it is. -/
  | none (search : Search) : Rounds graph 0 search search
  /-- A round comes before the others. -/
  | cons {n : Nat} {first next last : Search} :
      Round graph first next → Rounds graph n next last → Rounds graph (n + 1) first last

/-- The search that the registry is the outcome of: the inputs that arguments name are pending. -/
def firstSearch (graph : SchemaGraph) : Search := ⟨graph.argumentInputs, []⟩

theorem any_name_eq_true_iff {name : String} {found : List InputDef} :
    found.any (·.name == name) = true ↔ name ∈ found.map (·.name) := by
  simp only [List.any_eq_true, beq_iff_eq, List.mem_map]

/-- As long as names are pending, there is another round. -/
theorem exists_round {search : Search} (h : search.pending ≠ []) :
    ∃ next, graph.Round search next := by
  obtain ⟨pending, found⟩ := search
  obtain ⟨name, rest, rfl⟩ := List.exists_cons_of_ne_nil h
  by_cases hf : name ∈ found.map (·.name)
  · exact ⟨_, .skip (.refl _) (.inl hf)⟩
  · cases hi : graph.input? name with
    | none => exact ⟨_, .skip (.refl _) (.inr hi)⟩
    | some input => exact ⟨_, .visit (.refl _) hf hi (.refl _)⟩

variable (graph) in
/-- The function that finds the inputs within reach goes round by round. -/
theorem exists_rounds_reachableInputs (pending : List String) (found : List InputDef) :
    ∃ n, graph.Rounds n ⟨pending, found⟩ ⟨[], graph.reachableInputs pending found⟩ := by
  fun_induction reachableInputs graph pending found with
  | case1 found => exact ⟨0, .none _⟩
  | case2 found name rest hf ih =>
      obtain ⟨n, hn⟩ := ih
      exact ⟨n + 1, .cons (.skip (.refl _) (.inl (any_name_eq_true_iff.mp hf))) hn⟩
  | case3 found name rest hf hi ih =>
      obtain ⟨n, hn⟩ := ih
      exact ⟨n + 1, .cons (.skip (.refl _) (.inr hi)) hn⟩
  | case4 found name rest hf input hi ih =>
      obtain ⟨n, hn⟩ := ih
      have hmem : name ∉ found.map (·.name) := fun hmem => hf (any_name_eq_true_iff.mpr hmem)
      exact ⟨n + 1, .cons (.visit (.refl _) hmem hi List.perm_append_comm) hn⟩

/-! ### What rounds keep -/

theorem Explored.perm {names pending others : List String} {found : List InputDef}
    (h : Explored graph names pending found) (hp : pending.Perm others) :
    Explored graph names others found where
  nodup := h.nodup
  sound := h.sound
  pending_reachable name hn := h.pending_reachable name (hp.mem_iff.mpr hn)
  closed input hi name hn next hnext :=
    (h.closed input hi name hn next hnext).imp_left hp.mem_iff.mp
  covers name hn input hi := (h.covers name hn input hi).imp_left hp.mem_iff.mp

/-- A round keeps the invariant of the work list. -/
theorem Round.explored {names : List String} {first next : Search} (hr : graph.Round first next)
    (h : Explored graph names first.pending first.found) :
    Explored graph names next.pending next.found := by
  cases hr with
  | skip hp hname =>
      refine (h.perm hp).skip fun input hi => ?_
      rcases hname with hmem | hnone
      · exact hmem
      · cases hnone.symm.trans hi
  | visit hp hmem hi hnext =>
      have hany := Bool.eq_false_iff.mpr fun hany => hmem (any_name_eq_true_iff.mp hany)
      exact ((h.perm hp).visit hany hi).perm (List.perm_append_comm.trans hnext.symm)

theorem Rounds.explored {names : List String} {n : Nat} {first last : Search}
    (hr : graph.Rounds n first last) (h : Explored graph names first.pending first.found) :
    Explored graph names last.pending last.found := by
  induction hr with
  | none search => exact h
  | cons hround _ ih => exact ih (hround.explored h)

/-- The invariant of the work list holds at any time of the search for the registry. -/
theorem Rounds.explored_firstSearch {n : Nat} {search : Search}
    (hr : graph.Rounds n graph.firstSearch search) :
    Explored graph graph.argumentInputs search.pending search.found :=
  hr.explored (explored_start graph.argumentInputs)

/-! ### The number of rounds -/

/-- How often the fields of some inputs name an input. -/
def mentionCount (inputs : List InputDef) : Nat := (inputs.flatMap (·.fieldInputs)).length

/-- The number of rounds of the search for the registry: one for every time that an argument, or a
field of a registered input, names an input. -/
def roundCount (graph : SchemaGraph) : Nat :=
  graph.argumentInputs.length + mentionCount graph.inputRegistry.values

theorem Round.length_pending_add {first next : Search} (hr : graph.Round first next) :
    first.pending.length + mentionCount next.found =
      next.pending.length + 1 + mentionCount first.found := by
  cases hr with
  | skip hp hname =>
      have hlength := hp.length_eq
      simp only [List.length_cons] at hlength ⊢
      omega
  | visit hp hmem hi hnext =>
      have hlength := hp.length_eq
      have hrest := hnext.length_eq
      simp only [List.length_cons, List.length_append, mentionCount,
        List.flatMap_cons] at hlength hrest ⊢
      omega

/-- Rounds take up one pending name each, and make those pending that the inputs found name. -/
theorem Rounds.length_pending_add {n : Nat} {first last : Search}
    (hr : graph.Rounds n first last) :
    first.pending.length + mentionCount last.found =
      last.pending.length + n + mentionCount first.found := by
  induction hr with
  | none search => rfl
  | cons hround _ ih =>
      have hstep := hround.length_pending_add
      omega

/-- Among inputs without repetition, fewer inputs name fewer. -/
theorem mentionCount_le {inputs others : List InputDef} (hn : inputs.Nodup)
    (hs : inputs ⊆ others) : mentionCount inputs ≤ mentionCount others := by
  obtain ⟨same, hperm, hsub⟩ := List.subperm_of_subset hn hs
  calc mentionCount inputs
      = mentionCount same := (hperm.flatMap fun _ _ => .refl _).length_eq.symm
    _ ≤ mentionCount others := (hsub.flatMap _).length_le

theorem Explored.nodup_found {names pending : List String} {found : List InputDef}
    (h : Explored graph names pending found) : found.Nodup :=
  h.nodup.of_map _

/-- The registry lists the inputs by the names under which it finds them. -/
theorem map_name_values_inputRegistry :
    graph.inputRegistry.values.map (·.name) = graph.inputRegistry.keys := by
  rw [NameMap.values, NameMap.keys, List.map_map]
  refine List.map_congr_left fun entry he => ?_
  have hget : graph.inputRegistry.get? entry.1 = some entry.2 := NameMap.get?_eq_some_iff.mpr he
  exact name_of_input? (get?_inputRegistry_eq_some_iff.mp hget).2

theorem nodup_values_inputRegistry : graph.inputRegistry.values.Nodup := by
  have hnodup := NameMap.nodup_keys graph.inputRegistry
  rw [← map_name_values_inputRegistry] at hnodup
  exact hnodup.of_map _

/-- What the search for the registry has found at any time is registered. -/
theorem Explored.found_subset {pending : List String} {found : List InputDef}
    (h : Explored graph graph.argumentInputs pending found) :
    found ⊆ graph.inputRegistry.values := fun input hi =>
  mem_values_inputRegistry_iff.mpr (h.sound input hi).symm

/-- No search takes more rounds than are known in advance. -/
theorem Rounds.le_roundCount {n : Nat} {search : Search}
    (hr : graph.Rounds n graph.firstSearch search) : n ≤ graph.roundCount := by
  have h := hr.explored_firstSearch
  have hcount : graph.argumentInputs.length + mentionCount search.found =
      search.pending.length + n + mentionCount [] := hr.length_pending_add
  have hle : mentionCount search.found ≤ mentionCount graph.inputRegistry.values :=
    mentionCount_le h.nodup_found h.found_subset
  have hnone : mentionCount [] = 0 := rfl
  rw [roundCount]
  omega

/-- A search that has come to its end has found the registry, after as many rounds as are known in
advance. -/
theorem Rounds.eq_of_pending_eq_nil {n : Nat} {search : Search}
    (hr : graph.Rounds n graph.firstSearch search) (hp : search.pending = []) :
    n = graph.roundCount ∧ search.registry = graph.inputRegistry := by
  have h : Explored graph graph.argumentInputs [] search.found := hp ▸ hr.explored_firstSearch
  constructor
  · have hcount : graph.argumentInputs.length + mentionCount search.found =
        search.pending.length + n + mentionCount [] := hr.length_pending_add
    have hsub : graph.inputRegistry.values ⊆ search.found := fun input hi =>
      h.mem_found_iff.mpr (mem_values_inputRegistry_iff.mp hi)
    have hnodup : graph.inputRegistry.values.Nodup := nodup_values_inputRegistry
    have hle := mentionCount_le h.nodup_found h.found_subset
    have hge := mentionCount_le hnodup hsub
    have hpending : search.pending.length = 0 := by rw [hp, List.length_nil]
    have hnone : mentionCount [] = 0 := rfl
    rw [roundCount]
    omega
  · refine NameMap.ext_get? fun name => ?_
    ext input
    exact h.get?_found_eq_some_iff.trans get?_inputRegistry_eq_some_iff.symm

/-! ### Chains of inputs -/

/-- Names of inputs, the first of which an argument of a field names, and each of the others a field
of the input before it. -/
structure IsInputChain (graph : SchemaGraph) (chain : List String) : Prop where
  defined : ∀ name ∈ chain, ∃ input, graph.input? name = some input
  starts : ∀ name ∈ chain.head?, ∃ field ∈ graph.outputFields, ∃ argument ∈ field.arguments,
    argument.type.base = ⟨.input, name⟩
  goesOn : chain.IsChain fun name next => ∃ input, graph.input? name = some input ∧
    ∃ field ∈ input.fields, field.type.base = ⟨.input, next⟩

theorem mem_graph_argumentInputs_iff {name : String} : name ∈ graph.argumentInputs ↔
    ∃ field ∈ graph.outputFields, ∃ argument ∈ field.arguments,
      argument.type.base = ⟨.input, name⟩ := by
  simp only [argumentInputs, List.mem_flatMap, mem_argumentInputs_iff]

theorem IsInputChain.singleton {name : String} {input : InputDef}
    (hn : name ∈ graph.argumentInputs) (hi : graph.input? name = some input) :
    graph.IsInputChain [name] where
  defined _ ho := ⟨input, List.mem_singleton.mp ho ▸ hi⟩
  starts _ ho := Option.some.inj ho ▸ mem_graph_argumentInputs_iff.mp hn
  goesOn := .singleton name

theorem IsInputChain.concat {chain : List String} {name next : String} {input following : InputDef}
    (h : graph.IsInputChain chain) (hl : chain.getLast? = some name)
    (hi : graph.input? name = some input) (hn : next ∈ input.fieldInputs)
    (hf : graph.input? next = some following) : graph.IsInputChain (chain ++ [next]) where
  defined other ho := by
    rcases List.mem_append.mp ho with ho | ho
    · exact h.defined other ho
    · exact ⟨following, List.mem_singleton.mp ho ▸ hf⟩
  starts other ho := by
    obtain ⟨first, rest, rfl⟩ : ∃ first rest, chain = first :: rest :=
      List.exists_cons_of_ne_nil fun hnil => by simp [hnil] at hl
    exact h.starts other ho
  goesOn := by
    refine h.goesOn.append (.singleton next) fun last hlast other ho => ?_
    obtain rfl : name = last := Option.some.inj (hl.symm.trans hlast)
    obtain rfl : next = other := Option.some.inj ho
    exact ⟨input, hi, mem_fieldInputs_iff.mp hn⟩

theorem IsInputChain.of_concat {chain : List String} {last : String}
    (h : graph.IsInputChain (chain ++ [last])) : graph.IsInputChain chain where
  defined name hn := h.defined name (List.mem_append_left _ hn)
  starts name hn := h.starts name (by rw [List.head?_append, Option.mem_def.mp hn]; rfl)
  goesOn := h.goesOn.left_of_append

/-- The names in a chain are within reach, by induction from its end. -/
theorem IsInputChain.reachable {chain : List String} (h : graph.IsInputChain chain) :
    ∀ name ∈ chain, Reachable graph graph.argumentInputs name := by
  induction chain using List.reverseRecOn with
  | nil => exact nofun
  | append_singleton before last ih =>
      have hbefore := ih h.of_concat
      obtain ⟨following, hf⟩ := h.defined last (List.mem_append_right _ List.mem_cons_self)
      have hlast : Reachable graph graph.argumentInputs last := by
        cases hl : before.getLast? with
        | none =>
            obtain rfl := List.getLast?_eq_none_iff.mp hl
            exact .start (mem_graph_argumentInputs_iff.mpr (h.starts last rfl)) hf
        | some name =>
            obtain ⟨input, hi, hn⟩ := (List.isChain_append.mp h.goesOn).2.2 name hl last rfl
            exact .step (hbefore name (List.mem_of_getLast? hl)) hi (mem_fieldInputs_iff.mpr hn) hf
      intro name hn
      rcases List.mem_append.mp hn with hn | hn
      · exact hbefore name hn
      · exact List.mem_singleton.mp hn ▸ hlast

/-- An input is within reach of the arguments of fields exactly when a chain ends at it. -/
theorem reachable_iff_exists_chain {name : String} :
    Reachable graph graph.argumentInputs name ↔
      ∃ chain, graph.IsInputChain chain ∧ chain.getLast? = some name := by
  constructor
  · intro h
    induction h with
    | start hn hi => exact ⟨_, .singleton hn hi, rfl⟩
    | step _ hi hn hnext ih =>
        obtain ⟨chain, hc, hl⟩ := ih
        exact ⟨_, hc.concat hl hi hn hnext, List.getLast?_concat⟩
  · rintro ⟨chain, hc, hl⟩
    exact hc.reachable name (List.mem_of_getLast? hl)

/-! ### The registry as the outcome of the search -/

/-- Every search for the registry comes to an end, after a number of rounds that is known in
advance, and then has found the registry.  The registry holds, in the order of their names, the
inputs at the ends of chains. -/
structure FindsReach (graph : SchemaGraph) : Prop where
  exists_round : ∀ search : Search, search.pending ≠ [] → ∃ next, graph.Round search next
  le_roundCount : ∀ n search, graph.Rounds n graph.firstSearch search → n ≤ graph.roundCount
  finds : ∀ n search, graph.Rounds n graph.firstSearch search → search.pending = [] →
    n = graph.roundCount ∧ search.registry = graph.inputRegistry
  rounds_reachableInputs : graph.Rounds graph.roundCount graph.firstSearch
    ⟨[], graph.reachableInputs graph.argumentInputs []⟩
  mem_keys_iff : ∀ name, name ∈ graph.inputRegistry.keys ↔
    ∃ chain, graph.IsInputChain chain ∧ chain.getLast? = some name
  get?_eq : ∀ name ∈ graph.inputRegistry.keys, graph.inputRegistry.get? name = graph.input? name
  names_values : graph.inputRegistry.values.map (·.name) = graph.inputRegistry.keys
  pairwise_names : (graph.inputRegistry.values.map (·.name)).Pairwise (· < ·)

/-- In every graph, also where inputs name each other in circles, the search for inputs comes to an
end, and the registry that it finds holds exactly the inputs within reach of the arguments of
fields. -/
theorem findsReach (graph : SchemaGraph) : graph.FindsReach := by
  constructor
  case exists_round => exact fun search hp => SchemaGraph.exists_round hp
  case le_roundCount => exact fun n search hr => hr.le_roundCount
  case finds => exact fun n search hr hp => hr.eq_of_pending_eq_nil hp
  case rounds_reachableInputs =>
    obtain ⟨n, hn⟩ := exists_rounds_reachableInputs graph graph.argumentInputs []
    obtain ⟨rfl, -⟩ := Rounds.eq_of_pending_eq_nil hn rfl
    exact hn
  case mem_keys_iff =>
    intro name
    rw [NameMap.mem_keys_iff, ← reachable_iff_exists_chain]
    simp only [get?_inputRegistry_eq_some_iff, exists_and_left, and_iff_left_iff_imp]
    exact Reachable.exists_input
  case get?_eq =>
    intro name hn
    obtain ⟨input, hi⟩ := NameMap.mem_keys_iff.mp hn
    exact hi.trans (get?_inputRegistry_eq_some_iff.mp hi).2.symm
  case names_values => exact map_name_values_inputRegistry
  case pairwise_names =>
    rw [map_name_values_inputRegistry]
    exact List.pairwise_map.mpr graph.inputRegistry.sorted

end SchemaGraph

end ResolverTypes
