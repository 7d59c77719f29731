import ResolverTypes.Graph.Relations
import ResolverTypes.Proofs.Data.NameLookup

/-!
# Inputs within reach

The registry of a graph holds exactly the inputs within reach of the arguments of fields, also where
inputs name each other in circles.  The work list keeps an invariant: whatever the inputs found so
far name is found as well, or still pending.

## Main definitions

* `SchemaGraph.Reachable` : an input is named by a chain of inputs that starts at some names.
* `SchemaGraph.Explored` : the invariant of the work list.

## Main results

* `SchemaGraph.Explored.mem_found_iff` : with nothing pending, exactly the inputs within reach are
  found.
* `SchemaGraph.get?_inputRegistry_eq_some_iff` : what the registry finds at a name.
-/

namespace ResolverTypes

/-! ### References to inputs -/

theorem inputName?_eq_some_iff {type : TypeRef} {name : String} :
    type.inputName? = some name ↔ type.base = ⟨.input, name⟩ := by
  unfold TypeRef.inputName?
  split
  next n heq => rw [heq, Option.some.injEq, NamedType.mk.injEq, eq_self, true_and]
  next hne => exact iff_of_false nofun fun heq => hne name heq

theorem mem_argumentInputs_iff {field : FieldDef} {name : String} :
    name ∈ field.argumentInputs ↔
      ∃ argument ∈ field.arguments, argument.type.base = ⟨.input, name⟩ := by
  simp only [FieldDef.argumentInputs, List.mem_filterMap, inputName?_eq_some_iff]

theorem mem_fieldInputs_iff {input : InputDef} {name : String} :
    name ∈ input.fieldInputs ↔ ∃ field ∈ input.fields, field.type.base = ⟨.input, name⟩ := by
  simp only [InputDef.fieldInputs, List.mem_filterMap, inputName?_eq_some_iff]

theorem mem_object_argumentInputs_iff {object : ObjectDef} {name : String} :
    name ∈ object.argumentInputs ↔ ∃ field ∈ object.fields, name ∈ field.argumentInputs := by
  rw [ObjectDef.argumentInputs, mem_sortedNames, List.mem_flatMap]

namespace SchemaGraph

variable {graph : SchemaGraph}

/-! ### One step of the work list -/

theorem reachableInputs_nil (found : List InputDef) : graph.reachableInputs [] found = found := by
  rw [reachableInputs]

theorem reachableInputs_of_found {name : String} {rest : List String} {found : List InputDef}
    (h : found.any (·.name == name) = true) :
    graph.reachableInputs (name :: rest) found = graph.reachableInputs rest found := by
  rw [reachableInputs, dif_pos h]

theorem reachableInputs_of_some {name : String} {rest : List String} {found : List InputDef}
    {input : InputDef} (hf : found.any (·.name == name) = false)
    (h : graph.input? name = some input) :
    graph.reachableInputs (name :: rest) found =
      graph.reachableInputs (input.fieldInputs ++ rest) (input :: found) := by
  rw [reachableInputs, dif_neg (by rw [hf]; exact Bool.false_ne_true)]
  split
  next hi => cases h.symm.trans hi
  next other hi =>
    obtain rfl := Option.some.inj (h.symm.trans hi)
    rfl

/-! ### Reach -/

/-- A name is that of an input, and is among some names or named by a field of an input whose name
is within reach of them. -/
inductive Reachable (graph : SchemaGraph) (names : List String) : String → Prop where
  /-- The name is among those that the chain starts at. -/
  | start {name : String} {input : InputDef} :
      name ∈ names → graph.input? name = some input → Reachable graph names name
  /-- A field of an input within reach bears the name. -/
  | step {name next : String} {input following : InputDef} :
      Reachable graph names name → graph.input? name = some input → next ∈ input.fieldInputs →
        graph.input? next = some following → Reachable graph names next

theorem Reachable.exists_input {names : List String} {name : String}
    (h : Reachable graph names name) : ∃ input, graph.input? name = some input := by
  cases h with
  | start _ hi => exact ⟨_, hi⟩
  | step _ _ _ hi => exact ⟨_, hi⟩

/-- Reach grows with the names that it starts at, and depends on nothing but the inputs. -/
theorem Reachable.mono {other : SchemaGraph} (hi : ∀ name, other.input? name = graph.input? name)
    {names more : List String} (hn : names ⊆ more) {name : String}
    (h : Reachable graph names name) : Reachable other more name := by
  induction h with
  | start hm hinput => exact .start (hn hm) ((hi _).trans hinput)
  | step _ hinput hm hnext ih =>
      exact .step ih ((hi _).trans hinput) hm ((hi _).trans hnext)

theorem name_of_input? {name : String} {input : InputDef} (h : graph.input? name = some input) :
    input.name = name := by
  simpa using List.find?_some h

/-- What holds of the inputs found at any time: each is the input of its name within reach of where
the search started, none stands twice, and what its fields name is pending or found. -/
structure Explored (graph : SchemaGraph) (names pending : List String)
    (found : List InputDef) : Prop where
  nodup : (found.map (·.name)).Nodup
  sound : ∀ input ∈ found,
    graph.input? input.name = some input ∧ Reachable graph names input.name
  pending_reachable : ∀ name ∈ pending, ∀ input, graph.input? name = some input →
    Reachable graph names name
  closed : ∀ input ∈ found, ∀ name ∈ input.fieldInputs, ∀ next, graph.input? name = some next →
    name ∈ pending ∨ name ∈ found.map (·.name)
  covers : ∀ name ∈ names, ∀ input, graph.input? name = some input →
    name ∈ pending ∨ name ∈ found.map (·.name)

theorem explored_start (names : List String) : Explored graph names names [] where
  nodup := List.nodup_nil
  sound := nofun
  pending_reachable _ hn _ hi := .start hn hi
  closed := nofun
  covers _ hn _ _ := .inl hn

section

variable {names rest : List String} {found : List InputDef} {name : String}

theorem Explored.skip (h : Explored graph names (name :: rest) found)
    (hs : ∀ input, graph.input? name = some input → name ∈ found.map (·.name)) :
    Explored graph names rest found where
  nodup := h.nodup
  sound := h.sound
  pending_reachable n hn := h.pending_reachable n (List.mem_cons_of_mem name hn)
  closed input hi n hn next hnext := by
    rcases h.closed input hi n hn next hnext with hp | hp
    · rcases List.mem_cons.mp hp with rfl | hp
      · exact .inr (hs next hnext)
      · exact .inl hp
    · exact .inr hp
  covers n hn input hi := by
    rcases h.covers n hn input hi with hp | hp
    · rcases List.mem_cons.mp hp with rfl | hp
      · exact .inr (hs input hi)
      · exact .inl hp
    · exact .inr hp

theorem Explored.visit (h : Explored graph names (name :: rest) found) {input : InputDef}
    (hf : found.any (·.name == name) = false) (hi : graph.input? name = some input) :
    Explored graph names (input.fieldInputs ++ rest) (input :: found) := by
  have hname := name_of_input? hi
  have hreach := h.pending_reachable name List.mem_cons_self input hi
  have move {n : String} (hn : n ∈ name :: rest ∨ n ∈ found.map (·.name)) :
      n ∈ input.fieldInputs ++ rest ∨ n ∈ (input :: found).map (·.name) := by
    rw [List.map_cons, hname]
    simp only [List.mem_append, List.mem_cons] at hn ⊢
    tauto
  refine ⟨?_, ?_, ?_, ?_, ?_⟩
  · rw [List.map_cons, List.nodup_cons]
    refine ⟨fun hm => ?_, h.nodup⟩
    obtain ⟨other, ho, heq⟩ := List.mem_map.mp hm
    have hany : found.any (·.name == name) = true :=
      List.any_eq_true.mpr ⟨other, ho, beq_iff_eq.mpr (heq.trans hname)⟩
    rw [hf] at hany
    cases hany
  · intro other ho
    rcases List.mem_cons.mp ho with rfl | ho
    · exact ⟨hname ▸ hi, hname ▸ hreach⟩
    · exact h.sound other ho
  · intro n hn next hnext
    rcases List.mem_append.mp hn with hn | hn
    · exact .step hreach hi hn hnext
    · exact h.pending_reachable n (List.mem_cons_of_mem name hn) next hnext
  · intro other ho n hn next hnext
    rcases List.mem_cons.mp ho with rfl | ho
    · exact .inl (List.mem_append_left rest hn)
    · exact move (h.closed other ho n hn next hnext)
  · intro n hn next hnext
    exact move (h.covers n hn next hnext)

end

/-- The invariant holds of all that the work list finds, with nothing pending. -/
theorem Explored.run {names pending : List String} {found : List InputDef}
    (h : Explored graph names pending found) :
    Explored graph names [] (graph.reachableInputs pending found) := by
  fun_induction reachableInputs graph pending found with
  | case1 found => exact h
  | case2 found name rest hf ih =>
      obtain ⟨other, ho, heq⟩ := List.any_eq_true.mp hf
      exact ih (h.skip fun _ _ => beq_iff_eq.mp heq ▸ List.mem_map_of_mem ho)
  | case3 found name rest hf hi ih =>
      exact ih (h.skip fun input hinput => by cases hi.symm.trans hinput)
  | case4 found name rest hf input hi ih => exact ih (h.visit (Bool.eq_false_iff.mpr hf) hi)

theorem explored_reachableInputs (names : List String) :
    Explored graph names [] (graph.reachableInputs names []) :=
  (explored_start names).run

/-- With nothing pending, exactly the inputs within reach are found. -/
theorem Explored.mem_found_iff {names : List String} {found : List InputDef}
    (h : Explored graph names [] found) {input : InputDef} :
    input ∈ found ↔ Reachable graph names input.name ∧ graph.input? input.name = some input := by
  -- an input of a name within reach is found, by induction on the chain
  have complete {name : String} (hr : Reachable graph names name) :
      name ∈ found.map (·.name) := by
    induction hr with
    | start hn hi => exact (h.covers _ hn _ hi).resolve_left List.not_mem_nil
    | step _ hi hn hnext ih =>
        obtain ⟨other, ho, heq⟩ := List.mem_map.mp ih
        have hother := (h.sound other ho).1
        rw [heq] at hother
        obtain rfl := Option.some.inj (hi.symm.trans hother)
        exact (h.closed _ ho _ hn _ hnext).resolve_left List.not_mem_nil
  constructor
  · exact fun hi => (h.sound input hi).symm
  · rintro ⟨hr, hi⟩
    obtain ⟨other, ho, heq⟩ := List.mem_map.mp (complete hr)
    have hother := (h.sound other ho).1
    rw [heq] at hother
    exact Option.some.inj (hi.symm.trans hother) ▸ ho

/-- With nothing pending, the map of what is found holds, at a name, the input of that name if it is
within reach. -/
theorem Explored.get?_found_eq_some_iff {names : List String} {found : List InputDef}
    (h : Explored graph names [] found) {name : String} {input : InputDef} :
    (NameMap.ofList (found.map fun input => (input.name, input))).get? name = some input ↔
      Reachable graph names name ∧ graph.input? name = some input := by
  -- an entry of the map is an input that was found, under its own name
  have entry {n : String} {i : InputDef}
      (hi : (NameMap.ofList (found.map fun input => (input.name, input))).get? n = some i) :
      i ∈ found ∧ i.name = n := by
    rw [NameMap.get?_ofList] at hi
    obtain ⟨l, r, hl, -⟩ := List.lookup_eq_some_iff.mp hi
    have hm := List.mem_reverse.mp (hl ▸ List.mem_append_right l List.mem_cons_self)
    obtain ⟨other, ho, heq⟩ := List.mem_map.mp hm
    obtain ⟨rfl, rfl⟩ := Prod.mk.inj heq
    exact ⟨ho, rfl⟩
  constructor
  · intro hi
    obtain ⟨hm, rfl⟩ := entry hi
    exact h.mem_found_iff.mp hm
  · rintro ⟨hr, hi⟩
    have hname := name_of_input? hi
    have hmem := h.mem_found_iff.mpr ⟨hname.symm ▸ hr, hname.symm ▸ hi⟩
    have hkey : name ∈ (NameMap.ofList (found.map fun input => (input.name, input))).keys := by
      rw [NameMap.mem_keys_ofList, List.map_map]
      exact List.mem_map.mpr ⟨input, hmem, hname⟩
    obtain ⟨other, ho⟩ := NameMap.mem_keys_iff.mp hkey
    obtain ⟨hother, hn⟩ := entry ho
    have hlookup := (h.mem_found_iff.mp hother).2
    rw [hn] at hlookup
    exact ho.trans (hlookup.symm.trans hi)

/-! ### The registry -/

/-- The inputs that the arguments of fields name. -/
def argumentInputs (graph : SchemaGraph) : List String :=
  graph.outputFields.flatMap (·.argumentInputs)

/-- What the arguments of an object's fields name is named by arguments in the graph. -/
theorem object_argumentInputs_subset {object : ObjectDef} (ho : object ∈ graph.objects) :
    object.argumentInputs ⊆ graph.argumentInputs := by
  intro name hn
  rw [ObjectDef.argumentInputs, mem_sortedNames] at hn
  obtain ⟨field, hf, hn⟩ := List.mem_flatMap.mp hn
  refine List.mem_flatMap.mpr ⟨field, ?_, hn⟩
  exact List.mem_append_left _ (List.mem_flatMap.mpr ⟨object, ho, hf⟩)

/-- The registry finds, at a name, the input of that name if it is within reach of the arguments of
fields. -/
theorem get?_inputRegistry_eq_some_iff {name : String} {input : InputDef} :
    graph.inputRegistry.get? name = some input ↔
      Reachable graph graph.argumentInputs name ∧ graph.input? name = some input :=
  (explored_reachableInputs graph.argumentInputs).get?_found_eq_some_iff

/-- What the registry finds it finds too where arguments name more inputs. -/
theorem get?_inputRegistry_mono {other : SchemaGraph}
    (hi : ∀ name, other.input? name = graph.input? name)
    (ha : graph.argumentInputs ⊆ other.argumentInputs) {name : String} {input : InputDef}
    (h : graph.inputRegistry.get? name = some input) :
    other.inputRegistry.get? name = some input := by
  obtain ⟨hr, hinput⟩ := get?_inputRegistry_eq_some_iff.mp h
  exact get?_inputRegistry_eq_some_iff.mpr ⟨hr.mono hi ha, (hi name).trans hinput⟩

/-- Where no argument names an input, the registry is empty. -/
theorem inputRegistry_eq_empty (h : graph.argumentInputs = []) : graph.inputRegistry = ∅ := by
  rw [inputRegistry, ← argumentInputs, h, reachableInputs_nil]
  rfl

/-- The registry lists exactly the inputs within reach of the arguments of fields. -/
theorem mem_values_inputRegistry_iff {input : InputDef} :
    input ∈ graph.inputRegistry.values ↔
      Reachable graph graph.argumentInputs input.name ∧ graph.input? input.name = some input := by
  rw [NameMap.mem_values_iff]
  simp only [get?_inputRegistry_eq_some_iff]
  constructor
  · rintro ⟨name, hr, hi⟩
    obtain rfl := name_of_input? hi
    exact ⟨hr, hi⟩
  · exact fun h => ⟨input.name, h⟩

end SchemaGraph

end ResolverTypes
