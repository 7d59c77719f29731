import ResolverTypes.Proofs.Data.NameLookup
import ResolverTypes.Proofs.Project.CheckedProjects

/-!
# Configurations written as values

A configuration and the settings of a project can be written as values.  What is read from such a
value is what was written, whatever a project says to other tools: a mapping of projects is the only
one with a field for them, a location is a text or a list of texts, and what is left out when it is
written is what stands for it when it is missing.  A loaded configuration that is written as a value
therefore passes the same checks when it is read back.

## Main definitions

* `Config.ofValue?` : the configuration that a value stands for.

## Main results

* `ResolverSettings.ofValue_toValue` : settings are read back from their value.
* `Project.ofTree?_toTree`, `Config.ofValue?_toValue` : so are projects and configurations.
* `Config.readsBack` : a loaded configuration passes its checks again.
-/

namespace ResolverTypes

/-! ### Lists of values -/

section

variable {m : Type → Type} [Monad m] [LawfulMonad m] {α β : Type}

/-- What is read item by item from a list of written items is what was written. -/
theorem mapM_map_of_forall {write : α → β} {read : β → m α} (h : ∀ a, read (write a) = pure a)
    (items : List α) : (items.map write).mapM read = pure items := by
  have hread : read ∘ write = fun a => pure (id a) := funext h
  rw [List.mapM_map, hread, List.mapM_pure, List.map_id]

/-- The same of the values of a list of entries, the names of which are kept. -/
theorem mapM_entries_of_forall {write : α → β} {read : β → m α}
    (h : ∀ a, read (write a) = pure a) (entries : List (String × α)) :
    (entries.map fun e => (e.1, write e.2)).mapM
      (fun e : String × β => do return (e.1, ← read e.2)) = pure entries :=
  mapM_map_of_forall (fun e => by rw [h, pure_bind]) entries

end

theorem Value.toTrees_eq_map (values : List Value) : toTrees values = values.map toTree := by
  induction values with
  | nil => rfl
  | cons value values ih => rw [toTrees, ih, List.map_cons]

theorem Value.toTreeEntries_eq_map (entries : List (String × Value)) :
    toTreeEntries entries = entries.map fun e => (.name e.1, e.2.toTree) := by
  induction entries with
  | nil => rfl
  | cons entry entries ih => rw [toTreeEntries, ih, List.map_cons]

/-- The entries of an object are read as entries with names. -/
theorem mapM_namedPair?_toTreeEntries (entries : List (String × Value)) :
    (Value.toTreeEntries entries).mapM namedPair? =
      some (entries.map fun e => (e.1, e.2.toTree)) := by
  rw [Value.toTreeEntries_eq_map, List.mapM_map]
  exact List.mapM_pure

/-- Of an object in which no name stands twice, the entries of the fields are read and the others
passed over. -/
theorem fieldsOf?_toTreeEntries (fields : List String) {entries : List (String × Value)}
    (h : (entries.map (·.1)).Nodup) :
    fieldsOf? fields (Value.toTreeEntries entries) =
      some ((entries.filter (fields.contains ·.1)).map fun e => (e.1, e.2.toTree)) := by
  have hread : (Value.toTreeEntries entries).mapM (fieldOf? fields) =
      some (entries.map fun e =>
        if fields.contains e.1 then some (e.1, e.2.toTree) else none) := by
    rw [Value.toTreeEntries_eq_map, List.mapM_map]
    exact List.mapM_pure
  have hfound : (entries.map fun e =>
      if fields.contains e.1 then some (e.1, e.2.toTree) else none).filterMap id =
        (entries.filter (fields.contains ·.1)).map fun e => (e.1, e.2.toTree) := by
    rw [List.filterMap_map, ← List.filterMap_eq_map, ← List.filterMap_eq_filter,
      List.filterMap_filterMap]
    congr 1
    funext e
    by_cases he : e.1 ∈ fields <;> simp [Option.guard, he]
  have hnodup : (((entries.filter (fields.contains ·.1)).map fun e =>
      (e.1, e.2.toTree)).map (·.1)).Nodup := by
    rw [List.map_map]
    exact h.sublist (List.filter_sublist.map _)
  rw [fieldsOf?, hread]
  simp only [Option.bind_eq_bind, Option.bind_some, hfound, hnodup, decide_true, if_true]

/-! ### Settings -/

namespace ResolverSettings

/-- The entries of settings as a value, in the order of their names. -/
def sortedEntries (settings : ResolverSettings) : List (String × Value) :=
  optionalEntry "context" settings.context ++
    optionalEntry "contextModule" settings.contextModule ++
    [("defaultResolvers", .boolean settings.defaultResolvers),
      ("format", .boolean settings.format), ("models", stringObject settings.models)] ++
    optionalEntry "modelsModule" settings.modelsModule ++
    [("output", .string settings.output), ("scalars", stringObject settings.scalars)]

theorem ofValue_toValue_eq (settings : ResolverSettings) :
    ofValue settings.toValue = ofEntries settings.sortedEntries := by
  rw [toValue, ofValue]
  congr 1
  obtain ⟨output, context, contextModule, models, modelsModule, defaults, scalars, format⟩ := settings
  cases context <;> cases contextModule <;> cases modelsModule <;>
    simp only [sortedEntries, optionalEntry, NameMap.ofList, NameMap.insert, NameMap.insertEntry,
      EmptyCollection.emptyCollection, NameMap.empty, Option.toList_none, Option.toList_some,
      List.map_nil, List.map_cons, List.append_nil, List.nil_append, List.cons_append,
      List.foldl_nil, List.foldl_cons, String.reduceLT, if_true, if_false]

/-- Texts by their names are read back from their object. -/
theorem asStringMap_stringObject (texts : NameMap String) :
    (stringObject texts).asStringMap = .ok texts := by
  have hread : (texts.map Value.string).entries.mapM
      (fun e : String × Value => do return (e.1, ← e.2.asString)) =
        (.ok texts.entries : Except Mismatch _) := by
    have htext (text : String) : (Value.string text).asString = pure text := rfl
    exact mapM_entries_of_forall htext texts.entries
  change (do
    let read ← (NameMap.ofList (texts.map Value.string).entries).entries.mapM
      fun e : String × Value => do return (e.1, ← e.2.asString)
    return NameMap.ofList read) = _
  rw [NameMap.ofList_entries, hread]
  exact congrArg Except.ok (NameMap.ofList_entries texts)

/-- Settings are read back from their value; what is left out is what is meant by leaving it out. -/
theorem ofValue_toValue (settings : ResolverSettings) :
    ofValue settings.toValue = .ok settings := by
  rw [ofValue_toValue_eq]
  obtain ⟨output, context, contextModule, models, modelsModule, defaults, scalars, format⟩ := settings
  cases context <;> cases contextModule <;> cases modelsModule <;>
    simp [ofEntries, sortedEntries, optionalEntry, PartialSettings.set, asStringMap_stringObject,
      Value.asString, Value.asOptionalString, Value.asBoolean, bind, Except.bind, pure, Except.pure,
      Except.map]

end ResolverSettings

/-! ### Projects -/

/-- A location is read back from its value. -/
theorem SchemaLocation.ofTree?_toTree (schema : SchemaLocation) :
    ofTree? schema.toValue.toTree = some schema := by
  cases schema with
  | path pattern => rfl
  | paths patterns =>
      have hpattern (pattern : String) :
          ((Value.toTree ∘ Value.string) pattern).string? = pure pattern := rfl
      have hread : ((patterns.map Value.string).map Value.toTree).mapM Tree.string? =
          some patterns := by
        rw [List.map_map]
        exact mapM_map_of_forall hpattern patterns
      rw [toValue, Value.toTree, Value.toTrees_eq_map, ofTree?, hread]
      rfl

namespace Project

/-- What a project says to tools is read back from its value, whatever it is. -/
theorem extensionsOfTree?_toTree (extensions : NameMap Value) :
    extensionsOfTree? (Value.object extensions.entries).toTree = some (some extensions) := by
  have hread : (extensions.entries.map fun e => (e.1, e.2.toTree)).mapM
      (fun e : String × Tree => do return (e.1, ← e.2.value?)) = some extensions.entries :=
    mapM_entries_of_forall Tree.value?_toTree extensions.entries
  rw [Value.toTree, extensionsOfTree?, mapM_namedPair?_toTreeEntries]
  change (do
    let values ← (extensions.entries.map fun e : String × Value => (e.1, e.2.toTree)).mapM
      fun e : String × Tree => do return (e.1, ← e.2.value?)
    return some (NameMap.ofList values)) = _
  rw [hread]
  exact congrArg (fun read => some (some read)) (NameMap.ofList_entries extensions)

/-- The entries of a project as a value. -/
def entries (project : Project) : List (String × Value) :=
  ("schema", project.schema.toValue) ::
    project.extensions.toList.map fun extensions => ("extensions", .object extensions.entries)

theorem toTree_toValue (project : Project) :
    project.toValue.toTree = .mapping (Value.toTreeEntries project.entries) := by
  rw [toValue, Value.toTree, entries]

theorem nodup_entries (project : Project) : (project.entries.map (·.1)).Nodup := by
  obtain ⟨schema, extensions⟩ := project
  cases extensions <;> simp [entries]

/-- A project is read back from its value. -/
theorem ofTree?_toTree (project : Project) : ofTree? project.toValue.toTree = some project := by
  rw [toTree_toValue, ofTree?, fieldsOf?_toTreeEntries fields project.nodup_entries]
  obtain ⟨schema, extensions⟩ := project
  cases extensions with
  | none =>
      simp [entries, fields, List.lookup_cons, SchemaLocation.ofTree?_toTree, extensionsOfTree?]
  | some extensions =>
      simp [entries, fields, List.lookup_cons, SchemaLocation.ofTree?_toTree, extensionsOfTree?_toTree]

end Project

/-! ### Configurations -/

namespace Config

/-- The configuration that a value stands for. -/
def ofValue? (value : Value) : Option Config := ofTree? value.toTree

/-- Projects are read back from the object of their values. -/
theorem projectsOfTree?_toTree (projects : NameMap Project) :
    projectsOfTree? (Value.object (projects.entries.map fun e => (e.1, e.2.toValue))).toTree =
      some projects := by
  have hread : ((projects.entries.map fun e => (e.1, e.2.toValue)).map
      fun e => (e.1, e.2.toTree)).mapM
        (fun e : String × Tree => do return (e.1, ← Project.ofTree? e.2)) =
          some projects.entries := by
    rw [List.map_map]
    exact mapM_entries_of_forall Project.ofTree?_toTree projects.entries
  rw [Value.toTree, projectsOfTree?, mapM_namedPair?_toTreeEntries]
  change (do
    let read ← ((projects.entries.map fun e : String × Project => (e.1, e.2.toValue)).map
      fun e : String × Value => (e.1, e.2.toTree)).mapM
        fun e : String × Tree => do return (e.1, ← Project.ofTree? e.2)
    return NameMap.ofList read) = _
  rw [hread]
  exact congrArg some (NameMap.ofList_entries projects)

/-- The value of a project has no field for several. -/
theorem multiOfTree?_project (project : Project) :
    multiOfTree? project.toValue.toTree = none := by
  rw [Project.toTree_toValue, multiOfTree?,
    fieldsOf?_toTreeEntries ["projects"] project.nodup_entries]
  obtain ⟨schema, extensions⟩ := project
  cases extensions <;> simp [Project.entries]

/-- A configuration is read back from its value, in the same of its two forms. -/
theorem ofValue?_toValue (config : Config) : ofValue? config.toValue = some config := by
  rw [ofValue?, ofTree?]
  cases config with
  | single project =>
      rw [toValue, multiOfTree?_project, Option.none_or, Project.ofTree?_toTree]
      rfl
  | multi projects =>
      have hnodup : ([("projects", Value.object (projects.entries.map
          fun e => (e.1, e.2.toValue)))].map (·.1)).Nodup := List.nodup_singleton _
      have hmulti : multiOfTree? (Config.multi projects).toValue.toTree = some (.multi projects) := by
        rw [toValue, Value.toTree, multiOfTree?, fieldsOf?_toTreeEntries ["projects"] hnodup]
        simp [projectsOfTree?_toTree]
      rw [hmulti, Option.some_or]

/-- Configurations and settings are read back from their values.  Hence a loaded configuration that
is written as a value and read back passes its checks again, has the same settings for every project
of the same name, and is written as the same value once more. -/
theorem readsBack :
    (∀ config : Config, ofValue? config.toValue = some config) ∧
    (∀ settings : ResolverSettings, ResolverSettings.ofValue settings.toValue = .ok settings) ∧
    ∀ text path config, ofText text path = .ok config →
      ∃ again, ofValue? config.toValue = some again ∧ again.isMulti = config.isMulti ∧
        again.check = .ok () ∧
        again.projects.map (fun project => (project.1, project.2.settings)) =
          config.projects.map (fun project => (project.1, project.2.settings)) ∧
        again.toValue = config.toValue := by
  refine ⟨ofValue?_toValue, ResolverSettings.ofValue_toValue, fun text path config h => ?_⟩
  obtain ⟨-, -, -, husable⟩ := ofText_eq_ok_iff.mp h
  exact ⟨config, ofValue?_toValue config, rfl, check_eq_ok_iff.mpr husable, rfl, rfl⟩

theorem readsBack_bookText : ∃ config again, ofText bookText ".graphqlrc.yml" = .ok config ∧
    ofValue? config.toValue = some again ∧ again.check = .ok () ∧
      again.projects.map (fun project => (project.1, project.2.settings)) =
        config.projects.map (fun project => (project.1, project.2.settings)) := by
  have hsome : (ofText bookText ".graphqlrc.yml").toOption.isSome = true := by decide +kernel
  obtain ⟨config, h⟩ := isSome_toOption_iff.mp hsome
  obtain ⟨again, hagain, -, hcheck, hsettings, -⟩ := readsBack.2.2 _ _ config h
  exact ⟨config, again, h, hagain, hcheck, hsettings⟩

end Config

end ResolverTypes
