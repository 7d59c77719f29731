import ResolverTypes.Proofs.Contract.AbstractContract
import ResolverTypes.Proofs.Contract.ContractShape
import ResolverTypes.Proofs.Contract.ObjectContract
import ResolverTypes.Proofs.Graph.DistinctParts

/-!
# Default resolvers and the contracts beside them

A group declares default resolvers from the models and the roots of the graph, and the contracts of
its fields from the owner and the arguments of each field.  The two agree: whatever field a default
resolver reads off its parent, the contract of the field is that of a function, which passes a parent
of just this type and no arguments, and never the record of a subscription.

## Main definitions

* `PassesParent` : the contract of a field is that of a function of a parent without arguments.
* `FitsContracts` : the default resolvers of a group fit the contracts beside them.

## Main results

* `defaultResolvers_mem_iff` : which default resolvers the group of an object declares.
* `passesParent_of_mem` : the contract of a field that has a default resolver.
* `fitsContracts_of_assemble` : default resolvers fit the contracts in every assembled document.
-/

namespace ResolverTypes

open TypeScript

variable {graph : SchemaGraph} {options : Options} {object : ObjectDef}

/-! ### Which default resolvers are declared -/

theorem mem_argumentlessFields_iff {name : String} : name ∈ object.argumentlessFields ↔
    ∃ field ∈ object.fields, field.arguments = [] ∧ field.name = name := by
  simp [ObjectDef.argumentlessFields, and_assoc]

theorem argumentlessFields_ne_nil_iff : object.argumentlessFields ≠ [] ↔
    ∃ field ∈ object.fields, field.arguments = [] := by
  simp [ObjectDef.argumentlessFields, List.filter_eq_nil_iff]

/-- The declarations behind the default resolvers declare no further ones. -/
theorem exists_others_of_groupInputs {inputs : List Declaration}
    (h : groupInputs graph options object = .ok inputs) : ∃ others,
    (objectGroupWith graph options object inputs).declarations =
        (if options.defaultResolvers then (defaultResolvers? graph options object).toList
          else []) ++ others ∧
      ∀ parent fields, .defaultResolvers parent fields ∉ others := by
  refine ⟨inputs ++ (object.fields.filterMap (argsRecord? options) ++
    (object.fields.map (fieldAlias graph options (.object object)) ++
      [objectContract graph options object])), ?_, fun parent fields hd => ?_⟩
  · simp only [objectGroupWith, List.append_assoc]
  rcases List.mem_append.mp hd with hd | hd
  · obtain ⟨name, input, -, heq⟩ := exists_registered_of_groupInputs h hd
    cases heq
  rcases List.mem_append.mp hd with hd | hd
  · obtain ⟨field, -, hr⟩ := List.mem_filterMap.mp hd
    rw [argsRecord?] at hr
    split at hr <;> cases hr
  rcases List.mem_append.mp hd with hd | hd
  · obtain ⟨field, -, heq⟩ := List.mem_map.mp hd
    cases heq
  · cases List.mem_singleton.mp hd

/-- The group of an object declares default resolvers where they are asked for and the object has
any, and they come first. -/
theorem defaultResolvers_mem_iff {inputs : List Declaration}
    (h : groupInputs graph options object = .ok inputs) {parent : TypeExpr} {fields : List String} :
    .defaultResolvers parent fields ∈ (objectGroupWith graph options object inputs).declarations ↔
      options.defaultResolvers = true ∧
        defaultResolvers? graph options object = some (.defaultResolvers parent fields) := by
  obtain ⟨others, heq, hothers⟩ := exists_others_of_groupInputs h
  rw [heq, List.mem_append, or_iff_left (hothers parent fields)]
  by_cases ho : options.defaultResolvers = true <;> simp [ho]

theorem exists_eq_cons_of_mem {inputs : List Declaration}
    (h : groupInputs graph options object = .ok inputs) {parent : TypeExpr} {fields : List String}
    (hd : .defaultResolvers parent fields ∈
      (objectGroupWith graph options object inputs).declarations) :
    ∃ others, (objectGroupWith graph options object inputs).declarations =
        .defaultResolvers parent fields :: others ∧
      ∀ parent fields, .defaultResolvers parent fields ∉ others := by
  obtain ⟨others, heq, hothers⟩ := exists_others_of_groupInputs h
  obtain ⟨ho, hsome⟩ := (defaultResolvers_mem_iff h).mp hd
  refine ⟨others, ?_, hothers⟩
  rw [heq, if_pos ho, hsome]
  rfl

/-! ### The contracts of their fields -/

/-- The alias of a field in a group is a function, or a record of it with a fragment, but not the
record of a subscription; and every function in it takes a parent of the given type and the empty
record of arguments. -/
def PassesParent (group : Group) (parent : TypeExpr) (fieldName : String) : Prop :=
  ∃ ps r, group.get? (aliasName fieldName) =
      some (.typeAlias (aliasName fieldName) (functionOrRecord (.function ps r))) ∧
    ¬ (functionOrRecord (.function ps r)).HasMember "subscribe" ∧
    ∀ parameters result,
      (TypeExpr.function parameters result).Within (functionOrRecord (.function ps r)) →
        parameters.filter (·.name == "parent") = [⟨"parent", parent⟩] ∧
        parameters.filter (·.name == "args") = [⟨"args", .emptyRecord⟩]

/-- Only the root of subscriptions has fields that are subscribed to. -/
theorem isSubscription_eq_false (hl : graph.IsLowered) (ho : object ∈ graph.objects)
    (hr : graph.roots.contains object.name = false) : object.isSubscription = false := by
  obtain ⟨schema, -, hg⟩ := hl.exists_mirrors
  obtain ⟨type, -, hobject⟩ := exists_mem_of_forall₂ hg.objects ho
  rw [hobject.isSubscription_eq, ← hg.roots_eq, ← hobject.name_eq]
  by_contra hs
  have hroot : graph.roots.subscription = some object.name := by simpa using hs
  simp [RootTypes.contains, hroot] at hr

/-- The contract of a field without arguments of an object that has a model and is no root. -/
theorem fieldContract_of_argumentless (graph : SchemaGraph) {field : FieldDef} {model : String}
    (hs : object.isSubscription = false) (hm : options.models.get? object.name = some model)
    (ha : field.arguments = []) :
    fieldContract graph options (.object object) field =
        functionOrRecord (.function (objectParameters options object field)
          (field.type.resultType options)) ∧
      objectParameters options object field =
        [⟨"parent", .named model⟩, ⟨"args", .emptyRecord⟩, ⟨"context", options.context⟩,
          ⟨"info", .named infoType⟩] := by
  have howner : ¬ (Owner.object object).isSubscription = true := Bool.eq_false_iff.mp hs
  constructor
  · rw [fieldContract, ← contractParameters, contractParameters_object, if_neg howner,
      delegatingContract_function]
  · rw [objectParameters, hm, argsType, List.isEmpty_iff.mpr ha]
    rfl

theorem passesParent_of_mem {document : Document} (h : Assembled graph options document)
    {inputs : List Declaration}
    (hg : objectGroupWith graph options object inputs ∈ document.groups)
    (hs : object.isSubscription = false) {model : String}
    (hm : options.models.get? object.name = some model) {field : FieldDef}
    (hf : field ∈ object.fields) (ha : field.arguments = []) :
    PassesParent (objectGroupWith graph options object inputs) (.named model) field.name := by
  obtain ⟨hcontract, hparameters⟩ := fieldContract_of_argumentless graph hs hm ha
  refine ⟨_, _, (get?_aliasName h hg hf).trans (by rw [fieldAlias, hcontract]), ?_, ?_⟩
  · intro hmember
    rw [← hcontract] at hmember
    have hname := mem_of_hasMember hmember
    rw [if_neg (Bool.eq_false_iff.mp hs : ¬ (Owner.object object).isSubscription = true)] at hname
    exact absurd hname (by decide)
  · intro parameters result hw
    rw [← hcontract] at hw
    obtain ⟨rfl, -⟩ := function_within_fieldContract_iff.mp hw
    rw [contractParameters_object, hparameters]
    exact ⟨rfl, rfl⟩

/-! ### Default resolvers -/

variable (graph options object) in
/-- The default resolvers of a group fit the contracts beside them.  There are default resolvers
exactly where they are asked for, and the object is no root, has a model, and has a field without
arguments.  They come first, are the only ones, and are for the fields without arguments, each once
and in order; and what they take for the parent is what the contracts of their fields pass. -/
structure FitsContracts (group : Group) : Prop where
  exists_iff : (∃ parent fields, .defaultResolvers parent fields ∈ group.declarations) ↔
    options.defaultResolvers = true ∧ graph.roots.contains object.name = false ∧
      (∃ model, options.models.get? object.name = some model) ∧
      ∃ field ∈ object.fields, field.arguments = []
  first : ∀ parent fields, .defaultResolvers parent fields ∈ group.declarations →
    ∃ others, group.declarations = .defaultResolvers parent fields :: others ∧
      ∀ parent fields, .defaultResolvers parent fields ∉ others
  fields_eq : ∀ parent fields, .defaultResolvers parent fields ∈ group.declarations →
    fields = (object.fields.filter (·.arguments.isEmpty)).map (·.name) ∧ fields.Nodup
  passesParent : ∀ parent fields, .defaultResolvers parent fields ∈ group.declarations →
    ∀ name ∈ fields, PassesParent group parent name

/-- In the group of every object of an assembled document the default resolvers fit the contracts. -/
theorem fitsContracts_of_assemble (hl : graph.IsLowered) {document : Document}
    (h : assemble graph options = .ok document) (ho : object ∈ graph.objects) :
    ∃ group, document.group? object.name = some group ∧
      FitsContracts graph options object group := by
  have ha := assembled_of_assemble h
  obtain ⟨inputs, hi, hg⟩ := ha.exists_objectGroup ho
  refine ⟨_, ha.group?_eq_some_iff.mpr ⟨hg, rfl⟩, ?_, ?_, ?_, ?_⟩
  · simp only [defaultResolvers_mem_iff hi, defaultResolvers?_eq_some_iff,
      argumentlessFields_ne_nil_iff]
    constructor
    · rintro ⟨parent, fields, hd, hr, hf, model, hm, -⟩
      exact ⟨hd, hr, ⟨model, hm⟩, hf⟩
    · rintro ⟨hd, hr, ⟨model, hm⟩, hf⟩
      exact ⟨_, _, hd, hr, hf, model, hm, rfl⟩
  · exact fun parent fields hd => exists_eq_cons_of_mem hi hd
  · intro parent fields hd
    obtain ⟨-, hsome⟩ := (defaultResolvers_mem_iff hi).mp hd
    obtain ⟨-, -, model, -, heq⟩ := defaultResolvers?_eq_some_iff.mp hsome
    obtain ⟨-, rfl⟩ := Declaration.defaultResolvers.inj heq
    exact ⟨rfl, (hl.hasDistinctParts.objectFields object ho).sublist (List.filter_sublist.map _)⟩
  · intro parent fields hd name hn
    obtain ⟨-, hsome⟩ := (defaultResolvers_mem_iff hi).mp hd
    obtain ⟨hr, -, model, hm, heq⟩ := defaultResolvers?_eq_some_iff.mp hsome
    obtain ⟨rfl, rfl⟩ := Declaration.defaultResolvers.inj heq
    obtain ⟨field, hf, harguments, rfl⟩ := mem_argumentlessFields_iff.mp hn
    exact passesParent_of_mem ha hg (isSubscription_eq_false hl ho hr) hm hf harguments

/-- Options with a model for the root of `libraryGraph` and for one of the other types. -/
def defaultingOptions : Options where
  models := .ofList [("Query", "RootModel"), ("Book", "BookModel")]
  defaultResolvers := true

theorem fitsContracts_defaultingOptions : libraryGraph.IsLowered ∧
    ∃ document, assemble libraryGraph defaultingOptions = .ok document ∧
      ∃ object ∈ libraryGraph.objects, ∃ group, document.group? object.name = some group ∧
        FitsContracts libraryGraph defaultingOptions object group ∧
        ∃ parent fields, .defaultResolvers parent fields ∈ group.declarations := by
  have h : assemble libraryGraph defaultingOptions =
      .ok (bareDocument libraryGraph defaultingOptions) :=
    assemble_eq_bareDocument rfl (by decide +kernel)
  have hbook : (⟨"Book", [⟨"id", .nullable (.named ⟨.scalar, "ID"⟩), []⟩], ["Item"], false⟩ :
      ObjectDef) ∈ libraryGraph.objects := .tail _ (.head _)
  obtain ⟨group, hg, hfits⟩ := fitsContracts_of_assemble isLowered_libraryGraph h hbook
  exact ⟨isLowered_libraryGraph, _, h, _, hbook, group, hg, hfits,
    hfits.exists_iff.mpr ⟨rfl, rfl, ⟨"BookModel", rfl⟩, _, List.mem_cons_self, rfl⟩⟩

end ResolverTypes
