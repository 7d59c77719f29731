import ResolverTypes.Proofs.Contract.AssembledDocument
import ResolverTypes.Proofs.Graph.AddedObject

/-!
# The document of a graph with one more object

An object that belongs to no abstract type of a graph adds its own group to the document, its own
member to the aggregate, and shared inputs; nothing else in the document tells that it is there.
Taking it away cannot bring two names together, so that the document without it is assembled too.

## Main definitions

* `AddsObject` : a document is another one with the group of one more object.

## Main results

* `objectGroup_of_addObject` : the groups of the other objects.
* `sublist_sharedInputs_addObject` : the shared inputs.
* `addsObject_of_assemble` : the document of a graph with one more object.
-/

namespace ResolverTypes

open TypeScript

variable {graph : SchemaGraph} {options : Options} {object : ObjectDef}

/-- A document is that of a graph with the group of one more object.  The group stands behind those
of the graph's objects, and the object's entry behind theirs; the imports, the enums and the other
groups are the same, and no shared input is lost or changed. -/
structure AddsObject (graph : SchemaGraph) (options : Options) (object : ObjectDef)
    (document extended : Document) : Prop where
  imports_eq : extended.imports = document.imports
  enums_eq : extended.enums = document.enums
  sharedInputs : document.sharedInputs.Sublist extended.sharedInputs
  groups : ∃ objectGroups group others,
    objectGroups.map (·.typeName) = graph.objects.map (·.name) ∧
    objectGroup (graph.addObject object) options object = .ok group ∧
    document.groups = objectGroups ++ others ∧
    extended.groups = objectGroups ++ group :: others
  aggregate : ∃ name entries others,
    entries.map (·.name) = graph.objects.map (·.name) ∧
    document.aggregate = .interface name (entries ++ others) ∧
    extended.aggregate =
      .interface name (entries ++ ⟨object.name, false, contractReference object.name⟩ :: others)

/-! ### The other groups -/

section

variable (ho : ∀ name, ¬ graph.BelongsTo object name)

include ho

theorem resolveTypeMember_addObject (abstractType : String) (optional : Bool) :
    resolveTypeMember (graph.addObject object) options abstractType optional =
      resolveTypeMember graph options abstractType optional := by
  rw [resolveTypeMember, SchemaGraph.possibleTypes_addObject ho]
  rfl

theorem isTypeOfMember?_addObject (other : ObjectDef) :
    isTypeOfMember? (graph.addObject object) options other =
      isTypeOfMember? graph options other := by
  have hcandidates : isTypeOfCandidates (graph.addObject object) other =
      isTypeOfCandidates graph other := by
    rw [isTypeOfCandidates, SchemaGraph.abstractTypesOf_addObject ho,
      funext (SchemaGraph.possibleTypes_addObject ho)]
    rfl
  rw [isTypeOfMember?, hcandidates]
  rfl

theorem objectGroupWith_addObject (other : ObjectDef) (inputs : List Declaration) :
    objectGroupWith (graph.addObject object) options other inputs =
      objectGroupWith graph options other inputs := by
  obtain ⟨declarations, hgraph, hadded⟩ := exists_declarations_objectGroupWith options
    (show (graph.addObject object).roots = graph.roots from rfl) other inputs
  have hcontract : objectContract (graph.addObject object) options other =
      objectContract graph options other := by
    rw [objectContract, isTypeOfMember?_addObject ho]
    rfl
  have hdeclarations := hadded.trans (hcontract ▸ hgraph.symm)
  rw [Group.mk.injEq]
  exact ⟨rfl, hdeclarations⟩

/-- The groups of the other objects are what they were: of the inputs that the added object brings
within reach, their arguments name none that was not within reach before. -/
theorem objectGroup_of_addObject {other : ObjectDef} (hother : other ∈ graph.objects)
    {group : Group} (h : objectGroup (graph.addObject object) options other = .ok group) :
    objectGroup graph options other = .ok group := by
  obtain ⟨inputs, hi, rfl⟩ := objectGroup_eq_ok_iff.mp h
  refine objectGroup_eq_ok_iff.mpr ⟨inputs, ?_, (objectGroupWith_addObject ho other inputs).symm⟩
  refine groupInputs_eq_ok_iff.mpr (forall₂_imp_of_mem (groupInputs_eq_ok_iff.mp hi) ?_)
  rintro name hn declaration ⟨input, hr, hd⟩
  have harguments := SchemaGraph.object_argumentInputs_subset hother hn
  exact ⟨input, SchemaGraph.get?_inputRegistry_of_addObject hr harguments, hd⟩

theorem interfaceGroup_addObject (interface : InterfaceDef) :
    interfaceGroup (graph.addObject object) options interface =
      interfaceGroup graph options interface := by
  rw [interfaceGroup, resolveTypeMember_addObject ho]
  rfl

theorem unionGroup_addObject (union : UnionDef) :
    unionGroup (graph.addObject object) options union = unionGroup graph options union := by
  rw [unionGroup, resolveTypeMember_addObject ho]
  rfl

end

/-! ### Shared inputs -/

/-- A function that finds whatever another finds keeps, of a list, what the other keeps. -/
theorem sublist_filterMap_of_imp {α β : Type} {f g : α → Option β}
    (h : ∀ a b, f a = some b → g a = some b) (l : List α) :
    (l.filterMap f).Sublist (l.filterMap g) := by
  induction l with
  | nil => exact .slnil
  | cons a l ih =>
      cases hf : f a with
      | none =>
          rw [List.filterMap_cons_none hf]
          exact ih.trans ((List.sublist_cons_self a l).filterMap g)
      | some b =>
          rw [List.filterMap_cons_some hf, List.filterMap_cons_some (h a b hf)]
          exact ih.cons_cons b

/-- The names of the shared inputs remain, in their order. -/
theorem sublist_sharedInputNames_addObject :
    (sharedInputNames graph).Sublist (sharedInputNames (graph.addObject object)) := by
  refine sublist_sortedNames fun name hn => ?_
  rcases List.mem_append.mp hn with hn | hn
  · -- a registered input is still registered, and with it what its fields name
    obtain ⟨input, hi, hn⟩ := List.mem_flatMap.mp hn
    obtain ⟨registered, hr⟩ := NameMap.mem_values_iff.mp hi
    exact List.mem_append_left _ (List.mem_flatMap.mpr ⟨input, NameMap.mem_values_iff.mpr
      ⟨registered, SchemaGraph.get?_inputRegistry_addObject hr⟩, hn⟩)
  · exact List.mem_append_right _ hn

/-- Every shared input is still declared, and in the same way. -/
theorem sublist_sharedInputs_addObject :
    (sharedInputs graph options).Sublist (sharedInputs (graph.addObject object) options) := by
  refine List.Sublist.map _ ?_
  exact (sublist_filterMap_of_imp (fun _ _ => SchemaGraph.get?_inputRegistry_addObject) _).trans
    (sublist_sharedInputNames_addObject.filterMap _)

/-! ### The document -/

/-- The names of a document stay distinct when the group of an object is taken away. -/
theorem AddsObject.nodup {document extended : Document}
    (h : AddsObject graph options object document extended)
    (hg : ∀ group ∈ extended.groups, (group.declarations.map (·.name)).Nodup)
    (hm : extended.moduleNames.Nodup) :
    (∀ group ∈ document.groups, (group.declarations.map (·.name)).Nodup) ∧
      document.moduleNames.Nodup := by
  have hgroups : document.groups.Sublist extended.groups := by
    obtain ⟨objectGroups, group, others, -, -, hd, he⟩ := h.groups
    rw [hd, he]
    exact (List.sublist_cons_self group others).append_left objectGroups
  have haggregate : document.aggregate.name = extended.aggregate.name := by
    obtain ⟨name, entries, others, -, hd, he⟩ := h.aggregate
    rw [hd, he]
    rfl
  refine ⟨fun group hmem => hg group (hgroups.subset hmem), hm.sublist ?_⟩
  rw [Document.moduleNames, Document.moduleNames, haggregate, ← h.imports_eq, ← h.enums_eq]
  refine List.Sublist.append_right (List.Sublist.append ?_ (hgroups.map _)) _
  exact ((h.sharedInputs.append_left _).map _).append_left _

/-- Without the object a graph has a draft of a document, to which the object adds its group. -/
theorem Assembled.exists_draftDocument {extended : Document}
    (ho : ∀ name, ¬ graph.BelongsTo object name)
    (h : Assembled (graph.addObject object) options extended) :
    ∃ document, draftDocument graph options = .ok document ∧
      AddsObject graph options object document extended := by
  obtain ⟨groups, hgroups, heq⟩ := h.groups_eq
  obtain ⟨objectGroups, added, hobjects, hadded, rfl⟩ := exists_append_of_forall₂ hgroups
  obtain ⟨group, _, hgroup, hnil, rfl⟩ := List.forall₂_cons_left_iff.mp hadded
  obtain rfl := List.forall₂_nil_left_iff.mp hnil
  have hold : List.Forall₂ (objectGroup graph options · = .ok ·) graph.objects objectGroups :=
    forall₂_imp_of_mem hobjects fun _ hother _ hg => objectGroup_of_addObject ho hother hg
  refine ⟨_, draftDocument_eq_ok_iff.mpr ⟨objectGroups, hold, rfl⟩, ?_⟩
  constructor
  case imports_eq => exact h.imports_eq
  case enums_eq => exact h.enums_eq
  case sharedInputs => exact h.sharedInputs_eq ▸ sublist_sharedInputs_addObject
  case groups =>
    refine ⟨objectGroups, group, _, typeNames_objectGroups hold, hgroup,
      List.append_assoc .., ?_⟩
    rw [heq, funext (interfaceGroup_addObject ho), funext (unionGroup_addObject ho)]
    simp only [List.append_assoc, List.cons_append, List.nil_append]
    rfl
  case aggregate =>
    refine ⟨_, graph.objects.map fun o => ⟨o.name, false, contractReference o.name⟩, _, ?_,
      congrArg _ (List.append_assoc ..), ?_⟩
    · rw [List.map_map]
      rfl
    · rw [h.aggregate_eq, aggregateDeclaration]
      simp only [SchemaGraph.addObject, List.map_append, List.map_cons, List.map_nil,
        List.append_assoc, List.cons_append, List.nil_append]

/-- The document of a graph is assembled whenever that of the graph with one more object is, and
the object adds its group to it. -/
theorem addsObject_of_assemble {extended : Document} (ho : ∀ name, ¬ graph.BelongsTo object name)
    (ha : assemble (graph.addObject object) options = .ok extended) :
    ∃ document, assemble graph options = .ok document ∧
      AddsObject graph options object document extended := by
  have h := assembled_of_assemble ha
  obtain ⟨document, hd, hadds⟩ := h.exists_draftDocument ho
  exact ⟨document, assemble_eq_ok_iff.mpr ⟨hd, hadds.nodup h.nodup_group h.nodup_module⟩, hadds⟩

/-- An input whose field names the input itself. -/
def phraseInput : InputDef := ⟨"Phrase", [⟨"not", .nullable (.named ⟨.input, "Phrase"⟩)⟩]⟩

/-- A graph with abstract types, and with an input that no argument names. -/
def phraseGraph : SchemaGraph where
  objects := [⟨"Query", [⟨"name", .nullable (.named ⟨.scalar, "String"⟩), []⟩], ["Named"], false⟩]
  interfaces := [⟨"Named", [⟨"name", .nullable (.named ⟨.scalar, "String"⟩), []⟩]⟩]
  unions := [⟨"Found", ["Query"]⟩]
  inputs := [phraseInput]
  roots := { query := some "Query" }

/-- An object with an argument that names the input of `phraseGraph`. -/
def searchObject : ObjectDef :=
  ⟨"Search", [⟨"count", .nullable (.named ⟨.scalar, "Int"⟩),
    [⟨"of", .named ⟨.input, "Phrase"⟩⟩]⟩], [], false⟩

theorem inputRegistry_addObject_searchObject : (phraseGraph.addObject searchObject).inputRegistry =
    .ofList [(phraseInput.name, phraseInput)] := by
  have hphrase : (phraseGraph.addObject searchObject).reachableInputs ["Phrase"] [] =
      (phraseGraph.addObject searchObject).reachableInputs (phraseInput.fieldInputs ++ [])
        [phraseInput] :=
    SchemaGraph.reachableInputs_of_some rfl rfl
  have hagain : (phraseGraph.addObject searchObject).reachableInputs ["Phrase"] [phraseInput] =
      (phraseGraph.addObject searchObject).reachableInputs [] [phraseInput] :=
    SchemaGraph.reachableInputs_of_found rfl
  have hreach := hphrase.trans (hagain.trans (SchemaGraph.reachableInputs_nil _))
  exact congrArg (fun found => NameMap.ofList (found.map fun input => (input.name, input))) hreach

theorem addsObject_searchObject : (∀ name, ¬ phraseGraph.BelongsTo searchObject name) ∧
    ∃ extended, assemble (phraseGraph.addObject searchObject) {} = .ok extended ∧
      ∃ document, assemble phraseGraph {} = .ok document ∧
        AddsObject phraseGraph {} searchObject document extended := by
  have hapart : ∀ name, ¬ phraseGraph.BelongsTo searchObject name := by
    rintro name (⟨interface, -, -, hm⟩ | ⟨union, hu, -, hm⟩)
    · cases hm
    · obtain rfl := List.mem_singleton.mp hu
      exact absurd hm (by decide)
  obtain ⟨extended, h⟩ :
      ∃ extended, assemble (phraseGraph.addObject searchObject) {} = .ok extended := by
    rw [← isSome_toOption_iff]
    simp only [assemble, draftDocument, objectGroups, objectGroup, groupInputs, sharedInputs,
      sharedInputNames, inputRegistry_addObject_searchObject]
    decide +kernel
  exact ⟨hapart, extended, h, addsObject_of_assemble hapart h⟩

end ResolverTypes
