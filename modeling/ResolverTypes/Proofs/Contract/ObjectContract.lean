import ResolverTypes.Proofs.Contract.AssembledDocument
import ResolverTypes.Proofs.Contract.FieldContract
import ResolverTypes.Proofs.Graph.AbstractTypes
import ResolverTypes.Proofs.Graph.InputReach

/-!
# The contract of an object

The contract of an object is linked to the contracts of its fields by derived names, and these to
the records of arguments.  Different fields may have the same derived name; in an assembled document
they do not, so that every name leads to what it was made for.

## Main definitions

* `MatchesFields` : a group holds the contract of an object, linked field by field.

## Main results

* `isTypeOfMember?_eq_none_iff` : when an object has the member `__isTypeOf`.
* `exists_matchesFields` : the group of every object holds its contract.
-/

namespace ResolverTypes

open TypeScript

variable {graph : SchemaGraph} {options : Options} {object : ObjectDef}

/-! ### The member `__isTypeOf` -/

/-- An object lacks the member `__isTypeOf` exactly when it belongs to no abstract type. -/
theorem isTypeOfMember?_eq_none_iff (hn : graph.resolvableTypeNames.Nodup)
    (ho : object ∈ graph.objects) :
    isTypeOfMember? graph options object = none ↔ ¬ ∃ name, graph.BelongsTo object name := by
  have hcandidates : isTypeOfCandidates graph object = [] ↔
      ¬ ∃ name, graph.BelongsTo object name := by
    rw [isTypeOfCandidates, List.flatMap_eq_nil_iff]
    constructor
    · rintro h ⟨name, hb⟩
      have hmem := (SchemaGraph.mem_possibleTypes_iff hn).mpr ⟨ho, hb⟩
      rw [h name ((SchemaGraph.mem_abstractTypesOf_iff hn ho).mpr hb)] at hmem
      cases hmem
    · intro h name hname
      exact absurd ⟨name, (SchemaGraph.mem_abstractTypesOf_iff hn ho).mp hname⟩ h
  rw [← hcandidates, isTypeOfMember?]
  cases isTypeOfCandidates graph object with
  | nil => exact iff_of_true rfl rfl
  | cons o os => exact iff_of_false nofun nofun

theorem isTypeOfMember?_eq_some {member : Member TypeExpr}
    (h : isTypeOfMember? graph options object = some member) :
    member.name = "__isTypeOf" ∧ member.optional = true := by
  rw [isTypeOfMember?] at h
  split at h
  · cases h
  · obtain rfl := Option.some.inj h
    exact ⟨rfl, rfl⟩

/-! ### Links by name -/

variable (options) in
/-- A function's parameter `args` is of the type that a group declares for the arguments of a
field. -/
def TakesArguments (group : Group) (field : FieldDef) (parameters : List (Parameter TypeExpr)) :
    Prop :=
  ∃ type, parameters.filter (·.name == "args") = [⟨"args", type⟩] ∧
    (type = .emptyRecord ↔ field.arguments = []) ∧
    (field.arguments ≠ [] → ∃ record, type = .named record ∧ group.get? record =
      some (.interface record (field.arguments.map fun argument =>
        ⟨argument.name, false, argument.type.valueType options⟩)))

variable (graph options) in
/-- A group holds the contract of an object: a member for each field, in order, and `__isTypeOf` if
the object belongs to an abstract type.  A field's member leads to the alias of the field's own
contract, and every function in that contract takes the field's own arguments. -/
structure MatchesFields (object : ObjectDef) (group : Group) : Prop where
  contractMembers : ∃ last, group.contractMembers =
      object.fields.map (fun field => ⟨field.name, false, .named (aliasName field.name)⟩) ++ last ∧
    ((∃ name, graph.BelongsTo object name) → ∃ type, last = [⟨"__isTypeOf", true, type⟩]) ∧
    ((¬ ∃ name, graph.BelongsTo object name) → last = [])
  alias_eq : ∀ field ∈ object.fields, group.get? (aliasName field.name) =
    some (.typeAlias (aliasName field.name) (fieldContract graph options (.object object) field))
  exists_function : ∀ field ∈ object.fields, ∃ parameters result,
    (TypeExpr.function parameters result).Within
      (fieldContract graph options (.object object) field)
  takesArguments : ∀ field ∈ object.fields, ∀ parameters result,
    (TypeExpr.function parameters result).Within
      (fieldContract graph options (.object object) field) →
    TakesArguments options group field parameters

section

variable {document : Document} {inputs : List Declaration}

theorem contractMembers_objectGroupWith (h : Assembled graph options document)
    (hg : objectGroupWith graph options object inputs ∈ document.groups) :
    (objectGroupWith graph options object inputs).contractMembers =
      object.fields.map (fun field => ⟨field.name, false, .named (aliasName field.name)⟩) ++
        (isTypeOfMember? graph options object).toList := by
  rw [Group.contractMembers, h.get?_contractName hg]
  rfl

theorem get?_aliasName (h : Assembled graph options document)
    (hg : objectGroupWith graph options object inputs ∈ document.groups) {field : FieldDef}
    (hf : field ∈ object.fields) :
    (objectGroupWith graph options object inputs).get? (aliasName field.name) =
      some (fieldAlias graph options (.object object) field) :=
  (h.get?_eq_some_iff hg).mpr
    ⟨List.mem_append_left _ (List.mem_append_right _ (List.mem_map_of_mem hf)), rfl⟩

theorem get?_argsRecordName (h : Assembled graph options document)
    (hg : objectGroupWith graph options object inputs ∈ document.groups) {field : FieldDef}
    (hf : field ∈ object.fields) {record : Declaration}
    (hr : argsRecord? options field = some record) :
    (objectGroupWith graph options object inputs).get? record.name = some record :=
  (h.get?_eq_some_iff hg).mpr ⟨List.mem_append_left _ (List.mem_append_left _
    (List.mem_append_right _ (List.mem_filterMap.mpr ⟨field, hf, hr⟩))), rfl⟩

theorem takesArguments_objectGroupWith (h : Assembled graph options document)
    (hg : objectGroupWith graph options object inputs ∈ document.groups) {field : FieldDef}
    (hf : field ∈ object.fields) :
    TakesArguments options (objectGroupWith graph options object inputs) field
      (contractParameters graph options (.object object) field) := by
  refine ⟨argsType field, rfl, ?_, fun ha => ?_⟩
  · unfold argsType
    split
    next ha => exact iff_of_true rfl (List.isEmpty_iff.mp ha)
    next ha => exact iff_of_false nofun fun hnil => ha (List.isEmpty_iff.mpr hnil)
  · have hempty : field.arguments.isEmpty = false := by rwa [List.isEmpty_eq_false_iff]
    have hrecord : argsRecord? options field = some (.interface (argsRecordName field.name)
        (field.arguments.map fun argument =>
          ⟨argument.name, false, argument.type.valueType options⟩)) := by
      rw [argsRecord?, hempty]
      rfl
    refine ⟨argsRecordName field.name, ?_, get?_argsRecordName h hg hf hrecord⟩
    rw [argsType, hempty]
    rfl

end

/-- The group of every object of an assembled document holds the object's contract, each field
linked to its own contract and that to the field's own arguments. -/
theorem exists_matchesFields {document : Document} (h : assemble graph options = .ok document)
    (ho : object ∈ graph.objects) :
    ∃ group, document.group? object.name = some group ∧
      MatchesFields graph options object group := by
  have ha := assembled_of_assemble h
  obtain ⟨inputs, -, hg⟩ := ha.exists_objectGroup ho
  refine ⟨_, ha.group?_eq_some_iff.mpr ⟨hg, rfl⟩, ?_, ?_, ?_, ?_⟩
  · refine ⟨_, contractMembers_objectGroupWith ha hg, fun hb => ?_, fun hb => ?_⟩
    · cases hm : isTypeOfMember? graph options object with
      | none =>
          exact absurd hb ((isTypeOfMember?_eq_none_iff ha.nodup_resolvableTypeNames ho).mp hm)
      | some member =>
          obtain ⟨hname, hoptional⟩ := isTypeOfMember?_eq_some hm
          exact ⟨member.type, by rw [← hname, ← hoptional]; rfl⟩
    · rw [(isTypeOfMember?_eq_none_iff ha.nodup_resolvableTypeNames ho).mpr hb]
      rfl
  · exact fun field hf => get?_aliasName ha hg hf
  · exact fun field _ => exists_function_within_fieldContract graph options (.object object) field
  · intro field hf parameters result hw
    obtain ⟨rfl, -⟩ := function_within_fieldContract_iff.mp hw
    exact takesArguments_objectGroupWith ha hg hf

/-- The graph of `type Query { post(id: Int): String  name: String }`. -/
def queryGraph : SchemaGraph where
  objects := [⟨"Query",
    [⟨"post", .nullable (.named ⟨.scalar, "String"⟩),
        [⟨"id", .nullable (.named ⟨.scalar, "Int"⟩)⟩]⟩,
      ⟨"name", .nullable (.named ⟨.scalar, "String"⟩), []⟩], [], false⟩]
  roots := { query := some "Query" }

theorem exists_matchesFields_queryGraph : ∃ document, assemble queryGraph {} = .ok document ∧
    ∃ object ∈ queryGraph.objects, ∃ group, document.group? object.name = some group ∧
      MatchesFields queryGraph {} object group := by
  have hempty := SchemaGraph.inputRegistry_eq_empty (show queryGraph.argumentInputs = [] from rfl)
  obtain ⟨document, h⟩ : ∃ document, assemble queryGraph {} = .ok document := by
    rw [← isSome_toOption_iff]
    simp only [assemble, draftDocument, objectGroups, objectGroup, groupInputs, sharedInputs,
      sharedInputNames, hempty]
    decide +kernel
  exact ⟨document, h, _, List.mem_cons_self, exists_matchesFields h List.mem_cons_self⟩

end ResolverTypes
