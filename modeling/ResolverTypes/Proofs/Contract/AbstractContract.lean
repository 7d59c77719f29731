import ResolverTypes.Proofs.Contract.ObjectContract
import ResolverTypes.Proofs.Graph.DistinctParts
import ResolverTypes.Proofs.TypeScript.Alternatives

/-!
# How values of abstract types are told apart

The contract of an interface or union asks for the name of the object that a value is of, and the
contract of an object whether a value is of the object.  The two answer each other: an object is
asked exactly if some abstract type may answer with its name, and it is asked of every value that
one of these abstract types is asked of.

## Main definitions

* `TakesValue`, `AnswersWith` : the value that a function is given, and what it may answer.
* `ResolvesType` : the contract of an interface or union.
* `TellsApart` : a document tells the values of abstract types apart.

## Main results

* `mem_isTypeOfCandidates_iff` : the objects whose values an object is asked of.
* `answersWith_iff` : the names that the functions of a document may answer with.
* `tellsApart_of_assemble` : assembled documents tell the values of abstract types apart.
-/

namespace ResolverTypes

open TypeScript TypeExpr

/-! ### What is asked of a document -/

/-- A type is that of a function with one parameter `value`, which is of the given type. -/
def TakesValue (type value : TypeExpr) : Prop :=
  ∃ parameters result, type = .function parameters result ∧
    parameters.filter (·.name == "value") = [⟨"value", value⟩]

/-- A type is that of a function in whose result a literal occurs. -/
def AnswersWith (type : TypeExpr) (name : String) : Prop :=
  ∃ parameters result, type = .function parameters result ∧ (literal name).Within result

/-- The contract of a group is the function `__resolveType`, which takes a value and answers, at
once or deferred, with one of some names; none of these stands twice. -/
def ResolvesType (group : Group) (optional : Bool) (names : List String) : Prop :=
  ∃ parameters value answer,
    group.contractMembers =
      [⟨"__resolveType", optional, .function parameters (.deferred answer)⟩] ∧
    parameters.filter (·.name == "value") = [⟨"value", value⟩] ∧
    answer.literals = names ∧ names.Nodup

/-- Two objects belong to a common interface or union. -/
def SchemaGraph.Related (graph : SchemaGraph) (object other : ObjectDef) : Prop :=
  ∃ name, graph.BelongsTo object name ∧ graph.BelongsTo other name

/-- A document tells the values of abstract types apart: each interface and union names the objects
that a value may be of, and the objects so named are those that are asked for their values.  The
members of an object's fields are required, so that an optional member is that of no field. -/
structure TellsApart (graph : SchemaGraph) (options : Options) (document : Document) : Prop where
  interfaces : ∀ interface ∈ graph.interfaces, ∃ group,
    document.group? interface.name = some group ∧
      ResolvesType group false (interface.objectNames graph)
  unions : ∀ union ∈ graph.unions, ∃ group, document.group? union.name = some group ∧
    ResolvesType group true (union.objectNames graph)
  isTypeOf_iff : ∀ object ∈ graph.objects, ∀ group, document.group? object.name = some group →
    ((∃ type, ⟨"__isTypeOf", true, type⟩ ∈ group.contractMembers) ↔
      ∃ other ∈ document.groups, ∃ member ∈ other.contractMembers,
        member.name = "__resolveType" ∧ AnswersWith member.type object.name)
  isTypeOf_value : ∀ object ∈ graph.objects, ∀ group, document.group? object.name = some group →
    ∀ type, ⟨"__isTypeOf", true, type⟩ ∈ group.contractMembers →
      ∃ value, TakesValue type value ∧ value.alternatives.Nodup ∧
        (∀ alternative, alternative ∈ value.alternatives ↔ ∃ other ∈ graph.objects,
          graph.Related object other ∧
            alternative = options.models.modelOr other.name .unknown) ∧
        options.models.modelOr object.name .unknown ∈ value.alternatives ∧
        ∀ other ∈ document.groups, ∀ member ∈ other.contractMembers,
          member.name = "__resolveType" → AnswersWith member.type object.name →
            ∀ admitted, TakesValue member.type admitted →
              admitted.alternatives ⊆ value.alternatives

variable {graph : SchemaGraph} {options : Options} {object : ObjectDef}

/-! ### Values and names of some objects -/

theorem alternatives_modelOr (models : ModelBinding) (typeName : String) :
    (models.modelOr typeName .unknown).alternatives = [models.modelOr typeName .unknown] := by
  unfold ModelBinding.modelOr
  split <;> rfl

/-- The alternatives of the values of some objects are the models of these, each once. -/
theorem alternatives_possibleValues {objects : List ObjectDef} (hne : objects ≠ []) :
    (possibleValues options objects).alternatives =
      (objects.map fun o => options.models.modelOr o.name .unknown).eraseDups := by
  refine alternatives_unionOf (fun type ht => ?_) (by simpa using hne)
  obtain ⟨o, -, rfl⟩ := List.mem_map.mp ht
  exact alternatives_modelOr _ _

theorem mem_alternatives_possibleValues {objects : List ObjectDef} (hne : objects ≠ [])
    {alternative : TypeExpr} : alternative ∈ (possibleValues options objects).alternatives ↔
      ∃ o ∈ objects, alternative = options.models.modelOr o.name .unknown := by
  rw [alternatives_possibleValues hne, List.mem_eraseDups, List.mem_map]
  simp only [eq_comm]

theorem takesValue_discrimination_iff {value result admitted : TypeExpr} :
    TakesValue (.function (discriminationParameters options value) result) admitted ↔
      admitted = value := by
  constructor
  · rintro ⟨parameters, result, heq, hfilter⟩
    obtain ⟨rfl, rfl⟩ := TypeExpr.function.inj heq
    exact ((Parameter.mk.injEq ..).mp (List.singleton_inj.mp hfilter)).2.symm
  · rintro rfl
    exact ⟨_, _, rfl, rfl⟩

/-- A union of literals that are names of objects, for a value of an abstract type. -/
theorem answersWith_resolveTypeMember_iff {abstractType name : String} {optional : Bool} :
    AnswersWith (resolveTypeMember graph options abstractType optional).type name ↔
      name ∈ (graph.possibleTypes abstractType).map (·.name) := by
  have hanswer : (graph.possibleTypes abstractType).map (fun o => literal o.name) =
      ((graph.possibleTypes abstractType).map (·.name)).map literal := by
    rw [List.map_map]
    rfl
  rw [← literal_within_deferred_iff, ← hanswer]
  constructor
  · rintro ⟨parameters, result, heq, hw⟩
    obtain ⟨-, rfl⟩ := TypeExpr.function.inj heq
    exact hw
  · exact fun hw => ⟨_, _, rfl, hw⟩

theorem resolvesType_of_contractMembers {group : Group} {abstractType : String} {optional : Bool}
    {names : List String}
    (hm : group.contractMembers = [resolveTypeMember graph options abstractType optional])
    (hnames : (graph.possibleTypes abstractType).map (·.name) = names) (hn : names.Nodup) :
    ResolvesType group optional names := by
  refine ⟨_, possibleValues options (graph.possibleTypes abstractType), _, hm, rfl, ?_, hn⟩
  have hanswer : (graph.possibleTypes abstractType).map (fun o => literal o.name) =
      names.map literal := by
    rw [← hnames, List.map_map]
    rfl
  rw [hanswer, literals_unionOf hn]

/-! ### Objects that belong to a common abstract type -/

/-- An object is asked of the values of the objects with which it belongs to a common abstract
type. -/
theorem mem_isTypeOfCandidates_iff (hn : graph.resolvableTypeNames.Nodup)
    (ho : object ∈ graph.objects) {other : ObjectDef} :
    other ∈ isTypeOfCandidates graph object ↔
      other ∈ graph.objects ∧ graph.Related object other := by
  simp only [isTypeOfCandidates, List.mem_flatMap, SchemaGraph.mem_abstractTypesOf_iff hn ho,
    SchemaGraph.mem_possibleTypes_iff hn, SchemaGraph.Related]
  tauto

theorem isTypeOfMember?_type {member : Member TypeExpr}
    (h : isTypeOfMember? graph options object = some member) :
    isTypeOfCandidates graph object ≠ [] ∧
      member.type = .function (discriminationParameters options
        (possibleValues options (isTypeOfCandidates graph object))) (.deferred .boolean) := by
  rw [isTypeOfMember?] at h
  split at h
  · cases h
  next hne =>
    obtain rfl := Option.some.inj h
    exact ⟨fun hnil => hne (List.isEmpty_iff.mpr hnil), rfl⟩

namespace Assembled

variable {document : Document} (h : Assembled graph options document)

include h

/-- The optional member of an object's contract is the one that is made for abstract types. -/
theorem mem_contractMembers_iff {inputs : List Declaration}
    (hg : objectGroupWith graph options object inputs ∈ document.groups) {type : TypeExpr} :
    ⟨"__isTypeOf", true, type⟩ ∈ (objectGroupWith graph options object inputs).contractMembers ↔
      isTypeOfMember? graph options object = some ⟨"__isTypeOf", true, type⟩ := by
  rw [contractMembers_objectGroupWith h hg, List.mem_append, Option.mem_toList]
  refine or_iff_right fun hm => ?_
  obtain ⟨field, -, heq⟩ := List.mem_map.mp hm
  exact Bool.false_ne_true (congrArg Member.optional heq)

/-- A name with which some group answers for an abstract type is that of an object that belongs to
the abstract type. -/
theorem exists_belongsTo_of_answersWith {group : Group} (hg : group ∈ document.groups)
    {member : Member TypeExpr} (hm : member ∈ group.contractMembers)
    (hname : member.name = "__resolveType") {name : String}
    (hanswer : AnswersWith member.type name) :
    ∃ abstractType optional, member = resolveTypeMember graph options abstractType optional ∧
      ∃ object ∈ graph.objects, object.name = name ∧ graph.BelongsTo object abstractType := by
  -- a member that names objects names those that its abstract type may stand for
  have named {abstractType : String} {optional : Bool}
      (heq : member = resolveTypeMember graph options abstractType optional) :
      ∃ object ∈ graph.objects, object.name = name ∧ graph.BelongsTo object abstractType := by
    rw [heq] at hanswer
    obtain ⟨object, ho, hn⟩ := List.mem_map.mp (answersWith_resolveTypeMember_iff.mp hanswer)
    obtain ⟨ho, hb⟩ := (SchemaGraph.mem_possibleTypes_iff h.nodup_resolvableTypeNames).mp ho
    exact ⟨object, ho, hn, hb⟩
  rcases h.cases_group hg with
    ⟨object, -, inputs, -, rfl⟩ | ⟨interface, hi, rfl⟩ | ⟨union, hu, rfl⟩
  · rw [contractMembers_objectGroupWith h hg] at hm
    rcases List.mem_append.mp hm with hm | hm
    · -- the member of a field goes by the name of an alias
      obtain ⟨field, -, rfl⟩ := List.mem_map.mp hm
      obtain ⟨parameters, result, heq, -⟩ := hanswer
      cases heq
    · rw [(isTypeOfMember?_eq_some (Option.mem_toList.mp hm)).1] at hname
      exact absurd hname (by decide)
  · rw [h.contractMembers_interfaceGroup hi] at hm
    exact ⟨_, _, List.mem_singleton.mp hm, named (List.mem_singleton.mp hm)⟩
  · rw [h.contractMembers_unionGroup hu] at hm
    exact ⟨_, _, List.mem_singleton.mp hm, named (List.mem_singleton.mp hm)⟩

/-- Every abstract type that an object belongs to has a group that may answer with the object's
name. -/
theorem exists_answersWith_of_belongsTo (ho : object ∈ graph.objects) {name : String}
    (hb : graph.BelongsTo object name) :
    ∃ group ∈ document.groups, ∃ optional,
      resolveTypeMember graph options name optional ∈ group.contractMembers ∧
        AnswersWith (resolveTypeMember graph options name optional).type object.name := by
  have hanswer (optional : Bool) :
      AnswersWith (resolveTypeMember graph options name optional).type object.name :=
    answersWith_resolveTypeMember_iff.mpr (List.mem_map.mpr ⟨object,
      (SchemaGraph.mem_possibleTypes_iff h.nodup_resolvableTypeNames).mpr ⟨ho, hb⟩, rfl⟩)
  rcases hb with ⟨interface, hi, rfl, -⟩ | ⟨union, hu, rfl, -⟩
  · refine ⟨_, h.interfaceGroup_mem hi, false, ?_, hanswer false⟩
    rw [h.contractMembers_interfaceGroup hi]
    exact List.mem_cons_self
  · refine ⟨_, h.unionGroup_mem hu, true, ?_, hanswer true⟩
    rw [h.contractMembers_unionGroup hu]
    exact List.mem_cons_self

/-- An object has a member that is made for abstract types exactly if some group may answer with
the object's name. -/
theorem exists_isTypeOfMember_iff (ho : object ∈ graph.objects) :
    (∃ member, isTypeOfMember? graph options object = some member) ↔
      ∃ other ∈ document.groups, ∃ member ∈ other.contractMembers,
        member.name = "__resolveType" ∧ AnswersWith member.type object.name := by
  have hn := h.nodup_resolvableTypeNames
  have hnone : isTypeOfMember? graph options object = none ↔
      ¬ ∃ name, graph.BelongsTo object name :=
    isTypeOfMember?_eq_none_iff hn ho
  rw [← Option.isSome_iff_exists, ← not_iff_not, Option.not_isSome_iff_eq_none, hnone, not_iff_not]
  constructor
  · rintro ⟨name, hb⟩
    obtain ⟨group, hg, optional, hm, ha⟩ := h.exists_answersWith_of_belongsTo ho hb
    exact ⟨group, hg, _, hm, rfl, ha⟩
  · rintro ⟨group, hg, member, hm, hname, ha⟩
    obtain ⟨abstractType, -, -, other, hother, heq, hb⟩ :=
      h.exists_belongsTo_of_answersWith hg hm hname ha
    obtain rfl := List.inj_on_of_nodup_map (SchemaGraph.nodup_objectNames hn) hother ho heq
    exact ⟨abstractType, hb⟩

/-- What an object is asked of: the values of all objects with which it belongs to a common
abstract type, its own among them, and whatever is given to a function that may answer with the
object's name. -/
theorem isTypeOf_value (ho : object ∈ graph.objects) {member : Member TypeExpr}
    (hm : isTypeOfMember? graph options object = some member) :
    ∃ value, TakesValue member.type value ∧ value.alternatives.Nodup ∧
      (∀ alternative, alternative ∈ value.alternatives ↔ ∃ other ∈ graph.objects,
        graph.Related object other ∧
          alternative = options.models.modelOr other.name .unknown) ∧
      options.models.modelOr object.name .unknown ∈ value.alternatives ∧
      ∀ group ∈ document.groups, ∀ resolve ∈ group.contractMembers,
        resolve.name = "__resolveType" → AnswersWith resolve.type object.name →
          ∀ admitted, TakesValue resolve.type admitted →
            admitted.alternatives ⊆ value.alternatives := by
  have hn := h.nodup_resolvableTypeNames
  obtain ⟨hne, htype⟩ := isTypeOfMember?_type hm
  have hmem (alternative : TypeExpr) : alternative ∈
      (possibleValues options (isTypeOfCandidates graph object)).alternatives ↔
        ∃ other ∈ graph.objects, graph.Related object other ∧
          alternative = options.models.modelOr other.name .unknown := by
    simp only [mem_alternatives_possibleValues hne, mem_isTypeOfCandidates_iff hn ho, and_assoc]
  refine ⟨_, htype ▸ takesValue_discrimination_iff.mpr rfl, ?_, hmem, ?_, ?_⟩
  · rw [alternatives_possibleValues hne]
    exact nodup_eraseDups _
  · -- an object that is asked belongs to some abstract type
    obtain ⟨name, hb⟩ : ∃ name, graph.BelongsTo object name := by
      by_contra hb
      rw [(isTypeOfMember?_eq_none_iff hn ho).mpr hb] at hm
      cases hm
    exact (hmem _).mpr ⟨object, ho, ⟨name, hb, hb⟩, rfl⟩
  · intro group hg resolve hr hname ha admitted hadmitted alternative halternative
    obtain ⟨abstractType, optional, rfl, other, hother, heq, hb⟩ :=
      h.exists_belongsTo_of_answersWith hg hr hname ha
    obtain rfl := List.inj_on_of_nodup_map (SchemaGraph.nodup_objectNames hn) hother ho heq
    have hpossible : graph.possibleTypes abstractType ≠ [] := List.ne_nil_of_mem
      ((SchemaGraph.mem_possibleTypes_iff hn).mpr ⟨hother, hb⟩)
    rw [takesValue_discrimination_iff.mp hadmitted] at halternative
    obtain ⟨o, hmemo, rfl⟩ := (mem_alternatives_possibleValues hpossible).mp halternative
    obtain ⟨hmemo, hbo⟩ := (SchemaGraph.mem_possibleTypes_iff hn).mp hmemo
    exact (hmem _).mpr ⟨o, hmemo, ⟨abstractType, hb, hbo⟩, rfl⟩

end Assembled

/-- Assembled documents of graphs of schema texts tell the values of abstract types apart. -/
theorem tellsApart_of_assemble {document : Document} (hl : graph.IsLowered)
    (ha : assemble graph options = .ok document) : TellsApart graph options document := by
  have h := assembled_of_assemble ha
  have hn := h.nodup_resolvableTypeNames
  have hparts := hl.hasDistinctParts
  constructor
  case interfaces =>
    intro interface hi
    refine ⟨_, h.group?_eq_some_iff.mpr ⟨h.interfaceGroup_mem hi, rfl⟩, ?_⟩
    exact resolvesType_of_contractMembers (h.contractMembers_interfaceGroup hi)
      (SchemaGraph.map_name_possibleTypes_interface hparts.implements hi)
      ((SchemaGraph.nodup_objectNames hn).sublist (List.filter_sublist.map _))
  case unions =>
    intro union hu
    refine ⟨_, h.group?_eq_some_iff.mpr ⟨h.unionGroup_mem hu, rfl⟩, ?_⟩
    exact resolvesType_of_contractMembers (h.contractMembers_unionGroup hu)
      (SchemaGraph.map_name_possibleTypes_union hn hu) ((hparts.members union hu).filter _)
  case isTypeOf_iff =>
    intro object ho group hgroup
    obtain ⟨inputs, -, hg⟩ := h.exists_objectGroup ho
    obtain rfl := Option.some.inj (hgroup.symm.trans (h.group?_eq_some_iff.mpr ⟨hg, rfl⟩))
    rw [← h.exists_isTypeOfMember_iff ho]
    constructor
    · rintro ⟨type, hm⟩
      exact ⟨_, (h.mem_contractMembers_iff hg).mp hm⟩
    · rintro ⟨⟨name, optional, type⟩, hm⟩
      obtain ⟨hname, hoptional⟩ := isTypeOfMember?_eq_some hm
      dsimp only at hname hoptional
      subst hname hoptional
      exact ⟨type, (h.mem_contractMembers_iff hg).mpr hm⟩
  case isTypeOf_value =>
    intro object ho group hgroup type hm
    obtain ⟨inputs, -, hg⟩ := h.exists_objectGroup ho
    obtain rfl := Option.some.inj (hgroup.symm.trans (h.group?_eq_some_iff.mpr ⟨hg, rfl⟩))
    exact h.isTypeOf_value ho ((h.mem_contractMembers_iff hg).mp hm)

/-- The text of a schema with objects that belong to an interface, to a union, and to both. -/
def libraryText : String :=
  "type Query { item: Item } interface Item { id: ID } type Book implements Item { id: ID } " ++
    "type Film implements Item { id: ID } union Found = Film | Query"

/-- The graph of `libraryText`. -/
def libraryGraph : SchemaGraph where
  objects := [⟨"Query", [⟨"item", .nullable (.named ⟨.interface, "Item"⟩), []⟩], [], false⟩,
    ⟨"Book", [⟨"id", .nullable (.named ⟨.scalar, "ID"⟩), []⟩], ["Item"], false⟩,
    ⟨"Film", [⟨"id", .nullable (.named ⟨.scalar, "ID"⟩), []⟩], ["Item"], false⟩]
  interfaces := [⟨"Item", [⟨"id", .nullable (.named ⟨.scalar, "ID"⟩), []⟩]⟩]
  unions := [⟨"Found", ["Film", "Query"]⟩]
  roots := { query := some "Query" }

theorem isLowered_libraryGraph : libraryGraph.IsLowered := by
  have h : (SchemaGraph.ofSources [⟨"schema.graphql", libraryText⟩]).toOption =
      some libraryGraph := by
    decide +kernel
  exact SchemaGraph.isLowered_of_ofSources (toOption_eq_some_iff.mp h)

theorem exists_assemble_libraryGraph : ∃ document, assemble libraryGraph {} = .ok document :=
  ⟨_, assemble_eq_bareDocument rfl (by decide +kernel)⟩

theorem tellsApart_libraryGraph : libraryGraph.IsLowered ∧
    ∃ document, assemble libraryGraph {} = .ok document ∧
      TellsApart libraryGraph {} document := by
  obtain ⟨document, h⟩ := exists_assemble_libraryGraph
  exact ⟨isLowered_libraryGraph, document, h, tellsApart_of_assemble isLowered_libraryGraph h⟩

end ResolverTypes
