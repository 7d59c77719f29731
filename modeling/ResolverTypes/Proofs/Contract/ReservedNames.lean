import ResolverTypes.Layout.Token
import ResolverTypes.Proofs.Contract.NameCollisions

/-!
# Reserved words among the names of a document

A module cannot declare a type by a word that the language reserves.  Reserved words are written in
small letters throughout, and every name that is derived from a schema has a capital in it, be it in
the part that is put before the name of a field or in the part that is put behind it.  Enums and
inputs, however, are declared by the names that they have in the schema, which may be any; only they
can therefore be declared by a reserved word, and they are.

## Main definitions

* `HasCapital` : a name has a capital letter in it.
* `unusableWords` : the words by which a module cannot declare a type.
* `Document.declaredNames` : the names of all declarations in a document.

## Main results

* `DerivedName.hasCapital` : the names that a group derives have a capital.
* `mem_declaredNames_iff` : the names that the document of a graph declares.
* `unusable_mem_declaredNames_iff` : which of them a module cannot declare.
-/

namespace ResolverTypes

open TypeScript

/-! ### Capitals -/

/-- A name has a capital letter in it. -/
def HasCapital (name : String) : Prop := ∃ c ∈ name.toList, c.isUpper = true

instance (name : String) : Decidable (HasCapital name) :=
  decidable_of_iff (name.toList.any (·.isUpper) = true) List.any_eq_true

theorem HasCapital.append_left {name : String} (h : HasCapital name) (other : String) :
    HasCapital (name ++ other) := by
  obtain ⟨c, hc, hupper⟩ := h
  exact ⟨c, by rw [String.toList_append]; exact List.mem_append_left _ hc, hupper⟩

theorem HasCapital.append_right {name : String} (h : HasCapital name) (other : String) :
    HasCapital (other ++ name) := by
  obtain ⟨c, hc, hupper⟩ := h
  exact ⟨c, by rw [String.toList_append]; exact List.mem_append_right _ hc, hupper⟩

/-- The words by which a module cannot declare a type: those that are reserved everywhere, and those
that are where the rules are strict. -/
def unusableWords : List String := Layout.reservedWords ++ "enum" :: Layout.strictWords

/-- Reserved words are written in small letters. -/
theorem not_hasCapital_of_mem_unusableWords {word : String} (h : word ∈ unusableWords) :
    ¬ HasCapital word := by
  have hwords : ∀ word ∈ unusableWords, ¬ HasCapital word := by decide +kernel
  exact hwords word h

theorem hasCapital_argsRecordName (fieldName : String) : HasCapital (argsRecordName fieldName) :=
  HasCapital.append_left (by decide) _

theorem hasCapital_aliasName (fieldName : String) : HasCapital (aliasName fieldName) :=
  HasCapital.append_right (by decide) _

theorem hasCapital_namespaceName (typeName : String) : HasCapital (namespaceName typeName) :=
  HasCapital.append_right (by decide) _

/-- The names that a group derives have a capital. -/
theorem DerivedName.hasCapital {graph : SchemaGraph} {options : Options} {owner : Owner}
    {name : String} (h : DerivedName graph options owner name) : HasCapital name := by
  cases h with
  | contract => decide
  | argsRecord _ _ => exact hasCapital_argsRecordName _
  | fieldAlias _ => exact hasCapital_aliasName _
  | defaultResolvers _ _ => decide

/-! ### The names that a document declares -/

/-- The names of all declarations in a document, of its namespaces and of what stands in them. -/
def TypeScript.Document.declaredNames (document : Document) : List String :=
  (document.enums ++ document.sharedInputs).map (·.name) ++
    document.groups.flatMap (fun group => group.namespaceName :: group.declarations.map (·.name)) ++
    [document.aggregate.name]

variable {graph : SchemaGraph} {options : Options} {document : Document} {name : String}

/-- A document declares the enums and the shared inputs, the namespaces of the groups and what
stands in them, and the interface of all contracts. -/
theorem mem_declaredNames_iff (hl : graph.IsLowered)
    (hd : draftDocument graph options = .ok document) :
    name ∈ document.declaredNames ↔ (∃ enum ∈ graph.enums, enum.name = name) ∨
      name ∈ sharedInputNames graph ∨
      (∃ group ∈ groupNames graph options, name = namespaceName group.1 ∨ name ∈ group.2) ∨
      name = "Resolvers" := by
  have hgroups : document.groups.flatMap
        (fun group => group.namespaceName :: group.declarations.map (·.name)) =
      (groupNames graph options).flatMap fun group => namespaceName group.1 :: group.2 := by
    rw [← names_groups hd, List.flatMap_map]
    rfl
  have haggregate : document.aggregate.name = "Resolvers" ∧
      (document.enums ++ document.sharedInputs).map (·.name) =
        graph.enums.map (·.name) ++ sharedInputNames graph := by
    obtain ⟨groups, -, rfl⟩ := draftDocument_eq_ok_iff.mp hd
    refine ⟨rfl, ?_⟩
    rw [List.map_append, names_sharedInputs options hl, List.map_map]
    rfl
  rw [Document.declaredNames, hgroups, haggregate.1, haggregate.2]
  simp only [List.mem_append, List.mem_map, List.mem_flatMap, List.mem_cons, List.not_mem_nil,
    or_false, or_assoc]

/-- An input is registered exactly when it is shared or a group declares it for an object. -/
theorem registered_iff (hl : graph.IsLowered) :
    (∃ input ∈ graph.inputRegistry.values, input.name = name) ↔
      name ∈ sharedInputNames graph ∨ ∃ object ∈ graph.objects, name ∈ object.argumentInputs := by
  constructor
  · rintro ⟨input, hi, hname⟩
    have hreach : SchemaGraph.Reachable graph graph.argumentInputs name :=
      hname ▸ (SchemaGraph.mem_values_inputRegistry_iff.mp hi).1
    -- the last link of the chain is an argument or a field of an input within reach
    cases hreach with
    | start hn _ =>
        obtain ⟨field, hf, hn⟩ := List.mem_flatMap.mp hn
        rcases List.mem_append.mp hf with hf | hf
        · obtain ⟨object, ho, hf⟩ := List.mem_flatMap.mp hf
          exact .inr ⟨object, ho, mem_object_argumentInputs_iff.mpr ⟨field, hf, hn⟩⟩
        · exact .inl (mem_sortedNames.mpr (List.mem_append_right _
            (List.mem_flatMap.mpr ⟨field, hf, hn⟩)))
    | step hreach hinput hn _ =>
        have hregistered := NameMap.mem_values_iff.mpr
          ⟨_, SchemaGraph.get?_inputRegistry_eq_some_iff.mpr ⟨hreach, hinput⟩⟩
        exact .inl (mem_sortedNames.mpr (List.mem_append_left _
          (List.mem_flatMap.mpr ⟨_, hregistered, hn⟩)))
  · have hregistered (h : ∃ input, graph.inputRegistry.get? name = some input) :
        ∃ input ∈ graph.inputRegistry.values, input.name = name := by
      obtain ⟨input, hr⟩ := h
      exact ⟨input, NameMap.mem_values_iff.mpr ⟨name, hr⟩,
        SchemaGraph.name_of_input? (SchemaGraph.get?_inputRegistry_eq_some_iff.mp hr).2⟩
    rintro (hn | ⟨object, ho, hn⟩)
    · exact hregistered (registered_of_mem_sharedInputNames hl hn)
    · obtain ⟨field, hf, hn⟩ := mem_object_argumentInputs_iff.mp hn
      exact hregistered
        (registered_of_argument hl (SchemaGraph.mem_outputFields_of_object ho hf) hn)

/-- A name in a namespace that has no capital is that of an input of an object's arguments. -/
theorem exists_object_of_namespaceDeclares {typeName : String}
    (h : NamespaceDeclares graph options typeName name) (hsmall : ¬ HasCapital name) :
    ∃ object ∈ graph.objects, name ∈ object.argumentInputs := by
  cases h with
  | derived _ hn => exact absurd hn.hasCapital hsmall
  | argumentInput ho hn => exact ⟨_, ho, hn⟩
  | unionContract _ => exact absurd (by decide) hsmall

/-- Of the words by which a module cannot declare a type, the document of a graph declares those
that are names of enums, or of inputs that arguments lead to, and no others. -/
theorem unusable_mem_declaredNames_iff (hl : graph.IsLowered)
    (ha : assemble graph options = .ok document) {word : String} (hw : word ∈ unusableWords) :
    word ∈ document.declaredNames ↔ (∃ enum ∈ graph.enums, enum.name = word) ∨
      ∃ input ∈ graph.inputRegistry.values, input.name = word := by
  have hsmall := not_hasCapital_of_mem_unusableWords hw
  rw [mem_declaredNames_iff hl (assemble_eq_ok_iff.mp ha).1, registered_iff hl]
  constructor
  · rintro (henum | hshared | ⟨group, hg, rfl | hn⟩ | rfl)
    · exact .inl henum
    · exact .inr (.inl hshared)
    · exact absurd (hasCapital_namespaceName _) hsmall
    · exact .inr (.inr (exists_object_of_namespaceDeclares
        (mem_groupNames_iff.mp ⟨_, hg, hn⟩) hsmall))
    · exact absurd (by decide) hsmall
  · rintro (henum | hshared | ⟨object, ho, hn⟩)
    · exact .inl henum
    · exact .inr (.inl hshared)
    · obtain ⟨names, hg, hn⟩ := mem_groupNames_iff.mpr (.argumentInput ho hn)
      exact .inr (.inr (.inl ⟨_, hg, .inr hn⟩))

/-- The text of a schema with an enum that is called by a reserved word. -/
def reservedText : String := "type Query { kind: default }\nenum default { A B }"

/-- The graph of `reservedText`. -/
def reservedGraph : SchemaGraph where
  objects := [⟨"Query", [⟨"kind", .nullable (.named ⟨.enum, "default"⟩), []⟩], [], false⟩]
  enums := [⟨"default", ["A", "B"]⟩]
  roots := { query := some "Query" }

theorem isLowered_reservedGraph : reservedGraph.IsLowered := by
  have h : (SchemaGraph.ofSources [⟨"schema.graphql", reservedText⟩]).toOption =
      some reservedGraph := by
    decide +kernel
  exact SchemaGraph.isLowered_of_ofSources (toOption_eq_some_iff.mp h)

/-- The document of a valid schema declares an enum by a word that is reserved everywhere. -/
theorem default_mem_declaredNames_reservedGraph : reservedGraph.IsLowered ∧
    ∃ document, assemble reservedGraph {} = .ok document ∧ "default" ∈ unusableWords ∧
      "default" ∈ document.declaredNames := by
  have harguments : reservedGraph.argumentInputs = [] := rfl
  have hempty := SchemaGraph.inputRegistry_eq_empty harguments
  obtain ⟨document, ha⟩ : ∃ document, assemble reservedGraph {} = .ok document := by
    rw [← isSome_toOption_iff]
    simp only [assemble, draftDocument, objectGroups, objectGroup, groupInputs, sharedInputs,
      sharedInputNames, hempty]
    decide +kernel
  have hw : "default" ∈ unusableWords := by decide
  exact ⟨isLowered_reservedGraph, document, ha, hw,
    (unusable_mem_declaredNames_iff isLowered_reservedGraph ha hw).mpr
      (.inl ⟨_, List.mem_cons_self, rfl⟩)⟩

end ResolverTypes
