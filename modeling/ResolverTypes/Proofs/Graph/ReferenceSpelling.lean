import ResolverTypes.Proofs.Graph.Representation
import ResolverTypes.Proofs.Schema.TypeSyntaxReading

/-!
# References and their spelling

A type marks what cannot be null, a reference what can.  Still a reference is spelt like the type it
is read from, at every level of its lists, and nothing is lost on the way: types that are written
differently come to different references, and some type comes to every reference to what a schema
defines, unless the reference says twice in a row that a value may be null.  Read as a type, the
spelling of a reference comes to the reference again.

## Main definitions

* `Schema.SpellsReferences` : the references to what a schema defines and their spellings stand for
  each other.

## Main results

* `Refers.sameAs_iff` : types come to the same reference when they are written alike.
* `exists_refers_iff` : the references that types come to.
* `spellsReferences` : references and their spellings stand for each other.
-/

namespace ResolverTypes.Schema

variable {schema : Schema} {type other : TypeSyntax} {ref : TypeRef}

/-! ### References that types come to -/

theorem Refers.isCanonical (h : schema.Refers type ref) : ref.IsCanonical := by
  induction h with
  | named _ => trivial
  | nullableNamed _ => exact ⟨rfl, trivial⟩
  | list _ ih => exact ih
  | nullableList _ ih => exact ⟨rfl, ih⟩

theorem refers_named_iff {name : Name} {nonNull : Bool} :
    schema.Refers (.named name nonNull) ref ↔ ∃ definition,
      schema.type? name.value = some definition ∧
        ref = nullableUnless nonNull (.named ⟨definition.body.kind, name.value⟩) := by
  constructor
  · intro h
    cases h with
    | named hd => exact ⟨_, hd, rfl⟩
    | nullableNamed hd => exact ⟨_, hd, rfl⟩
  · rintro ⟨definition, hd, rfl⟩
    cases nonNull
    · exact .nullableNamed hd
    · exact .named hd

theorem refers_list_iff {item : TypeSyntax} {nonNull : Bool} :
    schema.Refers (.list item nonNull) ref ↔ ∃ inner,
      schema.Refers item inner ∧ ref = nullableUnless nonNull (.list inner) := by
  constructor
  · intro h
    cases h with
    | list hr => exact ⟨_, hr, rfl⟩
    | nullableList hr => exact ⟨_, hr, rfl⟩
  · rintro ⟨inner, hr, rfl⟩
    cases nonNull
    · exact .nullableList hr
    · exact .list hr

theorem nullableUnless_inj {a b : TypeRef} (ha : a.isNullable = false) (hb : b.isNullable = false)
    {m n : Bool} : nullableUnless m a = nullableUnless n b ↔ a = b ∧ m = n := by
  cases m <;> cases n <;> cases a <;> cases b <;> simp_all [nullableUnless, TypeRef.isNullable]

/-- Types come to the same reference exactly when they are written alike. -/
theorem Refers.sameAs_iff {otherRef : TypeRef} (h : schema.Refers type ref)
    (ho : schema.Refers other otherRef) : type.sameAs other = true ↔ ref = otherRef := by
  induction type generalizing other ref otherRef with
  | named name nonNull =>
      obtain ⟨definition, hd, rfl⟩ := refers_named_iff.mp h
      cases other with
      | named name' nonNull' =>
          obtain ⟨definition', hd', rfl⟩ := refers_named_iff.mp ho
          have hkind (hname : name.value = name'.value) :
              definition.body.kind = definition'.body.kind := by
            rw [Option.some.inj (hd.symm.trans (hname ▸ hd'))]
          rw [nullableUnless_inj rfl rfl]
          simpa [TypeSyntax.sameAs] using fun _ hname => hkind hname
      | list item nonNull' =>
          obtain ⟨inner, -, rfl⟩ := refers_list_iff.mp ho
          rw [nullableUnless_inj rfl rfl]
          simp [TypeSyntax.sameAs]
  | list item nonNull ih =>
      obtain ⟨inner, hi, rfl⟩ := refers_list_iff.mp h
      cases other with
      | named name nonNull' =>
          obtain ⟨definition, -, rfl⟩ := refers_named_iff.mp ho
          rw [nullableUnless_inj rfl rfl]
          simp [TypeSyntax.sameAs]
      | list item' nonNull' =>
          obtain ⟨inner', hi', rfl⟩ := refers_list_iff.mp ho
          rw [nullableUnless_inj rfl rfl]
          simp [TypeSyntax.sameAs, ih hi hi']

theorem Refers.exists_definition (h : schema.Refers type ref) :
    ∃ definition, schema.type? type.innerName.value = some definition := by
  induction h with
  | named hd => exact ⟨_, hd⟩
  | nullableNamed hd => exact ⟨_, hd⟩
  | list _ ih => exact ih
  | nullableList _ ih => exact ih

/-- A type whose name is defined comes to a reference. -/
theorem exists_refers_of_type? {definition : TypeDefinition}
    (hd : schema.type? type.innerName.value = some definition) : ∃ ref, schema.Refers type ref := by
  induction type with
  | named name nonNull => exact ⟨_, refers_named_iff.mpr ⟨definition, hd, rfl⟩⟩
  | list item nonNull ih =>
      obtain ⟨ref, hr⟩ := ih hd
      exact ⟨_, refers_list_iff.mpr ⟨ref, hr, rfl⟩⟩

theorem innerName_eq_of_sameAs (h : type.sameAs other = true) :
    type.innerName.value = other.innerName.value := by
  induction type generalizing other with
  | named name nonNull =>
      cases other with
      | named name' nonNull' => exact beq_iff_eq.mp (Bool.and_eq_true_iff.mp h).1
      | list item nonNull' => cases h
  | list item nonNull ih =>
      cases other with
      | named name nonNull' => cases h
      | list item' nonNull' =>
          have hitem := ih (Bool.and_eq_true_iff.mp h).1
          exact hitem

/-- A type that is written like another comes to the same reference. -/
theorem Refers.of_sameAs (h : schema.Refers type ref) (hs : other.sameAs type = true) :
    schema.Refers other ref := by
  obtain ⟨definition, hd⟩ := h.exists_definition
  have hdefined : schema.type? other.innerName.value = some definition := by
    rw [innerName_eq_of_sameAs hs, hd]
  obtain ⟨otherRef, ho⟩ := exists_refers_of_type? hdefined
  exact (ho.sameAs_iff h).mp hs ▸ ho

/-- What is never null may be marked as what may be. -/
theorem Refers.nullable (h : schema.Refers type ref) (hn : ref.isNullable = false) :
    ∃ other, schema.Refers other (.nullable ref) := by
  cases h with
  | named hd => exact ⟨_, .nullableNamed hd⟩
  | list hr => exact ⟨_, .nullableList hr⟩
  | nullableNamed _ => cases hn
  | nullableList _ => cases hn

/-- The references that types come to are those that are tagged with the kind of what they name and
do not say twice in a row that a value may be null. -/
theorem exists_refers_iff :
    (∃ type, schema.Refers type ref) ↔ schema.Tags ref.base ∧ ref.IsCanonical := by
  constructor
  · rintro ⟨type, hr⟩
    have hread : schema.typeRef "" type = .ok ref := typeRef_eq_ok_iff.mpr hr
    exact ⟨(tags_of_typeRef hread).2, hr.isCanonical⟩
  · rintro ⟨ht, hc⟩
    induction ref with
    | named named =>
        obtain ⟨definition, hd, hkind⟩ := ht
        obtain ⟨kind, name⟩ := named
        obtain rfl : definition.body.kind = kind := hkind
        have hd : schema.type? (⟨name, none⟩ : Name).value = some definition := hd
        exact ⟨_, .named hd⟩
    | list item ih =>
        obtain ⟨type, hr⟩ := ih ht hc
        exact ⟨_, .list hr⟩
    | nullable inner ih =>
        obtain ⟨type, hr⟩ := ih ht hc.2
        exact hr.nullable hc.1

/-! ### Reading spellings -/

variable (schema) in
/-- The references to what a schema defines and their spellings stand for each other.  A type whose
name is defined comes to a reference that is spelt like it, types that are written differently come
to different references, and some type comes to every reference that is canonical and tagged with
the kind of what it names.  Whatever type is spelt like a reference comes to the reference, be
it nested as it may; a reader yields one as far down as it goes. -/
structure SpellsReferences : Prop where
  exists_typeRef_eq : ∀ referencedBy type,
    (∃ definition, schema.type? type.innerName.value = some definition) →
      ∃ ref, schema.typeRef referencedBy type = .ok ref ∧ ref.spelling = type.spelling
  sameAs_of_typeRef_eq : ∀ referencedBy otherReferencedBy type other ref,
    schema.typeRef referencedBy type = .ok ref →
      schema.typeRef otherReferencedBy other = .ok ref → type.sameAs other = true
  exists_type_iff : ∀ referencedBy ref,
    (∃ type, schema.typeRef referencedBy type = .ok ref) ↔
      schema.Tags ref.base ∧ ref.IsCanonical
  typeRef_eq_of_spelling_eq : ∀ referencedBy type ref,
    schema.typeRef referencedBy type = .ok ref → ∀ read, IsName read.innerName.value →
      read.spelling = ref.spelling → schema.typeRef referencedBy read = .ok ref
  typeRef_eq_of_readType? : ∀ referencedBy type ref, schema.typeRef referencedBy type = .ok ref →
    ((∃ read, readType? ref.spelling = some read) ↔ type.listDepth ≤ Reader.depthLimit) ∧
      ∀ read, readType? ref.spelling = some read → schema.typeRef referencedBy read = .ok ref

theorem Refers.isName (hn : ∀ type ∈ schema.types, IsName type.name.value)
    (h : schema.Refers type ref) : IsName type.innerName.value := by
  obtain ⟨definition, hd⟩ := h.exists_definition
  have hname : definition.name.value = type.innerName.value := by simpa using List.find?_some hd
  exact hname ▸ hn definition (List.mem_of_find?_eq_some hd)

/-- Where the names of types are spelt as names, references and their spellings stand for each
other. -/
theorem spellsReferences (hn : ∀ type ∈ schema.types, IsName type.name.value) :
    schema.SpellsReferences where
  exists_typeRef_eq referencedBy type := by
    rintro ⟨definition, hd⟩
    obtain ⟨ref, hr⟩ := exists_refers_of_type? hd
    have hread : schema.typeRef referencedBy type = .ok ref := typeRef_eq_ok_iff.mpr hr
    exact ⟨ref, hread, schema.spelling_typeRef hread⟩
  sameAs_of_typeRef_eq _ _ type other ref h ho :=
    ((typeRef_eq_ok_iff.mp h).sameAs_iff (typeRef_eq_ok_iff.mp ho)).mpr rfl
  exists_type_iff referencedBy ref := by
    simp only [typeRef_eq_ok_iff, exists_refers_iff]
  typeRef_eq_of_spelling_eq referencedBy type ref h read hread hspelling := by
    have hr : schema.Refers type ref := typeRef_eq_ok_iff.mp h
    rw [schema.spelling_typeRef h] at hspelling
    exact typeRef_eq_ok_iff.mpr
      (hr.of_sameAs (TypeSyntax.sameAs_of_spelling_eq hread (hr.isName hn) hspelling))
  typeRef_eq_of_readType? referencedBy type ref h := by
    have hr : schema.Refers type ref := typeRef_eq_ok_iff.mp h
    rw [schema.spelling_typeRef h]
    refine ⟨exists_readType?_iff (hr.isName hn), fun read hread => ?_⟩
    exact typeRef_eq_ok_iff.mpr (hr.of_sameAs (sameAs_of_readType? (hr.isName hn) hread))

/-- The text of a schema with lists of lists, and with marks at every level. -/
def gridText : String :=
  "type Query { grid(of: [[Cell!]!]!): [[Color]!] }\nenum Color { RED }\ninput Cell { at: Int! }"

theorem spellsReferences_gridText : ∃ schema,
    mergeSources [⟨"schema.graphql", gridText⟩] = .ok schema ∧
      (∀ type ∈ schema.types, IsName type.name.value) ∧ schema.SpellsReferences := by
  have h : (mergeSources [⟨"schema.graphql", gridText⟩]).toOption.isSome := by decide +kernel
  generalize [(⟨"schema.graphql", gridText⟩ : SourceText)] = sources at h ⊢
  obtain ⟨schema, hm⟩ := isSome_toOption_iff.mp h
  have hn : ∀ type ∈ schema.types, IsName type.name.value :=
    fun type ht => ((mergeSources_soundTypes hm).isNamed type ht).1
  exact ⟨schema, hm, hn, spellsReferences hn⟩

/-- What is read of a spelling is spelt like it. -/
example : (readType? "[[Color]!]").map (·.spelling) = some "[[Color]!]" := by
  decide +kernel

end ResolverTypes.Schema
