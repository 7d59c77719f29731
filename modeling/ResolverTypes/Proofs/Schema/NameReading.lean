import ResolverTypes.Proofs.Schema.NameTokens
import ResolverTypes.Proofs.Schema.Progress

/-!
# Names that readers yield

Every name that is read off a schema text is spelt as a name: the name of a type, of its fields and
their arguments, and of its values.  Names are read off tokens, and what a reader yields is followed
through the grammar part by part.

## Main definitions

* `TypeDefinition.IsNamed`, `Definition.IsNamed` : the names in a definition are spelt as names.
* `Reader.Ensures` : what a reader yields, as long as the names still to be read are spelt as names.

## Main results

* `readDefinitions_isNamed` : the names in the definitions of a text are spelt as names, and every
  definition of a type has a position.
-/

namespace ResolverTypes.Schema

/-! ### Definitions whose names are spelt as names -/

/-- The names of a field and of its arguments are spelt as names. -/
def Field.IsNamed (field : Field) : Prop :=
  IsName field.name.value ∧ ∀ argument ∈ field.arguments, IsName argument.name.value

/-- The names of the fields and values of a type are spelt as names. -/
def TypeBody.IsNamed : TypeBody → Prop
  | .object _ fields | .interface _ fields => ∀ field ∈ fields, field.IsNamed
  | .enum values => ∀ value ∈ values, IsName value.name.value
  | .input fields => ∀ field ∈ fields, IsName field.name.value
  | .scalar | .union _ => True

/-- The names of a type and of its fields and values are spelt as names. -/
def TypeDefinition.IsNamed (type : TypeDefinition) : Prop :=
  IsName type.name.value ∧ type.body.IsNamed

/-- The names in the definition of a type are spelt as names, and it has a position unless it
extends another. -/
def Definition.IsNamed : Definition → Prop
  | .type definition => definition.IsNamed ∧ definition.position.isSome
  | .typeExtension definition => definition.IsNamed
  | _ => True

namespace Reader

variable {α β : Type}

/-! ### What readers yield -/

/-- What a reader yields, as long as the names still to be read are spelt as names. -/
def Ensures (reader : Reader α) (p : α → Prop) : Prop :=
  ∀ s, SpellNames s.rest → p (reader.run s).1

theorem Ensures.pure {a : α} {p : α → Prop} (h : p a) : Ensures (Pure.pure a) p :=
  fun _ _ => h

theorem Ensures.bind {reader : Reader α} {next : α → Reader β} {p : α → Prop} {q : β → Prop}
    [hs : Shrinks reader] (hr : Ensures reader p) (hn : ∀ a, p a → Ensures (next a) q) :
    Ensures (reader >>= next) q :=
  fun s h => hn _ (hr s h) _ (h.mono (hs.rest_subset s))

theorem Ensures.after {reader : Reader α} {next : α → Reader β} {q : β → Prop}
    [Shrinks reader] (hn : ∀ a, Ensures (next a) q) : Ensures (reader >>= next) q :=
  Ensures.bind (p := fun _ => True) (fun _ _ => trivial) fun a _ => hn a

theorem Ensures.ite {c : Prop} [Decidable c] {first second : Reader α} {p : α → Prop}
    (hf : Ensures first p) (hs : Ensures second p) :
    Ensures (if c then first else second) p := by
  split
  · exact hf
  · exact hs

theorem ensures_many {starts : TokenKind → Bool} {item : Reader (Option α)} {p : α → Prop}
    [Shrinks item] (h : Ensures item (∀ a ∈ ·, p a)) :
    Ensures (many starts item) (∀ a ∈ ·, p a) := by
  refine Ensures.after fun rounds => ?_
  induction rounds with
  | zero => exact Ensures.pure nofun
  | succ rounds ih =>
      refine Ensures.after fun kind => Ensures.ite ?_ (Ensures.pure nofun)
      refine h.bind fun first hf => ih.bind fun others ho => Ensures.pure fun a ha => ?_
      rcases List.mem_append.mp ha with ha | ha
      · exact hf a (Option.mem_toList.mp ha)
      · exact ho a ha

theorem ensures_block {close : TokenKind} {starts : TokenKind → Bool} {problem : String}
    {item : Reader (Option α)} {p : α → Prop} [Shrinks item] (h : Ensures item (∀ a ∈ ·, p a)) :
    Ensures (block close starts problem item) (∀ a ∈ ·, p a) := by
  have items : Ensures (do
      let items ← many starts item
      expect close
      return items) (∀ a ∈ ·, p a) :=
    (ensures_many h).bind fun items hi => Ensures.after fun _ => Ensures.pure hi
  exact Ensures.after fun _ => Ensures.after fun kind =>
    Ensures.ite items (Ensures.after fun _ => items)

/-! ### Names -/

/-- The next token among some lexemes. -/
def nextToken (lexemes : List Lexeme) : Token :=
  match lexemes.find? (·.isToken) with
  | some (.token token) => token
  | _ => ⟨.eof, "EOF", 0⟩

theorem run_bind (reader : Reader α) (next : α → Reader β) (s : ReaderState) :
    (reader >>= next).run s = (next (reader.run s).1).run (reader.run s).2 :=
  rfl

theorem run_peek (s : ReaderState) : peek.run s = (nextToken s.rest, s) := by
  unfold peek nextToken
  rw [run_bind]
  show StateT.run (match s.rest.find? (·.isToken) with
    | some (.token token) => pure token
    | _ => pure ⟨.eof, "EOF", 0⟩) s = _
  cases s.rest.find? (·.isToken) with
  | none => rfl
  | some lexeme => cases lexeme <;> rfl

theorem run_peekKind (s : ReaderState) : peekKind.run s = ((nextToken s.rest).kind, s) := by
  rw [peekKind, run_bind, run_peek]
  rfl

theorem run_pop_fst (s : ReaderState) : (pop.run s).1 = nextToken s.rest := by
  rw [pop, run_bind, run_peek]
  rfl

theorem run_here (s : ReaderState) :
    here.run s = (some (.inText s.source ((nextToken s.rest).offset - s.omitted)), s) := by
  rw [here, run_bind, run_bind, run_peek]
  rfl

theorem isName_nextToken {lexemes : List Lexeme} (h : SpellNames lexemes)
    (hk : (nextToken lexemes).kind = .name) : IsName (nextToken lexemes).text := by
  unfold nextToken at hk ⊢
  split at hk
  next token hf => exact h token (List.mem_of_find?_eq_some hf) hk
  next => cases hk

theorem ensures_name? : Ensures name? (∀ n ∈ ·, IsName n.value) := by
  intro s hs n hn
  rw [name?, run_bind, run_peekKind] at hn
  split at hn
  next hk =>
    rw [run_bind, run_here, run_bind] at hn
    obtain rfl := Option.some.inj hn
    exact (run_pop_fst s).symm ▸ isName_nextToken hs hk
  next => cases hn

theorem ensures_name (problem : String) : Ensures (name problem) (∀ n ∈ ·, IsName n.value) :=
  ensures_name?.bind fun _ hf => Ensures.ite
    (Ensures.after fun _ => Ensures.pure hf) (Ensures.pure hf)

theorem ensures_here : Ensures here (·.isSome) :=
  fun s _ => by rw [run_here]; rfl

/-! ### Parts of types -/

theorem ensures_inputValue : Ensures inputValue (∀ v ∈ ·, IsName v.name.value) := by
  refine Ensures.after fun position => Ensures.after fun _ => (ensures_name _).bind fun n hn => ?_
  refine Ensures.after fun _ => Ensures.ite (Ensures.after fun _ => Ensures.ite ?_ ?_) ?_
  · -- the part behind the colon yields the name that stands before it
    have ending (type : Option TypeSyntax) (hasDefault : Bool) (uses : List DirectiveUse) :
        ∀ v ∈ n.bind fun n => type.map fun t => (⟨n, t, hasDefault, uses, position⟩ : InputValue),
          IsName v.name.value := by
      intro v hv
      obtain ⟨m, hm, hv⟩ := Option.bind_eq_some_iff.mp hv
      obtain ⟨t, -, rfl⟩ := Option.map_eq_some_iff.mp hv
      exact hn m hm
    refine Ensures.after fun type => Ensures.after fun hasDefault => Ensures.ite ?_ ?_ <;>
      exact Ensures.after fun default? => Ensures.after fun uses =>
        Ensures.ite (Ensures.pure nofun) (Ensures.pure (ending type hasDefault uses))
  · exact Ensures.after fun _ => Ensures.pure nofun
  · exact Ensures.after fun _ => Ensures.pure nofun

theorem ensures_argumentsDefinition :
    Ensures argumentsDefinition (∀ v ∈ ·, IsName v.name.value) :=
  Ensures.after fun _ => Ensures.ite (ensures_block ensures_inputValue) (Ensures.pure nofun)

theorem ensures_field : Ensures field (∀ f ∈ ·, f.IsNamed) := by
  refine Ensures.after fun position => Ensures.after fun _ => (ensures_name _).bind fun n hn => ?_
  refine ensures_argumentsDefinition.bind fun arguments ha => ?_
  refine Ensures.after fun _ => Ensures.ite (Ensures.after fun _ => Ensures.ite ?_ ?_) ?_
  · refine Ensures.after fun type => Ensures.after fun uses => Ensures.pure fun f hf => ?_
    obtain ⟨m, hm, hf⟩ := Option.bind_eq_some_iff.mp hf
    obtain ⟨t, -, rfl⟩ := Option.map_eq_some_iff.mp hf
    exact ⟨hn m hm, ha⟩
  · exact Ensures.after fun _ => Ensures.pure nofun
  · exact Ensures.after fun _ => Ensures.pure nofun

theorem ensures_enumValue : Ensures enumValue (∀ v ∈ ·, IsName v.name.value) := by
  have ending (position : Option Position) (n : Option Name) (hn : ∀ m ∈ n, IsName m.value)
      (uses : List DirectiveUse) :
      ∀ v ∈ n.map (⟨·, uses, position⟩ : Name → EnumValue), IsName v.name.value := by
    intro v hv
    obtain ⟨m, hm, rfl⟩ := Option.map_eq_some_iff.mp hv
    exact hn m hm
  refine Ensures.after fun position => Ensures.after fun _ => Ensures.after fun word =>
    Ensures.ite (Ensures.after fun _ => ?_) ?_ <;>
  exact (ensures_name _).bind fun n hn => Ensures.after fun uses =>
    Ensures.pure (ending position n hn uses)

theorem Ensures.optionalParts {c : Prop} [Decidable c] {parts : Reader (List α)}
    {next : List α → Reader β} {p : α → Prop} {q : β → Prop} [Shrinks parts]
    (hp : Ensures parts (∀ a ∈ ·, p a)) (hn : ∀ l, (∀ a ∈ l, p a) → Ensures (next l) q) :
    Ensures (if c then parts >>= next else Pure.pure [] >>= next) q :=
  Ensures.ite (hp.bind hn) (hn [] nofun)

theorem ensures_typeBody (keyword : String) : Ensures (typeBody keyword) (·.2.IsNamed) := by
  unfold typeBody
  dsimp only
  split
  all_goals
    refine Ensures.after fun implemented => Ensures.after fun uses => Ensures.after fun kind => ?_
    split
    · exact Ensures.optionalParts (ensures_block ensures_field) fun _ hf => Ensures.pure hf
    · exact Ensures.optionalParts (ensures_block ensures_field) fun _ hf => Ensures.pure hf
    · exact Ensures.after fun _ => Ensures.pure trivial
    · exact Ensures.optionalParts (ensures_block ensures_enumValue) fun _ hv => Ensures.pure hv
    · exact Ensures.optionalParts (ensures_block ensures_inputValue) fun _ hf => Ensures.pure hf
    · exact Ensures.pure trivial

/-! ### Definitions -/

theorem ensures_typeDefinition (position : Option Position) :
    Ensures (typeDefinition position) (∀ t ∈ ·, t.IsNamed ∧ t.position = position) := by
  refine Ensures.after fun _ => (ensures_name _).bind fun n hn =>
    (ensures_typeBody _).bind fun part hb => Ensures.pure fun t ht => ?_
  obtain ⟨m, hm, rfl⟩ := Option.map_eq_some_iff.mp ht
  exact ⟨⟨hn m hm, hb⟩, rfl⟩

theorem ensures_typeExtension (position : Option Position) :
    Ensures (typeExtension position) (∀ t ∈ ·, t.IsNamed) := by
  refine Ensures.after fun _ => (ensures_name _).bind fun n hn => Ensures.after fun _ =>
    (ensures_typeBody _).bind fun part hb => Ensures.after fun _ => ?_
  have ending (position : Option Position) :
      ∀ t ∈ n.map (⟨·, part.1, part.2, position⟩ : Name → TypeDefinition), t.IsNamed := by
    intro t ht
    obtain ⟨m, hm, rfl⟩ := Option.map_eq_some_iff.mp ht
    exact ⟨hn m hm, hb⟩
  exact Ensures.ite (Ensures.after fun _ => Ensures.pure (ending position))
    (Ensures.pure (ending position))

theorem ensures_definition (keyword : String) :
    Ensures (definition keyword) (∀ d ∈ ·, d.IsNamed) := by
  refine ensures_here.bind fun position hp => Ensures.ite (Ensures.after fun second => ?_) ?_
  · refine Ensures.ite (Ensures.after fun _ => Ensures.after fun clause => Ensures.pure ?_)
      (Ensures.ite (Ensures.after fun _ => ?_) (Ensures.after fun _ => Ensures.pure nofun))
    · rintro d ⟨⟩
      trivial
    · refine (ensures_typeExtension position).bind fun type ht => Ensures.pure fun d hd => ?_
      obtain ⟨t, hm, rfl⟩ := Option.map_eq_some_iff.mp hd
      exact ht t hm
  · refine Ensures.ite (Ensures.after fun _ => ?_) ?_
    · refine (ensures_typeDefinition position).bind fun type ht => Ensures.pure fun d hd => ?_
      obtain ⟨t, hm, rfl⟩ := Option.map_eq_some_iff.mp hd
      exact ⟨(ht t hm).1, (ht t hm).2 ▸ hp⟩
    · -- no other definition holds a name of a type
      have executable (isRead : Bool) {d : Definition} (hd : d.IsNamed) :
          ∀ e ∈ if isRead then some d else none, e.IsNamed := by
        cases isRead
        · exact nofun
        · rintro _ ⟨⟩
          exact hd
      split
      · refine Ensures.after fun _ => Ensures.after fun clause => Ensures.pure ?_
        rintro d ⟨⟩
        trivial
      · refine Ensures.after fun _ => Ensures.after fun directive => Ensures.pure fun d hd => ?_
        obtain ⟨t, -, rfl⟩ := Option.map_eq_some_iff.mp hd
        trivial
      · exact Ensures.after fun isRead => Ensures.pure (executable isRead trivial)
      · exact Ensures.after fun isRead => Ensures.pure (executable isRead trivial)
      · exact Ensures.after fun isRead => Ensures.pure (executable isRead trivial)
      · exact Ensures.after fun isRead => Ensures.pure (executable isRead trivial)
      · exact Ensures.after fun isRead => Ensures.pure (executable isRead trivial)
      · exact Ensures.after fun _ => Ensures.pure nofun

theorem ensures_document : Ensures document (∀ d ∈ ·, d.IsNamed) := by
  refine Ensures.after fun _ => Ensures.after fun kind => Ensures.ite
    (Ensures.after fun _ => Ensures.pure (List.forall_mem_nil _)) ?_
  refine @ensures_many _ _ _ _ ?shrinks (Ensures.after fun kind => ?_)
  case shrinks =>
    refine Shrinks.bind inferInstance fun kind => ?_
    split <;> infer_instance
  split
  · exact Ensures.after fun _ => ensures_definition _
  · exact Ensures.after fun _ => ensures_definition _
  · exact ensures_definition _
  · exact Ensures.after fun _ => Ensures.pure fun d => (Option.not_mem_none d).elim

end Reader

/-- The names in the definitions of a text are spelt as names. -/
theorem readDefinitions_isNamed (source : Nat) (text : String) :
    ∀ d ∈ (readDefinitions source text).1, d.IsNamed := by
  have h := Reader.ensures_document { source, rest := lexemes text } (lexemes_spellNames text)
  unfold readDefinitions
  generalize Reader.document.run { source, rest := lexemes text } = result at h ⊢
  exact h

end ResolverTypes.Schema
