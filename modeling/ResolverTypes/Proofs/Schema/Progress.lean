import ResolverTypes.Schema.Parser

/-!
# What a reader leaves to be read

A reader of schema texts only ever moves on: whatever it leaves to be read stood before it already.
The fact is an instance for every reader of the grammar, so that it is found from the form of a
reader; a fact about the lexemes of a text thus holds at every point of reading the text.

## Main definitions

* `Reader.Shrinks` : a reader leaves only lexemes that it was given.

## Main results

* `Reader.Shrinks.bind` : the fact for two readers, one after the other.
-/

set_option synthInstance.maxSize 2000

namespace ResolverTypes.Schema.Reader

variable {α β : Type}

/-- A reader leaves, of the lexemes that are still to be read, only some over. -/
class Shrinks (reader : Reader α) : Prop where
  rest_subset : ∀ s, (reader.run s).2.rest ⊆ s.rest

/-! ### Ways to put readers together -/

theorem Shrinks.bind {reader : Reader α} {next : α → Reader β} (hr : Shrinks reader)
    (hn : ∀ a, Shrinks (next a)) : Shrinks (reader >>= next) :=
  ⟨fun s _ h => hr.rest_subset s ((hn (reader.run s).1).rest_subset _ h)⟩

instance (a : α) : Shrinks (pure a) := ⟨fun _ _ h => h⟩

instance (reader : Reader α) (next : α → Reader β) [hr : Shrinks reader]
    [hn : ∀ a, Shrinks (next a)] : Shrinks (reader >>= next) :=
  hr.bind hn

instance (f : α → β) (reader : Reader α) [hr : Shrinks reader] : Shrinks (f <$> reader) :=
  ⟨hr.rest_subset⟩

instance (first : Reader α) (second : Reader β) [Shrinks first] [Shrinks second] :
    Shrinks (first *> second) :=
  inferInstanceAs (Shrinks (first >>= fun _ => second))

instance (reader : Reader α) [hr : Shrinks reader] : Shrinks (discard reader) :=
  ⟨hr.rest_subset⟩

instance (c : Prop) [Decidable c] (first second : Reader α) [Shrinks first] [Shrinks second] :
    Shrinks (if c then first else second) := by
  split <;> infer_instance

instance : Shrinks (get : Reader ReaderState) := ⟨fun _ _ h => h⟩

theorem shrinks_modify {f : ReaderState → ReaderState} (h : ∀ s, (f s).rest ⊆ s.rest) :
    Shrinks (modify f : Reader Unit) :=
  ⟨h⟩

theorem shrinks_forIn {step : α → Unit → Reader (ForInStep Unit)}
    (h : ∀ a u, Shrinks (step a u)) (items : List α) :
    Shrinks (forIn items () step : Reader Unit) := by
  induction items with
  | nil =>
      rw [List.forIn_nil]
      infer_instance
  | cons a as ih =>
      rw [List.forIn_cons]
      refine (h a ()).bind fun r => ?_
      cases r <;> infer_instance

/-! ### Reading tokens -/

instance (message : String) (isLimit : Bool) (offset : Nat) :
    Shrinks (report message isLimit offset) := by
  refine shrinks_modify fun s => ?_
  split <;> exact List.Subset.refl _

instance (isSkipped : Lexeme → Bool) : Shrinks (skipWhile isSkipped) := by
  have leave (size : Nat) :
      Shrinks (modify fun s => { s with omitted := s.omitted + size } : Reader Unit) :=
    shrinks_modify fun _ => List.Subset.refl _
  refine Shrinks.bind inferInstance fun s =>
    (shrinks_forIn (fun lexeme _ => ?_) _).bind fun _ =>
      shrinks_modify fun _ => List.dropWhile_subset isSkipped
  split <;> infer_instance

instance : Shrinks settle := by unfold settle; infer_instance

instance : Shrinks peek := by
  refine Shrinks.bind inferInstance fun s => ?_
  split <;> infer_instance

instance : Shrinks peekKind := by unfold peekKind; infer_instance

instance : Shrinks peekWord := by unfold peekWord; infer_instance

instance : Shrinks peekSecond := by unfold peekSecond; infer_instance

theorem shrinks_drop (f : ReaderState → ReaderState) (h : ∀ s, (f s).rest = s.rest.drop 1) :
    Shrinks (modify f : Reader Unit) :=
  shrinks_modify fun s => h s ▸ List.drop_subset 1 _

instance : Shrinks pop :=
  Shrinks.bind inferInstance fun _ => (shrinks_drop _ fun _ => rfl).bind fun _ => inferInstance

instance : Shrinks leaveOut := Shrinks.bind inferInstance fun _ => shrinks_drop _ fun _ => rfl

instance : Shrinks here := by unfold here; infer_instance

instance (message : String) : Shrinks (fail message) := by unfold fail; infer_instance

instance (message : String) : Shrinks (failAndPop message) := by unfold failAndPop; infer_instance

instance (kind : TokenKind) : Shrinks (expect kind) := by
  refine Shrinks.bind inferInstance fun _ => Shrinks.bind inferInstance fun s => ?_
  split <;> infer_instance

instance (kind : TokenKind) : Shrinks (eat kind) := by unfold eat; infer_instance

instance (word : String) : Shrinks (eatWord word) := by unfold eatWord; infer_instance

instance : Shrinks remaining := by unfold remaining; infer_instance

/-! ### Repetition and nesting -/

section

variable (item : Reader (Option α)) [Shrinks item]

instance (starts : TokenKind → Bool) (rounds : Nat) : Shrinks (manyRounds starts item rounds) := by
  induction rounds with
  | zero => unfold manyRounds; infer_instance
  | succ rounds ih => unfold manyRounds; infer_instance

instance (starts : TokenKind → Bool) : Shrinks (many starts item) := by
  unfold many; infer_instance

instance (separator : TokenKind) : Shrinks (separated separator item) := by
  unfold separated; infer_instance

instance : Shrinks (deeper item) := by
  have level (f : Nat → Nat) :
      Shrinks (modify fun s => { s with depth := f s.depth } : Reader Unit) :=
    shrinks_modify fun _ => List.Subset.refl _
  have enter := level (· + 1)
  have leave := level (· - 1)
  unfold deeper
  infer_instance

instance (close : TokenKind) (starts : TokenKind → Bool) (problem : String) :
    Shrinks (block close starts problem item) := by
  unfold block; infer_instance

end

/-! ### Names, types and values -/

instance : Shrinks name? := by unfold name?; infer_instance

instance (problem : String) : Shrinks (name problem) := by unfold name; infer_instance

instance (problem : String) (rounds : Nat) : Shrinks (typeSyntaxRounds problem rounds) := by
  induction rounds generalizing problem with
  | zero => unfold typeSyntaxRounds; infer_instance
  | succ rounds ih =>
      unfold typeSyntaxRounds
      refine Shrinks.bind inferInstance fun kind => ?_
      split <;> infer_instance

instance : Shrinks typeSyntax := by unfold typeSyntax; infer_instance

instance (constness : Constness) (isInside : Bool) (rounds : Nat) :
    Shrinks (valueRounds constness isInside rounds) := by
  induction rounds generalizing isInside with
  | zero => unfold valueRounds; infer_instance
  | succ rounds ih =>
      unfold valueRounds
      refine Shrinks.bind inferInstance fun position => Shrinks.bind inferInstance fun kind => ?_
      split
      · infer_instance
      · infer_instance
      · infer_instance
      · infer_instance
      · refine Shrinks.bind inferInstance fun token => ?_
        split <;> infer_instance
      · infer_instance
      · infer_instance
      · infer_instance

instance (constness : Constness) : Shrinks (value constness) := by unfold value; infer_instance

instance (constness : Constness) : Shrinks (argumentUse constness) := by
  unfold argumentUse; infer_instance

instance (constness : Constness) : Shrinks (argumentUses constness) := by
  unfold argumentUses; infer_instance

instance (constness : Constness) : Shrinks (directives constness) := by
  unfold directives; infer_instance

instance : Shrinks description := by unfold description; infer_instance

/-! ### Types -/

instance : Shrinks inputValue := by unfold inputValue; infer_instance

instance : Shrinks argumentsDefinition := by unfold argumentsDefinition; infer_instance

instance : Shrinks field := by unfold field; infer_instance

instance : Shrinks fieldsBlock := by unfold fieldsBlock; infer_instance

instance : Shrinks inputFieldsBlock := by unfold inputFieldsBlock; infer_instance

instance : Shrinks enumValue := by unfold enumValue; infer_instance

instance : Shrinks enumValuesBlock := by unfold enumValuesBlock; infer_instance

instance : Shrinks implementsClause := by unfold implementsClause; infer_instance

instance : Shrinks membersClause := by unfold membersClause; infer_instance

instance (keyword : String) : Shrinks (typeBody keyword) := by
  unfold typeBody
  dsimp only
  split
  all_goals
    refine Shrinks.bind inferInstance fun implemented =>
      Shrinks.bind inferInstance fun uses => Shrinks.bind inferInstance fun kind => ?_
    split <;> infer_instance

instance (position : Option Position) : Shrinks (typeDefinition position) := by
  unfold typeDefinition; infer_instance

instance (position : Option Position) : Shrinks (typeExtension position) := by
  unfold typeExtension; infer_instance

/-! ### Directive definitions, the schema and operations -/

instance : Shrinks directiveLocation := by unfold directiveLocation; infer_instance

instance (position : Option Position) : Shrinks (directiveDefinition position) := by
  unfold directiveDefinition; infer_instance

instance : Shrinks rootClause := by
  refine Shrinks.bind (inferInstanceAs (Shrinks here)) fun position =>
    Shrinks.bind (inferInstanceAs (Shrinks peekWord)) fun word => ?_
  dsimp only
  split <;> infer_instance

instance : Shrinks rootsBlock := by unfold rootsBlock; infer_instance

instance (position : Option Position) : Shrinks (schemaDefinition position) := by
  unfold schemaDefinition; infer_instance

instance (position : Option Position) : Shrinks (schemaExtension position) := by
  unfold schemaExtension; infer_instance

instance : Shrinks typeCondition := by unfold typeCondition; infer_instance

instance : Shrinks fragmentName := by unfold fragmentName; infer_instance

instance (nested : Reader Unit) [Shrinks nested] : Shrinks (selectedFragment nested) := by
  unfold selectedFragment; infer_instance

instance (nested : Reader Unit) [Shrinks nested] : Shrinks (selectedField nested) := by
  unfold selectedField; infer_instance

instance (rounds : Nat) : Shrinks (selectionRounds rounds) := by
  induction rounds with
  | zero => unfold selectionRounds; infer_instance
  | succ rounds ih => unfold selectionRounds; infer_instance

instance : Shrinks variableDefinition := by unfold variableDefinition; infer_instance

instance : Shrinks operation := by
  refine Shrinks.bind inferInstance fun kind => ?_
  split <;> infer_instance

instance : Shrinks fragment := by unfold fragment; infer_instance

instance (keyword : String) : Shrinks (definition keyword) := by
  refine Shrinks.bind inferInstance fun position => ?_
  split
  · infer_instance
  · split
    · infer_instance
    · split <;> infer_instance

instance : Shrinks document := by
  have item : Shrinks (do
      match ← peekKind with
      | .string => definition (← peekSecond).text
      | .name => definition (← peek).text
      | .leftBrace => definition "\x7b"
      | _ =>
          failAndPop "expected a StringValue, Name or OperationDefinition"
          return none : Reader (Option Definition)) := by
    refine Shrinks.bind inferInstance fun kind => ?_
    split <;> infer_instance
  unfold document
  infer_instance

end ResolverTypes.Schema.Reader
