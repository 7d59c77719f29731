import Mathlib.Data.List.TakeWhile
import Mathlib.Tactic.SplitIfs
import ResolverTypes.Schema.Token

/-!
# Tokens that are names

A token of the kind `name` is spelt as a name: a letter or underscore, followed by letters, digits
and underscores.  No other scan yields a token of that kind.

## Main definitions

* `IsName` : the texts that are spelt as names.
* `SpellNames` : every name among some lexemes is spelt as one.

## Main results

* `lexemes_spellNames` : the names among the lexemes of a text are spelt as names.
-/

namespace ResolverTypes.Schema

/-- A text that is spelt as a name. -/
def IsName (text : String) : Prop :=
  ∃ c cs, text.toList = c :: cs ∧ isNameStart c = true ∧ ∀ d ∈ cs, isNameChar d = true

/-- Every name among some lexemes is spelt as one. -/
def SpellNames (lexemes : List Lexeme) : Prop :=
  ∀ token, .token token ∈ lexemes → token.kind = .name → IsName token.text

theorem SpellNames.mono {lexemes others : List Lexeme} (h : SpellNames lexemes)
    (hs : others ⊆ lexemes) : SpellNames others :=
  fun token ht => h token (hs ht)

/-! ### Scans that yield no name -/

theorem stringResult_ne_name (problem : Option String) : stringResult problem ≠ .ok .name := by
  cases problem <;> simp [stringResult]

theorem scanBlockString_ne_name (problem : Option String) (cs : List Char) :
    (scanBlockString problem cs).result ≠ .ok .name := by
  fun_induction scanBlockString problem cs with
  | case1 => simp
  | case2 cs ih => exact ih
  | case3 cs => exact stringResult_ne_name problem
  | case4 c cs _ _ ih => exact ih

theorem scanString_ne_name (problem : Option String) (awaited : Bool) (part : StringPart)
    (cs : List Char) : (scanString problem awaited part cs).result ≠ .ok .name := by
  fun_induction scanString problem awaited part cs <;>
    simp_all [Scan.after, scanBlockString_ne_name, stringResult_ne_name]

theorem scanNumberEnd_ne_name {kind : TokenKind} (hk : kind ≠ .name) (length : Nat) (part : String)
    (cs : List Char) : (scanNumberEnd length kind part cs).result ≠ .ok .name := by
  have hok : (Except.ok kind : Except String TokenKind) ≠ .ok .name := fun h => hk (Except.ok.inj h)
  unfold scanNumberEnd
  split
  · exact hok
  · split
    · exact nofun
    · exact hok

theorem scanExponent_ne_name (length : Nat) (cs : List Char) :
    (scanExponent length cs).result ≠ .ok .name := by
  unfold scanExponent
  dsimp only
  split
  · exact nofun
  · exact nofun
  · exact scanNumberEnd_ne_name (by decide) _ _ _

theorem scanAfterInteger_ne_name (length : Nat) (cs : List Char) :
    (scanAfterInteger length cs).result ≠ .ok .name := by
  unfold scanAfterInteger
  split
  · dsimp only
    split
    · exact nofun
    · exact nofun
    · exact scanExponent_ne_name _ _
    · exact scanExponent_ne_name _ _
    · exact scanNumberEnd_ne_name (by decide) _ _ _
  · exact scanExponent_ne_name _ _
  · exact scanExponent_ne_name _ _
  · exact scanNumberEnd_ne_name (by decide) _ _ _

theorem scanNumber_ne_name (cs : List Char) : (scanNumber cs).result ≠ .ok .name := by
  unfold scanNumber
  split
  · split
    · exact nofun
    · exact scanAfterInteger_ne_name _ _
  · dsimp only
    split
    · exact nofun
    · exact nofun
    · exact scanAfterInteger_ne_name _ _

theorem punctuator?_ne_name (c : Char) : punctuator? c ≠ some .name := by
  unfold punctuator?
  split <;> exact nofun

/-! ### The scan of a name -/

theorem scanToken_of_name {c : Char} {cs : List Char} (h : (scanToken c cs).result = .ok .name) :
    isNameStart c = true ∧ (scanToken c cs).length = (cs.takeWhile isNameChar).length + 1 := by
  unfold scanToken at h ⊢
  -- strings, numbers, the spread and punctuators are tokens of other kinds
  split_ifs at h ⊢ with hn hq hd hm hp
  · exact ⟨hn, rfl⟩
  · exact absurd h (scanString_ne_name _ _ _ _)
  · exact absurd h (scanNumber_ne_name _)
  · exact absurd h (scanNumber_ne_name _)
  · split at h <;> cases h
  · split at h
    next kind hk => exact absurd (Except.ok.inj h ▸ hk) (punctuator?_ne_name c)
    next => cases h

theorem isName_taken {c : Char} {cs : List Char} (h : (scanToken c cs).result = .ok .name) :
    IsName (String.ofList ((c :: cs).take (max (scanToken c cs).length 1))) := by
  obtain ⟨hc, hl⟩ := scanToken_of_name h
  refine ⟨c, cs.takeWhile isNameChar, ?_, hc, fun d hd => List.mem_takeWhile_imp hd⟩
  rw [hl, Nat.max_eq_left (Nat.le_add_left _ _), String.toList_ofList, List.take_succ_cons,
    ← List.prefix_iff_eq_take.mp (List.takeWhile_prefix isNameChar)]

theorem scanLexemes_spellNames (rounds offset : Nat) (cs : List Char) :
    SpellNames (scanLexemes rounds offset cs) := by
  have hend (offset : Nat) : SpellNames [.token ⟨.eof, "EOF", offset⟩] := by
    intro token h hk
    obtain rfl := Lexeme.token.inj (List.mem_singleton.mp h)
    cases hk
  induction rounds generalizing offset cs with
  | zero => cases cs <;> exact hend offset
  | succ rounds ih =>
      cases cs with
      | nil => exact hend offset
      | cons c cs =>
          intro token h hk
          rw [scanLexemes] at h
          split at h
          · rcases List.mem_cons.mp h with h | h
            · cases h
            · exact ih _ _ token h hk
          · rcases List.mem_cons.mp h with h | h
            · split at h
              next kind hr =>
                obtain rfl := Lexeme.token.inj h
                exact isName_taken (hr.trans (congrArg _ hk))
              next => cases h
            · exact ih _ _ token h hk

/-- The names among the lexemes of a text are spelt as names. -/
theorem lexemes_spellNames (text : String) : SpellNames (lexemes text) :=
  scanLexemes_spellNames _ _ _

end ResolverTypes.Schema
