import ResolverTypes.Proofs.TypeScript.WellFormed
import ResolverTypes.TypeScript.Render

/-!
# Readers of texts

The pieces of which a reader of the rendered text is put together.  Each comes with the text that it
reads in front of any rest, or in front of a rest that does not go on with the piece.

## Main definitions

* `TextReader` : a reader, which takes a value off the front of a text.
* `TextReader.expect`, `TextReader.word`, `TextReader.literal` : a text, a word, a string literal.
* `TextReader.many`, `TextReader.separated` : lists of what another reader reads.

## Main results

* `TextReader.many_run`, `TextReader.separated_run` : a list is read off the joined texts of its
  items.
-/

namespace ResolverTypes.TypeScript

/-- A reader takes a value off the front of a text, if one stands there, and leaves the rest. -/
abbrev TextReader (α : Type) := StateT (List Char) Option α

namespace TextReader

variable {α : Type}

/-- Reads a text if it is next, and says whether it is. -/
def accepts (text : String) : TextReader Bool := fun chars =>
  if text.toList.isPrefixOf chars then some (true, chars.drop text.toList.length)
  else some (false, chars)

/-- Reads a text that has to be next. -/
def expect (text : String) : TextReader Unit := do
  if ← accepts text then return () else failure

/-- Reads a word, as far as it goes. -/
def word : TextReader String := fun chars =>
  if (chars.takeWhile isWordChar).isEmpty then none
  else some (String.ofList (chars.takeWhile isWordChar), chars.dropWhile isWordChar)

/-- Reads everything in front of a character. -/
def upTo (stop : Char) : TextReader String := fun chars =>
  some (String.ofList (chars.takeWhile (· != stop)), chars.dropWhile (· != stop))

/-- The string of a literal behind its first quote, and what follows its last. -/
def literalChars : List Char → Option (List Char × List Char)
  | [] => none
  | '"' :: rest => some ([], rest)
  | '\\' :: c :: rest => (literalChars rest).map fun (value, rest) => (c :: value, rest)
  | c :: rest => (literalChars rest).map fun (value, rest) => (c :: value, rest)

/-- Reads a string literal behind its first quote. -/
def literal : TextReader String := do return String.ofList (← literalChars)

/-- Reads items, each with a text in front of it, until that text is not next. -/
def many (start : String) (item : TextReader α) : TextReader (List α) := fun chars =>
  rounds chars.length chars
where
  /-- Reads at most so many items. -/
  rounds : Nat → TextReader (List α)
    | 0 => return []
    | n + 1 => do
        if ← accepts start then
          let first ← item
          return first :: (← rounds n)
        else return []

/-- Reads items with a text between them, at least one. -/
def separated (separator : String) (item : TextReader α) : TextReader (List α) := do
  let first ← item
  return first :: (← many separator item)

/-! ### What the readers read -/

section

variable {β : Type} {text start separator : String} {chars rest : List Char}

/-- Once a reader has read a value, what comes after it reads the rest. -/
theorem bind_run {reader : TextReader α} {value : α} (h : reader.run chars = some (value, rest))
    (next : α → TextReader β) : (reader >>= next).run chars = (next value).run rest := by
  rw [StateT.run_bind, h]
  rfl

theorem accepts_run : (accepts text).run (text.toList ++ rest) = some (true, rest) := by
  have h : text.toList.isPrefixOf (text.toList ++ rest) = true :=
    List.isPrefixOf_iff_prefix.mpr (List.prefix_append _ _)
  change (if text.toList.isPrefixOf (text.toList ++ rest) then _ else _) = _
  rw [if_pos h, List.drop_left]

theorem accepts_run_of_not_isPrefixOf (h : text.toList.isPrefixOf chars = false) :
    (accepts text).run chars = some (false, chars) := by
  change (if text.toList.isPrefixOf chars then _ else _) = _
  rw [if_neg (by simp [h])]

theorem expect_run : (expect text).run (text.toList ++ rest) = some ((), rest) := by
  rw [expect, bind_run accepts_run]
  rfl

/-- Whether no word goes on with a text. -/
def endsWord : List Char → Bool
  | [] => true
  | c :: _ => !isWordChar c

theorem word_run (ht : IsWord text) (hr : endsWord rest = true) :
    word.run (text.toList ++ rest) = some (text, rest) := by
  have htake : (text.toList ++ rest).takeWhile isWordChar = text.toList := by
    rw [List.takeWhile_append_of_pos ht.2]
    cases rest with
    | nil => simp
    | cons c rest =>
        rw [List.takeWhile_cons_of_neg (by simpa [endsWord] using hr), List.append_nil]
  have hdrop : (text.toList ++ rest).dropWhile isWordChar = rest := by
    rw [List.dropWhile_append_of_pos ht.2]
    cases rest with
    | nil => rfl
    | cons c rest => rw [List.dropWhile_cons_of_neg (by simpa [endsWord] using hr)]
  change (if ((text.toList ++ rest).takeWhile isWordChar).isEmpty then _ else _) = _
  rw [htake, hdrop, if_neg (by simpa using ht.1), String.ofList_toList]

theorem upTo_run {stop : Char} (h : stop ∉ text.toList) :
    (upTo stop).run (text.toList ++ stop :: rest) = some (text, stop :: rest) := by
  have hne (c : Char) (hc : c ∈ text.toList) : (c != stop) = true :=
    bne_iff_ne.mpr fun heq => h (heq ▸ hc)
  change some (String.ofList _, _) = _
  rw [List.takeWhile_append_of_pos hne, List.dropWhile_append_of_pos hne,
    List.takeWhile_cons_of_neg (by simp), List.dropWhile_cons_of_neg (by simp), List.append_nil,
    String.ofList_toList]

theorem literalChars_escapeChars (value : List Char) :
    literalChars (escapeChars value ++ '"' :: rest) = some (value, rest) := by
  induction value with
  | nil => rfl
  | cons c value ih =>
      rw [escapeChars]
      split
      next => simp [literalChars, ih]
      next h =>
        obtain ⟨hq, hb⟩ := not_or.mp h
        rw [List.cons_append, literalChars.eq_4 _ _ hq (fun _ _ hc _ => hb hc), ih]
        rfl

theorem literal_run (value : String) :
    literal.run (escapeChars value.toList ++ '"' :: rest) = some (value, rest) := by
  rw [literal, bind_run (literalChars_escapeChars value.toList), String.ofList_toList]
  rfl

/-! ### Lists -/

variable {item : TextReader α} {render : α → String} {ends : List Char → Prop}

/-- What may follow an item follows it in a list: the next item, or the rest behind them all. -/
theorem ends_join (ends : List Char → Prop) (hends : ∀ rest, ends (start.toList ++ rest))
    (hr : ends rest) (items : List α) :
    ends ((String.join (items.map fun x => start ++ render x)).toList ++ rest) := by
  cases items with
  | nil => simpa using hr
  | cons x items =>
      simp only [List.map_cons, String.join_cons, String.toList_append, List.append_assoc]
      exact hends _

theorem many_rounds_run_nil (hs : start.toList.isPrefixOf rest = false) (n : Nat) :
    (many.rounds start item n).run rest = some ([], rest) := by
  cases n with
  | zero => rfl
  | succ n =>
      rw [many.rounds, bind_run (accepts_run_of_not_isPrefixOf hs)]
      rfl

theorem many_run_nil (hs : start.toList.isPrefixOf rest = false) :
    (many start item).run rest = some ([], rest) :=
  many_rounds_run_nil hs rest.length

theorem many_rounds_run (hends : ∀ rest, ends (start.toList ++ rest)) {items : List α}
    (hitem : ∀ x ∈ items, ∀ rest, ends rest → item.run ((render x).toList ++ rest) = some (x, rest))
    (hr : ends rest) (hs : start.toList.isPrefixOf rest = false) {n : Nat} (hn : items.length ≤ n) :
    (many.rounds start item n).run
      ((String.join (items.map fun x => start ++ render x)).toList ++ rest) =
        some (items, rest) := by
  induction items generalizing n with
  | nil => simpa using many_rounds_run_nil hs n
  | cons x items ih =>
      obtain ⟨n, rfl⟩ : ∃ k, n = k + 1 := ⟨n - 1, by simp only [List.length_cons] at hn; omega⟩
      have hfirst := hitem x List.mem_cons_self
      have hitems := ih (fun y hy => hitem y (List.mem_cons_of_mem x hy))
        (Nat.le_of_succ_le_succ hn)
      simp only [List.map_cons, String.join_cons, String.toList_append, List.append_assoc]
      rw [many.rounds, bind_run accepts_run, if_pos rfl,
        bind_run (hfirst _ (ends_join ends hends hr items)), bind_run hitems]
      rfl

theorem length_le_length_join (hs : start ≠ "") (items : List α) :
    items.length ≤ (String.join (items.map fun x => start ++ render x)).length := by
  have hpos : 0 < start.length := by
    rw [Nat.pos_iff_ne_zero]
    simpa using hs
  induction items with
  | nil => simp
  | cons x items ih =>
      simp only [List.map_cons, String.join_cons, String.length_append, List.length_cons]
      omega

/-- A list of items is read off their texts, if each item is read in front of what may follow it. -/
theorem many_run (ends : List Char → Prop) (hstart : start ≠ "")
    (hends : ∀ rest, ends (start.toList ++ rest)) {items : List α}
    (hitem : ∀ x ∈ items, ∀ rest, ends rest → item.run ((render x).toList ++ rest) = some (x, rest))
    (hr : ends rest) (hs : start.toList.isPrefixOf rest = false) :
    (many start item).run ((String.join (items.map fun x => start ++ render x)).toList ++ rest) =
      some (items, rest) := by
  refine many_rounds_run hends hitem hr hs ?_
  rw [List.length_append, String.length_toList]
  exact Nat.le_add_right_of_le (length_le_length_join hstart items)

theorem separated_run_singleton {first : α} (hitem : item.run chars = some (first, rest))
    (hs : separator.toList.isPrefixOf rest = false) :
    (separated separator item).run chars = some ([first], rest) := by
  rw [separated, bind_run hitem, bind_run (many_run_nil hs)]
  rfl

theorem separated_run (ends : List Char → Prop) (hseparator : separator ≠ "")
    (hends : ∀ rest, ends (separator.toList ++ rest)) {first : α} {items : List α}
    (hitem : ∀ x ∈ first :: items, ∀ rest, ends rest →
      item.run ((render x).toList ++ rest) = some (x, rest))
    (hr : ends rest) (hs : separator.toList.isPrefixOf rest = false) :
    (separated separator item).run
      ((render first ++ String.join (items.map fun x => separator ++ render x)).toList ++ rest) =
        some (first :: items, rest) := by
  have hfirst := hitem first List.mem_cons_self
  have hitems := many_run ends hseparator hends
    (fun x hx => hitem x (List.mem_cons_of_mem first hx)) hr hs
  rw [String.toList_append, List.append_assoc, separated,
    bind_run (hfirst _ (ends_join ends hends hr items)), bind_run hitems]
  rfl

end

end TextReader

end ResolverTypes.TypeScript
