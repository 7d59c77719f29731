import ResolverTypes.Layout.Scan
import ResolverTypes.TypeScript.Render

/-!
# What string literals say

A string literal in double quotes stands for the code units that the language reads between its
quotes: a character for its own, an escape for what it spells.  A literal in which quotes and
backslashes are escaped says what it was made from, if that stands on one line.  A text that is only
put between quotes says itself exactly when nothing in it would have to be escaped, since whatever
an escape stands for is shorter than the escape.

## Main definitions

* `utf16` : the code units of a text.
* `escape?` : what an escape stands for.
* `readString` : what the literal at the front of a text stands for, and what follows it.
* `IsPlain` : a text that needs no escapes.

## Main results

* `readString_quote` : an escaped literal says what it was made from.
* `readString_raw_iff` : which texts say themselves between quotes.
-/

namespace ResolverTypes.TypeScript

open Layout.ModuleScan (hexValue? isDigitOf)

/-! ### Code units -/

/-- The code units of a character with a number, one or two of sixteen bits. -/
def codeUnits (n : Nat) : List Nat :=
  if n < 0x10000 then [n] else [0xD800 + (n - 0x10000) / 0x400, 0xDC00 + (n - 0x10000) % 0x400]

/-- The code units of a text. -/
def utf16 (chars : List Char) : List Nat := chars.flatMap fun c => codeUnits c.toNat

@[simp] theorem utf16_nil : utf16 [] = [] := rfl

@[simp] theorem utf16_cons (c : Char) (cs : List Char) :
    utf16 (c :: cs) = codeUnits c.toNat ++ utf16 cs := rfl

@[simp] theorem utf16_append (cs ds : List Char) : utf16 (cs ++ ds) = utf16 cs ++ utf16 ds :=
  List.flatMap_append

theorem length_codeUnits (n : Nat) : 1 ≤ (codeUnits n).length ∧ (codeUnits n).length ≤ 2 := by
  unfold codeUnits
  split <;> simp

theorem length_le_length_utf16 (cs : List Char) : cs.length ≤ (utf16 cs).length := by
  induction cs with
  | nil => simp
  | cons c cs ih =>
    have := (length_codeUnits c.toNat).1
    rw [utf16_cons, List.length_append, List.length_cons]
    omega

/-! ### The literals of the language -/

/-- Whether a line ends with a character. -/
def isLineEnd (c : Char) : Bool := c == '\n' || c == '\r' || c == '\u2028' || c == '\u2029'

/-- The code units of the escapes by a letter. -/
def letterEscapes : List (Char × Nat) :=
  [('b', 0x8), ('t', 0x9), ('n', 0xA), ('v', 0xB), ('f', 0xC), ('r', 0xD)]

/-- The number that so many digits of base sixteen spell at the front of a text. -/
def hexNumber? (count : Nat) (cs : List Char) : Option Nat :=
  if cs.length < count then none else hexValue? (cs.take count)

/-- What an escape stands for, given what follows its backslash, and how many characters belong to
it there.  A line that ends behind a backslash is continued by the next one. -/
def escape? : List Char → Option (List Nat × Nat)
  | [] => none
  | '\r' :: '\n' :: _ => some ([], 2)
  | '0' :: cs => if cs.head?.any Char.isDigit then none else some ([0], 1)
  | 'x' :: cs => (hexNumber? 2 cs).map fun n => ([n], 3)
  | 'u' :: '\x7b' :: cs =>
      let digits := cs.takeWhile fun c => c != '_' && isDigitOf 16 c
      if (cs.drop digits.length).head? = some '\x7d' then
        ((hexValue? digits).filter (· ≤ 0x10FFFF)).map fun n => (codeUnits n, digits.length + 3)
      else none
  | 'u' :: cs => (hexNumber? 4 cs).map fun n => ([n], 5)
  | c :: _ =>
      if isLineEnd c then some ([], 1)
      else if c.isDigit then none
      else some (((letterEscapes.lookup c).map fun n => [n]).getD (codeUnits c.toNat), 1)

/-- The code units between the quotes of a literal and what follows it, read off what stands behind
its first quote, of which so many characters belong to an escape already read. -/
def stringUnits : Nat → List Char → Option (List Nat × List Char)
  | _, [] => none
  | skipped + 1, _ :: cs => stringUnits skipped cs
  | 0, c :: cs =>
      if c = '"' then some ([], cs)
      else if c = '\\' then
        (escape? cs).bind fun escape =>
          (stringUnits escape.2 cs).map fun tail => (escape.1 ++ tail.1, tail.2)
      else if c = '\n' ∨ c = '\r' then none
      else (stringUnits 0 cs).map fun tail => (codeUnits c.toNat ++ tail.1, tail.2)

/-- The code units of the literal at the front of a text, and what follows it. -/
def readString : List Char → Option (List Nat × List Char)
  | '"' :: cs => stringUnits 0 cs
  | _ => none

/-! ### Escapes are longer than what they stand for -/

/-- An escape stands for no more code units than there are behind its backslash. -/
theorem length_le_of_escape? {cs : List Char} {units : List Nat} {n : Nat}
    (h : escape? cs = some (units, n)) : units.length ≤ (utf16 (cs.take n)).length := by
  have hlong := length_le_length_utf16 (cs.take n)
  rw [List.length_take] at hlong
  unfold escape? at h
  split at h
  · cases h
  · cases h
    exact Nat.zero_le _
  · split at h
    · cases h
    · cases h
      simpa using hlong
  · obtain ⟨m, -, heq⟩ := Option.map_eq_some_iff.mp h
    cases heq
    simp only [List.length_cons, List.length_nil] at hlong ⊢
    omega
  · dsimp only at h
    split at h
    · obtain ⟨m, -, heq⟩ := Option.map_eq_some_iff.mp h
      cases heq
      have := (length_codeUnits m).2
      simp only [List.length_cons] at hlong
      omega
    · cases h
  · obtain ⟨m, -, heq⟩ := Option.map_eq_some_iff.mp h
    cases heq
    simp only [List.length_cons, List.length_nil] at hlong ⊢
    omega
  next c cs _ _ _ _ _ =>
    split at h
    · cases h
      exact Nat.zero_le _
    split at h
    · cases h
    · cases h
      cases letterEscapes.lookup c with
      | none => simp
      | some m => simpa using (length_codeUnits c.toNat).1

theorem length_escaped_add_lt {cs rest : List Char} {units tail : List Nat} {n : Nat}
    (h : escape? cs = some (units, n))
    (ht : tail.length + (utf16 rest).length < (utf16 (cs.drop n)).length) :
    (units ++ tail).length + (utf16 rest).length < (utf16 cs).length := by
  have hescaped := length_le_of_escape? h
  rw [← List.take_append_drop n cs, utf16_append, List.length_append, List.length_append]
  omega

/-- What a literal says and what follows it are together shorter than the text that they are read
off. -/
theorem length_stringUnits_lt {skipped : Nat} {cs rest : List Char} {units : List Nat}
    (h : stringUnits skipped cs = some (units, rest)) :
    units.length + (utf16 rest).length < (utf16 (cs.drop skipped)).length := by
  induction cs generalizing skipped units with
  | nil => cases skipped <;> cases h
  | cons c cs ih =>
    cases skipped with
    | succ skipped => exact ih h
    | zero =>
      have hone := (length_codeUnits c.toNat).1
      rw [List.drop_zero, utf16_cons, List.length_append]
      rw [stringUnits] at h
      split at h
      · obtain ⟨rfl, rfl⟩ := Prod.mk.inj (Option.some.inj h)
        rw [List.length_nil]
        omega
      split at h
      · obtain ⟨escape, he, h⟩ := Option.bind_eq_some_iff.mp h
        obtain ⟨tail, ht, heq⟩ := Option.map_eq_some_iff.mp h
        obtain ⟨rfl, rfl⟩ := Prod.mk.inj heq
        have := length_escaped_add_lt he (ih ht)
        omega
      split at h
      · cases h
      · obtain ⟨tail, ht, heq⟩ := Option.map_eq_some_iff.mp h
        obtain ⟨rfl, rfl⟩ := Prod.mk.inj heq
        have htail := ih ht
        rw [List.drop_zero] at htail
        rw [List.length_append]
        omega

/-- What a literal says that starts with an escape is shorter yet. -/
theorem length_stringUnits_escape_lt {cs rest : List Char} {units : List Nat}
    (h : stringUnits 0 ('\\' :: cs) = some (units, rest)) :
    units.length + (utf16 rest).length < (utf16 cs).length := by
  obtain ⟨escape, he, h⟩ := Option.bind_eq_some_iff.mp h
  obtain ⟨tail, ht, heq⟩ := Option.map_eq_some_iff.mp h
  obtain ⟨rfl, rfl⟩ := Prod.mk.inj heq
  exact length_escaped_add_lt he (length_stringUnits_lt ht)

/-! ### Texts between quotes -/

/-- Whether a character cannot stand for itself between double quotes. -/
def needsEscape (c : Char) : Bool := c == '"' || c == '\\' || c == '\n' || c == '\r'

/-- A text in which nothing has to be escaped between quotes. -/
def IsPlain (text : String) : Prop := ∀ c ∈ text.toList, needsEscape c = false

instance (text : String) : Decidable (IsPlain text) :=
  List.decidableBAll (fun c => needsEscape c = false) text.toList

theorem needsEscape_iff {c : Char} :
    needsEscape c = true ↔ c = '"' ∨ c = '\\' ∨ c = '\n' ∨ c = '\r' := by
  simp only [needsEscape, Bool.or_eq_true, beq_iff_eq, or_assoc]

theorem stringUnits_cons {c : Char} (hc : needsEscape c = false) (cs : List Char) :
    stringUnits 0 (c :: cs) =
      (stringUnits 0 cs).map fun tail => (codeUnits c.toNat ++ tail.1, tail.2) := by
  rw [← Bool.not_eq_true, needsEscape_iff] at hc
  obtain ⟨hquote, hc⟩ := not_or.mp hc
  obtain ⟨hbackslash, hline⟩ := not_or.mp hc
  rw [stringUnits, if_neg hquote, if_neg hbackslash, if_neg hline]

/-- A text that starts with what would have to be escaped does not say itself. -/
theorem stringUnits_ne_of_needsEscape {c : Char} (hc : needsEscape c = true)
    (cs rest : List Char) :
    stringUnits 0 (c :: cs ++ '"' :: rest) ≠ some (utf16 (c :: cs), rest) := by
  intro h
  have hquote : (utf16 ('"' :: rest)).length = 1 + (utf16 rest).length := by
    rw [utf16_cons, List.length_append]
    rfl
  rcases needsEscape_iff.mp hc with rfl | rfl | rfl | rfl
  · -- the literal ends before the text does
    obtain ⟨hunits, -⟩ := Prod.mk.inj (Option.some.inj h)
    cases hunits
  · -- an escape stands for less than it takes up
    have hlt := length_stringUnits_escape_lt h
    have hbackslash : (utf16 ('\\' :: cs)).length = 1 + (utf16 cs).length := by
      rw [utf16_cons, List.length_append]
      rfl
    change _ < (utf16 (cs ++ '"' :: rest)).length at hlt
    rw [utf16_append, List.length_append] at hlt
    omega
  · cases h
  · cases h

/-- Behind a first quote and in front of a last one, a text says itself exactly when nothing in it
would have to be escaped. -/
theorem stringUnits_raw_iff (chars rest : List Char) :
    stringUnits 0 (chars ++ '"' :: rest) = some (utf16 chars, rest) ↔
      ∀ c ∈ chars, needsEscape c = false := by
  induction chars with
  | nil => simp [stringUnits]
  | cons c cs ih =>
    rw [List.forall_mem_cons]
    cases hc : needsEscape c with
    | false =>
      rw [← ih, List.cons_append, stringUnits_cons hc, utf16_cons, and_iff_right rfl]
      constructor
      · intro h
        obtain ⟨tail, ht, heq⟩ := Option.map_eq_some_iff.mp h
        obtain ⟨hunits, hrest⟩ := Prod.mk.inj heq
        rw [ht, ← List.append_cancel_left hunits, ← hrest]
      · intro h
        rw [h]
        rfl
    | true =>
      exact iff_of_false (stringUnits_ne_of_needsEscape hc cs rest) fun h => nomatch h.1

theorem escape?_of_escaped {c : Char} (hc : c = '"' ∨ c = '\\') (cs : List Char) :
    escape? (c :: cs) = some (codeUnits c.toNat, 1) := by
  rcases hc with rfl | rfl <;> rfl

/-- With its quotes and backslashes escaped, a text on one line says itself. -/
theorem stringUnits_escapeChars {chars : List Char} (h : ∀ c ∈ chars, c ≠ '\n' ∧ c ≠ '\r')
    (rest : List Char) :
    stringUnits 0 (escapeChars chars ++ '"' :: rest) = some (utf16 chars, rest) := by
  induction chars with
  | nil => rfl
  | cons c cs ih =>
    obtain ⟨⟨hline, hreturn⟩, hcs⟩ := List.forall_mem_cons.mp h
    rw [escapeChars]
    split
    next hc =>
      have hescape := escape?_of_escaped hc (escapeChars cs ++ '"' :: rest)
      have htail : stringUnits 1 (c :: (escapeChars cs ++ '"' :: rest)) =
          some (utf16 cs, rest) := ih hcs
      rw [List.cons_append, List.cons_append, stringUnits, if_neg (by decide), if_pos rfl, hescape,
        Option.bind_some, htail]
      rfl
    next hc =>
      have hplain : needsEscape c = false := by
        rw [← Bool.not_eq_true, needsEscape_iff]
        simp only [← or_assoc, hc, hline, hreturn, or_self, not_false_eq_true]
      rw [List.cons_append, stringUnits_cons hplain, ih hcs]
      rfl

/-! ### Literals in front of a text -/

/-- An escaped literal says what it was made from, if that stands on one line. -/
theorem readString_quote {value : String} (h : ∀ c ∈ value.toList, c ≠ '\n' ∧ c ≠ '\r')
    (rest : List Char) :
    readString ((quote value).toList ++ rest) = some (utf16 value.toList, rest) := by
  have hread := stringUnits_escapeChars h rest
  simpa [quote, readString] using hread

/-- A text that is only put between quotes says itself exactly when it needs no escapes. -/
theorem readString_raw_iff (text : String) (rest : List Char) :
    readString (("\"" ++ text ++ "\"").toList ++ rest) = some (utf16 text.toList, rest) ↔
      IsPlain text := by
  rw [IsPlain, ← stringUnits_raw_iff text.toList rest]
  simp [readString]

/-- Other escapes are read too, a pair of code units among them. -/
example : readString "\"a\\x41\\u\x7b1F600\x7d\\0\";".toList =
    some ([0x61, 0x41, 0xD83D, 0xDE00, 0], [';']) := by
  decide +kernel

end ResolverTypes.TypeScript
