import ResolverTypes.Proofs.Schema.NameReading

/-!
# Reading types back

A type is written as a sequence of tokens without gaps between them.  Read from these tokens, it is
the type that was written, as long as its lists are not nested more deeply than a reader goes; if
they are, nothing is read.  The text of a type alone thus tells the type.

## Main definitions

* `TypeSyntax.listDepth` : the number of lists around the name in a type.
* `TypeSyntax.tokensAt` : the tokens of a type.
* `readType?` : the type that a text consists of.

## Main results

* `lexemes_spelling` : the lexemes of the text of a type are its tokens.
* `Reader.run_typeSyntaxRounds` : from its tokens, a type is read back.
* `exists_readType?_iff`, `sameAs_of_readType?` : which texts of types are read, and as what.
* `TypeSyntax.sameAs_of_spelling_eq` : types of the same text are the same.
-/

namespace ResolverTypes.Schema

/-! ### Tokens of a type -/

namespace TypeSyntax

/-- The number of lists around the name in a type. -/
def listDepth : TypeSyntax → Nat
  | .named _ _ => 0
  | .list item _ => item.listDepth + 1

/-- The exclamation mark at some offset, if there is one. -/
def bangAt (offset : Nat) (nonNull : Bool) : List Token :=
  if nonNull then [⟨.bang, "!", offset⟩] else []

/-- The tokens of a type that is written from some offset on. -/
def tokensAt (offset : Nat) : TypeSyntax → List Token
  | .named name nonNull =>
      ⟨.name, name.value, offset⟩ :: bangAt (offset + byteCount name.value.toList) nonNull
  | .list item nonNull =>
      let close := offset + 1 + byteCount item.spelling.toList
      ⟨.leftBracket, "[", offset⟩ ::
        (item.tokensAt (offset + 1) ++ ⟨.rightBracket, "]", close⟩ :: bangAt (close + 1) nonNull)

end TypeSyntax

/-! ### The lexemes of a type -/

theorem byteCount_append (cs ds : List Char) :
    byteCount (cs ++ ds) = byteCount cs + byteCount ds := by
  have hfoldl (n : Nat) (cs : List Char) :
      cs.foldl (fun n c => n + c.utf8Size) n = n + byteCount cs := by
    unfold byteCount
    induction cs generalizing n with
    | nil => rfl
    | cons c cs ih =>
        rw [List.foldl_cons, List.foldl_cons, ih, ih (0 + _), Nat.zero_add, Nat.add_assoc]
  rw [byteCount, List.foldl_append, hfoldl]
  rfl

/-- Some characters, where no name goes on. -/
def EndsName (cs : List Char) : Prop := ∀ c ∈ cs.head?, isNameChar c = false

theorem isNameChar_of_isNameStart {c : Char} (h : isNameStart c = true) : isNameChar c = true := by
  simp only [isNameStart, isNameChar, Char.isAlphanum, Bool.or_eq_true] at h ⊢
  rcases h with h | h
  · exact .inl (.inl h)
  · exact .inr h

theorem gapText?_eq_none_of_isNameStart {c : Char} (h : isNameStart c = true) (cs : List Char) :
    gapText? c cs = none := by
  have hne (d : Char) (hd : isNameStart d = false) : c ≠ d := by
    rintro rfl
    exact absurd h (Bool.eq_false_iff.mp hd)
  unfold gapText? isIgnoredChar
  simp [hne ' ' rfl, hne '\t' rfl, hne '\n' rfl, hne '\r' rfl, hne '\uFEFF' rfl, hne ',' rfl,
    hne '#' rfl]

/-- A name is one lexeme, where it does not go on. -/
theorem scanLexemes_name {name : String} (hn : IsName name) {rest : List Char} (hr : EndsName rest)
    (rounds offset : Nat) :
    scanLexemes (rounds + 1) offset (name.toList ++ rest) =
      .token ⟨.name, name, offset⟩ ::
        scanLexemes rounds (offset + byteCount name.toList) rest := by
  obtain ⟨c, cs, heq, hc, hcs⟩ := hn
  have htaken : (cs ++ rest).takeWhile isNameChar = cs := by
    rw [List.takeWhile_append_of_pos hcs]
    cases rest with
    | nil => simp
    | cons d ds => simp [hr d rfl]
  have hscan : scanToken c (cs ++ rest) = ⟨cs.length + 1, .ok .name⟩ := by
    unfold scanToken
    rw [if_pos hc, htaken]
  have hname : String.ofList (c :: cs) = name := by rw [← heq, String.ofList_toList]
  rw [heq, List.cons_append, scanLexemes, gapText?_eq_none_of_isNameStart hc]
  simp [hscan, hname]

theorem scanLexemes_leftBracket (cs : List Char) (rounds offset : Nat) :
    scanLexemes (rounds + 1) offset ('[' :: cs) =
      .token ⟨.leftBracket, "[", offset⟩ :: scanLexemes rounds (offset + 1) cs :=
  rfl

theorem scanLexemes_rightBracket (cs : List Char) (rounds offset : Nat) :
    scanLexemes (rounds + 1) offset (']' :: cs) =
      .token ⟨.rightBracket, "]", offset⟩ :: scanLexemes rounds (offset + 1) cs :=
  rfl

theorem scanLexemes_bang (nonNull : Bool) (rest : List Char) (rounds offset : Nat) :
    scanLexemes (rounds + (TypeSyntax.bangAt offset nonNull).length) offset
        ((if nonNull then "!" else "").toList ++ rest) =
      (TypeSyntax.bangAt offset nonNull).map .token ++
        scanLexemes rounds (offset + byteCount (if nonNull then "!" else "").toList) rest := by
  cases nonNull <;> rfl

theorem endsName_bang {rest : List Char} (hr : EndsName rest) (nonNull : Bool) :
    EndsName ((if nonNull then "!" else "").toList ++ rest) := by
  cases nonNull
  · exact hr
  · rintro _ ⟨⟩
    rfl

/-- A type is a sequence of tokens, where the name in it does not go on. -/
theorem scanLexemes_spelling {type : TypeSyntax} (hn : IsName type.innerName.value)
    {rest : List Char} (hr : EndsName rest) (rounds offset : Nat) :
    scanLexemes (rounds + (type.tokensAt offset).length) offset (type.spelling.toList ++ rest) =
      (type.tokensAt offset).map .token ++
        scanLexemes rounds (offset + byteCount type.spelling.toList) rest := by
  induction type generalizing rest rounds offset with
  | named name nonNull =>
      have hname : IsName name.value := hn
      rw [TypeSyntax.spelling, TypeSyntax.tokensAt, String.toList_append, List.append_assoc,
        List.length_cons, ← Nat.add_assoc, scanLexemes_name hname (endsName_bang hr nonNull),
        scanLexemes_bang, byteCount_append, Nat.add_assoc]
      rfl
  | list item nonNull ih =>
      have hspelling : (TypeSyntax.list item nonNull).spelling.toList =
          '[' :: (item.spelling.toList ++ ']' :: (if nonNull then "!" else "").toList) := by
        simp [TypeSyntax.spelling]
      have hclose (cs : List Char) : EndsName (']' :: cs) := by
        rintro _ ⟨⟩
        rfl
      have hcount (cs : List Char) :
          byteCount ('[' :: cs) = 1 + byteCount cs ∧ byteCount (']' :: cs) = 1 + byteCount cs :=
        ⟨byteCount_append ['['] cs, byteCount_append [']'] cs⟩
      have hrounds (n m : Nat) : rounds + (n + (m + 1) + 1) = rounds + m + 1 + n + 1 := by omega
      rw [hspelling, TypeSyntax.tokensAt, List.length_cons, List.length_append, List.length_cons,
        hrounds, List.cons_append, List.append_assoc, List.cons_append, scanLexemes_leftBracket,
        ih hn (hclose _), scanLexemes_rightBracket, scanLexemes_bang, (hcount _).1,
        byteCount_append, (hcount _).2]
      simp [Nat.add_assoc]

theorem length_tokensAt_le {type : TypeSyntax} (hn : IsName type.innerName.value) (offset : Nat) :
    (type.tokensAt offset).length ≤ type.spelling.toList.length := by
  have hbang (nonNull : Bool) (offset : Nat) : (TypeSyntax.bangAt offset nonNull).length =
      (if nonNull then "!" else "").toList.length := by
    cases nonNull <;> rfl
  induction type generalizing offset with
  | named name nonNull =>
      obtain ⟨c, cs, heq, -⟩ : IsName name.value := hn
      simp only [TypeSyntax.tokensAt, TypeSyntax.spelling, String.toList_append, heq,
        List.length_cons, List.length_append, hbang]
      omega
  | list item nonNull ih =>
      have hitem := ih hn (offset + 1)
      simp only [TypeSyntax.tokensAt, TypeSyntax.spelling, String.toList_append,
        List.length_cons, List.length_append, hbang]
      simp only [show "[".toList.length = 1 from rfl, show "]".toList.length = 1 from rfl]
      omega

/-- The lexemes of the text of a type are its tokens and an end mark. -/
theorem lexemes_spelling {type : TypeSyntax} (hn : IsName type.innerName.value) :
    lexemes type.spelling = (type.tokensAt 0).map .token ++
      [.token ⟨.eof, "EOF", byteCount type.spelling.toList⟩] := by
  obtain ⟨rounds, hrounds⟩ := Nat.exists_eq_add_of_le' (length_tokensAt_le hn 0)
  have hend : EndsName [] := nofun
  have hscan := scanLexemes_spelling hn hend rounds 0
  rw [List.append_nil, Nat.zero_add] at hscan
  rw [lexemes, ← String.length_toList, hrounds, hscan]
  cases rounds <;> rfl

/-! ### Steps of a reader -/

namespace Reader

/-- A reader stands at a token or behind the end mark. -/
def AtToken (lexemes : List Lexeme) : Prop := ∀ lexeme ∈ lexemes.head?, lexeme.isToken = true

theorem atToken_append (tokens : List Token) {rest : List Lexeme} (h : AtToken rest) :
    AtToken (tokens.map .token ++ rest) := by
  cases tokens with
  | nil => exact h
  | cons token tokens =>
      rintro _ ⟨⟩
      rfl

variable {s : ReaderState} {token : Token} {rest : List Lexeme} {kind : TokenKind}

theorem run_get : (get : Reader ReaderState).run s = (s, s) := rfl

theorem run_modify (f : ReaderState → ReaderState) : (modify f : Reader Unit).run s = ((), f s) :=
  rfl

theorem run_skipWhile {isSkipped : Lexeme → Bool}
    (h : ∀ lexeme ∈ s.rest.head?, isSkipped lexeme = false) :
    (skipWhile isSkipped).run s = ((), s) := by
  have hkept : s.rest.takeWhile isSkipped = [] ∧ s.rest.dropWhile isSkipped = s.rest := by
    cases hs : s.rest with
    | nil => exact ⟨rfl, rfl⟩
    | cons lexeme rest =>
        have hl : ¬ isSkipped lexeme = true := Bool.eq_false_iff.mp (h lexeme (by rw [hs]; rfl))
        exact ⟨List.takeWhile_cons_of_neg hl, List.dropWhile_cons_of_neg hl⟩
  rw [skipWhile, run_bind, run_get, run_bind, hkept.1, List.forIn_nil, run_modify]
  show ((), { s with rest := s.rest.dropWhile isSkipped }) = _
  rw [hkept.2]

theorem run_settle (h : AtToken s.rest) : settle.run s = ((), s) :=
  run_skipWhile fun lexeme hl => by rw [h lexeme hl]; rfl

theorem run_pop (hs : s.rest = .token token :: rest) (hr : AtToken rest) :
    pop.run s = (token, { s with rest }) := by
  have hdrop : s.rest.drop 1 = rest := by
    rw [hs]
    rfl
  rw [pop, run_bind, run_peek, run_bind, run_modify, run_bind]
  dsimp only
  rw [hdrop, run_settle hr, hs]
  rfl

theorem run_discard_pop (hs : s.rest = .token token :: rest) (hr : AtToken rest) :
    (discard pop).run s = ((), { s with rest }) := by
  show (_, (pop.run s).2) = _
  rw [run_pop hs hr]

theorem run_eat (hs : s.rest = .token token :: rest) (hr : AtToken rest) (hk : token.kind = kind) :
    (eat kind).run s = (true, { s with rest }) := by
  have hnext : (nextToken s.rest).kind = kind := by rw [hs]; exact hk
  rw [eat, run_bind, run_peekKind, if_pos hnext, run_bind, run_discard_pop hs hr]
  rfl

theorem run_eat_of_ne (h : (nextToken s.rest).kind ≠ kind) : (eat kind).run s = (false, s) := by
  rw [eat, run_bind, run_peekKind, if_neg h]
  rfl

theorem run_expect (hs : s.rest = .token token :: rest) (hr : AtToken rest)
    (hk : token.kind = kind) : (expect kind).run s = ((), { s with rest }) := by
  have hkept : ∀ lexeme ∈ s.rest.head?, lexeme.isInvalid = false := by
    rw [hs]
    rintro _ ⟨⟩
    rfl
  rw [expect, run_bind, run_skipWhile hkept, run_bind, run_get]
  dsimp only
  rw [hs]
  dsimp only
  rw [if_pos hk, run_discard_pop hs hr]

variable {α : Type} {part : Reader (Option α)}

theorem run_deeper {t : ReaderState} {a : Option α} (h : s.depth < depthLimit)
    (hp : part.run { s with depth := s.depth + 1 } = (a, t)) :
    (deeper part).run s = (a, { t with depth := t.depth - 1 }) := by
  rw [deeper, run_bind, run_get, if_neg (Nat.not_le.mpr h), run_bind, run_modify, run_bind, hp]
  rfl

/-- Of a part that is nested too deeply, or of which nothing is read, nothing is read. -/
theorem run_deeper_fst (h : s.depth < depthLimit →
    (part.run { s with depth := s.depth + 1 }).1 = none) : ((deeper part).run s).1 = none := by
  rcases Nat.lt_or_ge s.depth depthLimit with hlt | hge
  · rw [deeper, run_bind, run_get, if_neg (Nat.not_le.mpr hlt), run_bind, run_modify, run_bind]
    exact h hlt
  · rw [deeper, run_bind, run_get, if_pos hge]
    rfl

/-! ### Reading types -/

/-- An exclamation mark is read where there is one. -/
theorem run_eat_bang {offset : Nat} {nonNull : Bool}
    (hs : s.rest = (TypeSyntax.bangAt offset nonNull).map .token ++ rest) (hr : AtToken rest)
    (hbang : (nextToken rest).kind ≠ .bang) : (eat .bang).run s = (nonNull, { s with rest }) := by
  cases nonNull with
  | false =>
      have hs : s.rest = rest := hs
      rw [run_eat_of_ne (by rwa [hs]), ← hs]
  | true => exact run_eat hs hr rfl

/-- What is read of a list behind its opening bracket. -/
def listTail (rounds : Nat) : Reader (Option TypeSyntax) := do
  let item ← deeper (typeSyntaxRounds "expected item type" rounds)
  expect .rightBracket
  settle
  let nonNull ← eat .bang
  return item.map (.list · nonNull)

theorem run_typeSyntaxRounds_list {problem : String} {rounds : Nat}
    (hs : s.rest = .token token :: rest) (hk : token.kind = .leftBracket) (hr : AtToken rest) :
    (typeSyntaxRounds problem (rounds + 1)).run s = (listTail rounds).run { s with rest } := by
  have hnext : (nextToken s.rest).kind = .leftBracket := by
    rw [hs]
    exact hk
  rw [typeSyntaxRounds, run_bind, run_peekKind, hnext]
  dsimp only
  rw [run_bind, run_discard_pop hs hr, listTail]

/-- What follows the type of the items in a list that is written from some offset on. -/
def listEnd (item : TypeSyntax) (offset : Nat) (nonNull : Bool) (rest : List Lexeme) :
    List Lexeme :=
  let close := offset + 1 + byteCount item.spelling.toList
  .token ⟨.rightBracket, "]", close⟩ ::
    ((TypeSyntax.bangAt (close + 1) nonNull).map .token ++ rest)

theorem atToken_listEnd (item : TypeSyntax) (offset : Nat) (nonNull : Bool) (rest : List Lexeme) :
    AtToken (listEnd item offset nonNull rest) := by
  rintro _ ⟨⟩
  rfl

theorem map_tokensAt_list (item : TypeSyntax) (offset : Nat) (nonNull : Bool)
    (rest : List Lexeme) : ((item.list nonNull).tokensAt offset).map .token ++ rest =
      .token ⟨.leftBracket, "[", offset⟩ ::
        ((item.tokensAt (offset + 1)).map .token ++ listEnd item offset nonNull rest) := by
  rw [TypeSyntax.tokensAt, List.map_cons, List.cons_append, List.map_append, List.append_assoc]
  rfl

/-- Behind its opening bracket, a list is read as soon as the type of its items is. -/
theorem run_listTail {item read : TypeSyntax} {offset rounds : Nat} {nonNull : Bool}
    (hr : AtToken rest) (hbang : (nextToken rest).kind ≠ .bang)
    (hread : (deeper (typeSyntaxRounds "expected item type" rounds)).run s =
      (some read, { s with rest := listEnd item offset nonNull rest })) :
    (listTail rounds).run s = (some (.list read nonNull), { s with rest }) := by
  obtain ⟨behind, hend⟩ : ∃ behind,
      (expect .rightBracket).run { s with rest := listEnd item offset nonNull rest } =
        ((), { s with rest := (TypeSyntax.bangAt behind nonNull).map .token ++ rest }) :=
    ⟨_, run_expect rfl (atToken_append _ hr) rfl⟩
  rw [listTail, run_bind, hread, run_bind, hend, run_bind, run_settle (atToken_append _ hr),
    run_bind, run_eat_bang rfl hr hbang]
  rfl

theorem run_listTail_fst {rounds : Nat}
    (h : ((deeper (typeSyntaxRounds "expected item type" rounds)).run s).1 = none) :
    ((listTail rounds).run s).1 = none := by
  rw [listTail, run_bind, run_bind, run_bind, run_bind, h]
  rfl

/-- From its tokens, a type is read back, as long as its lists are not nested too deeply. -/
theorem run_typeSyntaxRounds (problem : String) {type : TypeSyntax} {offset rounds : Nat}
    (hs : s.rest = (type.tokensAt offset).map .token ++ rest) (hr : AtToken rest)
    (hbang : (nextToken rest).kind ≠ .bang) (hdepth : type.listDepth + s.depth ≤ depthLimit)
    (hrounds : type.listDepth < rounds) :
    ∃ read, read.sameAs type = true ∧
      (typeSyntaxRounds problem rounds).run s = (some read, { s with rest }) := by
  induction type generalizing s rest offset rounds problem with
  | named name nonNull =>
      obtain ⟨rounds, rfl⟩ := Nat.exists_eq_add_of_lt hrounds
      have hnext : nextToken s.rest = ⟨.name, name.value, offset⟩ := by
        rw [hs]
        rfl
      rw [typeSyntaxRounds, run_bind, run_peekKind, hnext]
      dsimp only
      rw [run_bind, run_here, run_bind, run_pop hs (atToken_append _ hr), run_bind,
        run_eat_bang rfl hr hbang]
      refine ⟨_, ?_, rfl⟩
      simp [TypeSyntax.sameAs]
  | list item nonNull ih =>
      obtain ⟨rounds, rfl⟩ := Nat.exists_eq_add_of_lt hrounds
      rw [TypeSyntax.listDepth] at hdepth
      rw [map_tokensAt_list] at hs
      have hclosed := atToken_listEnd item offset nonNull rest
      have hbracket : (nextToken (listEnd item offset nonNull rest)).kind ≠ .bang := by
        show TokenKind.rightBracket ≠ .bang
        decide
      have hlevel : s.depth < depthLimit := by omega
      have hbelow : item.listDepth + (s.depth + 1) ≤ depthLimit := by omega
      have hmore : item.listDepth < item.listDepth + 1 + rounds := by omega
      let opened : ReaderState :=
        { s with
          rest := (item.tokensAt (offset + 1)).map .token ++ listEnd item offset nonNull rest }
      obtain ⟨read, hsame, hread⟩ :=
        ih (s := { opened with depth := s.depth + 1 }) "expected item type" rfl hclosed hbracket
          hbelow hmore
      refine ⟨.list read nonNull, by simp [TypeSyntax.sameAs, hsame], ?_⟩
      show (typeSyntaxRounds problem (item.listDepth + 1 + rounds + 1)).run s = _
      rw [run_typeSyntaxRounds_list hs rfl (atToken_append _ hclosed)]
      exact run_listTail (s := opened) hr hbang (run_deeper (s := opened) hlevel hread)

/-- Nothing is read of a type whose lists are nested too deeply. -/
theorem run_typeSyntaxRounds_fst {type : TypeSyntax} {offset : Nat} {problem : String}
    (hs : s.rest = (type.tokensAt offset).map .token ++ rest) (hlevel : s.depth ≤ depthLimit)
    (hdepth : depthLimit < type.listDepth + s.depth) (rounds : Nat) :
    ((typeSyntaxRounds problem rounds).run s).1 = none := by
  induction type generalizing s rest offset rounds problem with
  | named name nonNull =>
      rw [TypeSyntax.listDepth, Nat.zero_add] at hdepth
      exact absurd hdepth (Nat.not_lt.mpr hlevel)
  | list item nonNull ih =>
      rw [TypeSyntax.listDepth] at hdepth
      rw [map_tokensAt_list] at hs
      have hclosed := atToken_listEnd item offset nonNull rest
      cases rounds with
      | zero => rfl
      | succ rounds =>
          rw [run_typeSyntaxRounds_list hs rfl (atToken_append _ hclosed)]
          refine run_listTail_fst (run_deeper_fst fun hlt => ?_)
          have hlt : s.depth < depthLimit := hlt
          have hbeyond : depthLimit < item.listDepth + (s.depth + 1) := by omega
          exact @ih { s with rest := _, depth := s.depth + 1 } _ _ _ rfl hlt hbeyond rounds

end Reader

/-- The type that a text consists of, if it is one. -/
def readType? (text : String) : Option TypeSyntax :=
  let read := (do Reader.settle; Reader.typeSyntax).run { source := 0, rest := lexemes text }
  if read.2.errors.isEmpty && (Reader.nextToken read.2.rest).kind == .eof then read.1 else none

variable {type other : TypeSyntax}

theorem listDepth_le_length_tokensAt (type : TypeSyntax) (offset : Nat) :
    type.listDepth ≤ (type.tokensAt offset).length := by
  induction type generalizing offset with
  | named name nonNull => exact Nat.zero_le _
  | list item nonNull ih =>
      have hitem := ih (offset + 1)
      rw [TypeSyntax.listDepth, TypeSyntax.tokensAt, List.length_cons, List.length_append]
      omega

theorem Reader.run_settled_typeSyntax {s : ReaderState} (h : AtToken s.rest) :
    (do settle; typeSyntax).run s =
      (typeSyntaxRounds "expected a type" (s.rest.length + 1)).run s := by
  rw [run_bind, run_settle h, typeSyntax, run_bind]
  rfl

/-- The text of a type is read as the type, unless its lists are nested too deeply. -/
theorem readType?_spelling (hn : IsName type.innerName.value) :
    (type.listDepth ≤ Reader.depthLimit →
      ∃ read, readType? type.spelling = some read ∧ read.sameAs type = true) ∧
    (Reader.depthLimit < type.listDepth → readType? type.spelling = none) := by
  unfold readType?
  generalize hs : ({ source := 0, rest := lexemes type.spelling } : ReaderState) = s
  obtain ⟨last, hlast, hrest⟩ : ∃ last : Token, last.kind = .eof ∧
      s.rest = (type.tokensAt 0).map .token ++ [.token last] := by
    refine ⟨⟨.eof, "EOF", byteCount type.spelling.toList⟩, rfl, ?_⟩
    rw [← hs, lexemes_spelling hn]
  have hend : Reader.AtToken [.token last] := by
    rintro _ ⟨⟩
    rfl
  have hstart : Reader.AtToken s.rest := hrest ▸ Reader.atToken_append _ hend
  have hlevel : s.depth = 0 ∧ s.errors = [] := hs ▸ ⟨rfl, rfl⟩
  dsimp only
  rw [Reader.run_settled_typeSyntax hstart]
  constructor
  · intro hdepth
    have hbang : (Reader.nextToken [.token last]).kind ≠ .bang := by
      show last.kind ≠ .bang
      rw [hlast]
      exact nofun
    have hrounds : type.listDepth < s.rest.length + 1 := by
      have hlength := listDepth_le_length_tokensAt type 0
      rw [hrest, List.length_append, List.length_map]
      omega
    have hdepth : type.listDepth + s.depth ≤ Reader.depthLimit := by rwa [hlevel.1]
    obtain ⟨read, hsame, hread⟩ :=
      Reader.run_typeSyntaxRounds "expected a type" hrest hend hbang hdepth hrounds
    refine ⟨read, ?_, hsame⟩
    have hnext : (Reader.nextToken [.token last]).kind = .eof := hlast
    rw [hread]
    simp [hlevel.2, hnext]
  · intro hdepth
    have hdepth : Reader.depthLimit < type.listDepth + s.depth := by rwa [hlevel.1]
    have hstart : s.depth ≤ Reader.depthLimit := by
      rw [hlevel.1]
      exact Nat.zero_le _
    rw [Reader.run_typeSyntaxRounds_fst hrest hstart hdepth, ite_self]

theorem exists_readType?_iff (hn : IsName type.innerName.value) :
    (∃ read, readType? type.spelling = some read) ↔ type.listDepth ≤ Reader.depthLimit := by
  obtain ⟨hread, hnone⟩ := readType?_spelling hn
  constructor
  · rintro ⟨read, hr⟩
    refine Nat.le_of_not_lt fun hdepth => ?_
    rw [hnone hdepth] at hr
    cases hr
  · intro hdepth
    obtain ⟨read, hr, -⟩ := hread hdepth
    exact ⟨read, hr⟩

theorem sameAs_of_readType? (hn : IsName type.innerName.value) {read : TypeSyntax}
    (h : readType? type.spelling = some read) : read.sameAs type = true := by
  obtain ⟨read', hr, hsame⟩ := (readType?_spelling hn).1 ((exists_readType?_iff hn).mp ⟨read, h⟩)
  obtain rfl := Option.some.inj (hr.symm.trans h)
  exact hsame

/-! ### Types of the same text -/

/-- An exclamation mark at the end of a text can be told from the text before it. -/
theorem eq_of_append_bang {a b : String} {m n : Bool} (ha : a.toList.getLast? ≠ some '!')
    (hb : b.toList.getLast? ≠ some '!')
    (h : a ++ (if m then "!" else "") = b ++ if n then "!" else "") : a = b ∧ m = n := by
  have hlast {a b : String} (h : a ++ "!" = b) : b.toList.getLast? = some '!' := by
    rw [← h, String.toList_append]
    exact List.getLast?_concat ..
  cases m <;> cases n
  · simpa using h
  · exact absurd (hlast (by simpa using h.symm)) ha
  · exact absurd (hlast (by simpa using h)) hb
  · simpa using h

theorem IsName.getLast?_ne {name : String} (h : IsName name) :
    name.toList.getLast? ≠ some '!' := by
  obtain ⟨c, cs, heq, hc, hcs⟩ := h
  intro hlast
  have hmem : '!' ∈ c :: cs := heq ▸ List.mem_of_getLast? hlast
  rcases List.mem_cons.mp hmem with rfl | hmem
  · cases hc
  · cases hcs _ hmem

theorem getLast?_brackets_ne (item : String) :
    ("[" ++ item ++ "]").toList.getLast? ≠ some '!' := by
  rw [String.toList_append]
  exact fun h => nomatch (List.getLast?_concat ..).symm.trans h

theorem IsName.ne_brackets {name : String} (h : IsName name) (item : String) :
    name ≠ "[" ++ item ++ "]" := by
  rintro rfl
  obtain ⟨c, cs, heq, hc, -⟩ := h
  have hbracket : c = '[' := by simpa using (congrArg List.head? heq).symm
  rw [hbracket] at hc
  cases hc

/-- Types that are written alike are the same, wherever they stand. -/
theorem TypeSyntax.sameAs_of_spelling_eq (hn : IsName type.innerName.value)
    (ho : IsName other.innerName.value) (h : type.spelling = other.spelling) :
    type.sameAs other = true := by
  induction type generalizing other with
  | named name nonNull =>
      cases other with
      | named name' nonNull' =>
          have hname : IsName name.value := hn
          have hname' : IsName name'.value := ho
          obtain ⟨heq, hbang⟩ := eq_of_append_bang hname.getLast?_ne hname'.getLast?_ne h
          simp [sameAs, heq, hbang]
      | list item nonNull' =>
          have hname : IsName name.value := hn
          have hstem := (eq_of_append_bang hname.getLast?_ne (getLast?_brackets_ne _) h).1
          exact absurd hstem (hname.ne_brackets _)
  | list item nonNull ih =>
      cases other with
      | named name nonNull' =>
          have hname : IsName name.value := ho
          have hstem := (eq_of_append_bang (getLast?_brackets_ne _) hname.getLast?_ne h).1
          exact absurd hstem.symm (hname.ne_brackets _)
      | list item' nonNull' =>
          obtain ⟨hstem, hbang⟩ :=
            eq_of_append_bang (getLast?_brackets_ne _) (getLast?_brackets_ne _) h
          have hitem : item.spelling = item'.spelling := by simpa using hstem
          have hsame : item.sameAs item' = true := ih hn ho hitem
          simp [sameAs, hsame, hbang]

end ResolverTypes.Schema
