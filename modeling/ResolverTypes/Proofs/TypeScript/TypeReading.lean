import ResolverTypes.Proofs.TypeScript.TextReader

/-!
# Reading types

A reader of the text of types.  Since a function inside a union stands in parentheses, two of them
at the front of a text tell such a function from one that stands alone, whose result takes in the
alternatives that follow.

## Main definitions

* `TextReader.type` : reads a type.
* `TextReader.EndsType` : the texts that may follow the text of a type.
* `TypeExpr.read` : reads a text as a type.

## Main results

* `TextReader.type_run` : the text of a well-formed type is read as that type.
* `TypeExpr.read_render_and_eq_of_render_eq` : the text of a type loses nothing of it.
-/

namespace ResolverTypes.TypeScript

/-! ### The text of lists -/

/-- The text of a type in a union. -/
def TypeExpr.operand (type : TypeExpr) : String :=
  if type.needsParentheses then "(" ++ type.render ++ ")" else type.render

/-- The text of a parameter. -/
def Parameter.render (parameter : Parameter TypeExpr) : String :=
  parameter.name ++ ": " ++ parameter.type.render

theorem renderAlternatives_cons (type : TypeExpr) (types : List TypeExpr) :
    renderAlternatives (type :: types) =
      type.operand ++ String.join (types.map fun t => " | " ++ t.operand) := by
  induction types generalizing type with
  | nil => simp [renderAlternatives, TypeExpr.operand]
  | cons t types ih =>
      rw [renderAlternatives, ih, List.map_cons, String.join_cons, ← TypeExpr.operand]
      simp only [String.append_assoc]

theorem renderParameters_cons (parameter : Parameter TypeExpr)
    (parameters : List (Parameter TypeExpr)) :
    renderParameters (parameter :: parameters) =
      parameter.render ++ String.join (parameters.map fun p => ", " ++ p.render) := by
  induction parameters generalizing parameter with
  | nil => simp [renderParameters, Parameter.render]
  | cons p parameters ih =>
      rw [renderParameters, ih, List.map_cons, String.join_cons]
      simp only [Parameter.render, String.append_assoc]

theorem renderMembers_cons (member : Member TypeExpr) (members : List (Member TypeExpr)) :
    renderMembers (member :: members) =
      member.render ++ String.join (members.map fun m => "; " ++ m.render) := by
  induction members generalizing member with
  | nil => simp [renderMembers, Member.render]
  | cons m members ih =>
      rw [renderMembers, ih, List.map_cons, String.join_cons]
      simp only [Member.render, String.append_assoc]

namespace TextReader

/-! ### The reader -/

section

variable (type : TextReader TypeExpr)

/-- Reads a parameter. -/
def parameter : TextReader (Parameter TypeExpr) := do
  let name ← word
  expect ": "
  return ⟨name, ← type⟩

/-- Reads a member. -/
def member : TextReader (Member TypeExpr) := do
  let name ← word
  let optional ← accepts "?"
  expect ": "
  return ⟨name, optional, ← type⟩

/-- Reads a function behind its first parenthesis. -/
def function : TextReader TypeExpr := do
  if ← accepts ") => " then return .function [] (← type)
  else
    let parameters ← separated ", " (parameter type)
    expect ") => "
    return .function parameters (← type)

/-- Reads an object behind its first brace. -/
def object : TextReader TypeExpr := do
  if ← accepts "\x7d" then return .object []
  else
    expect " "
    let members ← separated "; " (member type)
    expect " \x7d"
    return .object members

/-- What a name makes of a type that follows it in angle brackets. -/
def applied (name : String) (item : TypeExpr) : Option TypeExpr :=
  if name = "Array" then some (.array item)
  else if name = "Promise" then some (.promise item)
  else if name = "AsyncIterator" then some (.asyncIterator item)
  else none

/-- Reads a name, or a name and the type that it is applied to. -/
def reference : TextReader TypeExpr := do
  let name ← word
  if ← accepts "<" then
    let item ← type
    expect ">"
    applied name item
  else return .named name

/-- Reads an alternative of a union, or a function that is no alternative of another type. -/
def alternative : TextReader TypeExpr := do
  if ← accepts "(" then
    if ← accepts "(" then
      let inner ← function type
      expect ")"
      return inner
    else function type
  else if ← accepts "\x7b" then object type
  else if ← accepts "\"" then return .literal (← literal)
  else reference type

end

/-- The type that is written by its alternatives. -/
def ofAlternatives : List TypeExpr → TypeExpr
  | [type] => type
  | types => .union types

/-- Reads a type that is nested at most so deep. -/
def typeWithin : Nat → TextReader TypeExpr
  | 0 => failure
  | depth + 1 => return ofAlternatives (← separated " | " (alternative (typeWithin depth)))

/-- Reads a type.  No type is nested deeper than its text is long. -/
def type : TextReader TypeExpr := do
  let chars ← get
  typeWithin (chars.length + 1)

/-! ### What follows a type -/

/-- A text may follow an alternative of a union. -/
def EndsAlternative (rest : List Char) : Prop :=
  endsWord rest = true ∧ "<".toList.isPrefixOf rest = false

/-- A text may follow a type. -/
def EndsType (rest : List Char) : Prop :=
  EndsAlternative rest ∧ " | ".toList.isPrefixOf rest = false

/-! ### What the readers read -/

section

variable {reader : TextReader TypeExpr} {rest : List Char}

theorem parameter_run {p : Parameter TypeExpr} (hn : IsWord p.name)
    (ht : reader.run (p.type.render.toList ++ rest) = some (p.type, rest)) :
    (parameter reader).run (p.render.toList ++ rest) = some (p, rest) := by
  simp only [Parameter.render, String.toList_append, List.append_assoc]
  rw [parameter, bind_run (word_run hn rfl), bind_run expect_run, bind_run ht]
  rfl

theorem member_run {m : Member TypeExpr} (hn : IsWord m.name)
    (ht : reader.run (m.type.render.toList ++ rest) = some (m.type, rest)) :
    (member reader).run (m.render.toList ++ rest) = some (m, rest) := by
  obtain ⟨name, optional, type⟩ := m
  simp only [Member.render, String.toList_append, List.append_assoc]
  cases optional with
  | false =>
      have h : "?".toList.isPrefixOf (": ".toList ++ (type.render.toList ++ rest)) = false := rfl
      rw [member, bind_run (word_run hn rfl)]
      simp only [optionalMark, Bool.false_eq_true, if_false, String.toList_empty, List.nil_append]
      rw [bind_run (accepts_run_of_not_isPrefixOf h), bind_run expect_run, bind_run ht]
      rfl
  | true =>
      rw [member, bind_run (word_run hn rfl)]
      simp only [optionalMark, if_true]
      rw [bind_run accepts_run, bind_run expect_run, bind_run ht]
      rfl

/-- The text of a word does not go on with a text that begins otherwise. -/
theorem not_isPrefixOf_word {text word : String} {c : Char} {cs : List Char}
    (ht : text.toList = c :: cs) (hc : isWordChar c = false) (hw : IsWord word) :
    text.toList.isPrefixOf (word.toList ++ rest) = false := by
  obtain ⟨d, ds, hd⟩ := List.exists_cons_of_ne_nil hw.1
  have hword := hw.2 d (hd ▸ List.mem_cons_self)
  rw [ht, hd, List.cons_append, List.isPrefixOf]
  have hne : (c == d) = false := beq_eq_false_iff_ne.mpr fun heq => by simp_all
  rw [hne, Bool.false_and]

theorem function_run {parameters : List (Parameter TypeExpr)} {result : TypeExpr}
    (hn : ∀ p ∈ parameters, IsWord p.name)
    (hp : ∀ p ∈ parameters, ∀ rest, EndsType rest →
      reader.run (p.type.render.toList ++ rest) = some (p.type, rest))
    (hr : reader.run (result.render.toList ++ rest) = some (result, rest)) :
    (function reader).run
      ((renderParameters parameters ++ ") => " ++ result.render).toList ++ rest) =
        some (.function parameters result, rest) := by
  simp only [String.toList_append, List.append_assoc]
  cases parameters with
  | nil =>
      rw [function, renderParameters, String.toList_empty, List.nil_append, bind_run accepts_run,
        if_pos rfl, bind_run hr]
      rfl
  | cons p parameters =>
      have hfirst : ") => ".toList.isPrefixOf ((renderParameters (p :: parameters)).toList ++
          (") => ".toList ++ (result.render.toList ++ rest))) = false := by
        rw [renderParameters_cons, Parameter.render]
        simp only [String.toList_append, List.append_assoc]
        exact not_isPrefixOf_word rfl rfl (hn p List.mem_cons_self)
      rw [function, bind_run (accepts_run_of_not_isPrefixOf hfirst), renderParameters_cons]
      rw [if_neg Bool.false_ne_true, bind_run (separated_run EndsType (by decide)
        (fun _ => ⟨⟨rfl, rfl⟩, rfl⟩)
        (fun q hq rest h => parameter_run (hn q hq) (hp q hq rest h)) ⟨⟨rfl, rfl⟩, rfl⟩ rfl),
        bind_run expect_run, bind_run hr]
      rfl

theorem object_run {m : Member TypeExpr} {members : List (Member TypeExpr)}
    (hn : ∀ x ∈ m :: members, IsWord x.name)
    (hm : ∀ x ∈ m :: members, ∀ rest, EndsType rest →
      reader.run (x.type.render.toList ++ rest) = some (x.type, rest)) :
    (object reader).run ((" " ++ renderMembers (m :: members) ++ " \x7d").toList ++ rest) =
      some (.object (m :: members), rest) := by
  simp only [String.toList_append, List.append_assoc]
  have hfirst : "\x7d".toList.isPrefixOf
      (" ".toList ++ ((renderMembers (m :: members)).toList ++ (" \x7d".toList ++ rest))) = false :=
    rfl
  rw [object, bind_run (accepts_run_of_not_isPrefixOf hfirst), if_neg Bool.false_ne_true,
    bind_run expect_run, renderMembers_cons,
    bind_run (separated_run EndsType (by decide) (fun _ => ⟨⟨rfl, rfl⟩, rfl⟩)
      (fun x hx rest h => member_run (hn x hx) (hm x hx rest h)) ⟨⟨rfl, rfl⟩, rfl⟩ rfl),
    bind_run expect_run]
  rfl

theorem reference_run_named {name : String} (hn : IsWord name) (hr : EndsAlternative rest) :
    (reference reader).run (name.toList ++ rest) = some (.named name, rest) := by
  rw [reference, bind_run (word_run hn hr.1), bind_run (accepts_run_of_not_isPrefixOf hr.2)]
  rfl

theorem alternative_run_word {name : String} (hn : IsWord name) :
    (alternative reader).run (name.toList ++ rest) =
      (reference reader).run (name.toList ++ rest) := by
  rw [alternative, bind_run (accepts_run_of_not_isPrefixOf (not_isPrefixOf_word rfl rfl hn)),
    if_neg Bool.false_ne_true,
    bind_run (accepts_run_of_not_isPrefixOf (not_isPrefixOf_word rfl rfl hn)),
    if_neg Bool.false_ne_true,
    bind_run (accepts_run_of_not_isPrefixOf (not_isPrefixOf_word rfl rfl hn)),
    if_neg Bool.false_ne_true]

theorem alternative_run_applied {name : String} (hn : IsWord name) {item type : TypeExpr}
    (ht : applied name item = some type) (hi : ∀ rest, EndsType rest →
      reader.run (item.render.toList ++ rest) = some (item, rest)) :
    (alternative reader).run ((name ++ "<" ++ item.render ++ ">").toList ++ rest) =
      some (type, rest) := by
  simp only [String.toList_append, List.append_assoc]
  rw [alternative_run_word hn, reference, bind_run (word_run hn rfl), bind_run accepts_run,
    if_pos rfl, bind_run (hi _ ⟨⟨rfl, rfl⟩, rfl⟩), bind_run expect_run, ht]
  rfl

/-- A function is read without its parentheses and in them. -/
theorem alternative_run_function {parameters : List (Parameter TypeExpr)} {result : TypeExpr}
    (hn : ∀ p ∈ parameters, IsWord p.name)
    (hp : ∀ p ∈ parameters, ∀ rest, EndsType rest →
      reader.run (p.type.render.toList ++ rest) = some (p.type, rest))
    (hr : ∀ rest, EndsType rest →
      reader.run (result.render.toList ++ rest) = some (result, rest)) :
    (EndsType rest → (alternative reader).run
        ((TypeExpr.function parameters result).render.toList ++ rest) =
          some (.function parameters result, rest)) ∧
      (alternative reader).run ((TypeExpr.function parameters result).operand.toList ++ rest) =
        some (.function parameters result, rest) := by
  constructor
  · intro hrest
    have hinner : "(".toList.isPrefixOf
        ((renderParameters parameters ++ ") => " ++ result.render).toList ++ rest) = false := by
      simp only [String.toList_append, List.append_assoc]
      cases parameters with
      | nil =>
          rw [renderParameters]
          rfl
      | cons p parameters =>
          rw [renderParameters_cons, Parameter.render]
          simp only [String.toList_append, List.append_assoc]
          exact not_isPrefixOf_word rfl rfl (hn p List.mem_cons_self)
    have htext : (TypeExpr.function parameters result).render =
        "(" ++ (renderParameters parameters ++ ") => " ++ result.render) := by
      simp only [TypeExpr.render, String.append_assoc]
    rw [htext, String.toList_append, List.append_assoc, alternative, bind_run accepts_run,
      if_pos rfl, bind_run (accepts_run_of_not_isPrefixOf hinner), if_neg Bool.false_ne_true,
      function_run hn hp (hr rest hrest)]
  · have htext : (TypeExpr.function parameters result).operand =
        "(" ++ ("(" ++ ((renderParameters parameters ++ ") => " ++ result.render) ++ ")")) := by
      simp only [TypeExpr.operand, TypeExpr.needsParentheses, if_true, TypeExpr.render,
        String.append_assoc]
    rw [htext, String.toList_append, String.toList_append, List.append_assoc, List.append_assoc,
      alternative, bind_run accepts_run, if_pos rfl, bind_run accepts_run, if_pos rfl,
      String.toList_append, List.append_assoc,
      bind_run (function_run hn hp (hr _ ⟨⟨rfl, rfl⟩, rfl⟩)), bind_run expect_run]
    rfl

theorem alternative_run_literal (value : String) :
    (alternative reader).run ((TypeExpr.literal value).render.toList ++ rest) =
      some (.literal value, rest) := by
  have htext : (TypeExpr.literal value).render.toList ++ rest =
      "\"".toList ++ (escapeChars value.toList ++ '"' :: rest) := by
    simp [TypeExpr.render, quote]
  rw [htext, alternative, bind_run (accepts_run_of_not_isPrefixOf rfl),
    if_neg Bool.false_ne_true, bind_run (accepts_run_of_not_isPrefixOf rfl),
    if_neg Bool.false_ne_true, bind_run accepts_run, if_pos rfl, bind_run (literal_run value)]
  rfl

theorem alternative_run_object {members : List (Member TypeExpr)}
    (hn : ∀ m ∈ members, IsWord m.name)
    (hm : ∀ m ∈ members, ∀ rest, EndsType rest →
      reader.run (m.type.render.toList ++ rest) = some (m.type, rest)) :
    (alternative reader).run ((TypeExpr.object members).render.toList ++ rest) =
      some (.object members, rest) := by
  cases members with
  | nil =>
      have htext : (TypeExpr.object []).render.toList ++ rest =
          "\x7b".toList ++ ("\x7d".toList ++ rest) := rfl
      rw [htext, alternative, bind_run (accepts_run_of_not_isPrefixOf rfl),
        if_neg Bool.false_ne_true, bind_run accepts_run, if_pos rfl, object,
        bind_run accepts_run]
      rfl
  | cons m members =>
      have htext : (TypeExpr.object (m :: members)).render =
          "\x7b" ++ (" " ++ renderMembers (m :: members) ++ " \x7d") := by
        have hopen : "\x7b " = "\x7b" ++ " " := rfl
        rw [TypeExpr.render, hopen]
        simp only [String.append_assoc]
      rw [htext, String.toList_append, List.append_assoc, alternative,
        bind_run (accepts_run_of_not_isPrefixOf rfl), if_neg Bool.false_ne_true,
        bind_run accepts_run, if_pos rfl, object_run hn hm]

/-- A type that is no function is written in a union as it stands alone. -/
theorem alternative_run_plain {type : TypeExpr} (hf : type.FormedBy IsWord)
    (hunion : ∀ members, type ≠ .union members)
    (hfunction : ∀ parameters result, type ≠ .function parameters result)
    (hparts : ∀ part ∈ type.parts, ∀ rest, EndsType rest →
      reader.run (part.render.toList ++ rest) = some (part, rest))
    (hrest : EndsAlternative rest) :
    (alternative reader).run (type.render.toList ++ rest) = some (type, rest) := by
  cases type with
  | named name =>
      rw [TypeExpr.render, alternative_run_word hf, reference_run_named hf hrest]
  | literal value => exact alternative_run_literal value
  | array item =>
      have hword : IsWord "Array" := by decide
      exact alternative_run_applied hword rfl (hparts item List.mem_cons_self)
  | union members => exact absurd rfl (hunion members)
  | promise value =>
      have hword : IsWord "Promise" := by decide
      exact alternative_run_applied hword rfl (hparts value List.mem_cons_self)
  | asyncIterator item =>
      have hword : IsWord "AsyncIterator" := by decide
      exact alternative_run_applied hword rfl (hparts item List.mem_cons_self)
  | function parameters result => exact absurd rfl (hfunction parameters result)
  | object members =>
      exact alternative_run_object (fun m hm => (hf m hm).isWord)
        fun m hm => hparts m.type (List.mem_map_of_mem hm)

/-- A type that is no union is read as it stands alone, and as it stands in a union. -/
theorem alternative_run {type : TypeExpr} (hf : type.FormedBy IsWord)
    (hunion : ∀ members, type ≠ .union members)
    (hparts : ∀ part ∈ type.parts, ∀ rest, EndsType rest →
      reader.run (part.render.toList ++ rest) = some (part, rest)) :
    (EndsType rest →
      (alternative reader).run (type.render.toList ++ rest) = some (type, rest)) ∧
    (EndsAlternative rest →
      (alternative reader).run (type.operand.toList ++ rest) = some (type, rest)) := by
  by_cases hfunction : ∃ parameters result, type = .function parameters result
  · obtain ⟨parameters, result, rfl⟩ := hfunction
    have hword (p : Parameter TypeExpr) (hp : p ∈ parameters) : IsWord p.name := (hf p hp).isWord
    have hp (p : Parameter TypeExpr) (hp : p ∈ parameters) :=
      hparts p.type (List.mem_append_left _ (List.mem_map_of_mem hp))
    have hr := hparts result (List.mem_append_right _ List.mem_cons_self)
    exact ⟨(alternative_run_function hword hp hr).1,
      fun _ => (alternative_run_function hword hp hr).2⟩
  · have hfunction (parameters : List (Parameter TypeExpr)) (result : TypeExpr) :
        type ≠ .function parameters result := fun h => hfunction ⟨parameters, result, h⟩
    have hoperand : type.operand = type.render := by
      cases type with
      | function parameters result => exact absurd rfl (hfunction parameters result)
      | _ => rfl
    rw [hoperand]
    exact ⟨fun h => alternative_run_plain hf hunion hfunction hparts h.1,
      alternative_run_plain hf hunion hfunction hparts⟩

/-! ### The text of a type -/

theorem length_render_le_of_mem {α : Type} (render : α → String) (separator : String)
    {x first : α} {items : List α} (h : x ∈ first :: items) : (render x).length ≤
      (render first ++ String.join (items.map fun y => separator ++ render y)).length := by
  rw [String.length_append]
  rcases List.mem_cons.mp h with rfl | h
  · exact Nat.le_add_right _ _
  · induction items with
    | nil => cases h
    | cons y items ih =>
        simp only [List.map_cons, String.join_cons, String.length_append]
        rcases List.mem_cons.mp h with rfl | h
        · omega
        · have := ih (List.mem_cons_of_mem first h) h
          omega

theorem length_render_le_operand (type : TypeExpr) : type.render.length ≤ type.operand.length := by
  unfold TypeExpr.operand
  split
  · simp only [String.length_append]
    omega
  · exact Nat.le_refl _

/-- The text of an alternative is no longer than that of the union. -/
theorem length_render_le_union {type : TypeExpr} {members : List TypeExpr} (h : type ∈ members) :
    type.render.length ≤ (TypeExpr.union members).render.length := by
  obtain ⟨first, rest, rfl⟩ := List.exists_cons_of_ne_nil (List.ne_nil_of_mem h)
  rw [TypeExpr.render, renderAlternatives_cons]
  exact Nat.le_trans (length_render_le_operand type)
    (length_render_le_of_mem TypeExpr.operand " | " h)

theorem length_lt_applied (name argument : String) :
    argument.length < (name ++ "<" ++ argument ++ ">").length := by
  have : ">".length = 1 := rfl
  simp only [String.length_append]
  omega

/-- The text of a part of a type that is no union is shorter than the text of the type. -/
theorem length_render_lt_of_mem_parts {part type : TypeExpr} (h : part ∈ type.parts)
    (hunion : ∀ members, type ≠ .union members) : part.render.length < type.render.length := by
  cases type with
  | named name => cases h
  | literal value => cases h
  | array item =>
      obtain rfl := List.mem_singleton.mp h
      exact length_lt_applied "Array" _
  | union members => exact absurd rfl (hunion members)
  | promise value =>
      obtain rfl := List.mem_singleton.mp h
      exact length_lt_applied "Promise" _
  | asyncIterator item =>
      obtain rfl := List.mem_singleton.mp h
      exact length_lt_applied "AsyncIterator" _
  | function parameters result =>
      have : "(".length = 1 := rfl
      rcases List.mem_append.mp h with h | h
      · obtain ⟨p, hp, rfl⟩ := List.mem_map.mp h
        obtain ⟨first, rest, rfl⟩ := List.exists_cons_of_ne_nil (List.ne_nil_of_mem hp)
        have hlen := length_render_le_of_mem Parameter.render ", " hp
        rw [← renderParameters_cons, Parameter.render] at hlen
        simp only [TypeExpr.render, String.length_append] at hlen ⊢
        omega
      · obtain rfl := List.mem_singleton.mp h
        simp only [TypeExpr.render, String.length_append]
        omega
  | object members =>
      have : " \x7d".length = 2 := rfl
      obtain ⟨m, hm, rfl⟩ := List.mem_map.mp h
      obtain ⟨first, rest, rfl⟩ := List.exists_cons_of_ne_nil (List.ne_nil_of_mem hm)
      have hlen := length_render_le_of_mem Member.render "; " hm
      rw [← renderMembers_cons, Member.render] at hlen
      simp only [TypeExpr.render, String.length_append] at hlen ⊢
      omega

/-! ### The round trip -/

theorem typeWithin_run_of_separated {depth : Nat} {chars : List Char} {types : List TypeExpr}
    (h : (separated " | " (alternative (typeWithin depth))).run chars = some (types, rest)) :
    (typeWithin (depth + 1)).run chars = some (ofAlternatives types, rest) := by
  rw [typeWithin, bind_run h]
  rfl

/-- A type is read at every depth that its text is not longer than: the whole type in front of what
may follow it, and each type that is no union as an alternative. -/
theorem typeWithin_run (type : TypeExpr) : type.WellFormed IsWord → ∀ depth,
    type.render.length ≤ depth →
    (∀ rest, EndsType rest →
      (typeWithin (depth + 1)).run (type.render.toList ++ rest) = some (type, rest)) ∧
    ((∀ members, type ≠ .union members) → ∀ rest, EndsAlternative rest →
      (alternative (typeWithin depth)).run (type.operand.toList ++ rest) = some (type, rest)) := by
  induction type using TypeExpr.induction_parts with
  | h type ih =>
    intro hf depth hdepth
    obtain ⟨hform, hformed⟩ := TypeExpr.wellFormed_iff.mp hf
    by_cases hunion : ∃ members, type = .union members
    · -- the alternatives are read at the depth of the union, each as it stands in one
      obtain ⟨members, rfl⟩ := hunion
      refine ⟨fun rest hrest => ?_, fun h => absurd rfl (h members)⟩
      have hmembers (m : TypeExpr) (hm : m ∈ members) (rest : List Char)
          (hr : EndsAlternative rest) :
          (alternative (typeWithin depth)).run (m.operand.toList ++ rest) = some (m, rest) :=
        (ih m hm (hformed m hm) depth (Nat.le_trans (length_render_le_union hm) hdepth)).2
          (hform.2.2 m hm) rest hr
      obtain ⟨first, second, others, rfl⟩ : ∃ a b l, members = a :: b :: l := by
        match members, hform.1 with
        | a :: b :: l, _ => exact ⟨a, b, l, rfl⟩
      rw [TypeExpr.render, renderAlternatives_cons]
      exact typeWithin_run_of_separated (separated_run EndsAlternative (by decide)
        (fun _ => ⟨rfl, rfl⟩) hmembers hrest.1 hrest.2)
    · -- the text of a part is shorter, so that one depth less is enough for it
      have hunion (members : List TypeExpr) : type ≠ .union members :=
        fun h => hunion ⟨members, h⟩
      have hparts (part : TypeExpr) (hp : part ∈ type.parts) (rest : List Char)
          (hr : EndsType rest) :
          (typeWithin depth).run (part.render.toList ++ rest) = some (part, rest) := by
        have hlt := length_render_lt_of_mem_parts hp hunion
        obtain ⟨depth, rfl⟩ : ∃ k, depth = k + 1 := ⟨depth - 1, by omega⟩
        exact (ih part hp (hformed part hp) depth (by omega)).1 rest hr
      refine ⟨fun rest hrest => ?_, fun _ rest => (alternative_run hform hunion hparts).2⟩
      exact typeWithin_run_of_separated
        (separated_run_singleton ((alternative_run hform hunion hparts).1 hrest) hrest.2)

/-- The text of a well-formed type is read as that type. -/
theorem type_run {t : TypeExpr} (ht : t.WellFormed IsWord) (hr : EndsType rest) :
    type.run (t.render.toList ++ rest) = some (t, rest) := by
  have hlen : t.render.length ≤ (t.render.toList ++ rest).length := by
    rw [List.length_append, String.length_toList]
    exact Nat.le_add_right _ _
  have hget (chars : List Char) : (get : TextReader (List Char)).run chars = some (chars, chars) :=
    rfl
  rw [type, bind_run (hget _), (typeWithin_run t ht _ hlen).1 rest hr]

end

end TextReader

namespace TypeExpr

/-- Reads a text as a type. -/
def read (text : String) : Option TypeExpr :=
  match TextReader.type.run text.toList with
  | some (type, []) => some type
  | _ => none

/-- The text of a well-formed type is read as that type. -/
theorem read_render {type : TypeExpr} (h : type.WellFormed IsWord) :
    read type.render = some type := by
  have hend : TextReader.EndsType [] := ⟨⟨rfl, rfl⟩, rfl⟩
  have hrun := TextReader.type_run h hend
  rw [List.append_nil] at hrun
  rw [read, hrun]

/-- A function in a union stands between parentheses. -/
example : read "Promise<(() => A) | B>" =
    some (.promise (.union [.function [] (.named "A"), .named "B"])) := by
  decide +kernel

/-- The text of a type loses nothing of it: a well-formed type whose names are identifiers is read
off its text, and no other such type has the same text. -/
theorem read_render_and_eq_of_render_eq {a b : TypeExpr} (ha : a.WellFormed IsIdentifier)
    (hb : b.WellFormed IsIdentifier) :
    read a.render = some a ∧ (a.render = b.render → a = b) := by
  have hread {type : TypeExpr} (h : type.WellFormed IsIdentifier) :
      read type.render = some type :=
    read_render (h.mono fun _ _ hname => hname.isWord)
  refine ⟨hread ha, fun h => ?_⟩
  have hsame : some a = some b := by rw [← hread ha, h, hread hb]
  exact Option.some.inj hsame

/-- A parameter whose type is an object with a member that may be missing, the member's type being a
string with quotes and a backslash in it. -/
def taggedParameter : Parameter TypeExpr :=
  ⟨"kind", .object [⟨"tag", true, .literal "A\" | \"B\\"⟩]⟩

/-- A union of a function and another type. -/
def functionOrOther : TypeExpr := .union [.function [taggedParameter] .string, .named "Other"]

/-- A function whose result is a union.  Its text is that of `functionOrOther` without the
parentheses around the function. -/
def functionToEither : TypeExpr := .function [taggedParameter] (.union [.string, .named "Other"])

theorem render_functionOrOther_ne : functionOrOther.WellFormed IsIdentifier ∧
    functionToEither.WellFormed IsIdentifier ∧
    read functionOrOther.render = some functionOrOther ∧
    functionOrOther.render ≠ functionToEither.render := by
  have hstring : string.WellFormed IsIdentifier := wellFormed_named (by decide)
  have hother : (named "Other").WellFormed IsIdentifier := wellFormed_named (by decide)
  have hfunction {result : TypeExpr} (hr : result.WellFormed IsIdentifier) :
      (function [taggedParameter] result).WellFormed IsIdentifier := by
    refine wellFormed_function (by decide) (fun p hp => ?_) hr
    obtain rfl := List.mem_singleton.mp hp
    refine wellFormed_object (by decide) fun m hm => ?_
    exact List.mem_singleton.mp hm ▸ wellFormed_literal _
  have ha : functionOrOther.WellFormed IsIdentifier := by
    refine wellFormed_iff.mpr ⟨⟨by decide, by simp, by simp⟩, fun part hp => ?_⟩
    rcases List.mem_cons.mp hp with rfl | hp
    · exact hfunction hstring
    · exact List.mem_singleton.mp hp ▸ hother
  have hb : functionToEither.WellFormed IsIdentifier := by
    refine hfunction (wellFormed_iff.mpr ⟨⟨by decide, by simp [string], by simp [string]⟩, ?_⟩)
    intro part hp
    rcases List.mem_cons.mp hp with rfl | hp
    · exact hstring
    · exact List.mem_singleton.mp hp ▸ hother
  obtain ⟨hread, heq⟩ := read_render_and_eq_of_render_eq ha hb
  exact ⟨ha, hb, hread, fun h => nomatch heq h⟩

end TypeExpr

end ResolverTypes.TypeScript
