import ResolverTypes.Layout.Grammar

/-!
# Names, patterns and parameters of a module

What a declaration binds: a variable, or the items of a list and the properties of an object that
are bound in turn.  The parameters of a function are patterns with types.

## Main definitions

* `ModuleReader.variableName` : the name of a variable.
* `ModuleReader.PropertyName`, `ModuleReader.propertyName` : the name of a property.
* `ModuleReader.patternOf` : a pattern.
* `ModuleReader.asPatternOf` : a value that is read again as a pattern.
* `ModuleReader.parameters` : the parameters of a function.
-/

namespace ResolverTypes.Layout

namespace ModuleReader

/-! ### Names -/

/-- A text between backquotes. -/
def inBackquotes (text : String) : String := "`" ++ text ++ "`"

/-- Notes that a word is no variable where the rules are strict. -/
def noteStrict (place : ModulePlace) (word : String) : ModuleReader Unit :=
  note place (inBackquotes word ++ " cannot be used as an identifier in strict mode")

/-- Reads the name of a variable that is used. -/
def usedName : ModuleReader String := do
  let token ← needed
  if !token.isAnyWord then stopHere nameExpected
  let word := token.text
  discard pop
  if word == "enum" || strictWords.contains word then noteStrict token.start word
  else if word == "await" then
    unless (← context).isDeclared do
      stopAt token.start
        (inBackquotes "await" ++ " cannot be used as an identifier in an async context")
  else if reservedWords.contains word && word != "this" then stopAt token.start nameExpected
  if word == "arguments" && (← context).inField then
    note token.start "'arguments' is only allowed in functions and class methods"
  return word

/-- Notes that a word names no variable that is bound. -/
def noteBound (place : ModulePlace) (word : String) : ModuleReader Unit := do
  if word == "arguments" || word == "eval" then
    note place "'eval' and 'arguments' cannot be used as a binding identifier in strict mode"

/-- What is wrong where `let` is the name of what is declared. -/
def letProblem : String := "let is reserved in const, let, class declaration"

/-- Reads the name of a variable that is bound. -/
def variableName : ModuleReader Layout := do
  let start ← here
  let word ← usedName
  noteBound start word
  return .run [.before start.offset, .text word]

/-- Reads a name that only the class around knows, with its mark. -/
def privateName : ModuleReader String := do
  let token ← pop
  if (← here).offset != token.stop then
    stopAt token.start "Unexpected space between # and identifier"
  name

/-- The name of a property. -/
structure PropertyName where
  /-- How it is laid out. -/
  layout : Layout
  /-- The name, if it is written as such. -/
  plain : Option String := none
  /-- Where it starts. -/
  start : ModulePlace
deriving Inhabited

/-- Reads a value in square brackets as the name of a property. -/
def computedName (g : Grammar) : ModuleReader Layout := do
  mark "["
  let start ← here
  let first ← within (fun c => { c with withoutIn := false }) g.value
  let rest ← many (atMark ",") (pop *> g.value)
  unless rest.isEmpty do
    note start "A comma expression is not allowed in a computed property name"
  mark "]"
  return .run [.text "[", .commas ((first :: rest).map (·.layout)), .text "]"]

/-- Reads the name of a property: a word, a string, a number or a value in square brackets. -/
def propertyName (g : Grammar) : ModuleReader PropertyName := do
  let token ← needed
  match token.kind with
  | .word => return ⟨← written, some token.text, token.start⟩
  | .string | .number | .bigint => return ⟨← written, none, token.start⟩
  | _ =>
      if token.isMark "[" then return ⟨← phrase (computedName g), none, token.start⟩
      stopUnexpected "identifier, string literal, numeric literal or [ for the computed key"

/-! ### Modifiers -/

/-- Whether the word that comes next modifies the one behind it: something follows that the word
can modify, on the same line. -/
def modifies : ModuleReader Bool := do
  let next ← peekSecond
  return !next.onNewLine &&
    (next.isAnyWord || [ModuleTokenKind.string, .number, .bigint].contains next.kind ||
      next.isOneOf ["[", "\x7b", "*", "...", "#"])

/-- Reads a modifier of a list, if one comes next. -/
def modifier? (allowed : List String) : ModuleReader (Option ModuleToken) := do
  let token ← peek
  if token.isAnyWord && allowed.contains token.text && (← modifies) then return some (← pop)
  return none

/-- Reads a modifier of a parameter, and says whether there was one. -/
def eatParameterModifier : ModuleReader Bool := do
  let token ← peek
  let next ← peekSecond
  if token.isAnyWord && ["public", "protected", "private", "readonly"].contains token.text
      && (next.isAnyWord || next.isOneOf ["\x7b", "["]) then
    discard (modifier? [token.text])
    return true
  return false

/-! ### Patterns -/

/-- A type behind a colon, if there is one. -/
def typeAnnotation (g : Grammar) : ModuleReader Layout := do
  let colon ← here
  if ← eatMark ":" then return .run [.text ": ", .before colon.offset, ← g.type]
  else return .nothing

/-- A value behind an equals sign, if there is one. -/
def assignedValue? (g : Grammar) : ModuleReader (Option Layout) := do
  if ← eatMark "=" then
    return some (← within (fun c => { c with withoutIn := false }) g.value).layout
  return none

/-- What is wrong with a value of a parameter of a function without a body. -/
def parameterValueProblem : String :=
  "A parameter initializer is only allowed in a function or constructor implementation"

/-- What is wrong with a comma behind what is left. -/
def commaAfterRest : String := "Trailing comma isn't permitted after a rest element"

/-- What is wrong with what is left in front of other items. -/
def restProblem : String := "Rest element must be final element"

/-- What is wrong with what is left and has a value for where there is none. -/
def restValueProblem : String := "A rest parameter cannot have an initializer"

/-- What is wrong with what is left and is not bound to a variable. -/
def restNameProblem : String :=
  inBackquotes "..." ++ " must be followed by an identifier in declaration contexts"

/-- A pattern with more behind it, which ends here. -/
def extendPattern (pattern : Pattern) (more : Layout) : ModuleReader Pattern :=
  return { pattern with core := .run [pattern.core, more], stop := (← get).stop.offset }

/-- A pattern with a value for where there is none, which ends here. -/
def assignPattern (pattern : Pattern) (value : Layout) : ModuleReader Pattern :=
  finishPhrase pattern.start .assigned (.run [pattern.layout, .text " = ", value])

/-- Reads a pattern, with a value for where there is none. -/
def patternWithValue (g : Grammar) : ModuleReader Pattern := do
  let left ← g.pattern
  match ← assignedValue? g with
  | none => return left
  | some value =>
      if (← context).isDeclared then note left.start parameterValueProblem
      assignPattern left value

/-- Items in square brackets; an item that is left out is none. -/
def arrayPatternLayout (items : List (Option Layout)) (hasComma : Bool) : Layout :=
  let shown := Layout.commas (items.map fun item => item.getD .nothing)
  .run [.text "[", shown, .text (if hasComma && !items.isEmpty then ", ]" else "]")]

/-- Properties in braces. -/
def objectPatternLayout (items : List Layout) (hasComma : Bool) : Layout :=
  if items.isEmpty then .text "\x7b \x7d"
  else .run [.text "\x7b ", .commas items, .text (if hasComma then ",  \x7d" else " \x7d")]

/-- Reads the items of a list that are bound, for a number of rounds: an item that is left out is
none. -/
def arrayPatternRounds (g : Grammar) :
    Nat → Option ModulePlace → List (Option Layout) → ModuleReader (List (Option Layout))
  | 0, _, items => return items.reverse
  | rounds + 1, rest?, items => do
      if ← atMark "]" then return items.reverse
      if ← eatMark "," then arrayPatternRounds g rounds rest? (none :: items)
      else
        if let some place := rest? then note place restProblem
        let start ← here
        let isRest ← eatMark "..."
        let item ← if isRest then g.pattern else patternWithValue g
        let layout := if isRest then Layout.run [.text "...", item.layout] else item.layout
        unless ← atMark "]" do
          let comma ← here
          mark ","
          if isRest && (← atMark "]") then note comma commaAfterRest
        let layout := Layout.run [.before start.offset, layout]
        arrayPatternRounds g rounds (if isRest then some start else none) (some layout :: items)

/-- Reads the items of a list that are bound. -/
def arrayPattern (g : Grammar) : ModuleReader Layout := do
  mark "["
  let items ← arrayPatternRounds g (← rounds) none []
  let hasComma ← followsComma
  mark "]"
  return arrayPatternLayout items hasComma

/-- Reads a property of an object that is bound, and says where what is left starts. -/
def propertyPattern (g : Grammar) : ModuleReader (Layout × Option Pattern) := do
  let start ← here
  if ← eatMark "..." then
    let inner ← g.pattern
    return (.run [.before start.offset, .text "...", inner.layout], some { inner with start })
  let key ← propertyName g
  if ← eatMark ":" then
    let inner ← patternWithValue g
    return (.run [key.layout, .text ": ", inner.layout], none)
  if key.plain.isNone then stopUnexpected "an identifier"
  match ← assignedValue? g with
  | some value => return (.run [key.layout, .text " = ", value], none)
  | none => return (key.layout, none)

/-- Reads the properties of an object that are bound. -/
def objectPattern (g : Grammar) : ModuleReader Layout := do
  mark "\x7b"
  let found ← many (return !(← atMark "\x7d")) do
    let (layout, rest?) ← propertyPattern g
    let stop := (← get).stop.offset
    let comma ← here
    unless ← atMark "\x7d" do mark ","
    return (Layout.run [layout, .close stop], rest?, comma)
  let hasComma ← followsComma
  mark "\x7d"
  for (_, rest?, _) in found.dropLast do
    if let some rest := rest? then note rest.start restProblem
  if let some (_, some rest, comma) := found.getLast? then
    match rest.form with
    | .name _ =>
        if comma.offset + 1 < (← get).stop.offset then note comma commaAfterRest
    | _ => stopAt rest.start restNameProblem
  return objectPatternLayout (found.map (·.1)) hasComma

/-- Reads the question mark behind a pattern that is only declared, if there is one. -/
def declaredOptional : ModuleReader Layout := do
  let isOptional ← if (← context).isDeclared then eatMark "?" else pure false
  return .text (if isOptional then "?" else "")

/-- A pattern. -/
def patternOf (g : Grammar) : ModuleReader Pattern := do
  let token ← needed
  let start := token.start
  if token.isAnyWord then
    finishPhrase start (.name token.text) (← variableName)
  else if token.isMark "[" then
    let layout ← phrase (arrayPattern g)
    finishPhrase start .array (.run [layout, ← declaredOptional])
  else if token.isMark "\x7b" then
    let layout ← phrase (objectPattern g)
    finishPhrase start .object (.run [layout, ← declaredOptional])
  else stopUnexpected "yield, an identifier, [ or \x7b"

/-! ### Values as patterns -/

/-- What is wrong with what cannot be assigned to. -/
def targetProblem : String :=
  "The left-hand side of an assignment expression must be a variable or a property access."

/-- What is wrong with what is no pattern. -/
def patternProblem : String := "Not a pattern"

/-- Notes that a value cannot be assigned to, unless it can; whether a call cannot is given. -/
def checkTarget (value : Value) (deniesCalls : Bool) : ModuleReader Unit := do
  match value.form with
  | .name "eval" => note value.start "Invalid use of 'arguments' in strict mode"
  | .name "arguments" => note value.start "Invalid use of 'arguments' in strict mode"
  | form =>
      if !form.isSimpleTarget && form.isDenied deniesCalls then note value.start targetProblem

/-- A value as a pattern of a form. -/
def placePattern (value : Value) (form : PatternForm) : Pattern :=
  ⟨value.core, form, value.start, value.stop⟩

/-- A value that is no pattern. -/
def invalidPattern (value : Value) : ModuleReader Pattern := do
  note value.start patternProblem
  return placePattern value .invalid

/-- The items of a list as patterns; `isLast` tells whether the last of them may stand for what is
left, in front of a comma or of none. -/
def arrayAsPattern (g : Grammar) (use : PatternUse) (isLast : Bool) (comma : Option ModulePlace) :
    List (Option (ArrayItem Value)) → ModuleReader (List (Option Layout))
  | [] => return []
  | none :: items => return none :: (← arrayAsPattern g use isLast comma items)
  | some item :: items => do
      match item.dots with
      | none =>
          let shown ← g.asPattern use.part item.given
          return some shown.layout :: (← arrayAsPattern g use isLast comma items)
      | some dots =>
          if !isLast || !items.isEmpty then
            note dots restProblem
            arrayAsPattern g use isLast comma items
          else
            match item.given.form with
            | .assignment _ _ _ => note dots restValueProblem
            | .destructuring _ _ => note dots restValueProblem
            | _ => pure ()
            if let some place := comma then note place commaAfterRest
            let shown ← g.asPattern use.part item.given
            return [some (.run [.before item.given.start.offset, .text "...", shown.layout])]

/-- What is left of an object as a pattern. -/
def spreadAsPattern (g : Grammar) (use : PatternUse) (start : ModulePlace) (given : Value) :
    ModuleReader Layout := do
  let shown ←
    match use, given.form with
    | .bound, .name _ => g.asPattern .bound given
    | .bound, _ => do
        note start restNameProblem
        pure (placePattern given .invalid)
    | _, _ => g.asPattern .assignedPart given
  if shown.form == .assigned then note start restValueProblem
  return .run [.text "...", shown.layout]

/-- The properties of an object as patterns; the comma behind the last is given. -/
def objectAsPattern (g : Grammar) (use : PatternUse) (comma : Option ModulePlace) :
    List Property → ModuleReader (List Layout)
  | [] => return []
  | property :: rest => do
      let shown ←
        match property.form with
        | .shorthand key => pure key
        | .assigned key given => pure (.run [key, .text " = ", given.layout])
        | .pair key given => do
            pure (.run [key, .text ": ", (← g.asPattern use.part given).layout])
        | .spread given => do
            if !rest.isEmpty then note property.start restProblem
            else if let some place := comma then note place commaAfterRest
            spreadAsPattern g use property.start given
        | .function => stopAt property.start patternProblem
      let shown := Layout.run [.before property.start.offset, shown, .close property.stop]
      return shown :: (← objectAsPattern g use comma rest)

/-- A value whose parts are bound or assigned to. -/
def partsAsPattern (g : Grammar) (use : PatternUse) (value : Value) : ModuleReader Pattern := do
  let place := Layout.before value.start.offset
  match value.form with
  | .array items comma hasComma =>
      let kept := (items.reverse.dropWhile Option.isNone).reverse
      let shown ← arrayAsPattern g use (kept.length == items.length) comma kept
      let layout := arrayPatternLayout shown (hasComma && !shown.isEmpty)
      return ⟨.run [place, layout], .array, value.start, value.stop⟩
  | .object items comma hasComma =>
      let shown ← objectAsPattern g use comma items
      return ⟨.run [place, objectPatternLayout shown hasComma], .object, value.start, value.stop⟩
  | .assignment "=" target given =>
      let left ← g.asPattern use target
      return ⟨.run [place, left.layout, .text " = ", given.layout], .assigned, value.start,
        value.stop⟩
  | .destructuring target given =>
      return ⟨.run [place, target.layout, .text " = ", given.layout], .assigned, value.start,
        value.stop⟩
  | .name word =>
      noteBound value.start word
      return placePattern value (.name word)
  | _ => invalidPattern value

/-- A value as a part of what is assigned to. -/
def partAsPattern (g : Grammar) (value : Value) : ModuleReader Pattern := do
  let placed : ModuleReader Pattern := do
    unless value.form.isSimpleTarget do note value.start "Cannot assign to this"
    return placePattern value .place
  match value.form with
  | .array _ _ _ => partsAsPattern g .assignedPart value
  | .object _ _ _ => partsAsPattern g .assignedPart value
  | .assignment _ _ _ => partsAsPattern g .assignedPart value
  | .destructuring _ _ => partsAsPattern g .assignedPart value
  | .name word => do
      discard placed
      return placePattern value (.name word)
  | .member => placed
  | .call => placed
  | .creation _ => placed
  | .number _ => placed
  | .string _ => placed
  | .literal => placed
  | .definition => placed
  | .parens _ => placed
  | .template _ => placed
  | .cast _ true => placed
  | _ => invalidPattern value

/-- A value that is read again as a pattern. -/
def asPatternOf (g : Grammar) (use : PatternUse) (value : Value) : ModuleReader Pattern := do
  match use, value.form with
  | .bound, _ => partsAsPattern g .bound value
  | .assignedPart, _ => partAsPattern g value
  | .assigned, .array _ _ _ => partsAsPattern g .assigned value
  | .assigned, .object _ _ _ => partsAsPattern g .assigned value
  | .assigned, .name word => do
      checkTarget value true
      return placePattern value (.name word)
  | .assigned, _ => do
      checkTarget value true
      return placePattern value .place

/-! ### Parameters -/

/-- What is wrong with the type of a pattern that has a value. -/
def typeBehindValue : String := "Type annotations must come before default assignments"

/-- What is wrong with parts of a value that may be left out. -/
def optionalPattern : String :=
  "A binding pattern parameter cannot be optional in an implementation signature."

/-- What is wrong with what is left and may be left out. -/
def optionalRest : String := "A rest parameter cannot be optional"

/-- Reads a parameter that stands for all arguments that are left. -/
def restParameter (g : Grammar) : ModuleReader Pattern := do
  let start ← here
  mark "..."
  let inner ← g.pattern
  let value ← assignedValue? g
  if value.isSome then note inner.start restValueProblem
  let shown ← match value with
    | some value => assignPattern inner value
    | none => pure inner
  let type ← typeAnnotation g
  let found ← finishPhrase start .rest (.run [.text "...", shown.layout, type])
  let question ← here
  if ← eatMark "?" then note question optionalRest
  return found

/-- What is wrong with modifiers of a parameter that is no property of a class. -/
def propertyParameterProblem : String :=
  "A parameter property is only allowed in a constructor implementation"

/-- Reads a parameter that stands for one argument. -/
def singleParameter (g : Grammar) : ModuleReader Pattern := do
  let start ← here
  let isModified ← eatParameterModifier
  let inner ← patternWithValue g
  let question ← here
  let isOptional ← eatMark "?"
  if isOptional && inner.form == .assigned && !(← context).isDeclared then
    stopAt question optionalPattern
  let isTyped ← atMark ":"
  let type ← typeAnnotation g
  if isTyped && inner.form == .assigned then note inner.start typeBehindValue
  let shown := Layout.run [.text (if isOptional then "?" else ""), type]
  let found ← if isOptional || isTyped then extendPattern inner shown else pure inner
  let value ← assignedValue? g
  if value.isSome then
    if isOptional then note inner.start "Parameter cannot have question mark and initializer"
    if (← context).isDeclared then note start parameterValueProblem
  if isModified then note start propertyParameterProblem
  match value with
  | some value => assignPattern found value
  | none => return found

/-- Reads parameters up to a closing parenthesis, which stays, for a number of rounds. -/
def parameterRounds (g : Grammar) (single : ModuleReader Pattern) :
    Nat → Option ModulePlace → List Pattern → ModuleReader (List Pattern)
  | 0, _, found => return found.reverse
  | rounds + 1, rest?, found => do
      if ← atMark ")" then return found.reverse
      if let some place := rest? then
        note place "A rest parameter must be last in a parameter list"
      let start ← here
      let isRest ← atMark "..."
      let parameter ← if isRest then restParameter g else single
      unless ← atMark ")" do
        let comma ← here
        mark ","
        if isRest && (← atMark ")") then note comma commaAfterRest
      parameterRounds g single rounds (if isRest then some start else rest?) (parameter :: found)

/-- Reads the parameters of a function up to a closing parenthesis, which stays. -/
def openParameters (g : Grammar) : ModuleReader (List Pattern) := do
  parameterRounds g (singleParameter g) (← rounds) none []

/-- Reads the parameters of a function up to a closing parenthesis, which is read too. -/
def parameters (g : Grammar) : ModuleReader (List Pattern) := do
  let found ← openParameters g
  mark ")"
  return found

/-- Parameters in parentheses, as those of a function with a body. -/
def parameterLayout (found : List Pattern) : Layout := .parens (found.map Phrase.layout)

end ModuleReader

end ResolverTypes.Layout
