import ResolverTypes.Layout.ObjectReader

/-!
# Assignments, parentheses and functions with arrows

A list in parentheses is read as values, each of which may carry a type like a parameter.  What
stands behind the closing parenthesis tells whether it was the head of a function with an arrow;
then its items are read again as parameters.

## Main definitions

* `ModuleReader.assignmentBehind` : what is assigned to a value.
* `ModuleReader.conditionBehind` : the values that a condition chooses from.
* `ModuleReader.ParenItem`, `ModuleReader.parenItem` : an item in parentheses.
* `ModuleReader.parenthesized` : a value in parentheses, a call of `async`, or a function with an
  arrow.
-/

namespace ResolverTypes.Layout

namespace ModuleReader

/-! ### Operators -/

/-- The marks that start with an angle bracket, the longest first. -/
def angleMarks : List String := [">>>=", ">>>", ">>=", ">>", ">=", "<<=", "<<", "<="]

/-- Takes to an angle bracket what stands behind it and belongs to the operator. -/
def widenAngle : ModuleReader Unit := do
  let s ← get
  if s.token.isOneOf ["<", ">"] then
    let all := s.token.text.toList ++ s.scan.rest.take 3
    match angleMarks.find? fun mark => mark.toList.isPrefixOf all with
    | some mark => widen .mark mark (mark.length - 1)
    | none => return

/-- How tightly an operator between two values binds. -/
def bindingStrength? (operator : String) : Option Nat :=
  [("||", 1), ("??", 1), ("&&", 2), ("|", 3), ("^", 4), ("&", 5), ("==", 6), ("!=", 6), ("===", 6),
    ("!==", 6), ("<", 7), ("<=", 7), (">", 7), (">=", 7), ("in", 7), ("instanceof", 7), ("<<", 8),
    (">>", 8), (">>>", 8), ("+", 9), ("-", 9), ("*", 10), ("/", 10), ("%", 10), ("**", 11)].lookup
    operator

/-- The operator between two values that comes next, if there is one, and how tightly it binds. -/
def atOperator? : ModuleReader (Option (String × Nat)) := do
  widenAngle
  let token ← peek
  let isOperator :=
    token.kind == .mark || token.isWord "instanceof" ||
      (token.isWord "in" && !(← context).withoutIn)
  if isOperator then return (bindingStrength? token.text).map fun n => (token.text, n)
  return none

/-! ### Assignments -/

/-- The operators of assignments. -/
def assignmentOperators : List String :=
  ["=", "+=", "-=", "*=", "/=", "%=", "**=", "<<=", ">>=", ">>>=", "&=", "|=", "^=", "&&=", "||=",
    "??="]

/-- What is wrong where nothing can be assigned to. -/
def invalidTarget : String := "Invalid assignment target"

/-- Notes that nothing can be assigned to a value by an operator that also reads it, unless
something can. -/
def checkUpdated (value : Value) : ModuleReader Unit := do
  match value.form with
  | .name "eval" => checkTarget value true
  | .name "arguments" => checkTarget value true
  | form => unless form.isSimpleTarget do note value.start targetProblem

/-- A value that is assigned by an operator, which comes next, to another. -/
def assignedBehind (g : Grammar) (operator : String) (target : Layout) (form : Value → ValueForm)
    (start : ModulePlace) : ModuleReader Value := do
  discard pop
  let given ← g.value
  finishValue start (form given)
    (.run [target, .text (" " ++ operator ++ " "), given.layout])

/-- What is assigned to a value, if an operator comes next that does so. -/
def assignmentBehind (g : Grammar) (value : Value) : ModuleReader Value := do
  let sign ← peek
  if sign.kind != .mark || !assignmentOperators.contains sign.text then return value
  let operator := sign.text
  let toParts : ModuleReader Value := do
    let target ← g.asPattern .assigned value
    assignedBehind g operator target.core (.destructuring target) value.start
  match operator, value.form with
  | "=", .array _ _ _ => toParts
  | "=", .object _ _ _ => toParts
  | _, form => do
      if operator == "=" then discard (g.asPattern .assigned value) else checkUpdated value
      unless form.isTarget do stopAt value.start invalidTarget
      assignedBehind g operator value.core (.assignment operator value) value.start

/-! ### Conditions -/

/-- The two values that a condition chooses from, behind the question mark. -/
def conditionBehind (g : Grammar) (test : Value) : ModuleReader Value := do
  let yes ← within (fun c => { c with awaitsColon := true, withoutIn := false }) g.value
  mark ":"
  let no ← within (fun c => { c with awaitsColon := false }) g.value
  finishValue test.start .conditional
    (.run [test.layout, .text " ? ", yes.layout, .text " : ", no.layout])

/-! ### Functions with arrows -/

/-- The body of a function with an arrow, and whether it is a block; whether its parameters are all
variables is given. -/
def arrowBody (g : Grammar) (kind : FunctionKind) (isSimple : Bool) :
    ModuleReader (Layout × Bool) := do
  if ← atMark "\x7b" then
    checkBody isSimple
    return (← inside kind (blockOf g), true)
  let around ← context
  let value ← inside kind (within (fun c => { c with
    awaitsColon := around.awaitsColon, withoutIn := around.withoutIn }) g.value)
  return (value.layout, false)

/-- A function with an arrow, behind the arrow, with its parameters and its result. -/
def arrowBehind (g : Grammar) (start : ModulePlace) (isAsync : Bool) (taken : List Pattern)
    (result : Layout) : ModuleReader Value := do
  let (body, hasBlock) ← arrowBody g { isAsync } (areSimple taken)
  let rest := Layout.run [parameterLayout taken, result, .text "=>", body]
  finishValue start (.arrow hasBlock isAsync rest) (.run [.word isAsync "async", rest])

/-- The result of a function with an arrow behind a colon, with a blank behind it. -/
def arrowResult (g : Grammar) : ModuleReader Layout :=
  return .run [.text ": ", ← resultType g ":", .text " "]

/-- Whether a function with an arrow may start at the next token. -/
def mayBeArrow : ModuleReader Bool := do
  let s ← get
  return s.arrowStart == some s.token.start.offset

/-! ### Items in parentheses -/

/-- An item of a list in parentheses. -/
inductive ParenItem where
  /-- A value. -/
  | value (item : ArrayItem Value)
  /-- A parameter, which can be no value. -/
  | parameter (pattern : Pattern)
deriving Inhabited

/-- Whether an item can only be a parameter. -/
def ParenItem.isParameter : ParenItem → Bool
  | .value _ => false
  | .parameter _ => true

/-- The value of an item, up to a question mark or a colon. -/
def parenValue (g : Grammar) : ModuleReader (ArrayItem Value) := do
  let token ← peek
  if ← atVariable then return ⟨← assignmentBehind g (← g.operation), none⟩
  let next ← peekSecond
  if token.isMark "..." && next.isAnyWord && !variableWords.contains next.text then
    discard pop
    return ⟨← g.operation, some token.start⟩
  spreadOrValue g

/-- Reads a question mark behind an item, if there is one.  It tells either that the item may be
left out, which is given too, or that the item is a condition. -/
def parenOptional (g : Grammar) (item : ArrayItem Value) :
    ModuleReader (ArrayItem Value × Bool) := do
  let question ← here
  if !(← atMark "?") then return (item, false)
  if (← peekSecond).isOneOf [",", ":", ")", "="] then
    discard pop
    if item.dots.isSome then note question optionalRest
    match item.given.form with
    | .name _ => return (item, true)
    | _ => stopAt item.start optionalPattern
  if item.dots.isSome then return (item, false)
  discard pop
  return (⟨← conditionBehind g item.given, none⟩, false)

/-- A parameter whose name or parts have been read as a value, with its type and its value. -/
def parenParameter (g : Grammar) (item : ArrayItem Value) (isOptional : Bool) :
    ModuleReader Pattern := do
  let bound ← g.asPattern .bound item.given
  let question := Layout.text (if isOptional then "?" else "")
  let isTyped := bound.form != .invalid
  let isBehindValue := isTyped && bound.form == .assigned && (← atMark ":")
  let type ← if isTyped then typeAnnotation g else pure .nothing
  if isBehindValue then note bound.start typeBehindValue
  let found ← match item.dots with
    | some dots => finishPhrase dots .rest (.run [.text "...", bound.layout, question, type])
    | none => extendPattern bound (.run [question, type])
  match ← assignedValue? g with
  | some value => assignPattern found value
  | none => return found

/-- An item in parentheses. -/
def parenItem (g : Grammar) : ModuleReader ParenItem := do
  let start ← here
  modify fun s => { s with arrowStart := some start.offset }
  let isModified ← eatParameterModifier
  let (item, isOptional) ← parenOptional g (← parenValue g)
  let found ←
    if isOptional || (← atMark ":") then
      pure (ParenItem.parameter (← parenParameter g item isOptional))
    else pure (.value item)
  if isModified then note start propertyParameterProblem
  return found

/-- What is wrong with a parameter behind one for all arguments that are left. -/
def restParameterProblem : String := "A rest parameter must be last in a parameter list"

/-- Items in parentheses as the parameters of a function; the comma behind the last is given. -/
def itemParameters (g : Grammar) (comma : Option ModulePlace) :
    List ParenItem → ModuleReader (List Pattern)
  | [] => return []
  | .value ⟨given, none⟩ :: items =>
      return (← g.asPattern .bound given) :: (← itemParameters g comma items)
  | .value ⟨given, some dots⟩ :: items => do
      unless items.isEmpty do
        note dots restParameterProblem
        return ← itemParameters g comma items
      match given.form with
      | .assignment _ _ _ => note dots restValueProblem
      | .destructuring _ _ => note dots restValueProblem
      | _ => pure ()
      if let some place := comma then note place commaAfterRest
      let bound ← g.asPattern .bound given
      let core := Layout.run [.before given.start.offset, .text "...", bound.layout]
      return [⟨core, .rest, given.start, given.stop⟩]
  | .parameter found :: items => do
      if found.form == .rest then
        unless items.isEmpty do
          note found.start restParameterProblem
          return ← itemParameters g comma items
        if let some place := comma then note place commaAfterRest
      return found :: (← itemParameters g comma items)

/-- The function with an arrow whose parameters are all items so far, behind the arrow, if the first
of them is a variable. -/
def itemArrow (g : Grammar) (start : ModulePlace) (items : List ParenItem) :
    ModuleReader (List ParenItem) := do
  let isNamed := match items.head? with
    | some (.value item) => match item.given.form with
      | .name _ => true
      | _ => false
    | some (.parameter found) => match found.form with
      | .name _ => true
      | _ => false
    | none => false
  if !isNamed then return []
  let taken ← itemParameters g none items
  return [.value ⟨← arrowBehind g start false taken .nothing, none⟩]

/-- Reads items in parentheses up to the closing one, which stays, for a number of rounds. -/
def parenRounds (g : Grammar) : Nat → List ParenItem → ModuleReader (List ParenItem)
  | 0, found => return found.reverse
  | rounds + 1, found => do
      if (← atMark ")") || (← atEnd) then return found.reverse
      let start ← here
      let found := (← parenItem g) :: found
      let more ← if ← eatMark "=>" then itemArrow g start found.reverse else pure []
      unless ← atMark ")" do mark ","
      parenRounds g rounds (more ++ found)

/-! ### Parentheses -/

/-- A function with an arrow in the middle of a condition, behind its parameters, if one is there:
behind it stands the colon of the condition. -/
def arrowInCondition? (g : Grammar) (arrow : Layout → ModuleReader Value) :
    ModuleReader (Option Value) := do
  if !(← context).awaitsColon || !(← atMark ":") then return none
  attempt do
    let result ← arrowResult g
    mark "=>"
    let found ← arrow result
    return if ← atMark ":" then some found else none

/-- The result of a function with an arrow behind its parameters, if the arrow follows. -/
def arrowResult? (g : Grammar) : ModuleReader (Option Layout) := do
  if (← context).awaitsColon || !(← atMark ":") then return none
  attempt do
    let result ← arrowResult g
    return if ← atMark "=>" then some result else none

/-- Reads operators and values behind a block, which is noted. -/
def skipOperators (g : Grammar) : ModuleReader Unit := do
  if (← atOperator?).isSome then
    note (← here) semicolonExpected
    discard (many (return (← atOperator?).isSome) (pop *> g.unary))

/-- Notes the properties of objects that would have to be assigned to. -/
def checkProperties (items : List (ArrayItem Value)) : ModuleReader Unit := do
  for item in items do
    if let .object properties _ _ := item.given.form then
      for property in properties do
        if let .assigned _ _ := property.form then
          note property.start "assignment property is invalid syntax"

/-- Values in parentheses, behind the closing one. -/
def valueInParens (start : ModulePlace) (items : List (ArrayItem Value))
    (comma : Option ModulePlace) : ModuleReader Value := do
  if let some place := comma then note place semicolonExpected
  if let some item := items.find? fun item => item.dots.isSome then
    stopAt item.given.start "Parenthesized expression cannot contain spread operator"
  let shown := Layout.commas (items.map ArrayItem.layout)
  let inner ← match items with
    | [] => stopAt start "Parenthesized expression cannot be empty"
    | [item] => pure item.given
    | first :: rest => do
        let stop := (rest.getLast?.map fun item => item.given.stop).getD first.given.stop
        pure ⟨shown, .other, first.given.start, stop⟩
  finishValue start (.parens inner) (.run [.text "(", shown, .text ")"])

/-- A value in parentheses or a function with an arrow.  If the word `async` stands in front, which
is given, it is a call or a function that may wait. -/
def parenthesized (g : Grammar) (async : Option Value) (isArrowPlace : Bool) :
    ModuleReader Value := do
  let start := (async.map Phrase.start).getD (← here)
  mark "("
  let items ← enclosed (do parenRounds g (← rounds) [])
  let comma ← commaBefore
  mark ")"
  let arrow (result : Layout) : ModuleReader Value := do
    arrowBehind g start async.isSome (← itemParameters g comma items) result
  if let some found ← arrowInCondition? g arrow then return found
  let result ← arrowResult? g
  if items.any ParenItem.isParameter || result.isSome || (← atMark "=>") then
    if (← peek).onNewLine then
      stopAt start "Unexpected line break between arrow head and arrow"
    unless isArrowPlace do stopAt start "An arrow function is not allowed here"
    mark "=>"
    let found ← arrow (result.getD .nothing)
    if let .arrow true _ _ := found.form then skipOperators g
    return found
  let given := items.filterMap fun item => match item with
    | .value item => some item
    | .parameter _ => none
  checkProperties given
  match async with
  | some word =>
      finishValue start .call (.run [word.layout, .parens (given.map ArrayItem.layout)])
  | none => valueInParens start given comma

end ModuleReader

end ResolverTypes.Layout
