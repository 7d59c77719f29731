import ResolverTypes.Layout.ArrowReader

/-!
# Values of a module

The grammar of values, each read and laid out anew.  Operators stand between blanks; only an arrow
has none around it.

## Main definitions

* `ModuleReader.primaryValue` : a value that no operator takes apart.
* `ModuleReader.creationOf`, `ModuleReader.leftHandOf` : members, calls and new objects.
* `ModuleReader.unaryOf`, `ModuleReader.operationOf` : values with operators.
* `ModuleReader.valueOf` : a value without commas.
* `ModuleReader.values` : values with commas between them.
-/

namespace ResolverTypes.Layout

namespace ModuleReader

/-! ### Primary values -/

/-- The flags of a regular expression. -/
def regexFlags : List Char := ['d', 'g', 'i', 'm', 's', 'u', 'v', 'y']

/-- The first of some characters that comes again. -/
def repeated? : List Char → Option Char
  | [] => none
  | c :: cs => if cs.contains c then some c else repeated? cs

/-- Notes what is wrong with the flags of a regular expression. -/
def checkFlags (place : ModulePlace) (flags : List Char) : ModuleReader Unit := do
  unless flags.all regexFlags.contains do note place "Unknown regular expression flags."
  if let some flag := repeated? flags then
    note place ("Duplicated regular expression flag '" ++ String.singleton flag ++ "'.")

/-- A regular expression, of which the next token is the start. -/
def regularExpression : ModuleReader Layout := do
  let s ← get
  let behind := s.token.text.toList.drop 1 ++ s.scan.rest
  match ModuleScan.regexLength? false behind with
  | none => stopHere "Unterminated regexp literal"
  | some length =>
      let body := '/' :: behind.take length
      widen .regex (String.ofList body) (length + 1 - s.token.text.length)
      checkFlags s.token.start (body.reverse.takeWhile (· != '/')).reverse
      written

/-- A function with an arrow that may wait and whose only parameter is a variable, behind the word
`async`.  The word may also be a variable that is looped over, or taken to be of a type. -/
def asyncArrow (g : Grammar) (word : Value) : ModuleReader Value := do
  if let some isAwaited := (← context).inLoopHead then
    if (← atWord "of") && !(← peekSecond).isMark "=>" then
      unless isAwaited do
        note word.start ("The left-hand side of a " ++ inBackquotes "for...of" ++
          " statement may not be " ++ inBackquotes "async")
      return word
  let isAs ← atWord "as"
  let bound ← g.pattern
  if isAs && !(← atMark "=>") then
    return ← finishValue word.start (.cast word true)
      (.run [word.layout, .text " as ", ← g.type])
  mark "=>"
  arrowBehind g word.start true [bound] .nothing

/-- The head of a generic function with an arrow that may wait, if one comes behind the word `async`,
which comes next. -/
def genericHead (g : Grammar) : ModuleReader (Option (Layout × List Pattern × Layout)) := attempt do
  discard pop
  let generics ← genericList g .function
  mark "("
  let taken ← enclosed (parameters g)
  let result ← if ← atMark ":" then arrowResult g else pure .nothing
  mark "=>"
  return some (generics, taken, result)

/-- A function with an arrow, with the parameters of a generic function in front. -/
def withGenerics (start : ModulePlace) (generics : Layout) (value : Value) :
    ModuleReader (Option Value) :=
  match value.form with
  | .arrow hasBlock isAsync rest =>
      let rest := Layout.run [generics, rest]
      some <$> finishValue start (.arrow hasBlock isAsync rest)
        (.run [.word isAsync "async", rest])
  | _ => return none

/-- A value that starts with the word `async`, unless it is a variable or has a single parameter
without parentheses. -/
def asyncValue? (g : Grammar) : ModuleReader (Option Value) := do
  let start ← here
  let next ← peekSecond
  if !(← atWord "async") || next.onNewLine then return none
  if next.isWord "function" then
    return some (← valueOfForm .definition (functionValue g))
  if !(← mayBeArrow) then return none
  if next.isMark "<" then
    match ← genericHead g with
    | none => return none
    | some (generics, taken, result) =>
        withGenerics start generics (← arrowBehind g start true taken result)
  else if next.isMark "(" then
    let word ← valueOfForm (.name "async") (pop *> pure (.text "async"))
    return some (← parenthesized g (some word) true)
  else return none

/-- A value that is a word, or a function with an arrow whose only parameter is the word. -/
def nameValue (g : Grammar) : ModuleReader Value := do
  let start ← here
  let isArrowPlace ← mayBeArrow
  let word ← usedName
  let named ← finishValue start (.name word) (.text word)
  if !isArrowPlace || (← peek).onNewLine then return named
  if word == "async" && (← atVariable) then asyncArrow g named
  else if ← eatMark "=>" then
    arrowBehind g start false [⟨named.core, .name word, start, named.stop⟩] .nothing
  else return named

/-- A value that is a word of its own or starts with one. -/
def wordValue (g : Grammar) : ModuleReader Value := do
  let token ← peek
  match token.text with
  | "this" => valueOfForm .other written
  | "null" => valueOfForm .literal written
  | "true" => valueOfForm .literal written
  | "false" => valueOfForm .literal written
  | "function" => valueOfForm .definition (functionValue g)
  | "class" => valueOfForm .definition (unnamedClass g false)
  | _ =>
      if let some found ← asyncValue? g then return found
      if (← atVariable) || token.isWord "let" || token.isWord "await" then nameValue g
      else stopHere valueExpected

/-- The values in a template, with commas between them. -/
def templateValues (g : Grammar) : ModuleReader Layout := do
  let first ← g.value
  let rest ← many (atMark ",") (pop *> g.value)
  return .commas ((first :: rest).map (·.layout))

/-- A value that no operator takes apart. -/
def primaryValue (g : Grammar) : ModuleReader Value := do
  let token ← peek
  match token.kind with
  | .string => valueOfForm (.string token.text) written
  | .number => valueOfForm (.number token.text) written
  | .bigint => valueOfForm .literal written
  | .regex => valueOfForm .literal written
  | .template => valueOfForm (.template (some token.text)) (template false (templateValues g))
  | .templateHead => valueOfForm (.template none) (template false (templateValues g))
  | .mark =>
      match token.text with
      | "[" => arrayOf g
      | "\x7b" => objectOf g
      | "(" => do parenthesized g none (← mayBeArrow)
      | "/" => valueOfForm .literal regularExpression
      | "/=" => valueOfForm .literal regularExpression
      | "#" => valueOfForm .other (return .text ("#" ++ (← privateName)))
      | _ => stopHere valueExpected
  | .word => wordValue g
  | .invalid reason =>
      discard pop
      throw reason
  | .eof => stopHere valueExpected

/-! ### Members and calls -/

/-- Whether a value is left out where there is no value. -/
def ValueForm.isChain : ValueForm → Bool
  | .chain => true
  | .cast ⟨_, inner, _, _⟩ false => ValueForm.isChain inner
  | _ => false

/-- What a member or a call of a value is. -/
def suffixForm (value : Value) (form : ValueForm) : ValueForm :=
  if ValueForm.isChain value.form then .chain else form

/-- A member by its name, behind the point. -/
def memberSuffix : ModuleReader Layout := do
  if ← atMark "#" then return .text ("#" ++ (← privateName))
  nameLayout

/-- A member in brackets. -/
def indexSuffix (g : Grammar) : ModuleReader Layout := do
  mark "["
  let first ← enclosed g.value
  let rest ← enclosed (many (atMark ",") (pop *> g.value))
  mark "]"
  return .run [.text "[", .commas ((first :: rest).map (·.layout)), .text "]"]

/-- The point between a value and a member: a whole number has a point of its own. -/
def memberPoint (value : Value) : String :=
  match value.form with
  | .number digits =>
      if digits.toList.all fun c => c.isDigit || c == '_' then ".." else "."
  | _ => "."

/-- What stands behind a value and starts with its type arguments. -/
inductive TypedSuffix where
  /-- A call. -/
  | call (layout : Layout)
  /-- A template. -/
  | template (layout : Layout)
  /-- Nothing else. -/
  | bare (layout : Layout)

/-- What stands behind a value and starts with its type arguments, if that makes sense there. -/
def typedSuffix (g : Grammar) (noCall : Bool) : ModuleReader (Option TypedSuffix) := attempt do
  let given ← typeArguments g
  if !noCall && (← atMark "(") then
    return some (.call (.run [given, ← arguments g]))
  let token ← peek
  if token.isTemplate then
    return some (.template (.run [given, ← template true (templateValues g)]))
  if token.isMark "=" || token.isWord "as" || token.isWord "satisfies" then
    return some (.bare given)
  return none

/-- What stands behind a question mark and a point.  The type arguments of a call are lost. -/
def chainSuffix (g : Grammar) : ModuleReader Layout := do
  if ← atMark "[" then indexSuffix g
  else if ← atMark "(" then arguments g
  else if ← atMark "<" then
    discard (typeArguments g)
    arguments g
  else memberSuffix

/-- Which members and calls are read behind a value. -/
inductive SuffixKind where
  /-- All of them. -/
  | all
  /-- No calls. -/
  | members
  /-- No calls and no members in brackets. -/
  | names
deriving DecidableEq

/-- The members and calls behind a value, for a number of rounds. -/
def suffixRounds (g : Grammar) (kind : SuffixKind) : Nat → Value → ModuleReader Value
  | 0, value => return value
  | rounds + 1, value => do
      let token ← peek
      let more (form : ValueForm) (shown : Layout) : ModuleReader Value := do
        suffixRounds g kind rounds (← finishValue value.start form (.run [value.layout, shown]))
      if token.isMark "!" && !token.onNewLine then
        discard pop
        more (.cast value false) (.text "!")
      else if token.isMark "<" then
        match ← typedSuffix g (kind != .all) with
        | none => return value
        | some (.bare shown) =>
            finishValue value.start (.cast value false) (.run [value.layout, shown])
        | some (.call shown) => more (suffixForm value .call) shown
        | some (.template shown) => more .other shown
      else if token.isMark "?." then
        discard pop
        more .chain (.run [.text "?.", ← chainSuffix g])
      else if token.isMark "[" && kind != .names then
        more (suffixForm value .member) (← indexSuffix g)
      else if token.isMark "(" && kind == .all then
        more (suffixForm value .call) (← arguments g)
      else if token.isMark "." then
        discard pop
        more (suffixForm value .member) (.run [.text (memberPoint value), ← memberSuffix])
      else if token.isTemplate then
        if ValueForm.isChain value.form then
          note token.start "Tagged template literal is not allowed in optional chain"
        more .other (← template true (templateValues g))
      else return value

/-- The members and calls behind a value. -/
def suffixes (g : Grammar) (kind : SuffixKind) (value : Value) : ModuleReader Value := do
  suffixRounds g kind (← rounds) value

/-- A value with the members behind it, without calls and brackets. -/
def membersOf (g : Grammar) (value : Value) : ModuleReader Value := suffixes g .names value

/-- Type arguments, if a parenthesis follows them. -/
def typedCall (g : Grammar) : ModuleReader (Option Layout) := do
  if !(← atMark "<") then return none
  attempt do
    let given ← typeArguments g
    return if ← atMark "(" then some given else none

/-- The type arguments of a value that is not called, if what follows makes sense behind them. -/
def instantiated (g : Grammar) (value : Value) : ModuleReader Value := do
  if !(← atMark "<") then return value
  let given ← attempt do
    let given ← typeArguments g
    let next ← peek
    if next.isTemplate || next.isOneOf ["(", "<", ">", "+", "-"] then return none
    let starts := next.isAnyWord && !(["in", "instanceof", "as", "satisfies"].contains next.text)
    let isValue := starts || [ModuleTokenKind.string, .number, .bigint].contains next.kind ||
      next.isOneOf ["[", "\x7b", "!", "~", "++", "--", "#"]
    if next.onNewLine || !isValue then return some given else return none
  match given with
  | none => return value
  | some given => finishValue value.start (.cast value false) (.run [value.layout, given])

/-- The word `super`, behind which a member or, unless that is excluded, a call stands. -/
def superValue (mayCall : Bool) : ModuleReader Value := do
  let value ← valueOfForm .super written
  if mayCall then
    unless ← atOneOf ["(", ".", "["] do stopHere "Invalid access to super"
  else unless ← atOneOf [".", "["] do stopHere ("Invalid " ++ inBackquotes "super()")
  return value

/-- A module that is loaded where it is used, unless calls are excluded. -/
def importCall (g : Grammar) (start : ModulePlace) (mayCall : Bool) (keyword : String) :
    ModuleReader Value := do
  unless mayCall && (← atMark "(") do stopHere "Import is not allowed here"
  finishValue start .call (.run [.text keyword, ← arguments g])

/-- A module that is loaded where it is used, unless calls are excluded, or what is known about this
module. -/
def importValue (g : Grammar) (mayCall : Bool) : ModuleReader Value := do
  let start ← here
  word "import"
  if ← eatMark "." then
    match ← name with
    | "meta" => finishValue start .other (.text "import.meta")
    | "defer" => importCall g start mayCall "import.defer"
    | "source" => importCall g start mayCall "import.source"
    | _ => stopUnexpected "meta"
  else importCall g start mayCall "import"

/-- A new object, behind its word. -/
def newRest (g : Grammar) (start : ModulePlace) : ModuleReader Value := do
  if ← eatMark "." then
    unless ← eatWord "target" do stopUnexpected "target"
    unless (← context).inFunction do
      note start ("'new.target' is only allowed in the body of a function declaration, function " ++
        "expression, or constructor.")
    return ← suffixes g .members (← finishValue start .other (.text "new.target"))
  let made ← g.creation
  match made.form with
  | .arrow _ _ _ => return made
  | .chain => stopAt made.start "Constructor in/after an optional chaining is not allowed."
  | _ => pure ()
  let given := (← typedCall g).getD .nothing
  let shown := Layout.run [.text "new ", made.layout, given]
  if ← atMark "(" then
    let called := Layout.run [shown, ← arguments g]
    suffixes g .members (← finishValue start (.creation true) called)
  else finishValue start (.creation false) shown

/-- A new object, or a member of a value. -/
def creationOf (g : Grammar) : ModuleReader Value := do
  let start ← here
  if ← eatWord "new" then newRest g start
  else if ← atWord "super" then suffixes g .members (← superValue false)
  else if ← atWord "import" then suffixes g .members (← importValue g false)
  else
    let value ← primaryValue g
    if let .arrow _ _ _ := value.form then return value
    suffixes g .members (← instantiated g value)

/-- A value that may be assigned to, called or updated. -/
def leftHandOf (g : Grammar) : ModuleReader Value := do
  if ← atWord "super" then return ← suffixes g .all (← superValue true)
  if ← atWord "import" then return ← suffixes g .all (← importValue g true)
  let value ← creationOf g
  match value.form with
  | .arrow _ _ _ => return value
  | .creation false => return value
  | _ =>
      let given ← typedCall g
      if given.isSome || (← atMark "(") then
        let shown := Layout.run [value.layout, given.getD .nothing, ← arguments g]
        suffixes g .all (← finishValue value.start (suffixForm value .call) shown)
      else return value

/-! ### Values with an operator in front or behind -/

/-- A value that is awaited. -/
def awaitedValue (g : Grammar) : ModuleReader Value := do
  let start ← here
  word "await"
  if ← atMark "*" then
    stopHere ("await* has been removed from the async functions proposal. Use Promise.all() " ++
      "instead.")
  let c ← context
  if !c.inAsync && ((← atStatementEnd) || (← atOneOf [")", "]", ","])) then
    note start (inBackquotes "await" ++ " cannot be used as an identifier in an async context")
    return ← finishValue start (.name "await") (.text "await")
  if c.inFunction && !c.inAsync then note start "await isn't allowed in non-async function"
  let value ← g.unary
  finishValue start (.awaited value) (.run [.text "await ", value.layout])

/-- The operators that are words and stand in front of a value. -/
def wordOperators : List String := ["delete", "void", "typeof"]

/-- Whether an operator needs a blank between it and the value behind it. -/
def needsBlank (operator : String) (value : Value) : Bool :=
  match value.form with
  | .unary inner => inner == operator && (operator == "+" || operator == "-")
  | .update (some inner) => inner == operator ++ operator
  | _ => false

/-- A value with an operator in front. -/
def signedValue (g : Grammar) (operator : String) : ModuleReader Value := do
  let start ← here
  discard pop
  let inner ← here
  let value ← recover g.unary fun e => do
    noteError e
    return ⟨.nothing, .other, inner, inner.offset⟩
  let blank := wordOperators.contains operator || needsBlank operator value
  finishValue start (.unary operator)
    (.run [.text operator, .text (if blank then " " else ""), value.layout])

/-- A value that is taken to be of a type, which stands in front. -/
def assertedValue (g : Grammar) : ModuleReader Value := do
  let start ← here
  mark "<"
  if ← eatWord "const" then
    mark ">"
    let value ← g.unary
    return ← finishValue start .other (.run [value.layout, .text " as const"])
  let type ← g.type
  mark ">"
  let value ← g.unary
  finishValue start (.cast value false) (.run [.text "<", type, .text ">", value.layout])

/-- A value that no operator between two values takes apart. -/
def unaryOf (g : Grammar) : ModuleReader Value := do
  let token ← peek
  let start := token.start
  if token.isMark "<" then return ← assertedValue g
  if token.isOneOf ["++", "--"] then
    discard pop
    let value ← g.unary
    checkTarget value false
    return ← finishValue start (.update (some token.text)) (.run [.text token.text, value.layout])
  if token.isOneOf ["+", "-", "~", "!"] || (token.isAnyWord && wordOperators.contains token.text)
  then return ← signedValue g token.text
  if token.isWord "await" then return ← awaitedValue g
  let value ← leftHandOf g
  if let .arrow _ _ _ := value.form then return value
  let next ← peek
  if next.onNewLine then return value
  if next.isOneOf ["++", "--"] then
    checkTarget value false
    discard pop
    return ← finishValue start (.update none) (.run [value.layout, .text next.text])
  return value

/-! ### Values with an operator between them -/

/-- What is wrong with an operator for missing values among logical ones. -/
def mixedProblem : String :=
  "Nullish coalescing operator(??) requires parens when mixing with logical operators"

/-- Whether a value has a logical operator that does not stand for missing values. -/
def isLogical (value : Value) : Bool :=
  match value.form with
  | .binary operator => operator == "&&" || operator == "||"
  | _ => false

/-- Notes the operators that must not be mixed without parentheses. -/
def checkMixed (operator : String) (left right : Value) : ModuleReader Unit := do
  if operator == "??" then
    if isLogical left then note left.start mixedProblem
    if isLogical right then note right.start mixedProblem
  else if operator == "&&" || operator == "||" then
    if let .binary "??" := left.form then note left.start mixedProblem

/-- A value that is taken to be of a type, behind the word that says so. -/
def castRest (g : Grammar) (left : Value) : ModuleReader Value := do
  let sign ← pop
  let isConst ← if sign.isWord "as" then eatWord "const" else pure false
  if isConst then return ← finishValue left.start .other (.run [left.layout, .text " as const"])
  let type ← g.type
  finishValue left.start (.cast left true)
    (.run [left.layout, .text (" " ++ sign.text ++ " "), type])

/-- Values with operators between them that bind more tightly than a bound, for a number of
rounds. -/
def binaryRounds (g : Grammar) : Nat → Value → Nat → ModuleReader Value
  | 0, left, _ => return left
  | rounds + 1, left, bound => do
      let token ← peek
      if !token.onNewLine && (token.isWord "as" || token.isWord "satisfies") then
        return ← binaryRounds g rounds (← castRest g left) bound
      match ← atOperator? with
      | none => return left
      | some (operator, strength) =>
          if strength ≤ bound then return left
          discard pop
          if operator == "**" then
            match left.form with
            | .unary _ | .awaited _ =>
                stopHere "'**' cannot be applied to unary/await expression."
            | _ => pure ()
          let first ← unaryOf g
          let right ← binaryRounds g rounds first
            (if operator == "**" then strength - 1 else strength)
          checkMixed operator left right
          let joined ← finishValue left.start (.binary operator)
            (.run [left.layout, .text (" " ++ operator ++ " "), right.layout])
          binaryRounds g rounds joined bound

/-- Values with operators between them. -/
def operationOf (g : Grammar) : ModuleReader Value := do
  let start ← here
  let first ← recover (unaryOf g) fun e => do
    match ← atOperator? with
    | some _ =>
        note (← here) valueExpected
        return ⟨.nothing, .other, start, start.offset⟩
    | none => throw e
  if let .arrow _ _ _ := first.form then return first
  binaryRounds g (← rounds) first 0

/-- A value, or one of two behind a condition. -/
def conditionalValue (g : Grammar) : ModuleReader Value := do
  let test ← operationOf g
  if let .arrow _ _ _ := test.form then return test
  if ← eatMark "?" then conditionBehind g test else return test

/-! ### Values without commas -/

/-- What is given out by a generator. -/
def yieldedValue (g : Grammar) : ModuleReader Value := do
  let start ← here
  word "yield"
  if (← atStatementEnd) || (← atOneOf [")", "]", ",", ":"]) then
    return ← finishValue start .other (.text "yield")
  let isAll ← eatMark "*"
  let value ← g.value
  finishValue start .other (.run [.text (if isAll then "yield* " else "yield "), value.layout])

/-- A value without commas, which does not start with the parameters of a generic function. -/
def plainValue (g : Grammar) : ModuleReader Value := do
  if (← context).inGenerator && (← atWord "yield") then return ← yieldedValue g
  let token ← peek
  if let .invalid reason := token.kind then
    discard pop
    throw reason
  let mayStartArrow := token.isMark "(" ||
    (token.isAnyWord && (!reservedWords.contains token.text || token.isWord "yield"))
  modify fun s =>
    { s with arrowStart := if mayStartArrow then some token.start.offset else none }
  let value ← conditionalValue g
  match value.form with
  | .arrow _ _ _ => return value
  | .conditional => return value
  | .binary _ => return value
  | .unary _ => return value
  | .update _ => return value
  | _ => assignmentBehind g value

/-- A generic function with an arrow, if one comes next. -/
def genericArrow? (g : Grammar) : ModuleReader (Option Value) := do
  if !(← atMark "<") || !(← peekSecond).isAnyWord then return none
  attempt do
    let start ← here
    let generics ← genericList g .function
    withGenerics start generics (← plainValue g)

/-- A value without commas. -/
def valueOf (g : Grammar) : ModuleReader Value := do
  match ← genericArrow? g with
  | some value => return value
  | none => plainValue g

/-- Values with commas between them. -/
def values (g : Grammar) : ModuleReader Value := do
  let first ← g.value
  let rest ← many (atMark ",") (pop *> g.value)
  if rest.isEmpty then return first
  finishValue first.start .other (.commas ((first :: rest).map (·.layout)))

end ModuleReader

end ResolverTypes.Layout
