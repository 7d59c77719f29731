import ResolverTypes.Layout.DeclarationReader

/-!
# Statements of a module

The grammar of statements, each read and laid out anew.  A statement stands on lines of its own;
what a condition or a loop leads to follows on the line of its head.

## Main definitions

* `ModuleReader.ifStatement`, `ModuleReader.forStatement`, … : statements by their words.
* `ModuleReader.valueStatement` : a statement that is a value, a label or a declaration by a word
  that may also be a name.
* `ModuleReader.statementOf` : a statement.
-/

namespace ResolverTypes.Layout

namespace ModuleReader

/-! ### Choices -/

/-- A value in parentheses behind a word. -/
def headValue (g : Grammar) : ModuleReader Layout := do
  mark "("
  let value ← enclosed (values g)
  mark ")"
  return value.layout

/-- Whether a statement in braces comes next. -/
def atBlock : ModuleReader Bool := atMark "\x7b"

/-- A choice between two statements. -/
def ifStatement (g : Grammar) : ModuleReader Layout := do
  word "if"
  let test ← headValue g
  let isBlock ← atBlock
  let yes ← g.statement false
  let head := Layout.run [.text "if (", test, .text ") ", yes]
  if ← eatWord "else" then
    let no ← g.statement false
    return .run [head, if isBlock then .text " " else .line, .text "else ", no]
  return head

/-- Reads statements up to the next case. -/
def caseStatements (g : Grammar) : ModuleReader Layout := do
  let isNext : ModuleReader Bool := do
    return (← atMark "\x7d") || (← atWord "case") || (← atWord "default")
  let items ← many (return !(← isNext)) (g.statement true)
  return .deeper (.lines items)

/-- What is wrong with a second case for all other values. -/
def defaultProblem : String := "A switch block cannot have multiple defaults"

/-- A case of a choice between several, and whether it is the one for all other values, of which
there is at most one. -/
def switchCase (g : Grammar) (hasDefault : Bool) : ModuleReader (Layout × Bool) := do
  let start ← here
  let isDefault ← atWord "default"
  discard pop
  if isDefault && hasDefault then stopHere defaultProblem
  let head ← if isDefault then pure (Layout.text "default:") else do
    pure (.run [.text "case ", (← values g).layout, .text ":"])
  mark ":"
  return (.run [.before start.offset, head, .line, ← caseStatements g], isDefault)

/-- Reads the cases of a choice, for a number of rounds. -/
def caseRounds (g : Grammar) : Nat → Bool → ModuleReader (List Layout)
  | 0, _ => return []
  | rounds + 1, hasDefault => do
      if (← atWord "case") || (← atWord "default") then
        let (one, isDefault) ← switchCase g hasDefault
        return one :: (← caseRounds g rounds (hasDefault || isDefault))
      else return []

/-- A choice between several cases. -/
def switchStatement (g : Grammar) : ModuleReader Layout := do
  word "switch"
  let value ← headValue g
  mark "\x7b"
  let cases ← within (fun c => { c with mayBreak := true }) (do caseRounds g (← rounds) false)
  mark "\x7d"
  return .run [.text "switch(", value, .text ")\x7b", .line, .deeper (.lines cases), .text "\x7d"]

/-! ### Loops -/

/-- Reads what a loop repeats. -/
def loopBody (g : Grammar) : ModuleReader Layout :=
  within (fun c => { c with mayBreak := true, mayContinue := true }) (g.statement false)

/-- A loop with its condition in front. -/
def whileStatement (g : Grammar) : ModuleReader Layout := do
  word "while"
  let test ← headValue g
  return .run [.text "while(", test, .text ")", ← loopBody g]

/-- A loop with its condition behind. -/
def doStatement (g : Grammar) : ModuleReader Layout := do
  word "do"
  let isBlock ← atBlock
  let body ← loopBody g
  word "while"
  let test ← headValue g
  discard eatStatementEnd
  return .run [.text "do ", body, if isBlock then .nothing else .line, .text "while (", test,
    .text ")"]

/-- How a loop goes on. -/
inductive LoopKind where
  /-- As long as a condition holds. -/
  | counting
  /-- Over the names of a value. -/
  | names
  /-- Over the values that a value gives out. -/
  | values
deriving DecidableEq

/-- The head of a loop in parentheses, behind what takes each of the values looped over. -/
def eachHead (g : Grammar) (target : Layout) : ModuleReader (Layout × LoopKind) := do
  if ← eatWord "of" then
    return (.run [.text " (", target, .text " of ", (← g.value).layout, .text ")"], .values)
  word "in"
  return (.run [.text "(", target, .text " in ", (← values g).layout, .text ")"], .names)

/-- A value with a blank in front. -/
def valueBehindBlank (g : Grammar) : ModuleReader Layout :=
  return .run [.text " ", (← values g).layout]

/-- The condition of a loop that counts, if there is one. -/
def loopCondition (g : Grammar) : ModuleReader Layout := do
  if ← eatMark ";" then return .nothing
  let condition ← valueBehindBlank g
  mark ";"
  return condition

/-- The head of a loop that counts in parentheses, behind its start. -/
def countingHead (g : Grammar) (start : Layout) : ModuleReader (Layout × LoopKind) := do
  let test ← loopCondition g
  let update ← if ← atMark ")" then pure Layout.nothing else valueBehindBlank g
  return (.run [.text "(", start, .text ";", test, .text ";", update, .text ")"], .counting)

/-- Whether the values of a loop are given next. -/
def atEach : ModuleReader Bool := return (← atWord "of") || (← atWord "in")

/-- Whether variables are declared next by `let`, which may also be a name. -/
def atLet : ModuleReader Bool := do
  let next ← peekSecond
  let isName := next.isAnyWord && (next.text == "await" || !reservedWords.contains next.text)
  return (← atWord "let") && (isName || next.isOneOf ["[", "\x7b"])

/-- Whether variables are declared next. -/
def atVariables : ModuleReader Bool := do
  return (← atWord "const") || (← atWord "var") || (← atLet)

/-- Notes what is wrong with the variables that a loop over values declares. -/
def checkEach (found : List Variable) : ModuleReader Unit := do
  match found with
  | [one] =>
      if one.hasValue then note one.start "Unexpected initializer in for in/of loop"
      if one.hasType then
        note one.start "The left-hand side of a 'for...of' statement cannot use a type annotation"
  | _ => for one in found.drop 1 do note one.start "Expected one variable binding"

/-- What is wrong with parts of a name that is looped over. -/
def partsOfName : String :=
  "The left-hand side of a 'for...in' statement cannot be a destructuring pattern"

/-- Whether a value that has been read is a word which declares the resource behind it, looped over
next, and the words in front of the resource. -/
def resourceWords? (value : Value) : ModuleReader (Option String) := do
  let next ← peekSecond
  if (← atWord "of") || !(next.isWord "of" || next.isWord "in") then return none
  match value.form with
  | .name "using" => return some "using "
  | .awaited ⟨_, .name "using", _, _⟩ => return some "await using "
  | _ => return none

/-- The head of a loop in parentheses that starts with a value, behind the opening one. -/
def valueHead (g : Grammar) : ModuleReader (Layout × LoopKind) := do
  let value ← within (fun c => { c with withoutIn := true }) (values g)
  if let some words ← resourceWords? value then
    let bound ← variableName
    if ← atWord "in" then
      note value.start "Using declaration is not allowed in for-in loop"
    return ← eachHead g (.run [.text words, bound])
  if ← atEach then
    let target ← g.asPattern .assigned value
    let isName := target.form == .place || match target.form with
      | .name _ => true
      | _ => false
    if (← atWord "in") && !isName then note target.start partsOfName
    return ← eachHead g target.layout
  mark ";"
  countingHead g value.layout

/-- The head of a loop in parentheses, behind the opening one. -/
def forHead (g : Grammar) : ModuleReader (Layout × LoopKind) := do
  if ← atVariables then
    let (found, shown) ← variableList g true
    if ← atEach then
      checkEach found
      return ← eachHead g shown
    mark ";"
    countingHead g shown
  else if ← eatMark ";" then countingHead g .nothing
  else valueHead g

/-- A loop that counts, or over values. -/
def forStatement (g : Grammar) : ModuleReader Layout := do
  word "for"
  let awaiting ← here
  let awaits ← eatWord "await"
  mark "("
  let (head, kind) ← within (fun c => { c with inLoopHead := some awaits }) (forHead g)
  mark ")"
  let body ← loopBody g
  if awaits && kind != .values then
    stopAt awaiting "for await syntax is valid only for for-of statement"
  return .run [.text (if awaits then "for await" else "for"), head, body]

/-! ### Jumps -/

/-- What is wrong with a jump, if anything is. -/
def jumpProblem? (c : ReadingContext) (isBreak : Bool) (label : Option String) : Option String :=
  let isKnown := (label.map c.labels.contains).getD true
  if isBreak then
    if !isKnown then
      some "A 'break' statement can only jump to a label of an enclosing statement"
    else if !c.mayBreak && label.isNone then
      some "A 'break' statement can only be used within an enclosing iteration or switch statement"
    else none
  else if !c.mayContinue then
    some ("A 'continue' statement can only jump to a label of an enclosing iteration " ++
      "statement")
  else if !isKnown then some "Jump target cannot cross function boundary"
  else none

/-- A jump to the end of a statement, or to the next round of a loop. -/
def jumpStatement (isBreak : Bool) : ModuleReader Layout := do
  let start ← here
  let keyword ← name
  let label ← if ← eatStatementEnd then pure none else do
    let label ← usedName
    statementEnd
    pure (some label)
  if let some problem := jumpProblem? (← context) isBreak label then note start problem
  return .text (keyword ++ ((label.map (" " ++ ·)).getD "") ++ ";")

/-- The end of a function, perhaps with a value. -/
def returnStatement (g : Grammar) : ModuleReader Layout := do
  let start ← here
  word "return"
  let value ← if ← eatStatementEnd then pure Layout.nothing else do
    let value ← values g
    statementEnd
    pure (Layout.run [.text " ", value.layout])
  unless (← context).inFunction do note start "Return statement is not allowed here"
  return .run [.text "return", value, .text ";"]

/-- A value that is thrown. -/
def throwStatement (g : Grammar) : ModuleReader Layout := do
  word "throw"
  if (← peek).onNewLine then stopHere "LineBreak cannot follow 'throw'"
  let value ← values g
  statementEnd
  return .run [.text "throw ", value.layout, .text ";"]

/-- What is done when a statement throws, if anything is. -/
def catchClause? (g : Grammar) : ModuleReader (Option Layout) := do
  if !(← eatWord "catch") then return none
  let bound ← if ← eatMark "(" then do
    let bound ← g.pattern
    let type ← typeAnnotation g
    mark ")"
    pure (Layout.run [.text "(", bound.core, type, .behind bound.stop, .text ")"])
  else pure .nothing
  return some (.run [.text " catch ", bound, .text " ", ← blockOf g])

/-- What is done in the end, if anything is. -/
def finalBlock? (g : Grammar) : ModuleReader (Option Layout) := do
  if !(← eatWord "finally") then return none
  return some (.run [.text " finally ", ← blockOf g])

/-- Statements with what is done when one of them throws. -/
def tryStatement (g : Grammar) : ModuleReader Layout := do
  word "try"
  let body ← blockOf g
  let behind ← here
  let caught ← catchClause? g
  let final ← finalBlock? g
  if caught.isNone && final.isNone then note behind semicolonExpected
  return .run [.text "try ", body, caught.getD .nothing, final.getD .nothing]

/-- What is done when a statement throws, without the statement, which is noted. -/
def strayClauses (g : Grammar) : ModuleReader Layout := do
  note (← here) semicolonExpected
  recover (discard (catchClause? g)) fun _ => return ()
  recover (discard (finalBlock? g)) fun _ => return ()
  return .nothing

/-! ### Values as statements -/

/-- Notes what is wrong with a function that has a label. -/
def checkLabelled : ModuleReader Unit := do
  if ← atWord "function" then
    note (← here) "Function cannot be labelled in strict mode"
    if (← peekSecond).isMark "*" then
      note (← here) "Generator or async function cannot be labelled"

/-- A statement with a label, behind the label. -/
def labelled (g : Grammar) (start : ModulePlace) (label : String) : ModuleReader Layout := do
  let isKnown := (← context).labels.contains label
  let body ← within (fun c => { c with labels := label :: c.labels, mayBreak := true }) do
    if ← atWord "function" then
      checkLabelled
      functionDeclaration g
    else g.statement false
  if isKnown then note start ("Label " ++ label ++ " is already declared")
  return .run [.text (label ++ ": "), body]

/-- A declaration behind a word that may also be a name. -/
def namedStatement? (g : Grammar) (start : ModulePlace) (word : String) :
    ModuleReader (Option Layout) := do
  if word == "declare" then declared? g start
  else if word == "global" then
    if ← atBlock then return some (.run [.text "global ", ← namespaceBody g]) else return none
  else declarationBehind? g word false

/-- Reads the end of a value that is a statement. -/
def finishStatement (g : Grammar) (value : Value) : ModuleReader Layout := do
  if ← eatStatementEnd then return .run [value.layout, .text ";"]
  match ← atOperator? with
  | some _ =>
      note (← here) semicolonExpected
      let joined ← binaryRounds g (← rounds) value 0
      return .run [joined.layout, .text ";"]
  | none => stopHere endExpected

/-- A statement that is a value, a label or a declaration. -/
def valueStatement (g : Grammar) : ModuleReader Layout := do
  let start ← here
  let value ← within (fun c => { c with withoutIn := false, awaitsColon := false }) (values g)
  match value.form with
  | .name word =>
      if ← eatMark ":" then return ← labelled g start word
      if let some declared ← namedStatement? g start word then return declared
      if (← atWord "interface") && ["public", "static", "abstract"].contains word then
        note (← here) interfaceNameProblem
        discard pop
        return ← interfaceRest g
      finishStatement g value
  | _ => finishStatement g value

/-! ### Statements -/

/-- Whether a word and a name behind it on its line declare something. -/
def declaresName (word : String) : ModuleReader Bool := do
  let next ← peekSecond
  return (← atWord word) && next.isAnyWord && !next.onNewLine

/-- What is wrong with a declaration where only a statement may stand. -/
def noDeclaration : String := "Declaration is not allowed"

/-- What is wrong with a statement that looks up names in a value. -/
def withProblem : String :=
  "The 'with' statement is not supported. All symbols in a 'with' block will have type 'any'."

/-- A statement by the word that comes next, if the word tells what it is. -/
def wordStatement? (g : Grammar) (declares : Bool) (word : String) :
    ModuleReader (Option Layout) := do
  let start ← here
  let next ← peekSecond
  match word with
  | "break" => some <$> jumpStatement true
  | "continue" => some <$> jumpStatement false
  | "debugger" => do
      discard pop
      statementEnd
      return some (.text "debugger;")
  | "do" => some <$> doStatement g
  | "for" => some <$> forStatement g
  | "function" => do
      unless declares do note start noDeclaration
      some <$> functionDeclaration g
  | "class" => do
      unless declares do note start noDeclaration
      some <$> classDeclaration g false
  | "if" => some <$> ifStatement g
  | "return" => some <$> returnStatement g
  | "switch" => some <$> switchStatement g
  | "throw" => some <$> throwStatement g
  | "try" => some <$> tryStatement g
  | "while" => some <$> whileStatement g
  | "catch" => some <$> strayClauses g
  | "finally" => some <$> strayClauses g
  | "with" => do
      note start withProblem
      discard pop
      let value ← headValue g
      return some (.run [.text "with(", value, .text ")", ← g.statement false])
  | "const" =>
      if next.isWord "enum" then do
        discard pop
        discard pop
        some <$> enumRest g true
      else if declares then some <$> variableStatement g
      else return none
  | "var" => some <$> variableStatement g
  | "let" => if declares && (← atLet) then some <$> variableStatement g else return none
  | "using" =>
      if declares && (← atUsing) then some <$> resourceStatement g start "using " else return none
  | "interface" => if ← declaresName word then some <$> (pop *> interfaceRest g) else return none
  | "type" => if ← declaresName word then some <$> (pop *> aliasRest g) else return none
  | "enum" => if ← declaresName word then some <$> (pop *> enumRest g false) else return none
  | "async" =>
      if next.isWord "function" && !next.onNewLine then some <$> functionDeclaration g
      else return none
  | _ => return none

/-- A value that starts with a module which is loaded, as a statement. -/
def importStatement (g : Grammar) : ModuleReader Layout := do
  let value ← values g
  discard eatStatementEnd
  return .run [value.layout, .text ";"]

/-- Resources that are declared behind the word `await`, if they are. -/
def awaitedResources? (g : Grammar) (declares : Bool) : ModuleReader (Option Layout) := do
  if !declares || !(← atWord "await") || !(← peekSecond).isWord "using" then return none
  let start ← here
  let isDeclared ← lookAhead (pop *> atUsing)
  if !isDeclared then return none
  discard pop
  some <$> resourceStatement g start "await using "

/-- A statement; whether it may declare something is given. -/
def statementOf (g : Grammar) (declares : Bool) : ModuleReader Layout := closedPhrase do
  let token ← peek
  if let some declared ← awaitedResources? g declares then return declared
  if token.isMark "\x7b" then blockOf g
  else if ← eatMark ";" then return .text ";"
  else if token.isAnyWord then
    let next ← peekSecond
    if token.isWord "export" || (token.isWord "import" && !next.isOneOf ["(", "."]) then
      stopHere "'import', and 'export' cannot be used outside of module code"
    if token.isWord "import" then return ← importStatement g
    match ← wordStatement? g declares token.text with
    | some statement => return statement
    | none => valueStatement g
  else valueStatement g

end ModuleReader

end ResolverTypes.Layout
