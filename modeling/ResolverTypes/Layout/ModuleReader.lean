import ResolverTypes.Layout.StatementReader

/-!
# Modules

What a module takes from other modules and what it gives out, and a module as a whole.  What is
wrong inside a declaration behind `export` is reported at the word behind `export`.

## Main definitions

* `ModuleReader.importDeclaration`, `ModuleReader.exportDeclaration` : what is taken and given out.
* `ModuleReader.itemOf` : a statement of a module or namespace.
* `Grammar.toDepth` : the readers of all phrases that are nested to a depth.
* `ModuleReader.moduleLayout` : a module.
-/

namespace ResolverTypes.Layout

namespace ModuleReader

/-! ### Shared names -/

/-- A name that modules share: a word or a string. -/
structure SharedName where
  /-- How it is laid out. -/
  layout : Layout
  /-- How it is written. -/
  token : ModuleToken
deriving Inhabited

/-- Reads a name that modules share. -/
def sharedName : ModuleReader SharedName := do
  let token ← peek
  if token.kind = .string || token.isAnyWord then return ⟨← written, token⟩
  stopUnexpected "identifier or string"

/-- What has been read of an item of a list of names. -/
inductive SharedItem where
  /-- All of it. -/
  | whole (layout : Layout)
  /-- Its name, and whether it is that of a type. -/
  | named (isType : Bool) (name : SharedName)

/-- Reads an item of a list of names up to the word `as`.  The word `type` in front of another tells
that the item is a type, which is noted if all items of the list are. -/
def sharedItem (areTypes : Bool) (problem : String) (own : ModuleReader Layout) :
    ModuleReader SharedItem := do
  let first ← sharedName
  if !first.token.isWord "type" || !(← peek).isAnyWord then return .named false first
  let noteType : ModuleReader Unit := do if areTypes then note first.token.start problem
  let second ← sharedName
  if !second.token.isWord "as" then
    noteType
    return .named true second
  if !(← peek).isAnyWord then
    noteType
    return .whole (.run [.text "type ", second.layout])
  let isAs ← atWord "as"
  let third ← own
  if isAs && (← peek).isAnyWord then
    noteType
    return .whole (.run [.text "type ", second.layout, .text " as ", ← own])
  return .whole (.run [first.layout, .text " as ", third])

/-- The items of a list of names, behind the opening brace. -/
def sharedItems (item : ModuleReader Layout) : ModuleReader (List Layout) := do
  let items ← many (return !(← atMark "\x7d") && !(← atEnd)) do
    let one ← listItem item
    unless ← atMark "\x7d" do mark ","
    return one
  mark "\x7d"
  return items

/-- Items in braces on a line. -/
def inlineBraces (items : List Layout) : Layout :=
  .run [.text "\x7b ", .commas items, .text (if items.isEmpty then "\x7d" else " \x7d")]

/-- Another module, with what is asked of it, and the end of the statement if there is one. -/
def otherModule (g : Grammar) : ModuleReader Layout := do
  let source ← stringLayout
  let isAsking ← if (← peek).onNewLine then pure false
    else if ← eatWord "with" then pure true
    else eatWord "assert"
  let asked ←
    if isAsking then pure (Layout.run [.text " with ", (← g.object).layout]) else pure .nothing
  discard eatStatementEnd
  return .run [source, asked, .text ";"]

/-! ### Imports -/

/-- What is wrong with a type in a list of types that are taken. -/
def importedTypeProblem : String :=
  "The 'type' modifier cannot be used on a named import when 'import type' is used on its " ++
    "import statement."

/-- What is wrong with a string as the name of what is taken. -/
def importedStringProblem (written : String) : String :=
  "A string literal cannot be used as an imported binding.\n- Did you mean `import \x7b \"" ++
    String.ofList ((written.toList.drop 1).dropLast) ++ "\" as foo \x7d`?"

/-- A name that is taken, which may be given another. -/
def importedItem (areTypes : Bool) : ModuleReader Layout := do
  match ← sharedItem areTypes importedTypeProblem variableName with
  | .whole shown => return shown
  | .named isType first =>
      let head := Layout.run [.word isType "type", first.layout]
      if ← eatWord "as" then return .run [head, .text " as ", ← variableName]
      if first.token.kind = .string then
        stopAt first.token.start (importedStringProblem first.token.text)
      return head

/-- The start of what is taken: a word that tells how, and the name of the main thing. -/
structure ImportHead where
  /-- The word. -/
  how : String := ""
  /-- The name. -/
  main : Option Layout := none

/-- Reads the start of what is taken. -/
def importHead : ModuleReader ImportHead := do
  if !(← atVariable) then return {}
  let how := (← peek).text
  let first ← variableName
  if !(["type", "defer", "source"].contains how) then return { main := some first }
  if ← atOneOf ["*", "\x7b"] then return { how }
  let next ← peekSecond
  if ← atVariable then
    if !(← atWord "from") || next.isWord "from" then return { how, main := some (← variableName) }
    if how == "type" && next.isMark "=" then return { how, main := some (← nameLayout) }
  return { main := some first }

/-- Another name of what a module holds, behind the equals sign. -/
def aliasTarget : ModuleReader Layout := do
  let target ←
    if (← atWord "require") && (← peekSecond).isMark "(" then do
      let required ← nameLayout
      mark "("
      let source ← stringLayout
      mark ")"
      pure (Layout.run [required, .text "(", source, .text ")"])
    else dottedName
  statementEnd
  return .run [.text " = ", target, .text ";"]

/-- What is taken in addition to the main thing: all under one name, or some names. -/
def importedNames (how : String) : ModuleReader (Option Layout) := do
  if (← atMark "*") && how != "source" then
    discard pop
    word "as"
    return some (.run [.text "* as ", ← variableName])
  if (← atMark "\x7b") && how != "defer" && how != "source" then
    discard pop
    let items ← sharedItems (importedItem (how == "type"))
    return if items.isEmpty then none else some (inlineBraces items)
  return none

/-- What is taken from another module. -/
def importDeclaration (g : Grammar) : ModuleReader Layout := do
  word "import"
  if (← peek).kind = .string then return .run [.text "import ", ← otherModule g]
  let head ← importHead
  let start := Layout.run [.text "import ", .word (head.how != "") head.how]
  if let some main := head.main then
    if ← eatMark "=" then return .run [start, main, ← aliasTarget]
    unless ← atWord "from" do mark ","
  let others ← importedNames head.how
  word "from"
  let source ← otherModule g
  let taken := [head.main, others].filterMap id
  if taken.isEmpty then return .run [start, source]
  return .run [start, .commas taken, .text " from ", source]

/-! ### Exports -/

/-- What is wrong with a type in a list of types that are given out. -/
def exportedTypeProblem : String :=
  "The 'type' modifier cannot be used on a named export when 'export type' is used on its " ++
    "export statement."

/-- What is wrong with a name that only another module can have. -/
def foreignProblem (word : String) : String :=
  inBackquotes word ++ " cannot be used without `from` clause"

/-- What is wrong with a name that is given out and is not another module's, if anything is. -/
def ownProblem? (token : ModuleToken) : Option String :=
  if token.kind = .string then
    some "A string literal cannot be used as an exported binding without `from`."
  else if reservedWords.contains token.text then some (foreignProblem token.text)
  else none

/-- A name that is given out, which may be under another, and what is wrong with it if it is not
another module's. -/
def exportedItem (areTypes : Bool) : ModuleReader (Layout × Option LayoutError) := do
  match ← sharedItem areTypes exportedTypeProblem nameLayout with
  | .whole shown => return (shown, none)
  | .named isType first =>
      let head := Layout.run [.word isType "type", first.layout]
      let problem := (ownProblem? first.token).map first.token.start.error
      if ← eatWord "as" then return (.run [head, .text " as ", (← sharedName).layout], problem)
      return (head, problem)

/-- The names that are given out, in braces, and what is wrong with them if they are not another
module's. -/
def exportedItems (areTypes : Bool) : ModuleReader (List Layout × List LayoutError) := do
  mark "\x7b"
  let found ← many (return !(← atMark "\x7d") && !(← atEnd)) do
    let start ← here
    let (shown, problem) ← exportedItem areTypes
    let stop := (← get).stop.offset
    unless ← atMark "\x7d" do mark ","
    return (Layout.run [.before start.offset, shown, .close stop], problem)
  return (found.map (·.1), found.filterMap (·.2))

/-- The module whose names are given out. -/
def exportSource (g : Grammar) : ModuleReader Layout := do
  word "from"
  return .run [.text " from ", ← otherModule g]

/-- Some names that are given out, in braces, perhaps those of another module.  Of a statement that
ends with its brace a comma behind the last name is shown. -/
def exportedList (g : Grammar) (areTypes : Bool) : ModuleReader Layout := do
  let (items, problems) ← exportedItems areTypes
  let hasComma ← followsComma
  mark "\x7d"
  if ← atWord "from" then return .run [inlineBraces items, ← exportSource g]
  problems.forM noteError
  let hasEnd ← eatMark ";"
  let shown := match items.getLast? with
    | some last =>
        if hasComma && !hasEnd then items.dropLast ++ [.run [last, .text ", "]] else items
    | none => items
  return .run [inlineBraces shown, .text ";"]

/-- The names that are given out. -/
def exportedNames (g : Grammar) : ModuleReader Layout := do
  let areTypes ← eatWord "type"
  let start := Layout.run [.text "export ", .word areTypes "type"]
  if ← eatMark "*" then
    let named ← if ← eatWord "as" then
        pure (Layout.run [.text "* as ", (← sharedName).layout])
      else pure (.text "*")
    return .run [start, named, ← exportSource g]
  return .run [start, ← exportedList g areTypes]

/-- A declaration that is given out mainly. -/
def mainDeclaration? (g : Grammar) : ModuleReader (Option Layout) := do
  let next ← peekSecond
  let isAbstract ← atWord "abstract"
  if isAbstract && next.isWord "class" && !next.onNewLine then
    discard pop
    return some (← unnamedClass g true)
  if isAbstract && next.isWord "interface" then
    note (← here) (inBackquotes "abstract" ++
      " modifier can only appear on a class or method declaration")
    discard pop
  if ← eatWord "interface" then return some (← interfaceRest g)
  if ← atWord "class" then return some (← unnamedClass g false)
  if (← atWord "function") || ((← atWord "async") && next.isWord "function" && !next.onNewLine)
  then return some (← unnamedFunction g).1
  return none

/-- What a module gives out mainly, behind the words; an enum is given out by its name. -/
def mainExport (g : Grammar) : ModuleReader Layout := do
  if ← eatWord "enum" then return .run [.text "export ", ← enumRest g false]
  match ← mainDeclaration? g with
  | some found => return .run [.text "export default ", found]
  | none => do
      let value ← g.value
      statementEnd
      return .run [.text "export default ", value.layout, .text ";"]

/-- A declaration that is given out and starts with a reserved word. -/
def exportedDeclaration? (g : Grammar) : ModuleReader (Option Layout) := do
  let token ← peek
  let next ← peekSecond
  if token.isWord "class" then return some (← classDeclaration g false)
  if token.isWord "function" || (token.isWord "async" && next.isWord "function" && !next.onNewLine)
  then return some (← functionDeclaration g)
  if token.isWord "const" && next.isWord "enum" then
    discard pop
    discard pop
    return some (← enumRest g true)
  if ← atVariables then return some (← variableStatement g)
  return none

/-- What a module gives out. -/
def exportDeclaration (g : Grammar) : ModuleReader Layout := do
  word "export"
  let start ← here
  if ← atEnd then stopHere "Unexpected eof"
  if ← eatWord "declare" then
    if let some found ← declared? g start then
      return .run [.text "export ", .before start.offset, found]
  if let some found ← attempt (namedDeclaration? g) then return .run [.text "export ", found]
  if ← eatWord "import" then
    let isType := (← atWord "type") && (← peekSecond).isAnyWord
    if isType then discard pop
    let named ← nameLayout
    mark "="
    return .run [.text "export import ", .word isType "type", named, ← aliasTarget]
  if ← eatMark "=" then
    let value ← values g
    statementEnd
    return .run [.text "export = ", value.layout, .text ";"]
  if ← eatWord "as" then
    word "namespace"
    let named ← variableName
    statementEnd
    return .run [.text "export = ", named]
  if ← eatWord "default" then return ← mainExport g
  match ← exportedDeclaration? g with
  | some found => return .run [.text "export ", found]
  | none => exportedNames g

/-! ### Modules -/

/-- A statement of a module or namespace. -/
def itemOf (g : Grammar) : ModuleReader Layout := do
  if ← atWord "export" then closedPhrase (exportDeclaration g)
  else if ← atWord "import" then
    if (← peekSecond).isOneOf ["(", "."] then
      closedPhrase (importStatement g)
    else closedPhrase (importDeclaration g)
  else statementOf g true

end ModuleReader

/-- The readers of all phrases that are nested to a depth. -/
def Grammar.toDepth : Nat → Grammar
  | 0 => .failing
  | depth + 1 =>
      let g := toDepth depth
      { type := ModuleReader.typeOf g
        operatorType := ModuleReader.operatorTypeOf g
        value := ModuleReader.valueOf g
        unary := ModuleReader.unaryOf g
        operation := ModuleReader.operationOf g
        creation := ModuleReader.creationOf g
        leftHand := ModuleReader.leftHandOf g
        members := ModuleReader.membersOf g
        object := ModuleReader.objectOf g
        pattern := ModuleReader.patternOf g
        asPattern := ModuleReader.asPatternOf g
        statement := ModuleReader.statementOf g
        item := ModuleReader.itemOf g }

namespace ModuleReader

/-- A module: its statements, and the comments at its ends. -/
def moduleLayout : ModuleReader Layout := do
  let g := Grammar.toDepth (← rounds)
  let items ← many (return !(← atEnd)) g.item
  return .run [.before 0, .lines items, .behind (← get).stop.offset]

end ModuleReader

end ResolverTypes.Layout
