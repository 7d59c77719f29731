import ResolverTypes.Layout.ValueReader

/-!
# Declarations of a module

Interfaces, type aliases, enums, namespaces and variables, each read behind the word that tells what
is declared, and laid out anew.

## Main definitions

* `ModuleReader.interfaceRest`, `ModuleReader.aliasRest`, `ModuleReader.enumRest`,
  `ModuleReader.namespaceRest` : declarations behind their words.
* `ModuleReader.variableStatement` : variables with their types and values.
* `ModuleReader.namedDeclaration?` : a declaration by a word that may also be a name.
* `ModuleReader.declared?` : what is only declared.
-/

namespace ResolverTypes.Layout

namespace ModuleReader

/-! ### Types -/

/-- The names that no interface has. -/
def invalidInterfaceNames : List String :=
  ["string", "null", "number", "object", "any", "unknown", "boolean", "bigint", "symbol", "void",
    "never", "intrinsic"]

/-- What is wrong with the name of an interface. -/
def interfaceNameProblem : String := "interface name is invalid"

/-- An interface, behind its word. -/
def interfaceRest (g : Grammar) : ModuleReader Layout := do
  let token ← peek
  let named ← nameLayout
  if invalidInterfaceNames.contains token.text then note token.start interfaceNameProblem
  let generics ← genericParameters g .type
  let parents ← if ← eatWord "extends" then heritageList g else pure []
  if ← atWord "extends" then
    note (← here) (inBackquotes "extends" ++ " clause already seen.")
    discard (many (return !(← atMark "\x7b") && !(← atEnd)) pop)
  let members ← typeMembers g
  return .run [.text "interface ", named, generics, headed "extends" (parents.map (·.2)), .text " ",
    members]

/-- A type alias, behind its word. -/
def aliasRest (g : Grammar) : ModuleReader Layout := do
  let named ← nameLayout
  let generics ← genericParameters g .type
  unless ← eatMark "=" do stopUnexpected "="
  let type ← g.type
  statementEnd
  return .run [.text "type ", named, generics, .text " = ", type, .text ";"]

/-! ### Enums -/

/-- The name of a member of an enum that is written in brackets. -/
def bracketedMemberName (g : Grammar) : ModuleReader Layout := do
  let start ← here
  mark "["
  let value ← values g
  mark "]"
  match value.form with
  | .string written => return .text written
  | .template (some written) =>
      return .text ("\"" ++ String.ofList ((written.toList.drop 1).dropLast) ++ "\"")
  | _ =>
      note start "Computed property names are not allowed in enums"
      return .nothing

/-- The name of a member of an enum: a number is shown in quotes. -/
def enumMemberName (g : Grammar) : ModuleReader Layout := do
  let token ← peek
  match token.kind with
  | .string => written
  | .number =>
      discard pop
      note token.start "An enum member cannot have a numeric name"
      return .text ("\"" ++ token.text ++ "\"")
  | _ => if token.isMark "[" then bracketedMemberName g else nameLayout

/-- A member of an enum.  A token that ends no member is noted and left out. -/
def enumMember (g : Grammar) : ModuleReader Layout := listItem do
  let named ← enumMemberName g
  match ← assignedValue? g with
  | some value => return .run [named, .text " = ", value]
  | none =>
      let start ← here
      unless ← atOneOf [",", "\x7d"] do
        discard pop
        note start semicolonExpected
      return named

/-- The members of an enum, up to the closing brace.  A comma that is missing is noted. -/
def enumMembers (g : Grammar) : ModuleReader (List Layout) :=
  many (return !(← atMark "\x7d")) do
    let member ← enumMember g
    unless (← eatMark ",") || (← atMark "\x7d") do
      let token ← peek
      note token.start ("Expected ',', got '" ++ token.label ++ "'")
    return member

/-- An enum, behind its word. -/
def enumRest (g : Grammar) (isConst : Bool) : ModuleReader Layout := do
  let named ← nameLayout
  mark "\x7b"
  let members ← enumMembers g
  mark "\x7d"
  return .run [.word isConst "const", .text "enum ", named, .text " ",
    .braces (Layout.withSeparator "," members)]

/-! ### Namespaces -/

/-- The statements of a namespace, in braces. -/
def namespaceBody (g : Grammar) : ModuleReader Layout := do
  mark "\x7b"
  return .braces (← untilBrace g.item)

/-- A namespace, behind its word: its name may have points. -/
def namespaceRest (g : Grammar) (keyword : String) : ModuleReader Layout := do
  let first ← nameLayout
  let rest ← many (atMark ".") (pop *> nameLayout)
  let body ← namespaceBody g
  return .run [.text (keyword ++ " "), .separated "." (first :: rest), .text " ", body]

/-- A module that is known by a string, or the surroundings of all modules. -/
def externalModule (g : Grammar) : ModuleReader Layout := do
  let head ←
    if ← atWord "global" then nameLayout
    else if (← peek).kind = .string then pure (Layout.run [.text "module ", ← written])
    else stopUnexpected "global or a string literal"
  if ← atMark "\x7b" then return .run [head, .text " ", ← namespaceBody g]
  statementEnd
  return head

/-! ### Variables -/

/-- A variable that is declared. -/
structure Variable where
  /-- How it is laid out, with its type and its value. -/
  layout : Layout
  /-- Where it starts. -/
  start : ModulePlace
  /-- Whether it is a single name. -/
  isName : Bool
  /-- Whether its type is given. -/
  hasType : Bool
  /-- Whether its value is given. -/
  hasValue : Bool
deriving Inhabited

/-- Notes what is wrong with a variable that has no value. -/
def checkValueless (keyword : String) (one : Variable) : ModuleReader Unit := do
  if (← context).isDeclared then return
  if keyword == "const" then note one.start "'const' declarations must be initialized"
  else unless one.isName do stopAt one.start "Destructuring bindings require initializers"

/-- A variable with its type and its value, by the word that declares it; whether it is declared in
the head of a loop is given. -/
def declaredVariable (g : Grammar) (keyword : String) (inLoop : Bool) : ModuleReader Variable := do
  if keyword != "var" && (← atWord "let") then stopUnexpected letProblem
  let bound ← g.pattern
  let isName := match bound.form with
    | .name _ => true
    | _ => false
  if isName then discard (eatMark "!")
  let hasType ← atMark ":"
  let type ← typeAnnotation g
  let shown := Layout.run [bound.core, type, .behind bound.stop]
  let one (layout : Layout) (hasValue : Bool) : Variable :=
    { layout, start := bound.start, isName, hasType, hasValue }
  if inLoop && ((← atWord "in") || (← atWord "of")) then return one shown false
  if ← eatMark "=" then
    let withoutIn := inLoop && keyword == "var"
    let value ← within (fun c => { c with withoutIn }) g.value
    return one (.run [shown, .text " = ", value.layout]) true
  checkValueless keyword (one shown false)
  return one shown false

/-- Reads variables with commas between them, for a number of rounds; the place of the token in
front, or behind it if it is the word that declares them, is given. -/
def variableRounds (g : Grammar) (keyword : String) (inLoop : Bool) :
    Nat → ModulePlace → List Variable → ModuleReader (List Variable)
  | 0, _, found => return found.reverse
  | rounds + 1, front, found => do
      if (← atMark ";") || (← atEnd) then
        note front "Trailing comma is not allowed"
        return found.reverse
      let one ← declaredVariable g keyword inLoop
      let comma ← here
      if ← eatMark "," then variableRounds g keyword inLoop rounds comma (one :: found)
      else return (one :: found).reverse

/-- Whether the values of a loop follow at once, and then the end of its head. -/
def atEachValue (g : Grammar) : ModuleReader Bool := lookAhead do
  unless (← eatWord "of") || (← eatWord "in") do return false
  discard g.value
  eatMark ")"

/-- Variables behind the word that declares them, which is laid out too. -/
def variableList (g : Grammar) (inLoop : Bool) : ModuleReader (List Variable × Layout) := do
  let token ← pop
  let behind := (← get).stop
  let isEmpty ← if inLoop then atEachValue g else pure false
  if isEmpty then
    note behind "Variable declaration list cannot be empty"
    return ([], .text token.text)
  let found ← variableRounds g token.text inLoop (← rounds) behind []
  return (found, .run [.text (token.text ++ " "), .commas (found.map (·.layout))])

/-- Goes behind the next end of a statement. -/
def skipStatement (g : Grammar) : ModuleReader Unit := do
  recover (discard (values g)) fun _ => return ()
  discard (many (return !(← atStatementEnd)) pop)
  discard (eatMark ";")

/-- Variables with their types and values.  What follows them in place of an end is noted. -/
def variableStatement (g : Grammar) : ModuleReader Layout := do
  let (_, shown) ← variableList g false
  unless ← eatStatementEnd do
    note (← here) semicolonExpected
    skipStatement g
  return .run [shown, .text ";"]

/-- Whether resources are declared next, by the word `using`. -/
def atUsing : ModuleReader Bool := do
  let next ← peekSecond
  return (← atWord "using") && !next.onNewLine && next.isAnyWord &&
    !variableWords.contains next.text

/-- Notes what is wrong with resources that are declared at a place. -/
def checkResources (place : ModulePlace) (found : List Variable) : ModuleReader Unit := do
  for one in found do
    unless one.isName do note place "Invalid name in using declaration"
    unless one.hasValue do note place "Using declaration requires initializer"

/-- Resources that are declared, behind the words in front of them. -/
def resourceStatement (g : Grammar) (start : ModulePlace) (words : String) :
    ModuleReader Layout := do
  let front ← pop
  let found ← variableRounds g "var" false (← rounds) front.start []
  checkResources start found
  statementEnd
  return .run [.text words, .commas (found.map (·.layout)), .text ";"]

/-! ### Words that may be names -/

/-- Whether a name that is no reserved word comes next, or any name if that is allowed. -/
def namesNext (isSure : Bool) : ModuleReader Bool := do
  if isSure then return true else atVariable

/-- A declaration behind a word that tells what is declared, or may be a name; whether it is sure to
be no name is given. -/
def declarationBehind? (g : Grammar) (word : String) (isSure : Bool) :
    ModuleReader (Option Layout) := do
  let token ← peek
  match word with
  | "abstract" =>
      if isSure || (token.isWord "class" && !token.onNewLine) then
        return some (← classDeclaration g true)
      else return none
  | "enum" => if ← namesNext isSure then return some (← enumRest g false) else return none
  | "interface" => if ← namesNext isSure then return some (← interfaceRest g) else return none
  | "module" =>
      if token.onNewLine && !isSure then return none
      else if token.kind = .string then return some (← externalModule g)
      else if ← namesNext isSure then return some (← namespaceRest g "module")
      else return none
  | "namespace" =>
      if ← namesNext isSure then return some (← namespaceRest g "namespace") else return none
  | "type" =>
      if isSure || (!token.onNewLine && (← atVariable)) then return some (← aliasRest g)
      else return none
  | _ => return none

/-- The words that may tell what is declared. -/
def declaringWords : List String :=
  ["abstract", "enum", "interface", "module", "namespace", "type"]

/-- A declaration that starts with a word which cannot be a name here. -/
def namedDeclaration? (g : Grammar) : ModuleReader (Option Layout) := do
  let token ← peek
  if !token.isAnyWord || !declaringWords.contains token.text then return none
  if token.text == "module" && token.onNewLine then return none
  let start := Layout.before token.start.offset
  discard pop
  return (← declarationBehind? g token.text true).map fun shown => .run [start, shown]

/-- What is only declared, behind the word that says so, if a declaration follows. -/
def declared? (g : Grammar) (start : ModulePlace) : ModuleReader (Option Layout) := do
  if (← context).isDeclared then
    note start "`declare` modifier not allowed for code already in an ambient context"
  let found ← within (fun c => { c with isDeclared := true }) do
    let token ← peek
    if token.isWord "function" then return some (← functionDeclaration g)
    if token.isWord "class" then return some (← classDeclaration g false)
    if token.isWord "const" && (← peekSecond).isWord "enum" then
      discard pop
      discard pop
      return some (← enumRest g true)
    if token.isAnyWord && ["const", "var", "let"].contains token.text then
      return some (← variableStatement g)
    if token.isWord "global" then return some (← externalModule g)
    namedDeclaration? g
  return found.map fun shown => .run [.text "declare ", shown]

end ModuleReader

end ResolverTypes.Layout
