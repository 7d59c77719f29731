import ResolverTypes.Schema.Reader

/-!
# Reading schema texts

The grammar of schema texts.  A part that is not as it should be is reported, and what can be read
of it is kept.

## Main definitions

* `Reader.typeSyntax`, `Reader.value`, `Reader.directives` : the parts that definitions share.
* `Reader.document` : a whole text.
* `readDefinitions` : the definitions of a text, and what is wrong with it.
-/

namespace ResolverTypes.Schema

namespace Reader

/-! ### Names, types and values -/

/-- A name, if there is one. -/
def name? : Reader (Option Name) := do
  if (← peekKind) = .name then
    let position ← here
    return some ⟨(← pop).text, position⟩
  return none

/-- A name. -/
def name (problem : String := "expected a Name") : Reader (Option Name) := do
  let found ← name?
  if found.isNone then fail problem
  return found

/-- Whether a token starts a name. -/
def startsName (kind : TokenKind) : Bool := kind == .name

/-- Whether a token starts a name or a description before it. -/
def startsNamed (kind : TokenKind) : Bool := kind == .name || kind == .string

/-- A type, nested to a bounded depth.  What is none is reported as given and left out. -/
def typeSyntaxRounds (problem : String) : Nat → Reader (Option TypeSyntax)
  | 0 => return none
  | rounds + 1 => do
      match ← peekKind with
      | .leftBracket =>
          discard pop
          let item ← deeper (typeSyntaxRounds "expected item type" rounds)
          expect .rightBracket
          settle
          let nonNull ← eat .bang
          return item.map (.list · nonNull)
      | .name =>
          let position ← here
          let token ← pop
          let nonNull ← eat .bang
          return some (.named ⟨token.text, position⟩ nonNull)
      | _ =>
          fail problem
          leaveOut
          return none

/-- A type. -/
def typeSyntax : Reader (Option TypeSyntax) := do
  typeSyntaxRounds "expected a type" (← remaining)

/-- Whether variables may stand for values. -/
inductive Constness where
  /-- They may. -/
  | mayVary
  /-- They may not. -/
  | constant
deriving DecidableEq, Inhabited

/-- A value with its position, nested to a bounded depth.  What is none is reported, and read where
it stands inside another value. -/
def valueRounds (constness : Constness) (isInside : Bool) :
    Nat → Reader (Option (Located ValueSyntax))
  | 0 => return none
  | rounds + 1 => do
      let position ← here
      let found (value : ValueSyntax) : Option (Located ValueSyntax) := some ⟨value, position⟩
      let wrong (problem : String) : Reader Unit :=
        if isInside then failAndPop problem else fail problem
      match ← peekKind with
      | .dollar =>
          if constness = .constant then wrong "unexpected variable value in a Const context"
          discard pop
          let variableName ← name
          return variableName.bind fun n => found (.variable n.value)
      | .int => return found (.int (← pop).text)
      | .float => return found (.float (← pop).text)
      | .string =>
          discard pop
          return found .string
      | .name =>
          match (← pop).text with
          | "true" => return found (.boolean true)
          | "false" => return found (.boolean false)
          | "null" => return found .null
          | word => return found (.enum word)
      | .leftBracket =>
          discard pop
          let items ← many (fun k => k != .rightBracket && k != .eof)
            (deeper (valueRounds constness true rounds))
          discard <| eat .rightBracket
          return found (.list items)
      | .leftBrace =>
          discard pop
          let fields ← many startsName do
            let fieldName ← name
            unless ← eat .colon do return none
            let value ← deeper (valueRounds constness true rounds)
            return fieldName.bind fun n => value.map (n.value, ·)
          expect .rightBrace
          return found (.object fields)
      | _ =>
          wrong "expected a valid Value"
          return none

/-- A value with its position. -/
def value (constness : Constness) : Reader (Option (Located ValueSyntax)) := do
  valueRounds constness false (← remaining)

/-! ### Directives -/

/-- An argument given to a directive or field. -/
def argumentUse (constness : Constness) : Reader (Option ArgumentUse) := do
  let argumentName ← name
  unless ← eat .colon do return none
  let given ← value constness
  return argumentName.bind fun n => given.map (⟨n, ·⟩)

/-- The arguments given to a directive or field, in parentheses. -/
def argumentUses (constness : Constness) : Reader (List ArgumentUse) := do
  discard pop
  if (← peekKind) ≠ .name then fail "expected an Argument"
  let arguments ← many startsName (argumentUse constness)
  expect .rightParen
  return arguments

/-- The uses of directives that stand at the next token. -/
def directives (constness : Constness) : Reader (List DirectiveUse) :=
  many (· == .at) do
    let position ← here
    discard pop
    let directiveName ← name
    let arguments ← if (← peekKind) = .leftParen then argumentUses constness else pure []
    return directiveName.map (⟨·, arguments, position⟩)

/-! ### Parts of types -/

/-- Reads a description, if there is one. -/
def description : Reader Unit := do discard <| eat .string

/-- The items between two delimiters, of which there has to be one at least. -/
def block {α : Type} (close : TokenKind) (starts : TokenKind → Bool) (problem : String)
    (item : Reader (Option α)) : Reader (List α) := do
  discard pop
  unless starts (← peekKind) do fail problem
  let items ← many starts item
  expect close
  return items

/-- An argument of a field or directive, or a field of an input. -/
def inputValue : Reader (Option InputValue) := do
  let position ← here
  description
  let valueName ← name
  unless ← eat .colon do
    fail "expected a Name"
    return none
  unless [TokenKind.name, .leftBracket].contains (← peekKind) do
    fail "expected a Type"
    return none
  let type ← typeSyntax
  let hasDefault ← eat .equals
  let default? ← if hasDefault then value .constant else pure none
  let uses ← directives .constant
  if hasDefault && default?.isNone then return none
  return valueName.bind fun n => type.map fun t => ⟨n, t, hasDefault, uses, position⟩

/-- The arguments of a field or directive, if there are any. -/
def argumentsDefinition : Reader (List InputValue) := do
  if (← peekKind) = .leftParen then
    block .rightParen startsNamed "expected an Argument Definition" inputValue
  else return []

/-- A field of an object or interface. -/
def field : Reader (Option Field) := do
  let position ← here
  description
  let fieldName ← name
  let arguments ← argumentsDefinition
  unless ← eat .colon do
    fail "expected a type"
    return none
  unless [TokenKind.name, .leftBracket].contains (← peekKind) do
    fail "expected a Type"
    return none
  let type ← typeSyntax
  let uses ← directives .constant
  return fieldName.bind fun n => type.map fun t => ⟨n, arguments, t, uses, position⟩

/-- The fields of an object or interface. -/
def fieldsBlock : Reader (List Field) :=
  block .rightBrace startsNamed "expected Field Definition" field

/-- The fields of an input. -/
def inputFieldsBlock : Reader (List InputValue) :=
  block .rightBrace startsNamed "expected an Input Value Definition" inputValue

/-- A value of an enum. -/
def enumValue : Reader (Option EnumValue) := do
  let position ← here
  description
  if ["true", "false", "null"].contains (← peekWord) then fail "invalid Enum Value"
  let valueName ← name "expected Enum Value"
  let uses ← directives .constant
  return valueName.map (⟨·, uses, position⟩)

/-- The values of an enum. -/
def enumValuesBlock : Reader (List EnumValue) :=
  block .rightBrace startsNamed "expected Enum Value Definition" enumValue

/-- The interfaces of an object or interface, if there are any. -/
def implementsClause : Reader (List Name) := do
  if ← eatWord "implements" then separated .ampersand (name "expected an Interface name")
  else return []

/-- The members of a union, if there are any. -/
def membersClause : Reader (List Name) := do
  if ← eat .equals then separated .pipe (name "expected Union Member Type") else return []

/-- What a type of a kind consists of, with the directives used on it. -/
def typeBody (keyword : String) : Reader (List DirectiveUse × TypeBody) := do
  let implemented ←
    if ["type", "interface"].contains keyword then implementsClause else pure []
  let uses ← directives .constant
  let opened := (← peekKind) = .leftBrace
  match keyword with
  | "type" => return (uses, .object implemented (← if opened then fieldsBlock else pure []))
  | "interface" => return (uses, .interface implemented (← if opened then fieldsBlock else pure []))
  | "union" => return (uses, .union (← membersClause))
  | "enum" => return (uses, .enum (← if opened then enumValuesBlock else pure []))
  | "input" => return (uses, .input (← if opened then inputFieldsBlock else pure []))
  | _ => return (uses, .scalar)

/-- What an extension of a kind of types has to have. -/
def extensionProblem : String → String
  | "type" => "expected an Implements Interface, Directives or a Fields Definition"
  | "interface" => "exptected an Implements Interfaces, Directives, or a Fields Definition"
  | "union" => "expected Directives or Union Member Types"
  | "enum" => "expected Directive or Enum Values Definition"
  | "input" => "expected Directives or an Input Fields Definition"
  | _ => "expected Directives"

/-- The definition of a type, behind any description. -/
def typeDefinition (position : Option Position) : Reader (Option TypeDefinition) := do
  let keyword := (← pop).text
  let typeName ← name (if keyword = "type" then "expected a name" else "expected a Name")
  let (uses, body) ← typeBody keyword
  return typeName.map (⟨·, uses, body, position⟩)

/-- The extension of a type, behind the word for it. -/
def typeExtension (position : Option Position) : Reader (Option TypeDefinition) := do
  let keyword := (← pop).text
  let typeName ← name
  let before ← remaining
  let (uses, body) ← typeBody keyword
  if (← remaining) = before then fail (extensionProblem keyword)
  return typeName.map (⟨·, uses, body, position⟩)

/-! ### Directive definitions and the schema -/

/-- A place at which a directive may stand. -/
def directiveLocation : Reader (Option String) := do
  if directiveLocations.contains (← peekWord) then return some (← pop).text
  fail (if (← peekKind) = .name then "expected valid Directive Location"
    else "expected Directive Location")
  return none

/-- The definition of a directive, behind any description. -/
def directiveDefinition (position : Option Position) : Reader (Option DirectiveDefinition) := do
  discard pop
  unless ← eat .at do fail "expected @ symbol"
  let directiveName ← name
  let arguments ← argumentsDefinition
  let repeatable ← eatWord "repeatable"
  unless ← eatWord "on" do fail "expected Directive Locations"
  let locations ←
    if [TokenKind.name, .pipe].contains (← peekKind) then separated .pipe directiveLocation
    else do
      fail "expected valid Directive Location"
      pure []
  return directiveName.map (⟨·, arguments, repeatable, locations, position⟩)

/-- The naming of a root. -/
def rootClause : Reader (Option RootClause) := do
  let position ← here
  let kind ←
    match ← peekWord with
    | "query" => pop *> pure (some OperationKind.query)
    | "mutation" => pop *> pure (some OperationKind.mutation)
    | "subscription" => pop *> pure (some OperationKind.subscription)
    | _ =>
        failAndPop "expected either a 'mutation', a 'query', or a 'subscription'"
        pure none
  unless ← eat .colon do
    fail "expected a Name Type"
    return none
  let type ← name?
  return kind.bind fun k => type.map (⟨k, ·, position⟩)

/-- The roots of the schema, between braces. -/
def rootsBlock : Reader (List RootClause) :=
  block .rightBrace startsName "expected Root Operation Type Definition" rootClause

/-- The definition of the schema, behind any description. -/
def schemaDefinition (position : Option Position) : Reader SchemaClause := do
  discard pop
  let uses ← directives .constant
  let roots ← if (← peekKind) = .leftBrace then rootsBlock else pure []
  return ⟨uses, roots, position⟩

/-- The extension of the schema, behind the word for it. -/
def schemaExtension (position : Option Position) : Reader SchemaClause := do
  discard pop
  let isUsed := (← peekKind) = .at
  let uses ← directives .constant
  let mut isRooted := false
  let mut roots : List RootClause := []
  if ← eat .leftBrace then
    isRooted := startsName (← peekKind)
    roots ← many startsName rootClause
    expect .rightBrace
  unless isUsed || isRooted do fail "expected directives or Root Operation Type Definition"
  return ⟨uses, roots, position⟩

/-! ### Operations and fragments -/

/-- The condition on the type of a fragment: whether it names one. -/
def typeCondition : Reader Bool := do
  unless ← eatWord "on" do fail "expected 'on'"
  return (← name "expected a Name in Type Condition").isSome

/-- The name of a fragment, which is not `on`. -/
def fragmentName : Reader Bool := do
  if (← peekWord) = "on" then
    fail "Fragment Name cannot be 'on'"
    return false
  return (← name "expected Fragment Name").isSome

/-- A fragment among fields, behind its dots, with the way nested parts are read. -/
def selectedFragment (nested : Reader Unit) : Reader Unit := do
  let second ← peekSecond
  if second.kind = .name && second.text != "on" then
    discard pop
    discard fragmentName
    discard <| directives .mayVary
  else if [TokenKind.at, .name, .leftBrace].contains second.kind then
    discard pop
    if (← peekKind) = .name then discard typeCondition
    discard <| directives .mayVary
    if (← peekKind) = .leftBrace then nested else fail "expected Selection Set"
  else failAndPop "expected an Inline Fragment or a Fragment Spread"

/-- A field among fields, with the way nested parts are read. -/
def selectedField (nested : Reader Unit) : Reader Unit := do
  if (← peekSecond).kind = .colon then
    discard name
    discard pop
  discard name
  if (← peekKind) = .leftParen then discard <| argumentUses .mayVary
  discard <| directives .mayVary
  if (← peekKind) = .leftBrace then nested

/-- Fields and fragments between braces; nothing of them is kept. -/
def selectionRounds : Nat → Reader Unit
  | 0 => return
  | rounds + 1 => do
      discard pop
      let starts (kind : TokenKind) : Bool := kind == .name || kind == .spread
      unless starts (← peekKind) do fail "expected at least one Selection in Selection Set"
      let nested : Reader Unit := discard <| deeper (selectionRounds rounds *> pure (some ()))
      discard <| many starts do
        if (← peekKind) = .spread then selectedFragment nested else selectedField nested
        return some ()
      expect .rightBrace

/-- The definition of a variable of an operation. -/
def variableDefinition : Reader (Option Unit) := do
  discard pop
  discard name
  if ← eat .colon then
    if [TokenKind.name, .leftBracket].contains (← peekKind) then
      discard typeSyntax
      if ← eat .equals then discard <| value .constant
      discard <| directives .constant
    else fail "expected a Type"
  else fail "expected a Name"
  return some ()

/-- An operation, behind any description: whether it is one. -/
def operation : Reader Bool := do
  match ← peekKind with
  | .leftBrace =>
      selectionRounds (← remaining)
      return true
  | .name =>
      discard pop
      discard <| eat .name
      if (← peekKind) = .leftParen then
        discard <|
          block .rightParen (· == .dollar) "expected a Variable Definition" variableDefinition
      discard <| directives .mayVary
      if (← peekKind) = .leftBrace then
        selectionRounds (← remaining)
        return true
      failAndPop "expected a Selection Set"
      return false
  | _ =>
      failAndPop "expected an Operation Type or a Selection Set"
      return false

/-- A fragment, with whatever stands in place of its keyword: whether it is one. -/
def fragment : Reader Bool := do
  discard pop
  let isNamed ← fragmentName
  let isConditional ← typeCondition
  discard <| directives .mayVary
  if (← peekKind) = .leftBrace then
    selectionRounds (← remaining)
    return isNamed && isConditional
  fail "expected a Selection Set"
  return false

/-! ### Documents -/

/-- The words that definitions of types start with. -/
def typeKeywords : List String := ["scalar", "type", "interface", "union", "enum", "input"]

/-- The definition that starts with a word, which may have a description in front. -/
def definition (keyword : String) : Reader (Option Definition) := do
  let position ← here
  if keyword = "extend" then
    let extended := (← peekSecond).text
    if extended = "schema" then
      discard pop
      return some (.schemaExtension (← schemaExtension position))
    if typeKeywords.contains extended then
      discard pop
      return (← typeExtension position).map .typeExtension
    failAndPop "Invalid Type System Extension. This extension cannot be applied."
    return none
  if typeKeywords.contains keyword then
    description
    return (← typeDefinition position).map .type
  match keyword with
  | "schema" =>
      description
      return some (.schema (← schemaDefinition position))
  | "directive" =>
      description
      return (← directiveDefinition position).map .directive
  | "fragment" => return if ← fragment then some (.fragment position) else none
  | "query" | "mutation" | "subscription" | "\x7b" =>
      return if ← operation then some (.operation position) else none
  | _ =>
      failAndPop "expected definition"
      return none

/-- All definitions of a text. -/
def document : Reader (List Definition) := do
  settle
  if (← peekKind) = .eof then
    fail "Unexpected <EOF>."
    return []
  many (· != .eof) do
    match ← peekKind with
    | .string => definition (← peekSecond).text
    | .name => definition (← peek).text
    | .leftBrace => definition "\x7b"
    | _ =>
        failAndPop "expected a StringValue, Name or OperationDefinition"
        return none

end Reader

/-- The definitions of a text, and what is wrong with it. -/
def readDefinitions (source : Nat) (text : String) : List Definition × List SyntaxError :=
  let (definitions, state) := Reader.document.run { source, rest := lexemes text }
  (definitions, state.errors.reverse)

end ResolverTypes.Schema
