import ResolverTypes.Layout.PatternReader

/-!
# Types of a module

The grammar of types, each read and laid out anew.  An object type breaks over lines, a member to a
line; everything else stays on its line with single blanks.

## Main definitions

* `ModuleReader.typeOf` : a type.
* `ModuleReader.genericParameters`, `ModuleReader.typeArguments` : the parameters and arguments of
  generic types.
* `ModuleReader.typeMembers` : the members of an object type or interface.
-/

namespace ResolverTypes.Layout

namespace ModuleReader

/-! ### Names and arguments -/

/-- What a type may start with, in words. -/
def typeStarts : String :=
  "an identifier, void, yield, null, await, break, a string literal, a numeric literal, true, " ++
    "false, `, -, import, this, typeof, \x7b, [, ("

/-- Reads the names behind the first, with dots in front, for a number of rounds. -/
def dottedRounds : Nat → ModuleReader (List Layout)
  | 0 => return []
  | rounds + 1 => do
      if ← eatMark "." then
        let token ← peek
        if !token.isAnyWord && !token.isMark "#" then
          note token.start "Expected an identifier"
          return []
        let next ← nameLayout
        return .run [.text ".", next] :: (← dottedRounds rounds)
      return []

/-- Names with dots between them. -/
def dottedName : ModuleReader Layout := do
  let token ← peek
  let first ← nameLayout
  if token.text == "void" then note (← here) semicolonExpected
  return .run (first :: (← dottedRounds (← rounds)))

/-- The arguments of a generic type. -/
def typeArguments (g : Grammar) : ModuleReader Layout := do
  let start ← here
  mark "<"
  let arguments ← commaList ">" (listItem g.type)
  if arguments.isEmpty then note start "Type argument list cannot be empty."
  return .run [.text "<", .commas arguments, .text ">"]

/-- The arguments of a generic type, if there are any. -/
def typeArgumentsIfAny (g : Grammar) : ModuleReader Layout := do
  if (← atMark "<") && !(← peek).onNewLine then typeArguments g else return .nothing

/-- The modifiers of a parameter of a generic declaration. -/
structure Variance where
  /-- Whether the argument is taken literally. -/
  isConst : Bool := false
  /-- Whether the argument is taken in. -/
  isIn : Bool := false
  /-- Whether the argument is given out. -/
  isOut : Bool := false
deriving DecidableEq, Inhabited

/-- Which modifiers the parameters of a generic declaration may have. -/
inductive GenericKind where
  /-- That of a function. -/
  | function
  /-- That of an interface or a type. -/
  | type
  /-- That of a class. -/
  | ofClass
deriving DecidableEq

/-- What is wrong with a modifier of a parameter of a generic declaration, if anything is. -/
def varianceProblem? (kind : GenericKind) (read : Variance) (word : String) : Option String :=
  let quoted := "'" ++ word ++ "' modifier "
  match word with
  | "const" =>
      if kind = .type then
        some (quoted ++ "can only appear on a type parameter of a function, method or class")
      else none
  | "in" =>
      if kind = .function then
        some (quoted ++ "can only appear on a type parameter of a class, interface or type alias")
      else if read.isIn then some (quoted ++ "already seen.")
      else if read.isOut then some ("'in' modifier must precede 'out' modifier.")
      else none
  | "out" =>
      if kind = .function then
        some (quoted ++ "can only appear on a type parameter of a class, interface or type alias")
      else if read.isOut then some (quoted ++ "already seen.")
      else none
  | _ => some (quoted ++ "cannot appear on a type parameter")

/-- A modifier added to others. -/
def Variance.add (read : Variance) (word : String) : Variance :=
  match word with
  | "const" => { read with isConst := true }
  | "in" => { read with isIn := true }
  | "out" => { read with isOut := true }
  | _ => read

/-- Reads the modifiers of a parameter of a generic declaration, for a number of rounds. -/
def varianceRounds (kind : GenericKind) : Nat → Variance → ModuleReader Variance
  | 0, read => return read
  | rounds + 1, read => do
      let words :=
        ["public", "private", "protected", "readonly", "abstract", "const", "override", "in", "out"]
      match ← modifier? words with
      | none => return read
      | some token =>
          if let some problem := varianceProblem? kind read token.text then
            note token.start problem
          varianceRounds kind rounds (read.add token.text)

/-- A type behind a word or mark that is part of the text, if there is one. -/
def typeBehind (g : Grammar) (eaten : ModuleReader Bool) (shown : String) :
    ModuleReader Layout := do
  if ← eaten then return .run [.text shown, ← g.type] else return .nothing

/-- A parameter of a generic declaration. -/
def genericParameter (g : Grammar) (kind : GenericKind) : ModuleReader Layout := listItem do
  let modifiers ← varianceRounds kind (← rounds) {}
  let parameter ← nameLayout
  let bound ← typeBehind g (eatWord "extends") " extends "
  let standard ← typeBehind g (eatMark "=") " = "
  return .run [.word modifiers.isConst "const", .word modifiers.isIn "in",
    .word modifiers.isOut "out", parameter, bound, standard]

/-- The parameters of a generic declaration. -/
def genericList (g : Grammar) (kind : GenericKind) : ModuleReader Layout := do
  let start ← here
  mark "<"
  let found ← commaList ">" (genericParameter g kind)
  if found.isEmpty then note start "Type parameter list cannot be empty."
  return .run [.text "<", .commas found, .text ">"]

/-- The parameters of a generic declaration, if there are any. -/
def genericParameters (g : Grammar) (kind : GenericKind) : ModuleReader Layout := do
  if ← atMark "<" then genericList g kind else return .nothing

/-! ### Functions -/

/-- The parameters of the type of a function, behind the opening parenthesis. -/
def signatureParameters (g : Grammar) : ModuleReader Layout := do
  let found ← openParameters g
  if found.any fun parameter => parameter.form == .assigned then
    stopUnexpected
      ("an identifier, [ for an array pattern, \x7b for an object patter or ... for a rest " ++
        "pattern")
  mark ")"
  return .parens (found.map fun parameter => .run [parameter.core, .close parameter.stop])

/-- The result of a function behind a mark, which may be a statement about an argument. -/
def resultType (g : Grammar) (sign : String) : ModuleReader Layout := phrase do
  mark sign
  phrase do
    let second ← peekSecond
    let asserts := (← atWord "asserts") && second.isAnyWord && !variableWords.contains second.text
    if asserts then discard pop
    let next ← peekSecond
    let tells := (← atVariable) && next.isWord "is" && !next.onNewLine
    if !asserts && !tells then return ← g.type
    let subject ← nameLayout
    let told ← if tells then pure (Layout.run [.text " is ", ← pop *> g.type]) else pure .nothing
    return .run [.word asserts "asserts", subject, told]

/-- The result of a function behind a colon, if there is one. -/
def resultIfAny (g : Grammar) : ModuleReader Layout := do
  if ← atMark ":" then return .run [.text ": ", ← resultType g ":"] else return .nothing

/-- The type of a function, or of a constructor. -/
def functionType (g : Grammar) (isConstructor : Bool) : ModuleReader Layout := phrase do
  let isAbstract ← if isConstructor then eatWord "abstract" else pure false
  if isConstructor then word "new"
  let hasGenerics ← atMark "<"
  let generics ← genericParameters g .function
  mark "("
  let taken ← signatureParameters g
  let result ← resultType g "=>"
  let keyword := if !isConstructor then "" else if hasGenerics then "new " else "new"
  return .run [.word isAbstract "abstract", .text keyword, generics, taken, .text " => ", result]

/-- Goes behind what may be the start of a parameter, and says whether it is one. -/
def skipParameterStart (g : Grammar) : ModuleReader Bool := do
  discard eatParameterModifier
  if (← peek).isAnyWord then
    discard pop
    return true
  if ← atOneOf ["\x7b", "["] then
    discard g.pattern
    return true
  return false

/-- Whether the type of a function starts here. -/
def atFunctionType (g : Grammar) : ModuleReader Bool := do
  if ← atMark "<" then return true
  if !(← atMark "(") then return false
  lookAhead do
    discard pop
    if ← atOneOf [")", "..."] then return true
    if !(← skipParameterStart g) then return false
    if ← atOneOf [":", ",", "?", "="] then return true
    return (← eatMark ")") && (← atMark "=>")

/-! ### Operators -/

/-- Types with a mark between them, which may stand before the first as well. -/
def operands (separator : String) (operand : ModuleReader Layout) : ModuleReader Layout := do
  let start ← here
  discard <| eatMark separator
  let item : ModuleReader (Layout × Nat) := do return (← operand, (← get).stop.offset)
  let (first, stop) ← item
  let rest ← many (atMark separator) (pop *> item)
  match rest.getLast? with
  | none => return first
  | some (last, _) =>
      let inner := ((first, stop) :: rest.dropLast).map fun (shown, stop) =>
        Layout.run [shown, .close stop]
      return .run [.before start.offset, .separated (" " ++ separator ++ " ") (inner ++ [last])]

/-- A type without a condition. -/
def plainType (g : Grammar) : ModuleReader Layout := do
  if ← atFunctionType g then functionType g false
  else if (← atWord "new") || ((← atWord "abstract") && (← peekSecond).isWord "new") then
    functionType g true
  else operands "|" (operands "&" g.operatorType)

/-- A type that a condition leads to. -/
def typeOf (g : Grammar) : ModuleReader Layout := phrase do
  within (fun c => { c with withoutConditions := false }) do
    let type ← plainType g
    if ← eatWordOnLine "extends" then
      let bound ← within (fun c => { c with withoutConditions := true }) (plainType g)
      mark "?"
      let yes ← g.type
      mark ":"
      let no ← g.type
      return .run [type, .text " extends ", bound, .text " ? ", yes, .text " : ", no]
    return type

/-- A type that is inferred, behind its word. -/
def inferredType (g : Grammar) : ModuleReader Layout := do
  let variable_ ← nameLayout
  let bound ← attempt do
    word "extends"
    let bound ← plainType g
    if (← context).withoutConditions || !(← atMark "?") then
      return some (Layout.run [.text " extends ", bound])
    else return none
  return .run [.text "infer ", variable_, bound.getD .nothing]

/-! ### Other types -/

/-- Stops at a part of a template whose escapes are wrong, if they have to be right. -/
def checkTemplate (isTagged : Bool) (place : ModulePlace) (part : String) : ModuleReader Unit := do
  unless isTagged do
    if let some error := ModuleScan.templateError? place part.toList then throw error

/-- Reads the values of a template behind its head, each with the part behind it, for a number of
rounds. -/
def templateRounds (isTagged : Bool) (inner : ModuleReader Layout) :
    Nat → ModuleReader (List Layout)
  | 0 => stopHere valueExpected
  | rounds + 1 => do
      let value ← inner
      unless ← atMark "\x7d" do stopExpecting "\x7d"
      let s ← get
      match s.scan.templatePart with
      | none => stopHere "Unterminated template"
      | some (part, scan, ends) =>
          checkTemplate isTagged s.scan.place part
          let (token, left, problems) := scan.next
          set { s with token, scan := left, stop := scan.place }
          problems.forM noteError
          let shown := Layout.run [value, .text ("\x7d" ++ part)]
          if ends then return [shown]
          else return shown :: (← templateRounds isTagged inner rounds)

/-- A template, given whether a value in front tells what it stands for and how the values in it
are read. -/
def template (isTagged : Bool) (inner : ModuleReader Layout) : ModuleReader Layout := do
  let token ← peek
  checkTemplate isTagged token.start token.text
  if token.kind = .template then written
  else
    let place := Layout.before token.start.offset
    discard pop
    return .run (place :: .text token.text :: (← templateRounds isTagged inner (← rounds)))

/-- A type of another module. -/
def importType (g : Grammar) : ModuleReader Layout := phrase do
  word "import"
  mark "("
  let module_ ←
    if (← peek).kind = .string then written
    else do
      let token ← pop
      note token.start "String literal expected"
      pure (.text "\"\"")
  let attributes ←
    if (← eatMark ",") && (← atMark "\x7b") then do
      discard pop
      word "with"
      mark ":"
      let given ← g.object
      discard <| eatMark ","
      mark "\x7d"
      pure (Layout.run [.text ", ", .braces [.run [.text "with: ", given.layout]]])
    else pure .nothing
  mark ")"
  let qualifier ←
    if ← eatMark "." then pure (Layout.run [.text ".", ← dottedName]) else pure .nothing
  let arguments ← if ← atMark "<" then typeArguments g else pure .nothing
  return .run [.text "import(", module_, attributes, .text ")", qualifier, arguments]

/-- The type of a value. -/
def queriedType (g : Grammar) : ModuleReader Layout := phrase do
  word "typeof"
  let queried ← if ← atWord "import" then importType g else dottedName
  return .run [.text "typeof ", queried, ← typeArgumentsIfAny g]

/-- An item of a tuple. -/
structure TupleItem where
  /-- How it is laid out. -/
  layout : Layout
  /-- Whether it may be left out. -/
  isOptional : Bool := false
  /-- Whether it stands for all items that are left. -/
  isRest : Bool := false
deriving Inhabited

/-- The label of an item of a tuple, if there is one. -/
def tupleLabel : ModuleReader (Option Layout) := attempt do
  let isRest ← eatMark "..."
  let label ← nameLayout
  let isOptional ← eatMark "?"
  mark ":"
  return some (.run [.text (if isRest then "..." else ""), label,
    .text (if isOptional then "?: " else ": ")])

/-- Reads an item of a tuple. -/
def tupleItem (g : Grammar) : ModuleReader TupleItem := do
  let start ← here
  let place := Layout.before start.offset
  let label := (← tupleLabel).getD .nothing
  if ← eatMark "..." then
    return { layout := .run [place, label, .text "...", ← g.type], isRest := true }
  let type ← g.type
  let isOptional ← eatMark "?"
  return { layout := .run [place, label, type, .text (if isOptional then "?" else "")], isOptional }

/-- Whether an item that may not be left out stands behind one that may. -/
def hasGap (items : List TupleItem) : Bool :=
  (items.dropWhile fun item => !item.isOptional).any fun item =>
    !item.isOptional && !item.isRest

/-- The type of a tuple. -/
def tupleType (g : Grammar) : ModuleReader Layout := phrase do
  let start ← here
  mark "["
  let items ← commaList "]" do
    let item ← tupleItem g
    return { item with layout := .run [item.layout, .close (← get).stop.offset] }
  if hasGap items then stopAt start "A required element cannot follow an optional element."
  return .run [.text "[", .commas (items.map (·.layout)), .text "]"]

/-- A statement about `this`, behind that word. -/
def toldAboutThis (g : Grammar) (asserts : Bool) : ModuleReader Layout := do
  if ← eatWord "is" then
    return .run [.word asserts "asserts", .text "this is ", ← g.type]
  return .run [.word asserts "asserts", .text "this"]

/-- A type that is named. -/
def namedType (g : Grammar) : ModuleReader Layout := phrase do
  let token ← peek
  let next ← peekSecond
  if token.isWord "asserts" && next.isWord "this" then
    discard pop
    discard pop
    return ← toldAboutThis g true
  let keywords :=
    ["void", "null", "any", "boolean", "bigint", "never", "number", "object", "string", "symbol",
      "unknown", "undefined", "intrinsic"]
  if keywords.contains token.text && !next.isMark "." then return ← written
  let isModified ← eatParameterModifier
  let named ← dottedName
  let arguments ← typeArgumentsIfAny g
  if isModified then
    note token.start "A parameter property is only allowed in a constructor implementation"
  return .run [named, arguments]

/-! ### Members -/

/-- Reads the end of a member: a semicolon or comma, or the end of a line or of the braces. -/
def memberEnd : ModuleReader Unit := do
  unless ← eatMark "," do statementEnd

/-- The parameters of a function that has no arrow. -/
def signature (g : Grammar) : ModuleReader Layout := do
  let generics ← genericParameters g .function
  mark "("
  let taken ← signatureParameters g
  return .run [generics, taken]

/-- The name of a member of an object type or interface. -/
def memberName (g : Grammar) : ModuleReader Layout := do
  if ← eatMark "[" then
    let value ← g.value
    mark "]"
    return .run [.text "[", value.layout, .text "]"]
  closedPhrase do
    let token ← needed
    if token.kind = .string || token.kind = .number then written
    else if token.isMark "#" then
      let private_ ← privateName
      note token.start "private names are not allowed in interface"
      return .text ("#" ++ private_)
    else nameLayout

/-- Whether the brackets that come next hold the names of all members. -/
def atIndex : ModuleReader Bool := do
  if !(← atMark "[") then return false
  lookAhead do
    discard pop
    if !(← atVariable) then return false
    discard pop
    atOneOf [":", ","]

/-- What is common to all members that have no name of their own, behind the modifiers. -/
def indexMember (g : Grammar) : ModuleReader Layout := do
  mark "["
  let start ← here
  let index ← nameLayout
  let colon ← here
  if ← eatMark "," then note start "An index signature must have exactly one parameter"
  else mark ":"
  let type ← g.type
  let stop := (← get).stop.offset
  mark "]"
  let result ← typeAnnotation g
  memberEnd
  return .run [.text "[", index, .text ": ", .before colon.offset, type, .close stop, .text "]",
    result]

/-- A member that is read or written by a function. -/
def accessorMember (g : Grammar) (isReadonly : Bool) : ModuleReader (Option Layout) := attempt do
  if isReadonly then stopHere "A getter or setter cannot be readonly"
  let isGetter ← eatWord "get"
  unless isGetter do word "set"
  let accessed ← memberName g
  mark "("
  if isGetter then
    mark ")"
    let type ← typeAnnotation g
    memberEnd
    return some (.run [.text "get ", accessed, .text "()", type])
  let found ← parameters g
  let some taken := found.head? | stopHere "A setter must have exactly one parameter"
  memberEnd
  return some (.run [.text "set ", accessed, .text "(", taken.core, .text ")"])

/-- A member with a name: a property or a function. -/
def namedMember (g : Grammar) (isReadonly : Bool) : ModuleReader Layout := do
  let named ← memberName g
  let isOptional ← eatMark "?"
  let head := Layout.run [.word isReadonly "readonly", named,
    .text (if isOptional then "?" else "")]
  let behind ←
    if ← atOneOf ["(", "<"] then do
      if isReadonly then stopHere "A method cannot be readonly"
      let described ← signature g
      pure (.run [described, ← resultIfAny g])
    else typeAnnotation g
  memberEnd
  return .run [head, behind]

/-- Whether a constructor is described here. -/
def atConstructor : ModuleReader Bool := do
  return (← atWord "new") && (← peekSecond).isOneOf ["(", "<"]

/-- A member of an object type or interface. -/
def typeMember (g : Grammar) : ModuleReader Layout := do
  let member ← phrase do
    if ← atOneOf ["(", "<"] then
      let described ← signature g
      let space := if ← atMark ":" then " " else ""
      let result ← resultIfAny g
      memberEnd
      return .run [described, .text space, result]
    if ← atConstructor then
      discard pop
      let space := if ← atMark "<" then " " else ""
      let described ← signature g
      let result ← resultIfAny g
      memberEnd
      return .run [.text ("new" ++ space), described, result]
    let isReadonly := (← modifier? ["readonly"]).isSome
    if ← atIndex then return .run [.word isReadonly "readonly", ← indexMember g]
    match ← accessorMember g isReadonly with
    | some accessor => return accessor
    | none => namedMember g isReadonly
  return .run [member, .text ";"]

/-- The members of an object type or interface, in braces. -/
def typeMembers (g : Grammar) : ModuleReader Layout := phrase do
  mark "\x7b"
  let members ← many (return !(← atMark "\x7d")) (typeMember g)
  mark "\x7d"
  return .braces members

/-! ### Members for each of some keys -/

/-- Whether the braces that come next hold a member for each of some keys. -/
def atMapped : ModuleReader Bool := lookAhead do
  mark "\x7b"
  if ← atOneOf ["+", "-"] then
    discard pop
    return ← atWord "readonly"
  discard <| eatWord "readonly"
  if !(← eatMark "[") then return false
  if !(← atVariable) then return false
  discard pop
  atWord "in"

/-- Reads a word or mark that may have a sign in front, and lays it out. -/
def signed (eaten : ModuleReader Bool) (required : ModuleReader Unit) (shown : String) :
    ModuleReader Layout := do
  let token ← peek
  if token.isOneOf ["+", "-"] then
    discard pop
    required
    return .text (token.text ++ shown)
  return if ← eaten then .text shown else .nothing

/-- The type of an object with a member for each of some keys. -/
def mappedType (g : Grammar) : ModuleReader Layout := phrase do
  mark "\x7b"
  let isReadonly ← signed (eatWord "readonly") (word "readonly") "readonly "
  mark "["
  let key ← nameLayout
  unless ← eatWord "in" do stopUnexpected "in"
  let keys ← g.type
  let renamed ← typeBehind g (eatWord "as") " as "
  mark "]"
  let isOptional ← signed (eatMark "?") (mark "?") "?"
  let type ← typeBehind g (eatMark ":") ": "
  statementEnd
  mark "\x7d"
  return .braces [.run [isReadonly, .text "[", key, .text " in ", keys, renamed, .text "]",
    isOptional, type, .text ";"]]

/-! ### Types that no operator takes apart -/

/-- A number with a sign as a type. -/
def negativeType : ModuleReader Layout := phrase do
  mark "-"
  let token ← peek
  if token.kind = .number || token.kind = .bigint then return .text ("-" ++ (← pop).text)
  stopUnexpected "numeric literal or bigint literal"

/-- A type that no operator takes apart. -/
def primaryType (g : Grammar) : ModuleReader Layout := do
  let token ← needed
  match token.kind with
  | .string | .number | .bigint => written
  | .template | .templateHead => template false g.type
  | .word =>
      match token.text with
      | "true" | "false" => written
      | "this" =>
          phrase do
            discard pop
            if !(← peek).onNewLine && (← atWord "is") then toldAboutThis g false
            else return .text "this"
      | "typeof" => queriedType g
      | "import" => importType g
      | other =>
          let isReserved := reservedWords.contains other || other == "let"
          if isReserved && !(["void", "null", "await", "break"].contains other) then
            stopUnexpected typeStarts
          namedType g
  | .mark =>
      match token.text with
      | "(" =>
          phrase do
            discard pop
            let type ← g.type
            mark ")"
            return .run [.text "(", type, .text ")"]
      | "\x7b" => if ← atMapped then mappedType g else typeMembers g
      | "[" => tupleType g
      | "-" => negativeType
      | _ => stopUnexpected typeStarts
  | _ => stopUnexpected typeStarts

/-- What stands behind an array type or a member of a type. -/
def typeSuffix (g : Grammar) : ModuleReader Layout := do
  mark "["
  if ← eatMark "]" then return .text "[]"
  let index ← g.type
  mark "]"
  return .run [.text "[", index, .text "]"]

/-- A type with an operator in front, or without. -/
def operatorTypeOf (g : Grammar) : ModuleReader Layout := phrase do
  let token ← peek
  if token.isAnyWord && ["keyof", "unique", "readonly"].contains token.text then
    discard pop
    return .run [.text (token.text ++ " "), ← g.operatorType]
  if token.isWord "infer" then
    discard pop
    return ← inferredType g
  let type ← primaryType g
  let suffixes ← many (return (← atMark "[") && !(← peek).onNewLine) (typeSuffix g)
  return .run (type :: suffixes)

end ModuleReader

end ResolverTypes.Layout
