import ResolverTypes.Layout.FunctionReader

/-!
# Classes of a module

A class with its members: properties, functions, a constructor and blocks that are run once.  A
member stands on a line, behind its modifiers.

## Main definitions

* `ModuleReader.ClassModifiers` : what stands in front of a member.
* `ModuleReader.classMember` : a member.
* `ModuleReader.classRest` : a class behind its keyword.
-/

namespace ResolverTypes.Layout

namespace ModuleReader

/-! ### Modifiers and names -/

/-- What stands in front of a member of a class. -/
structure ClassModifiers where
  /-- Where the member starts. -/
  start : ModulePlace
  /-- Where the word stands that says that the member is only declared, if one does. -/
  declared : Option ModulePlace := none
  /-- Who may use the member. -/
  access : Option String := none
  /-- Whether the member belongs to the class itself. -/
  isStatic : Bool := false
  /-- Whether the member is left to other classes. -/
  isAbstract : Bool := false
  /-- Whether the member replaces another. -/
  isOverride : Bool := false
  /-- Whether the member is not written to. -/
  isReadonly : Bool := false
  /-- Where the last of the words behind `static` stands. -/
  last : Option ModulePlace := none
deriving DecidableEq, Inhabited

/-- The modifiers of a property as they are laid out. -/
def ClassModifiers.layout (m : ClassModifiers) : Layout :=
  .run [.word m.declared.isSome "declare", .text ((m.access.map (· ++ " ")).getD ""),
    .word m.isStatic "static", .word m.isAbstract "abstract", .word m.isOverride "override",
    .word m.isReadonly "readonly"]

/-- The modifiers of a function as they are laid out. -/
def ClassModifiers.functionLayout (m : ClassModifiers) : Layout :=
  { m with declared := none, isReadonly := false }.layout

/-- What is wrong with a modifier behind others, if anything is. -/
def modifierProblem? (m : ClassModifiers) (inSubclass : Bool) (word : String) : Option String :=
  let order (first second : String) :=
    "'" ++ first ++ "' modifier must precede '" ++ second ++ "' modifier."
  let repeated := "'" ++ word ++ "' modifier already seen."
  match word with
  | "static" => if m.isOverride then some (order "static" "override") else none
  | "abstract" =>
      if m.isAbstract then some repeated
      else if m.isOverride then some (order "abstract" "override")
      else none
  | "override" =>
      if m.isOverride then some repeated
      else if m.isReadonly then some (order "override" "readonly")
      else if m.declared.isSome then
        some "'override' modifier cannot be used with 'declare' modifier."
      else if !inSubclass then
        some ("This member cannot have an 'override' modifier because its containing class does " ++
          "not extend another class.")
      else none
  | "readonly" => if m.isReadonly then some repeated else none
  | _ => none

/-- A modifier added to others. -/
def ClassModifiers.add (m : ClassModifiers) (word : String) : ClassModifiers :=
  match word with
  | "static" => { m with isStatic := true }
  | "abstract" => { m with isAbstract := true }
  | "override" => { m with isOverride := true }
  | "readonly" => { m with isReadonly := true }
  | _ => m

/-- Reads modifiers, for a number of rounds. -/
def modifierRounds : Nat → ClassModifiers → ModuleReader ClassModifiers
  | 0, m => return m
  | rounds + 1, m => do
      let token ← peek
      if token.isWord "static" && (← peekSecond).isMark "\x7b" then return m
      match ← modifier? ["abstract", "readonly", "override", "static"] with
      | none => return m
      | some token =>
          if let some problem := modifierProblem? m (← context).inSubclass token.text then
            note token.start problem
          modifierRounds rounds { m.add token.text with last := some token.start }

/-- The name of a member of a class. -/
structure MemberKey where
  /-- How it is laid out. -/
  layout : Layout
  /-- The name, if it is written as such. -/
  plain : Option String := none
  /-- Whether only the class knows it. -/
  isPrivate : Bool := false
  /-- Whether it is that of the constructor. -/
  isConstructor : Bool := false
  /-- Where it starts. -/
  start : ModulePlace
deriving Inhabited

/-- A word as the name of a member. -/
def MemberKey.ofWord (token : ModuleToken) : MemberKey where
  layout := .run [.before token.start.offset, .text token.text]
  plain := some token.text
  isConstructor := token.text == "constructor"
  start := token.start

/-- The name of a member of a class. -/
def memberKey (g : Grammar) : ModuleReader MemberKey := do
  let token ← needed
  if token.isMark "#" then
    let private_ ← privateName
    if private_ == "constructor" then
      note token.start "Classes can't have a private field named '#constructor'."
    let layout := Layout.run [.before token.start.offset, .text ("#" ++ private_)]
    return { layout, isPrivate := true, start := token.start }
  let key ← propertyName g
  let isConstructor := key.plain == some "constructor" ||
    (token.kind == .string && (token.text.toList.drop 1).dropLast == "constructor".toList)
  return { layout := key.layout, plain := key.plain, isConstructor, start := key.start }

/-- Whether the member is a function. -/
def atMethod : ModuleReader Bool := atOneOf ["(", "<"]

/-- Whether the member is a property, which may end with its line if that is allowed. -/
def atProperty (lineEnds : Bool) : ModuleReader Bool := do
  if ← atOneOf ["!", ":", "=", "\x7d", ";"] then return true
  if lineEnds then atStatementEnd else return false

/-! ### Members -/

/-- Notes what is wrong with a name that only the class knows. -/
def checkPrivate (m : ClassModifiers) (key : MemberKey) : ModuleReader Unit := do
  if key.isPrivate && m.access.isSome then
    note m.start "An accessibility modifier cannot be used with a private identifier"

/-- What is wrong with a modifier of a name that only the class knows. -/
def privateProblem (word : String) : String :=
  "'" ++ word ++ "' modifier cannot be used with a private identifier"

/-- A property behind its name. -/
def propertyRest (g : Grammar) (m : ClassModifiers) (isAccessor : Bool) (key : MemberKey)
    (isOptional : Bool) : ModuleReader Layout := do
  if key.isConstructor then
    stopAt key.start "Classes may not have a non-static field named 'constructor'"
  if key.isPrivate then
    if m.declared.isSome then note key.start (privateProblem "declare")
    if m.isAbstract then note key.start (privateProblem "abstract")
  let isDefinite ← if isOptional then pure false else eatMark "!"
  let type ← typeAnnotation g
  let value ← inside {} (within (fun c => { c with inField := true }) (assignedValue? g))
  unless ← eatStatementEnd do note (← here) semicolonExpected
  unless isAccessor do
    checkPrivate m key
    if m.isAbstract && value.isSome && !key.isPrivate then
      note m.start "Abstract property cannot have an initializer."
  let valueLayout := (value.map fun v => Layout.run [.text " = ", v]).getD .nothing
  return .run [m.layout, .word isAccessor "accessor", key.layout,
    .text (if isOptional then "?" else ""), .text (if isDefinite then "!" else ""), type,
    valueLayout, .text ";"]

/-- How a function of a class is called. -/
inductive MethodKind where
  /-- With arguments. -/
  | plain
  /-- Where the property is read. -/
  | getter
  /-- Where the property is written. -/
  | setter
deriving DecidableEq

/-- The word in front of a function, which tells how it is called. -/
def MethodKind.word : MethodKind → String
  | .plain => ""
  | .getter => "get "
  | .setter => "set "

/-- Notes what is wrong with the parameters of a function with a name, if anything is. -/
def MethodKind.check (kind : MethodKind) (place : ModulePlace) (found : List Pattern) :
    ModuleReader Unit := do
  let count := (found.filter fun parameter => parameter.form != .name "this").length
  match kind with
  | .plain => return
  | .getter => if count != 0 then note place "A `get` accessor cannot have parameters"
  | .setter =>
      if count != 1 then note place "A `set` accessor must have exactly one parameter"
      if let some first := found.head? then
        if first.form == .rest then note first.start "Rest pattern is not allowed in setter"

/-- A function behind its name. -/
def methodRest (g : Grammar) (m : ClassModifiers) (kind : FunctionKind) (call : MethodKind)
    (key : MemberKey) (isOptional : Bool) : ModuleReader Layout := do
  let parts ← functionParts g kind (call.check key.start)
  checkPrivate m key
  if m.isAbstract && parts.body.isSome && !key.isPrivate then
    note m.start "Abstract method cannot have an implementation."
  return .run [m.functionLayout, .word kind.isAsync "async", .text call.word,
    .text (if kind.isGenerator then "*" else ""), key.layout,
    .text (if isOptional then "?" else ""), parts.layout]

/-- A parameter of a constructor, and whether it is a property of the class. -/
def constructorParameter (g : Grammar) : ModuleReader (Pattern × Bool) := do
  let start ← here
  let access ← modifier? ["public", "protected", "private"]
  let override_ ← modifier? ["override"]
  let readonly_ ← modifier? ["readonly"]
  let words := [access, override_, readonly_].filterMap id
  if words.isEmpty && (← atMark "...") then return (← restParameter g, false)
  let found ← singleParameter g
  if words.isEmpty then return (found, false)
  match found.form with
  | .name _ | .assigned =>
      let shown := words.map fun token => Layout.text (token.text ++ " ")
      let core := Layout.run (.before start.offset :: shown ++ [found.core])
      return ({ found with core, start }, true)
  | _ =>
      stopAt found.start
        "Typescript parameter property must be an identifier or assignment pattern"

/-- The constructor of a class, behind its name; whether it has a body is told too. -/
def constructorRest (g : Grammar) (m : ClassModifiers) : ModuleReader (Layout × Bool) := do
  if m.isOverride then note m.start "'override' modifier cannot appear on a constructor declaration"
  let angle ← here
  if ← atMark "<" then
    let problem := "Type parameters cannot appear on a constructor declaration"
    if (← peekSecond).isMark ">" then
      note angle "Type parameter list cannot be empty"
      discard pop
    else
      discard pop
      note (← here) problem
      discard (commaListOpen ">" (genericParameter g .function))
    mark ">"
  mark "("
  let found ← parameterRounds g (return (← constructorParameter g).1) (← rounds) none []
  mark ")"
  if ← eatMark ":" then
    note (← here) "Type annotation cannot appear on a constructor declaration"
    discard g.type
  let body ← bodyIfAny g {} found
  if body.isNone then
    for parameter in found do
      if parameter.form == .assigned then note parameter.start parameterValueProblem
  if m.isAbstract then
    if let some place := m.last then
      note place "`abstract` modifier can only appear on a class or method declaration"
  return (.run [.text ((m.access.map (· ++ " ")).getD ""), .text "constructor",
    parameterLayout found, body.getD (.text ";")], body.isSome)

/-- What is wrong with modifiers of what has none. -/
def modifiersProblem : String := "Modifiers cannot appear here"

/-- A block that is run once, behind its word. -/
def staticBlock (g : Grammar) (m : ClassModifiers) (isFirst : Bool) : ModuleReader Layout := do
  if let some place := m.declared then note place modifiersProblem
  if isFirst && m.access.isSome then note (← here) modifiersProblem
  unless isFirst do
    if m.isAbstract then
      if let some place := m.last then note place modifiersProblem
    discard pop
  return .run [.text "static", ← inside {} (within (fun c => { c with inField := true })
    (blockOf g))]

/-- A member of a class as it is read. -/
structure ClassMember where
  /-- How it is laid out. -/
  layout : Layout
  /-- Where it starts. -/
  start : ModulePlace
  /-- Whether it is a constructor with a body. -/
  isConstructor : Bool := false
  /-- Whether it is left to other classes. -/
  isAbstract : Bool := false
deriving Inhabited

/-- A member that is a property or a function. -/
def ClassModifiers.member (m : ClassModifiers) (layout : Layout) : ClassMember :=
  { layout, start := m.start, isAbstract := m.isAbstract }

/-- What is wrong with a function that cannot be written. -/
def readonlyMethod : String := "A method cannot be readonly"

/-- A function that may wait, behind the word. -/
def asyncMember (g : Grammar) (m : ClassModifiers) (isOptional : Bool) : ModuleReader Layout := do
  if let some place := m.declared then
    note place "'async' modifier cannot be used in an ambient context"
  let late ← modifier? ["override"]
  if let some token := late then
    note token.start "'override' modifier must precede 'async' modifier."
  let isGenerator ← eatMark "*"
  let key ← memberKey g
  if key.isConstructor then stopAt key.start "Constructor can't be an async function"
  if m.isReadonly then stopAt m.start readonlyMethod
  let isOptional ← if isOptional then pure true else eatMark "?"
  methodRest g { m with isOverride := m.isOverride || late.isSome } { isAsync := true, isGenerator }
    .plain key isOptional

/-- A function that is called where a property is read or written, behind the word. -/
def accessorRest (g : Grammar) (m : ClassModifiers) (call : MethodKind) (place : ModulePlace)
    (isOptional : Bool) : ModuleReader Layout := do
  let key ← memberKey g
  if m.isReadonly then note place "A getter or a setter cannot be readonly"
  if key.isConstructor then note place "Class constructor can't be an accessor."
  methodRest g m {} call key isOptional

/-- A member whose name has been read. -/
def namedClassMember (g : Grammar) (m : ClassModifiers) (isAccessor : Bool) (key : MemberKey) :
    ModuleReader ClassMember := do
  let isOptional ← eatMark "?"
  if ← atMethod then
    if let some place := m.declared then
      note place
        (inBackquotes "declare" ++ " modifier cannot appear on class elements of this kind")
    if m.isReadonly then stopAt m.start readonlyMethod
    if key.isConstructor && !m.isStatic then
      let (layout, hasBody) ← constructorRest g m
      return { layout, start := m.start, isConstructor := hasBody }
    return m.member (← methodRest g m {} .plain key isOptional)
  let next ← peek
  let isAccessed := (key.plain == some "get" || key.plain == some "set")
    && !(← atProperty false) && !(next.onNewLine && next.isMark "*")
  if !isAccessed && (← atProperty true) then
    return m.member (← propertyRest g m isAccessor key isOptional)
  if key.plain == some "async" && !next.onNewLine then
    return m.member (← asyncMember g m isOptional)
  if isAccessed then
    let call : MethodKind := if key.plain == some "get" then .getter else .setter
    return m.member (← accessorRest g m call key.start isOptional)
  stopUnexpected "* for generator, private key, identifier or async"

/-- A member behind `declare`, who may use it and `static`. -/
def modifiedMember (g : Grammar) (m : ClassModifiers) : ModuleReader ClassMember := do
  let m ← modifierRounds (← rounds) m
  let isAccessor := (← modifier? ["accessor"]).isSome
  if m.isStatic && (← atMark "\x7b") then
    return { layout := ← staticBlock g m true, start := m.start }
  if (← atWord "static") && (← peekSecond).isMark "\x7b" then
    return { layout := ← staticBlock g m false, start := m.start }
  if !m.isAbstract && !m.isOverride && m.access.isNone && (← atIndex) then
    let layout := Layout.run [.word m.isReadonly "readonly", ← indexMember g]
    return { layout, start := m.start }
  if ← eatMark "*" then
    let key ← memberKey g
    if m.isReadonly then note m.start readonlyMethod
    if key.isConstructor then note m.start "Class constructor can't be a generator"
    return m.member (← methodRest g m { isGenerator := true } .plain key false)
  namedClassMember g m isAccessor (← memberKey g)

/-- A member that may be modified by a word, which may also be its name. -/
def memberBehind (g : Grammar) (word : String) (m : ClassModifiers) (lineEnds : Bool)
    (modified : ModuleReader ClassMember) (otherwise : ModuleReader ClassMember) :
    ModuleReader ClassMember := do
  let token ← peek
  if !token.isWord word then return ← otherwise
  discard pop
  if (← atMethod) || (← atProperty lineEnds) || (← atMark "?") then
    namedClassMember g m false (.ofWord token)
  else modified

/-- A member of a class. -/
def classMember (g : Grammar) : ModuleReader ClassMember := do
  let start ← here
  let place := Layout.before start.offset
  if ← eatMark ";" then return { layout := .run [place, .text ";"], start }
  let behindAccess (m : ClassModifiers) : ModuleReader ClassMember :=
    memberBehind g "static" m false (modifiedMember g { m with isStatic := true })
      (modifiedMember g m)
  let withAccess (m : ClassModifiers) : ModuleReader ClassMember := do
    let access ← modifier? ["public", "protected", "private"]
    let m := { m with access := access.map ModuleToken.text }
    let word ← here
    let isDeclared ← if m.declared.isSome || access.isNone then pure false else eatWord "declare"
    behindAccess (if isDeclared then { m with declared := some word } else m)
  let found ← memberBehind g "declare" { start } true
    (withAccess { start, declared := some start }) (withAccess { start })
  return { found with layout := .run [place, found.layout] }

/-- The members of a class up to the closing brace, which stays. -/
def classMembers (g : Grammar) : ModuleReader (List ClassMember) := do
  let found ← many (return !(← atMark "\x7d") && !(← atEnd)) (classMember g)
  unless (← context).isDeclared do
    for second in (found.filter ClassMember.isConstructor).drop 1 do
      note second.start "A class can only have one constructor"
  return found

/-! ### Classes -/

/-- What a class or interface follows: a name with members and type arguments. -/
def heritage (g : Grammar) : ModuleReader Layout := listItem do
  let start ← here
  let layout := Layout.run [.before start.offset, .text (← name)]
  let first : Value := ⟨layout, .name "", start, (← get).stop.offset⟩
  let found ← g.members first
  match found.form with
  | .name _ | .member =>
      let arguments ← if ← atMark "<" then typeArguments g else pure .nothing
      return .run [found.layout, arguments]
  | .cast _ _ => return found.layout
  | _ =>
      note start ("An interface can only extend an identifier/qualified-name with optional type " ++
        "arguments.")
      let arguments ← if ← atMark "<" then typeArguments g else pure .nothing
      return .run [found.layout, arguments]

/-- Reads what a class or interface follows, up to what comes behind, with the place of each. -/
def heritageList (g : Grammar) : ModuleReader (List (ModulePlace × Layout)) := do
  let atEnd : ModuleReader Bool := do
    return (← atMark "\x7b") || (← atWord "implements") || (← atWord "extends")
  many (return !(← atEnd)) do
    let start ← here
    let one ← heritage g
    unless ← eatMark "," do
      unless ← atEnd do mark ","
    return (start, one)

/-- What follows a word, if there is anything. -/
def headed (word : String) : List Layout → Layout
  | [] => .nothing
  | parts => .run [.text (" " ++ word ++ " "), .commas parts]

/-- The class that a class extends, with its type arguments, behind the word. -/
def parentClass (g : Grammar) : ModuleReader Layout := do
  let parent ← g.leftHand
  let arguments ← if ← atMark "<" then typeArguments g else pure .nothing
  return .run [.text " extends ", parent.layout, arguments]

/-- The classes and interfaces that a class follows: the class that it extends, and the others. -/
def classHeritage (g : Grammar) : ModuleReader (Option Layout × List Layout) := do
  let parent ←
    if ← eatWord "extends" then do
      let parent ← parentClass g
      if ← eatMark "," then
        for (place, _) in ← heritageList g do
          note place "Classes can only extend a single class."
      pure (some parent)
    else pure none
  let again ← here
  if ← eatWord "extends" then
    note again "`extends` clause already seen."
    discard (parentClass g)
  let followed ← if ← eatWord "implements" then heritageList g else pure []
  let second ← here
  if ← eatWord "implements" then
    note second "`implements` clause already seen."
    discard (heritageList g)
  let late ← here
  if ← eatWord "extends" then
    note late "'extends' clause must precede 'implements' clause."
    let parent ← parentClass g
    return (some parent, followed.map (·.2))
  return (parent, followed.map (·.2))

/-- A class behind its keyword and its name, perhaps behind `abstract`; one without a name loses its
generic parameters. -/
def classRest (g : Grammar) (isAbstract hasName : Bool) : ModuleReader Layout := do
  let found ← genericParameters g .ofClass
  let generics := if hasName then found else .nothing
  let (parent, followed) ← classHeritage g
  mark "\x7b"
  let members ← within (fun c => { c with inSubclass := parent.isSome }) (classMembers g)
  if ← atEnd then note (← here) "Expected '\x7d', got '<eof>'" else mark "\x7d"
  unless isAbstract do
    for member in members.filter ClassMember.isAbstract do
      note member.start "Abstract methods can only appear within an abstract class."
  return .run [generics, parent.getD .nothing, headed "implements" followed, .text " ",
    .braces (members.map ClassMember.layout)]

/-- The names that no class has. -/
def invalidClassNames : List String :=
  ["any", "unknown", "never", "number", "bigint", "boolean", "string", "symbol", "void", "object"]

/-- A class that is declared, perhaps behind `abstract`. -/
def classDeclaration (g : Grammar) (isAbstract : Bool) : ModuleReader Layout := do
  word "class"
  let token ← peek
  if token.isWord "let" then stopUnexpected letProblem
  let named ← variableName
  if invalidClassNames.contains token.text then note token.start "Invalid class name"
  return .run [.word isAbstract "abstract", .text "class ", named,
    ← classRest g isAbstract true]

/-- A class that is a value or need not have a name otherwise. -/
def unnamedClass (g : Grammar) (isAbstract : Bool) : ModuleReader Layout := do
  word "class"
  let hasName := (← atVariable) && !(← atWord "implements")
  let named ← if hasName then pure (Layout.run [.text " ", ← variableName]) else pure .nothing
  return .run [.word isAbstract "abstract", .text "class", named,
    ← classRest g isAbstract hasName]

end ModuleReader

end ResolverTypes.Layout
