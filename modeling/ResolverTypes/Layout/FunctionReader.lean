import ResolverTypes.Layout.TypeReader

/-!
# Functions of a module

The parameters, the result and the body of a function.  A body breaks over lines, a statement to a
line; one that holds nothing stays on its line.

## Main definitions

* `ModuleReader.blockOf` : statements in braces.
* `ModuleReader.FunctionKind` : how a function runs.
* `ModuleReader.FunctionParts`, `ModuleReader.functionRest` : a function behind its name.
* `ModuleReader.functionDeclaration`, `ModuleReader.functionValue` : a function with its keyword.
-/

namespace ResolverTypes.Layout

namespace ModuleReader

/-! ### Blocks -/

/-- Lines in braces, of which the closing one stands at a place: they stay on a line if there is
neither anything in them nor a comment. -/
def bracedLines (items : List Layout) (close : Nat) : ModuleReader Layout := do
  if items.isEmpty && !(← hasCommentsBefore close) then return .text "\x7b\x7d"
  return .run [.text "\x7b", .line, .deeper (.lines items), .before close, .text "\x7d"]

/-- Statements in braces. -/
def blockOf (g : Grammar) : ModuleReader Layout := phrase do
  mark "\x7b"
  let items ← untilBrace (g.statement true)
  bracedLines items ((← get).stop.offset - 1)

/-! ### Functions -/

/-- How a function runs. -/
structure FunctionKind where
  /-- Whether it may wait. -/
  isAsync : Bool := false
  /-- Whether it may be left and entered again. -/
  isGenerator : Bool := false
deriving DecidableEq, Inhabited

/-- Reads what stands in a function of a kind. -/
def inside {α : Type} (kind : FunctionKind) (reader : ModuleReader α) : ModuleReader α :=
  within (fun c => { c with
    inFunction := true, inAsync := kind.isAsync, inGenerator := kind.isGenerator
    mayBreak := false, mayContinue := false, labels := [], withoutIn := false
    awaitsColon := false, inLoopHead := none }) reader

/-- Goes behind strings that are statements to one that asks for strict rules, for a number of
rounds, and gives its place. -/
def strictRounds : Nat → ModuleReader (Option ModulePlace)
  | 0 => return none
  | rounds + 1 => do
      let token ← pop
      if token.kind != .string || !(← eatStatementEnd) then return none
      if (token.text.toList.drop 1).dropLast == "use strict".toList then return some token.start
      strictRounds rounds

/-- Notes what is wrong with the body of a function that comes next; whether its parameters are all
variables is given. -/
def checkBody (isSimple : Bool) : ModuleReader Unit := do
  if (← context).isDeclared then
    note (← here) "An implementation cannot be declared in ambient contexts"
  unless isSimple do
    if let some place ← find (do discard pop; strictRounds (← rounds)) then
      note place
        "Illegal 'use strict' directive in function with non-simple parameter list."

/-- Whether parameters are all variables. -/
def areSimple (found : List Pattern) : Bool :=
  found.all fun parameter => match parameter.form with
    | .name _ => true
    | _ => false

/-- The body of a function, unless the function ends without one; its parameters are given. -/
def bodyIfAny (g : Grammar) (kind : FunctionKind) (found : List Pattern) :
    ModuleReader (Option Layout) := do
  let isMissing ← if ← atMark "\x7b" then pure false else eatStatementEnd
  if isMissing then return none
  if ← atMark "\x7b" then checkBody (areSimple found)
  return some (← inside kind (within (fun c => { c with inField := false }) (blockOf g)))

/-- A function behind its name, in parts. -/
structure FunctionParts where
  /-- The parameters of a generic function. -/
  generics : Layout
  /-- The parameters. -/
  taken : List Pattern
  /-- The result. -/
  result : Layout
  /-- The body, if there is one. -/
  body : Option Layout

/-- A function behind its name; what is wrong with its parameters is noted by a check. -/
def functionParts (g : Grammar) (kind : FunctionKind) (check : List Pattern → ModuleReader Unit) :
    ModuleReader FunctionParts := do
  let generics ← genericParameters g .function
  mark "("
  let taken ← within (fun c => { c with
    inAsync := kind.isAsync, inGenerator := kind.isGenerator, withoutIn := false
    inField := false }) (parameters g)
  check taken
  let result ← resultIfAny g
  let body ← bodyIfAny g kind taken
  if body.isNone then
    for parameter in taken do
      if parameter.form == .assigned then note parameter.start parameterValueProblem
  return { generics, taken, result, body }

/-- A function behind its name as it is laid out. -/
def FunctionParts.layout (parts : FunctionParts) : Layout :=
  let tail := (parts.body.map fun body => Layout.run [.text " ", body]).getD (.text ";")
  .run [parts.generics, parameterLayout parts.taken, parts.result, tail]

/-- A function behind its name, of whose parameters nothing is asked. -/
def functionRest (g : Grammar) (kind : FunctionKind) : ModuleReader FunctionParts :=
  functionParts g kind fun _ => return ()

/-- Reads the keyword of a function, and gives how the function runs and how that is laid out. -/
def functionKeyword : ModuleReader FunctionKind := do
  let isAsync ← eatWord "async"
  word "function"
  return { isAsync, isGenerator := ← eatMark "*" }

/-- A function that is declared. -/
def functionDeclaration (g : Grammar) : ModuleReader Layout := phrase do
  let kind ← functionKeyword
  let named ← variableName
  let parts ← functionRest g kind
  return .run [.word kind.isAsync "async",
    .text (if kind.isGenerator then "function* " else "function "), named, parts.layout]

/-- A function that need not have a name, and whether it has a body. -/
def unnamedFunction (g : Grammar) : ModuleReader (Layout × Bool) := do
  let kind ← functionKeyword
  let named ←
    if (← atVariable) then pure (Layout.run [.text " ", ← variableName]) else pure .nothing
  let parts ← functionRest g kind
  return (.run [.word kind.isAsync "async",
    .text (if kind.isGenerator then "function*" else "function"), named, parts.layout],
    parts.body.isSome)

/-- A function that is a value. -/
def functionValue (g : Grammar) : ModuleReader Layout := do
  let (shown, hasBody) ← unnamedFunction g
  if !hasBody then stopUnexpected "\x7b"
  return shown

end ModuleReader

end ResolverTypes.Layout
