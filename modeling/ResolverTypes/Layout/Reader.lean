import ResolverTypes.Layout.Scan

/-!
# Reading a module

A reader goes through the tokens of a module.  It stops at the first token that is out of place;
what is wrong otherwise is noted, and reading goes on.  A reader that is only attempted leaves no
trace unless it succeeds, and then no note.

## Main definitions

* `ReadingContext` : what is known about the surroundings of the next token.
* `ModuleReader` : a computation that reads tokens.
* `ModuleReader.attempt`, `ModuleReader.lookAhead` : a reader that may leave the tokens as they are,
  or always does.
* `ModuleReader.many`, `ModuleReader.commaList` : lists.
-/

namespace ResolverTypes.Layout

/-- What is known about the surroundings of the next token. -/
structure ReadingContext where
  /-- Nothing is noted. -/
  isQuiet : Bool := false
  /-- What is read is only declared. -/
  isDeclared : Bool := false
  /-- What is read is in a function. -/
  inFunction : Bool := false
  /-- The function is asynchronous. -/
  inAsync : Bool := false
  /-- The function is a generator. -/
  inGenerator : Bool := false
  /-- The statement is in a loop or a choice that it may leave. -/
  mayBreak : Bool := false
  /-- The statement is in a loop that it may go on with. -/
  mayContinue : Bool := false
  /-- The labels of the statements around. -/
  labels : List String := []
  /-- The word `in` is no operator. -/
  withoutIn : Bool := false
  /-- A colon ends the value that is read. -/
  awaitsColon : Bool := false
  /-- A condition is no part of the type that is read. -/
  withoutConditions : Bool := false
  /-- The class around extends another. -/
  inSubclass : Bool := false
  /-- What is read is the value of a property of a class. -/
  inField : Bool := false
  /-- What is read is the start of the head of a loop; whether the loop awaits its values. -/
  inLoopHead : Option Bool := none
deriving Inhabited

/-- The state of a reader. -/
structure ReaderState where
  /-- The next token. -/
  token : ModuleToken
  /-- What is left behind the next token. -/
  scan : ModuleScan
  /-- The end of the last token that has been read. -/
  stop : ModulePlace := {}
  /-- Whether the last token that has been read is a comma. -/
  isBehindComma : Bool := false
  /-- The surroundings. -/
  context : ReadingContext := {}
  /-- What is wrong, the latest first. -/
  notes : List LayoutError := []
  /-- Where a function with an arrow may start, if it may. -/
  arrowStart : Option Nat := none
deriving Inhabited

/-- A computation that reads the tokens of a module. -/
abbrev ModuleReader := ExceptT LayoutError (StateM ReaderState)

namespace ModuleReader

/-! ### Problems -/

/-- Notes something wrong. -/
def noteError (error : LayoutError) : ModuleReader Unit :=
  modify fun s => if s.context.isQuiet then s else { s with notes := error :: s.notes }

/-- Notes something wrong at a place. -/
def note (place : ModulePlace) (message : String) : ModuleReader Unit :=
  noteError (place.error message)

/-- Stops at a place. -/
def stopAt {α : Type} (place : ModulePlace) (message : String) : ModuleReader α := do
  let token := (← get).token
  if let .invalid reason := token.kind then noteError reason
  throw (place.error message)

/-! ### Tokens -/

/-- The next token; it stays to be read. -/
def peek : ModuleReader ModuleToken := return (← get).token

/-- The place of the next token. -/
def here : ModuleReader ModulePlace := return (← get).token.start

/-- The token behind the next. -/
def peekSecond : ModuleReader ModuleToken := return (← get).scan.next.1

/-- Reads the next token; the end mark stays. -/
def pop : ModuleReader ModuleToken := do
  let s ← get
  if s.token.kind = .eof then return s.token
  let (token, scan, problems) := s.scan.next
  set { s with token, scan, stop := s.scan.place, isBehindComma := s.token.isMark "," }
  problems.forM noteError
  return s.token

/-- Takes some characters behind the next token to it. -/
def widen (kind : ModuleTokenKind) (text : String) (count : Nat) : ModuleReader Unit :=
  modify fun s =>
    let scan := s.scan.skip count
    let token := { s.token with kind, text, stop := scan.place.offset }
    { s with token, scan := { scan with last := some token } }

/-- Stops at the next token, which is out of place. -/
def stopHere {α : Type} (message : String) : ModuleReader α := do stopAt (← here) message

/-- Stops at the next token where another is asked for. -/
def stopExpecting {α : Type} (expected : String) : ModuleReader α := do
  stopHere ("Expected '" ++ expected ++ "', got '" ++ (← peek).label ++ "'")

/-- Stops at the next token where one of several is asked for. -/
def stopUnexpected {α : Type} (expected : String) : ModuleReader α := do
  stopHere ("Unexpected token `" ++ (← peek).label ++ "`. Expected " ++ expected)

/-- Whether the next token is a given mark. -/
def atMark (mark : String) : ModuleReader Bool := return (← peek).isMark mark

/-- Whether the next token is one of some marks. -/
def atOneOf (marks : List String) : ModuleReader Bool := return (← peek).isOneOf marks

/-- Whether the next token is a given word. -/
def atWord (word : String) : ModuleReader Bool := return (← peek).isWord word

/-- Whether the text ends here. -/
def atEnd : ModuleReader Bool := return (← peek).kind == .eof

/-- Whether the next token is a word that can name a variable. -/
def atVariable : ModuleReader Bool := do
  let token ← peek
  return token.isAnyWord && !variableWords.contains token.text

/-- Reads the next token if it is a given mark, and says whether it was. -/
def eatMark (mark : String) : ModuleReader Bool := do
  if ← atMark mark then
    discard pop
    return true
  return false

/-- Reads the next token if it is a given word, and says whether it was. -/
def eatWord (word : String) : ModuleReader Bool := do
  if ← atWord word then
    discard pop
    return true
  return false

/-- Reads the next token if it is a given word on the line of the token in front, and says whether
it was. -/
def eatWordOnLine (word : String) : ModuleReader Bool := do
  if (← peek).onNewLine then return false else eatWord word

/-- Reads a given mark. -/
def mark (mark : String) : ModuleReader Unit := do
  unless ← eatMark mark do stopExpecting mark

/-- Reads a given word. -/
def word (word : String) : ModuleReader Unit := do
  unless ← eatWord word do stopExpecting word

/-- The next token, of which there has to be one. -/
def needed : ModuleReader ModuleToken := do
  let token ← peek
  match token.kind with
  | .eof => stopHere "Unexpected eof"
  | .invalid reason =>
      discard pop
      throw reason
  | _ => return token

/-- What is wrong where a name is asked for. -/
def nameExpected : String := "Expected ident"

/-- Reads a name, which may be a keyword. -/
def name : ModuleReader String := do
  if (← needed).isAnyWord then return (← pop).text
  stopHere nameExpected

/-- Reads a token and gives it as it is written. -/
def written : ModuleReader Layout := do
  let token ← pop
  return .run [.before token.start.offset, .text token.text]

/-- Reads a name, which may be a keyword, and lays it out. -/
def nameLayout : ModuleReader Layout := do
  let start ← here
  return .run [.before start.offset, .text (← name)]

/-- Reads a string that is asked for in words. -/
def stringLayout : ModuleReader Layout := do
  if (← peek).kind = .string then written else stopUnexpected "a string literal"

/-! ### Surroundings -/

/-- Reads in other surroundings. -/
def within {α : Type} (change : ReadingContext → ReadingContext) (reader : ModuleReader α) :
    ModuleReader α := do
  let before := (← get).context
  modify fun s => { s with context := change before }
  let result ← reader
  modify fun s => { s with context := before }
  return result

/-- The surroundings of the next token. -/
def context : ModuleReader ReadingContext := return (← get).context

/-- The result of a reader, or nothing if the reader stops or gives nothing; then no token counts
as read.  Nothing is noted. -/
def attempt {α : Type} (reader : ModuleReader (Option α)) : ModuleReader (Option α) := fun s =>
  match (reader.run { s with context := { s.context with isQuiet := true } }).run with
  | (.ok (some a), after) =>
      (.ok (some a), { after with context := { after.context with isQuiet := s.context.isQuiet } })
  | _ => (.ok none, s)

/-- Whether a test holds of the tokens to come; none of them counts as read. -/
def lookAhead (test : ModuleReader Bool) : ModuleReader Bool := fun s =>
  match (test.run { s with context := { s.context with isQuiet := true } }).run with
  | (.ok answer, _) => (.ok answer, s)
  | (.error _, _) => (.ok false, s)

/-- What a reader finds in the tokens to come; none of them counts as read. -/
def find {α : Type} (reader : ModuleReader (Option α)) : ModuleReader (Option α) := fun s =>
  match (reader.run { s with context := { s.context with isQuiet := true } }).run with
  | (.ok found, _) => (.ok found, s)
  | (.error _, _) => (.ok none, s)

/-- A reader that, where it stops, goes on from there with another result. -/
def recover {α : Type} (reader : ModuleReader α) (otherwise : LayoutError → ModuleReader α) :
    ModuleReader α := fun s =>
  match (reader.run s).run with
  | (.ok a, after) => (.ok a, after)
  | (.error e, after) => (otherwise e).run { after with context := s.context }

/-! ### Lists -/

/-- Reads items while a test of the next token holds, for a number of rounds. -/
def manyRounds {α : Type} (goesOn : ModuleReader Bool) (item : ModuleReader α) :
    Nat → ModuleReader (List α)
  | 0 => return []
  | rounds + 1 => do
      if ← goesOn then
        let first ← item
        return first :: (← manyRounds goesOn item rounds)
      else return []

/-- A number of rounds that no loop over the text exceeds. -/
def rounds : ModuleReader Nat := return (← get).scan.bound + 1

/-- Reads items while a test of the next token holds. -/
def many {α : Type} (goesOn : ModuleReader Bool) (item : ModuleReader α) :
    ModuleReader (List α) := do
  manyRounds goesOn item (← rounds)

/-- Reads items with commas between them, and a comma behind the last if there is one, up to a
closing mark, which stays. -/
def commaListOpen {α : Type} (closing : String) (item : ModuleReader α) :
    ModuleReader (List α) :=
  many (return !(← atMark closing)) do
    let one ← item
    unless ← atMark closing do mark ","
    return one

/-- Reads items with commas between them, and a comma behind the last if there is one, up to a
closing mark, which is read. -/
def commaList {α : Type} (closing : String) (item : ModuleReader α) : ModuleReader (List α) := do
  let items ← commaListOpen closing item
  mark closing
  return items

/-- Reads items up to a closing brace or, which is noted, up to the end of the text. -/
def untilBrace {α : Type} (item : ModuleReader α) : ModuleReader (List α) := do
  let items ← many (return !(← atMark "\x7d") && !(← atEnd)) item
  if ← atEnd then note (← here) "Expected '\x7d', got '<eof>'" else mark "\x7d"
  return items

/-! ### Ends of statements -/

/-- What is wrong where the end of a statement is left out and not needed to read on. -/
def semicolonExpected : String := "Expected a semicolon"

/-- What is wrong where a statement is asked to end. -/
def endExpected : String := "Expected ';', '\x7d' or <eof>"

/-- Whether a statement may end here without a semicolon. -/
def atStatementEnd : ModuleReader Bool := do
  let token ← peek
  return token.onNewLine || token.kind == .eof || token.isOneOf [";", "\x7d"]

/-- Reads the end of a statement, if a statement may end here: a semicolon, or the end of a line or
of what is around it. -/
def eatStatementEnd : ModuleReader Bool := do
  if ← eatMark ";" then return true else atStatementEnd

/-- Reads the end of a statement. -/
def statementEnd : ModuleReader Unit := do
  unless ← eatStatementEnd do stopExpecting ";"

/-! ### Places -/

/-- A layout with the comments in front of it. -/
def phrase (reader : ModuleReader Layout) : ModuleReader Layout := do
  let start ← here
  return .run [.before start.offset, ← reader]

/-- A layout with the comments in front of it and behind it. -/
def closedPhrase (reader : ModuleReader Layout) : ModuleReader Layout := do
  let layout ← phrase reader
  return .run [layout, .behind (← get).stop.offset]

/-- An item of a list: a layout with the comments in front of it and at its end. -/
def listItem (reader : ModuleReader Layout) : ModuleReader Layout := do
  let layout ← phrase reader
  return .run [layout, .close (← get).stop.offset]

/-- Whether comments stand in front of a place. -/
def hasCommentsBefore (place : Nat) : ModuleReader Bool :=
  return (← get).scan.comments.before.any fun entry => entry.1 == place

/-- The place of the comma in front of the next token, if there is one. -/
def commaBefore : ModuleReader (Option ModulePlace) := do
  let s ← get
  let stop := s.stop
  return if s.isBehindComma then some ⟨stop.offset - 1, stop.line, stop.column - 1⟩ else none

/-- Whether a comma stands right in front of the next token, without comments between them. -/
def followsComma : ModuleReader Bool := do
  let s ← get
  let hasComments := s.scan.comments.behind.any fun entry => entry.1 == s.stop.offset
  return s.isBehindComma && !hasComments && !(← hasCommentsBefore s.token.start.offset)

end ModuleReader

end ResolverTypes.Layout
