import ResolverTypes.Schema.Definition
import ResolverTypes.Schema.Token

/-!
# Reading tokens

A reader goes through the tokens of a schema text, keeps what it finds wrong, and always goes on.
Reading too deep a nesting is given up, and nothing found after that is kept.

## Main definitions

* `SyntaxError` : what is wrong with a text, and where.
* `Reader` : a computation that reads tokens.
* `Reader.many`, `Reader.separated` : repetition.
-/

namespace ResolverTypes.Schema

/-- What is wrong with a text. -/
structure SyntaxError where
  /-- What is wrong. -/
  message : String
  /-- Whether the text is too deeply nested to be read. -/
  isLimit : Bool
  /-- The number of bytes before the place. -/
  offset : Nat
deriving DecidableEq, Repr, Inhabited

/-- The state of a reader. -/
structure ReaderState where
  /-- The number of the text. -/
  source : Nat
  /-- The lexemes that are still to be read. -/
  rest : List Lexeme
  /-- The number of bytes of the text that have been left out. -/
  omitted : Nat := 0
  /-- What is wrong with the text, the latest first. -/
  errors : List SyntaxError := []
  /-- Whether what is found wrong is kept. -/
  listening : Bool := true
  /-- The number of nested parts that are being read. -/
  depth : Nat := 0

/-- A computation that reads tokens. -/
abbrev Reader := StateM ReaderState

namespace Reader

/-- The greatest depth to which parts may be nested. -/
def depthLimit : Nat := 500

/-- Keeps an error. -/
def report (message : String) (isLimit : Bool) (offset : Nat) : Reader Unit :=
  modify fun s =>
    if s.listening then
      { s with errors := ⟨message, isLimit, offset⟩ :: s.errors, listening := !isLimit }
    else s

/-- Goes on to the first lexeme that is not of some kinds; what is no token is reported and left
out on the way. -/
def skipWhile (isSkipped : Lexeme → Bool) : Reader Unit := do
  for lexeme in (← get).rest.takeWhile isSkipped do
    if let .invalid message offset size := lexeme then
      report message false offset
      modify fun s => { s with omitted := s.omitted + size }
  modify fun s => { s with rest := s.rest.dropWhile isSkipped }

/-- Goes on to the next token. -/
def settle : Reader Unit := skipWhile (!·.isToken)

/-- The next token; it stays to be read.  Behind the end mark nothing but end marks follow. -/
def peek : Reader Token := do
  match (← get).rest.find? (·.isToken) with
  | some (.token token) => return token
  | _ => return ⟨.eof, "EOF", 0⟩

/-- The kind of the next token. -/
def peekKind : Reader TokenKind := return (← peek).kind

/-- The text of the next token, if it is a name. -/
def peekWord : Reader String := do
  let token ← peek
  return if token.kind = .name then token.text else ""

/-- The token or comma after the next token; looking that far ahead stops at commas. -/
def peekSecond : Reader Token := do
  let marks := (← get).rest.filterMap fun
    | .token token => some token
    | .gap "," offset => some ⟨.eof, ",", offset⟩
    | _ => none
  return marks.getD 1 ⟨.eof, "EOF", 0⟩

/-- Reads the next token. -/
def pop : Reader Token := do
  let token ← peek
  modify fun s => { s with rest := s.rest.drop 1 }
  settle
  return token

/-- Leaves out the next token, and stays behind it. -/
def leaveOut : Reader Unit := do
  let size := (← peek).text.utf8ByteSize
  modify fun s => { s with rest := s.rest.drop 1, omitted := s.omitted + size }

/-- The position of the next token.  What is left out of the text does not count. -/
def here : Reader (Option Position) := do
  let s ← get
  return some (.inText s.source ((← peek).offset - s.omitted))

/-- Reports an error at the next token; behind the end mark nothing is reported. -/
def fail (message : String) : Reader Unit := do
  unless (← get).rest.isEmpty do report message false (← peek).offset

/-- Reports an error at the next token, and reads it. -/
def failAndPop (message : String) : Reader Unit := do
  fail message
  discard pop

/-- The name under which a missing token is reported. -/
def tokenLabel : TokenKind → String
  | .rightParen => "R_PAREN"
  | .rightBracket => "R_BRACK"
  | .rightBrace => "R_CURLY"
  | .colon => "COLON"
  | _ => "TOKEN"

/-- Reads a token of a kind, or reports what stands in its place. -/
def expect (kind : TokenKind) : Reader Unit := do
  skipWhile (·.isInvalid)
  let missing (text : String) (offset : Nat) : Reader Unit :=
    report ("expected " ++ tokenLabel kind ++ ", got " ++ text) false offset
  match (← get).rest with
  | .token token :: _ =>
      if token.kind = kind then discard pop else missing token.text token.offset
  | .gap text offset :: _ => missing text offset
  | _ => return

/-- Reads the next token if it is of a kind, and says whether it was. -/
def eat (kind : TokenKind) : Reader Bool := do
  if (← peekKind) = kind then
    discard pop
    return true
  return false

/-- Reads the next token if it is a given word, and says whether it was. -/
def eatWord (word : String) : Reader Bool := do
  if (← peekWord) = word then
    discard pop
    return true
  return false

/-- A bound on the number of tokens that are still to be read. -/
def remaining : Reader Nat := return (← get).rest.length + 1

/-- Reads items while the next token is one that an item starts with, for a number of rounds. -/
def manyRounds {α : Type} (starts : TokenKind → Bool) (item : Reader (Option α)) :
    Nat → Reader (List α)
  | 0 => return []
  | rounds + 1 => do
      if starts (← peekKind) then
        let first ← item
        let others ← manyRounds starts item rounds
        return first.toList ++ others
      else return []

/-- Reads items while the next token is one that an item starts with. -/
def many {α : Type} (starts : TokenKind → Bool) (item : Reader (Option α)) : Reader (List α) := do
  manyRounds starts item (← remaining)

/-- Reads items with a token between them, which may stand before the first as well. -/
def separated {α : Type} (separator : TokenKind) (item : Reader (Option α)) :
    Reader (List α) := do
  discard <| eat separator
  let first ← item
  let others ← many (· == separator) (pop *> item)
  return first.toList ++ others

/-- Reads a part one level deeper, unless that is too deep. -/
def deeper {α : Type} (part : Reader (Option α)) : Reader (Option α) := do
  if (← get).depth ≥ depthLimit then
    report "parser recursion limit reached" true (← peek).offset
    return none
  modify fun s => { s with depth := s.depth + 1 }
  let result ← part
  modify fun s => { s with depth := s.depth - 1 }
  return result

end Reader

end ResolverTypes.Schema
