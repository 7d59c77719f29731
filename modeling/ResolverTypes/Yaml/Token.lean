import ResolverTypes.Yaml.Reader

/-!
# Tokens of YAML

The tokens of a text: scalars, names and tags, the marks of collections, and the starts and ends of
collections on lines, which follow from the columns.  That a scalar is a key shows only at the colon
behind it; so tokens are found ahead of those that are taken, and the mark of a key is put in front
of tokens that are found already.

## Main definitions

* `Yaml.findToken` : finds the next token, and what goes with it.
* `Yaml.nextToken` : takes the next token.
-/

namespace ResolverTypes.Yaml

/-! ### Keys and columns -/

/-- Adds a token to those that are found. -/
def addToken (token : YamlToken) : YamlReader Unit :=
  modify fun s => { s with tokens := s.tokens ++ [token] }

/-- Puts a token in front of the tokens from a number on. -/
def insertToken (number : Nat) (token : YamlToken) : YamlReader Unit :=
  modify fun s =>
    let (front, behind) := s.tokens.splitAt (number - s.taken)
    { s with tokens := front ++ token :: behind }

/-- Tells whether a key may start at the next token. -/
def setMayBeKey (mayBeKey : Bool) : YamlReader Unit := modify fun s => { s with mayBeKey }

/-- The greatest number of characters between the start of a key and its colon. -/
def keyLimit : Nat := 1024

/-- A possible key on lines is none any more behind its line, or a number of characters on. -/
def dropOldKey : YamlReader Unit :=
  modify fun s =>
    match s.keys with
    | [key] =>
        if key.line < s.line ∨ key.offset + keyLimit < s.offset then
          { s with keys := [{ key with isPossible := false }] }
        else s
    | _ => s

/-- Keeps the place of the next token, if a key may start there. -/
def markKey : YamlReader Unit :=
  modify fun s =>
    let isRequired := decide (1 < s.keys.length) && decide (s.indent = s.column)
      && (s.indents.head?.map (·.2)).getD false
    let key : KeyMark :=
      ⟨true, isRequired, s.taken + s.tokens.length, s.line, s.column, s.offset⟩
    if s.mayBeKey then { s with keys := key :: s.keys.drop 1 } else s

/-- What stands at the last possible key is none. -/
def dropKey : YamlReader Unit := do
  match (← get).keys with
  | key :: keys =>
      if key.isPossible && key.isRequired then failure
      modify fun s => { s with keys := { key with isPossible := false } :: keys }
  | [] => return

/-- The state in which the collections on lines that stand further in than a column end, for a
number of rounds. -/
def closedState (column : Int) : Nat → YamlState → YamlState
  | 0, s => s
  | n + 1, s =>
      match s.indents with
      | [] => s
      | (outer, isCollection) :: indents =>
          if s.indent ≤ column then s
          else
            let tokens := if isCollection then s.tokens ++ [.collectionEnd] else s.tokens
            closedState column n { s with indent := outer, indents, tokens }

/-- Ends the collections on lines that stand further in than a column. -/
def closeLines (column : Int) : YamlReader Unit := do
  unless ← inBrackets do modify fun s => closedState column s.indents.length s

/-- Starts a collection on lines at a column, with its token in front of those from a number on,
unless it goes on there. -/
def openLines (column : Int) (number : Option Nat) (start : YamlToken) : YamlReader Unit := do
  if ← inBrackets then return
  if (← indent) ≤ column then
    modify fun s =>
      match s.indents with
      | (outer, false) :: indents => { s with indent := outer, indents }
      | _ => s
  if (← indent) < column then
    modify fun s => { s with indent := column, indents := (s.indent, true) :: s.indents }
    match number with
    | some n => insertToken n start
    | none => addToken start

/-- A value stands further in than the collection around. -/
def indentValue : YamlReader Unit := do
  unless ← inBrackets do
    modify fun s =>
      match s.indents with
      | (_, true) :: _ =>
          { s with indent := s.indent + 1, indents := (s.indent, false) :: s.indents }
      | _ => s

/-! ### Brackets -/

/-- The greatest number of brackets around a token. -/
def bracketLimit : Nat := 255

/-- Finds a bracket that opens a list or mapping. -/
def findOpening (isList : Bool) : YamlReader Unit := do
  markKey
  indentValue
  if bracketLimit < (← get).keys.length then failure
  modify fun s => { s with
    keys := {} :: s.keys
    mayBeKey := true
    hasBraces := s.hasBraces || !isList
    bareMappings := if isList then false :: s.bareMappings else s.bareMappings }
  skip
  discard skipLineGap
  addToken (if isList then .bracketOpen else .braceOpen)

/-- Ends a mapping without braces, if one is open in the innermost list. -/
def endBareMapping : YamlReader Unit := do
  match (← get).bareMappings with
  | true :: lists =>
      modify fun s => { s with hasBraces := false, bareMappings := false :: lists }
      addToken .braceClose
  | _ => return

/-- Finds a bracket that closes a list or mapping. -/
def findClosing (isList : Bool) : YamlReader Unit := do
  unless ← inBrackets do failure
  dropKey
  modify fun s => { s with keys := s.keys.drop 1, mayBeKey := false }
  if isList then
    endBareMapping
    modify fun s => { s with bareMappings := s.bareMappings.drop 1 }
  skip
  discard skipLineGap
  if ← inBrackets then modify fun s => { s with closedKeyEnd := some s.offset }
  addToken (if isList then .bracketClose else .braceClose)

/-- Finds a comma. -/
def findComma : YamlReader Unit := do
  dropKey
  setMayBeKey true
  endBareMapping
  skip
  discard skipLineGap
  addToken .comma

/-! ### Items, keys and values -/

/-- Whether a token is a name or a tag at the start of a line. -/
def YamlToken.startsLine : YamlToken → Bool
  | .anchor _ startsLine => startsLine
  | .tag _ _ startsLine => startsLine
  | _ => false

/-- Finds the mark of an item. -/
def findItem : YamlReader Unit := do
  let s ← get
  if (← inBrackets) || !s.mayBeKey then failure
  let isNamed := (s.tokens.getLast?.map YamlToken.startsLine).getD false
  if isNamed && s.column == 0 && decide (-1 < s.indent) then failure
  skip
  openLines s.column none .listStart
  let blanks ← skipLineGap
  if blanks.contains '\t' && (← atMark '-') then failure
  if (← peek?) == some '\n' || startsBracket (← peek?) then indentValue
  dropKey
  setMayBeKey true
  addToken .item

/-- Reads the gap behind the mark of a key, for a number of rounds, and says whether there is
one. -/
def keyGapRounds : Nat → Bool → YamlReader Bool
  | 0, found => return found
  | n + 1, found => do
      match ← peek? with
      | some ' ' =>
          skipBlank
          keyGapRounds n true
      | some '\n' =>
          skipBreak
          unless ← inBrackets do setMayBeKey true
          keyGapRounds n true
      | some '#' =>
          skipLine
          keyGapRounds n found
      | _ => return found

/-- Finds the mark of a key. -/
def findKey : YamlReader Unit := do
  let s ← get
  let inBrackets ← inBrackets
  if inBrackets then modify fun s => { s with hasBraces := true }
  else
    if !s.mayBeKey then failure
    openLines s.column none .mappingStart
  dropKey
  setMayBeKey (!inBrackets)
  skip
  let hasGap ← keyGapRounds (← rounds) false
  if !hasGap || (← peek?) == some '\t' then failure
  addToken .key

/-- Reads the colon of a value.  A tab behind it goes with a space when a word follows. -/
def skipColon : YamlReader Unit := do
  skip
  if (← peek?) = some '\t' then
    let blanks ← skipLineGap
    let isWordChar (c : Char) : Bool := c.isAlphanum || c == '_' || c == '-'
    if !blanks.contains ' ' && ((← peek?).map isWordChar).getD false then failure

/-- Finds the mark of a value, in front of which a key may stand. -/
def findValue : YamlReader Unit := do
  let s ← get
  let inBrackets ← inBrackets
  let isBare := !s.bareMappings.isEmpty && !s.hasBraces
  if isBare then modify fun s => { s with bareMappings := true :: s.bareMappings.drop 1 }
  skipColon
  match s.keys with
  | key :: keys =>
      if key.isPossible then
        insertToken key.number .key
        if isBare then
          if key.line < s.line then failure
          insertToken key.number .braceOpen
        openLines key.column (some key.number) .mappingStart
        indentValue
        modify fun s => { s with keys := { key with isPossible := false } :: keys }
        setMayBeKey false
      else
        if isBare then addToken .braceOpen
        unless inBrackets do
          if !s.mayBeKey then failure
          openLines s.column none .mappingStart
        indentValue
        setMayBeKey (!inBrackets)
  | [] => failure
  addToken .value

/-- Finds the mark of a value behind which no blank stands. -/
def findClosedValue : YamlReader Unit := do
  let s ← get
  let next ← peekSecond?
  if s.closedKeyEnd != some s.offset && (next == some '[' || next == some '{') then failure
  findValue

/-! ### Names and tags -/

/-- Whether a character may stand in the name of a node. -/
def isNameChar (c : Char) : Bool :=
  !endsWord (some c) && !isBracket c && c.toNat != 0xFEFF

/-- Finds the name of a node, or a name in its place. -/
def findName (isAlias : Bool) : YamlReader Unit := do
  markKey
  setMayBeKey false
  let startsLine := (← column) == 0
  skip
  let chars := (← get).rest.takeWhile isNameChar
  if chars.isEmpty then failure
  skipMany chars.length
  let name := String.ofList chars
  addToken (if isAlias then .nameUse name else .anchor name startsLine)

/-- Whether a character may stand in the first part of a tag. -/
def isHandleChar (c : Char) : Bool := c.isAlphanum || c == '_' || c == '-'

/-- Whether a character may stand in a tag between angle brackets. -/
def isTagChar (c : Char) : Bool := c.isAlphanum || "-#;/?:@&=+$,_.!~*'()[]%".toList.contains c

/-- Whether a character may stand in a tag elsewhere. -/
def isBareTagChar (c : Char) : Bool := isTagChar c && !isBracket c && c != '!'

/-- The number of bytes of a character by the first of them. -/
def byteCount? (byte : Nat) : Option Nat :=
  if byte < 0x80 then some 1
  else if 0xC0 ≤ byte ∧ byte < 0xE0 then some 2
  else if 0xE0 ≤ byte ∧ byte < 0xF0 then some 3
  else if 0xF0 ≤ byte ∧ byte < 0xF8 then some 4
  else none

/-- Reads a byte that is written by its number. -/
def tagByte : YamlReader Nat := do
  if (← peek?) ≠ some '%' then failure
  skip
  hexNumber 2

/-- Reads the further bytes of a character of a tag, which follow the first as the digits of a
number do. -/
def tagByteRounds : Nat → Nat → YamlReader Nat
  | 0, code => return code
  | n + 1, code => do
      let byte ← tagByte
      if byte < 0x80 ∨ 0xC0 ≤ byte then failure
      tagByteRounds n (256 * code + byte)

/-- Reads a character of a tag that is written by the numbers of its bytes. -/
def tagEscape : YamlReader Char := do
  let first ← tagByte
  let some count := byteCount? first | failure
  numberedChar (← tagByteRounds (count - 1) first)

/-- Reads the characters of a tag that are in a class, for a number of rounds. -/
def tagRounds (isMember : Char → Bool) : Nat → YamlReader (List Char)
  | 0 => return []
  | n + 1 => do
      let some c ← peek? | return []
      if !isMember c then return []
      let read ← if c = '%' then tagEscape else (do skip; pure c)
      return read :: (← tagRounds isMember n)

/-- Reads the characters of a tag that are in a class. -/
def tagChars (isMember : Char → Bool) : YamlReader String := do
  return String.ofList (← tagRounds isMember (← rounds))

/-- Reads the first part of a tag, behind its exclamation mark, and says whether another one ends
it. -/
def tagHandle : YamlReader (String × Bool) := do
  skip
  let name := (← get).rest.takeWhile isHandleChar
  skipMany name.length
  let ends := (← peek?) == some '!'
  if ends then skip
  return (String.ofList name, ends)

/-- Reads the two parts of a tag. -/
def tagParts : YamlReader (String × String) := do
  if (← peekSecond?) = some '<' then
    skipMany 2
    let name ← tagChars isTagChar
    if (← peek?) ≠ some '>' then failure
    skip
    return ("", name)
  let (handle, ends) ← tagHandle
  let name ← tagChars isBareTagChar
  if ends then return ("!" ++ handle ++ "!", name)
  let whole := handle ++ name
  return if whole = "" then ("", "!") else ("!", whole)

/-- Finds a tag. -/
def findTag : YamlReader Unit := do
  markKey
  setMayBeKey false
  let startsLine := (← column) == 0
  let (handle, name) ← tagParts
  let next ← peek?
  if !endsWord next && !((← inBrackets) && startsBracket next) then failure
  addToken (.tag handle name startsLine)

/-! ### Documents -/

/-- Reads a part of the number of a version. -/
def versionPart : YamlReader Unit := do
  let digits := (← get).rest.takeWhile Char.isDigit
  if digits.isEmpty ∨ 9 < digits.length then failure
  skipMany digits.length

/-- Reads the blanks that come next. -/
def skipSpaces : YamlReader Unit := do skipBlanks ((← get).rest.takeWhile isSpace).length

/-- Reads what stands for the start of a tag. -/
def tagStartText : YamlReader String := do
  let some c ← peek? | failure
  if c = '!' then
    skip
    return "!" ++ (← tagChars isTagChar)
  if !isBareTagChar c then failure
  tagChars isTagChar

/-- Reads the content of a directive of a name. -/
def directive (name : String) : YamlReader YamlToken := do
  match name with
  | "YAML" =>
      skipSpaces
      versionPart
      if (← peek?) ≠ some '.' then failure
      skip
      versionPart
      return .version
  | "TAG" =>
      skipSpaces
      if (← peek?) ≠ some '!' then failure
      let (handle, ends) ← tagHandle
      if !ends && handle != "" then failure
      skipSpaces
      let start ← tagStartText
      if !endsWord (← peek?) then failure
      return .tagStart ("!" ++ handle ++ if ends then "!" else "") start
  | _ =>
      skipLine
      return .directive

/-- Ends the collections on lines at a mark of documents. -/
def endLines : YamlReader Unit := do
  closeLines (-1)
  dropKey
  setMayBeKey false

/-- Finds a directive. -/
def findDirective : YamlReader Unit := do
  endLines
  skip
  let name := (← get).rest.takeWhile isHandleChar
  skipMany name.length
  if name.isEmpty || !endsWord (← peek?) then failure
  let token ← directive (String.ofList name)
  discard skipLineGap
  if !endsLine (← peek?) then failure
  if (← peek?).isSome then skipBreak
  addToken token

/-- Finds a mark of documents. -/
def findDocumentMark (token : YamlToken) : YamlReader Unit := do
  endLines
  skipMany 3
  addToken token

/-- Finds the mark of the end of a document, behind which nothing else stands. -/
def findDocumentEnd : YamlReader Unit := do
  findDocumentMark .documentEnd
  discard skipLineGap
  unless endsLine (← peek?) do failure

/-- Finds the end of the text, which is on a line of its own. -/
def findTextEnd : YamlReader Unit := do
  modify fun s => if s.column = 0 then s else { s with column := 0, line := s.line + 1 }
  if (← get).keys.any fun key => key.isPossible && key.isRequired then failure
  modify fun s => { s with keys := s.keys.map fun key => { key with isPossible := false } }
  endLines
  addToken .textEnd

/-! ### Tokens -/

/-- Finds a scalar. -/
def findScalar (style : ScalarStyle) (mayBeKey : Bool) (reader : YamlReader String) :
    YamlReader Unit := do
  markKey
  setMayBeKey mayBeKey
  addToken (.scalar style (← reader))

/-- Finds a scalar in quotes. -/
def findQuoted (style : ScalarStyle) (quote : Char) : YamlReader Unit := do
  findScalar style false do
    let text ← quotedScalar quote
    skipGaps
    modify fun s => { s with closedKeyEnd := some s.offset }
    return text

/-- Finds the token that starts with a character. -/
def findBy (c : Char) (next : Option Char) : YamlReader Unit := do
  let s ← get
  let inBrackets ← inBrackets
  let isClosed := startsBracket next || s.closedKeyEnd == some s.offset
  match c with
  | '[' => findOpening true
  | '{' => findOpening false
  | ']' => findClosing true
  | '}' => findClosing false
  | ',' => findComma
  | '*' => findName true
  | '&' => findName false
  | '!' => findTag
  | '\'' => findQuoted .single '\''
  | '"' => findQuoted .other '"'
  | '%' => failure
  | '@' => failure
  | _ =>
      if c.toNat = 0x60 then failure
      else if c = '-' ∧ endsWord next then findItem
      else if c = '?' ∧ endsWord next then findKey
      else if c = ':' ∧ endsWord next then findValue
      else if c = ':' ∧ inBrackets ∧ isClosed then findClosedValue
      else if (c = '|' ∨ c = '>') ∧ !inBrackets then findScalar .other true blockScalar
      else findScalar .plain false plainScalar

/-- Finds the next token, and what goes with it. -/
def findToken : YamlReader Unit := do
  skipGaps
  dropOldKey
  closeLines (← column)
  let s ← get
  match s.rest.head? with
  | none => findTextEnd
  | some c =>
      if s.column = 0 ∧ c = '%' then findDirective
      else if s.column == 0 && (← atTriple '-') then findDocumentMark .documentStart
      else if s.column == 0 && (← atTriple '.') then findDocumentEnd
      else
        let closes := c == ']' || c == '}'
        let isOutside := decide ((s.column : Int) < s.indent)
        if isOutside && !((← inBrackets) && closes) then failure
        findBy c (← peekSecond?)

/-- Finds tokens until the next one is sure, for a number of rounds: it may be a key no more. -/
def tokenRounds : Nat → YamlReader Unit
  | 0 => failure
  | n + 1 => do
      unless (← get).tokens.isEmpty do dropOldKey
      let s ← get
      let mayBeKey := s.keys.any fun key => key.isPossible && key.number == s.taken
      if s.tokens.isEmpty || mayBeKey then
        findToken
        tokenRounds n

/-- Takes the next token. -/
def nextToken : YamlReader YamlToken := do
  tokenRounds ((← get).rest.length + 3)
  match (← get).tokens with
  | token :: tokens =>
      modify fun s => { s with tokens, taken := s.taken + 1 }
      return token
  | [] => failure

end ResolverTypes.Yaml
