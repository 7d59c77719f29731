import ResolverTypes.Yaml.Tag

/-!
# Reading characters of YAML

A reader goes through the characters of a text, knows the line and the column it is at, and gives up
at anything out of place.  Places between tokens are gaps: blanks, comments and line breaks.

## Main definitions

* `Yaml.YamlToken`, `Yaml.KeyMark` : a token, and a place that a key may start at.
* `Yaml.YamlReader` : a computation that reads characters.
* `Yaml.skipGaps` : goes on to the next token.
* `Yaml.plainScalar`, `Yaml.quotedScalar`, `Yaml.blockScalar` : the texts of scalars.
-/

namespace ResolverTypes.Yaml

/-- What stands at a place, if a colon behind it should make it a key. -/
structure KeyMark where
  /-- Whether it can still be a key. -/
  isPossible : Bool := false
  /-- Whether it has to be a key. -/
  isRequired : Bool := false
  /-- The number of tokens in front of it. -/
  number : Nat := 0
  /-- The number of line breaks in front of it. -/
  line : Nat := 0
  /-- The number of characters of its line in front of it. -/
  column : Nat := 0
  /-- The number of characters in front of it. -/
  offset : Nat := 0
deriving DecidableEq, Inhabited

/-- A token. -/
inductive YamlToken where
  /-- A scalar, with how it is written. -/
  | scalar (style : ScalarStyle) (text : String)
  /-- The name of the node that follows, and whether it starts a line. -/
  | anchor (name : String) (startsLine : Bool)
  /-- A name in place of the node that has it. -/
  | nameUse (name : String)
  /-- A tag in two parts, and whether it starts a line. -/
  | tag (handle name : String) (startsLine : Bool)
  /-- The start of a list on lines. -/
  | listStart
  /-- The start of a mapping on lines. -/
  | mappingStart
  /-- The end of a collection on lines. -/
  | collectionEnd
  /-- The bracket that opens a list. -/
  | bracketOpen
  /-- The bracket that closes a list. -/
  | bracketClose
  /-- The start of a mapping between brackets. -/
  | braceOpen
  /-- The end of a mapping between brackets. -/
  | braceClose
  /-- A comma between brackets. -/
  | comma
  /-- The mark of an item. -/
  | item
  /-- The mark of a key. -/
  | key
  /-- The mark of a value. -/
  | value
  /-- The mark of the start of a document. -/
  | documentStart
  /-- The mark of the end of a document. -/
  | documentEnd
  /-- A directive that tells the version. -/
  | version
  /-- A directive that tells what stands for the start of a tag. -/
  | tagStart (handle start : String)
  /-- Any other directive. -/
  | directive
  /-- The end of the text. -/
  | textEnd
deriving DecidableEq, Inhabited

/-- The state of a reader. -/
structure YamlState where
  /-- The characters that are still to be read. -/
  rest : List Char
  /-- The number of line breaks read. -/
  line : Nat := 0
  /-- The number of characters read of the line. -/
  column : Nat := 0
  /-- The number of characters read. -/
  offset : Nat := 0
  /-- Whether only blanks have been read of the line. -/
  isLeading : Bool := true
  /-- The tokens that are found and not yet taken. -/
  tokens : List YamlToken := []
  /-- The number of tokens that are taken. -/
  taken : Nat := 0
  /-- The possible keys, one for each bracket that is open and one for the lines around, the
  innermost first. -/
  keys : List KeyMark := [{}]
  /-- Whether a key may start at the next token. -/
  mayBeKey : Bool := true
  /-- The column of the innermost collection on lines. -/
  indent : Int := -1
  /-- The columns of the collections around it, each with whether the one inside is a collection; it
  is not where a value only has to stand further in. -/
  indents : List (Int × Bool) := []
  /-- Where a colon ends a key although no blank follows. -/
  closedKeyEnd : Option Nat := none
  /-- Whether the last mapping between brackets was started by a mark of its own. -/
  hasBraces : Bool := false
  /-- For each list between brackets that is open, whether a mapping without braces is open in
  it. -/
  bareMappings : List Bool := []
  /-- The line of a comment that a plain scalar has ended at, until the next token is found. -/
  cutLine : Option Nat := none

/-- A computation that reads characters. -/
abbrev YamlReader := StateT YamlState Option

/-- The next character; it stays to be read. -/
def peek? : YamlReader (Option Char) := return (← get).rest.head?

/-- The character after the next. -/
def peekSecond? : YamlReader (Option Char) := return ((← get).rest.drop 1).head?

/-- The state after the next character, which is no line break. -/
def YamlState.behindChar (s : YamlState) : YamlState :=
  { s with rest := s.rest.drop 1, column := s.column + 1, offset := s.offset + 1 }

/-- Reads a blank. -/
def skipBlank : YamlReader Unit := modify YamlState.behindChar

/-- Reads a line break. -/
def skipBreak : YamlReader Unit :=
  modify fun s => { s with
    rest := s.rest.drop 1, line := s.line + 1, column := 0, offset := s.offset + 1
    isLeading := true }

/-- Reads a number of blanks, or of characters of a comment. -/
def skipBlanks (count : Nat) : YamlReader Unit :=
  modify fun s => { s with
    rest := s.rest.drop count, column := s.column + count, offset := s.offset + count }

/-- Reads a number of characters of a token. -/
def skipMany (count : Nat) : YamlReader Unit := do
  skipBlanks count
  modify fun s => { s with isLeading := s.isLeading && count == 0 }

/-- Reads a character of a token. -/
def skip : YamlReader Unit := skipMany 1

/-- The number of line breaks read. -/
def line : YamlReader Nat := return (← get).line

/-- The number of characters read of the line. -/
def column : YamlReader Int := return (← get).column

/-- The column of the innermost collection on lines. -/
def indent : YamlReader Int := return (← get).indent

/-- Whether the next token stands between brackets. -/
def inBrackets : YamlReader Bool := return decide (1 < (← get).keys.length)

/-- A number of rounds in which all that is left can be read. -/
def rounds : YamlReader Nat := return (← get).rest.length + 1

/-- Whether a character is a space or a tab. -/
def isSpace (c : Char) : Bool := c == ' ' || c == '\t'

/-- Whether a line ends at a place, given the character there. -/
def endsLine : Option Char → Bool
  | none => true
  | some c => c == '\n'

/-- Whether a word ends at a place, given the character there. -/
def endsWord : Option Char → Bool
  | none => true
  | some c => c == '\n' || isSpace c

/-- Whether a character belongs to lists and mappings in brackets. -/
def isBracket (c : Char) : Bool := [',', '[', ']', '{', '}'].contains c

/-- Whether a character at a place, if there is one, belongs to lists and mappings in brackets. -/
def startsBracket (c : Option Char) : Bool := (c.map isBracket).getD false

/-- Whether three characters and the end of a word come next. -/
def atTriple (c : Char) : YamlReader Bool := do
  let rest := (← get).rest
  return rest.take 3 == [c, c, c] && endsWord (rest.drop 3).head?

/-- Whether a mark between documents comes next. -/
def atDocumentMark : YamlReader Bool := return (← atTriple '-') || (← atTriple '.')

/-- Whether a mark of a collection stands here: the character, and the end of a word after it. -/
def atMark (mark : Char) : YamlReader Bool := do
  return (← peek?) == some mark && endsWord (← peekSecond?)

/-! ### Gaps -/

/-- Reads what is left of the line. -/
def skipLine : YamlReader Unit := do
  skipBlanks ((← get).rest.takeWhile (· != '\n')).length

/-- Reads blanks and a comment behind them, and gives the blanks.  A comment that stands right
behind a token is none. -/
def skipLineGap : YamlReader (List Char) := do
  let blanks := (← get).rest.takeWhile isSpace
  skipBlanks blanks.length
  if (← peek?) = some '#' then
    if blanks.isEmpty then failure
    skipLine
  return blanks

/-- Reads blanks that start with a tab in front of the indentation of a line: nothing stands behind
them. -/
def skipTabs : YamlReader Unit := do
  discard skipLineGap
  unless endsLine (← peek?) do failure

/-- Goes on to the next token, for a number of rounds. -/
def gapRounds : Nat → YamlReader Unit
  | 0 => return
  | n + 1 => do
      match ← peek? with
      | some '\t' =>
          let s ← get
          if !s.indents.isEmpty && s.isLeading && decide ((s.column : Int) < s.indent) then skipTabs
          else skipBlank
          gapRounds n
      | some ' ' =>
          skipBlank
          gapRounds n
      | some '\n' =>
          skipBreak
          unless ← inBrackets do modify fun s => { s with mayBeKey := true }
          gapRounds n
      | some '#' =>
          skipLine
          gapRounds n
      | _ => return

/-! ### Plain scalars -/

/-- The text that line breaks in a scalar stand for. -/
def foldedBreaks (count : Nat) : List Char :=
  if count = 1 then [' '] else List.replicate (count - 1) '\n'

/-- Whether a plain scalar may go on with a character, given the next one. -/
def goesOnPlain (inBrackets : Bool) (c : Char) (next : Option Char) : Bool :=
  if c = ':' ∧ (endsWord next ∨ (inBrackets ∧ startsBracket next)) then false
  else !(inBrackets && isBracket c)

/-- Whether a plain scalar may go on here. -/
def atPlain : YamlReader Bool := do
  match ← peek? with
  | none => return false
  | some c => return goesOnPlain (← inBrackets) c (← peekSecond?)

/-- Goes on to the next token.  A comment behind a plain scalar keeps the next line from going on
with it, and the line must not look as if it did. -/
def skipGaps : YamlReader Unit := do
  gapRounds (← rounds)
  let s ← get
  if let some cut := s.cutLine then
    set { s with cutLine := none }
    let isNext := s.line = cut + 1 ∧ s.indent < s.column
    let isText := !(← atDocumentMark) && (← atPlain)
    if isNext ∧ isText ∧ !(← inBrackets) then failure

/-- The characters of a plain scalar up to a blank. -/
def plainChunk (inBrackets : Bool) : List Char → List Char
  | [] => []
  | c :: rest =>
      if endsWord (some c) || !goesOnPlain inBrackets c rest.head? then []
      else c :: plainChunk inBrackets rest

/-- What has been read of a scalar and not been added to its text: the blanks behind it, or the line
breaks behind it. -/
structure PendingBlanks where
  /-- The blanks on the line. -/
  spaces : List Char := []
  /-- The number of line breaks. -/
  breaks : Nat := 0

/-- The text that pending blanks stand for. -/
def PendingBlanks.text (pending : PendingBlanks) : List Char :=
  if pending.breaks = 0 then pending.spaces else foldedBreaks pending.breaks

/-- Reads the blanks and line breaks in a plain scalar, for a number of rounds. -/
def plainBlanks (least : Int) : Nat → PendingBlanks → YamlReader PendingBlanks
  | 0, pending => return pending
  | n + 1, pending => do
      match ← peek? with
      | some '\n' =>
          skipBreak
          plainBlanks least n { breaks := pending.breaks + 1 }
      | some c =>
          if !isSpace c then return pending
          if !(← get).isLeading then
            skipBlank
            plainBlanks least n { pending with spaces := pending.spaces ++ [c] }
          else
            if c = '\t' ∧ (← column) < least then skipTabs else skipBlank
            plainBlanks least n pending
      | none => return pending

/-- Reads a plain scalar that is indented by a number of columns, for a number of rounds. -/
def plainRounds (least : Int) : Nat → List Char → PendingBlanks → YamlReader String
  | 0, read, _ => return String.ofList read
  | n + 1, read, pending => do
      let c ← peek?
      let inBrackets ← inBrackets
      if c = some '#' then
        if !read.isEmpty && !pending.spaces.isEmpty && !inBrackets then
          modify fun s => { s with cutLine := some s.line }
        return String.ofList read
      if (← get).isLeading && (← atDocumentMark) then return String.ofList read
      if inBrackets && c == some '-' && startsBracket (← peekSecond?) then failure
      let chunk := plainChunk inBrackets (← get).rest
      let read := if chunk.isEmpty then read else read ++ pending.text ++ chunk
      let pending := if chunk.isEmpty then pending else {}
      skipMany chunk.length
      let next ← peek?
      if next.isNone || !endsWord next then return String.ofList read
      let pending ← plainBlanks least (← rounds) pending
      if !inBrackets && decide ((← column) < least) then return String.ofList read
      plainRounds least n read pending

/-- Forgets that a value has to stand further in than the collection around. -/
def dropValueIndents : YamlReader Unit :=
  modify fun s =>
    let inner := s.indents.takeWhile (!·.2)
    { s with
      indent := (inner.getLast?.map (·.1)).getD s.indent
      indents := s.indents.drop inner.length }

/-- Reads a plain scalar. -/
def plainScalar : YamlReader String := do
  dropValueIndents
  let least := (← indent) + 1
  if (← inBrackets) && decide ((← column) < least) then failure
  let text ← plainRounds least (← rounds) [] {}
  if (← get).isLeading then modify fun s => { s with mayBeKey := true }
  return text

/-! ### Quoted scalars -/

/-- The character that an escape of one character stands for. -/
def escaped? (c : Char) : Option Char :=
  match c with
  | '0' => some (Char.ofNat 0)
  | 'a' => some (Char.ofNat 7)
  | 'b' => some (Char.ofNat 8)
  | 't' => some '\t'
  | '\t' => some '\t'
  | 'n' => some '\n'
  | 'v' => some (Char.ofNat 0xB)
  | 'f' => some (Char.ofNat 0xC)
  | 'r' => some '\r'
  | 'e' => some (Char.ofNat 0x1B)
  | ' ' => some ' '
  | '"' => some '"'
  | '/' => some '/'
  | '\\' => some '\\'
  | 'N' => some (Char.ofNat 0x85)
  | '_' => some (Char.ofNat 0xA0)
  | 'L' => some (Char.ofNat 0x2028)
  | 'P' => some (Char.ofNat 0x2029)
  | _ => none

/-- The number of digits of an escape by number. -/
def escapeLength? (c : Char) : Option Nat :=
  match c with
  | 'x' => some 2
  | 'u' => some 4
  | 'U' => some 8
  | _ => none

/-- Reads a number of hexadecimal digits. -/
def hexNumber (count : Nat) : YamlReader Nat := do
  let digits := (← get).rest.take count
  if digits.length < count then failure
  let some values := digits.mapM (digit? 16) | failure
  skipMany count
  return values.foldl (fun n v => 16 * n + v) 0

/-- The character with a number. -/
def numberedChar (n : Nat) : YamlReader Char :=
  if h : n.isValidChar then return Char.ofNatAux n h else failure

/-- Reads what follows a backslash on its line.  A character may be written as the two halves of a
pair of numbers. -/
def escapedChar : YamlReader Char := do
  let some c ← peek? | failure
  skip
  match escapeLength? c with
  | some count =>
      let n ← hexNumber count
      if 0xD800 ≤ n ∧ n < 0xDC00 ∧ count = 4 ∧ (← get).rest.take 2 = ['\\', 'u'] then
        skipMany 2
        let m ← hexNumber 4
        if m < 0xDC00 ∨ 0xDFFF < m then failure
        numberedChar (0x10000 + (n - 0xD800) * 0x400 + (m - 0xDC00))
      else numberedChar n
  | none =>
      match escaped? c with
      | some c => return c
      | none => failure

/-- Reads the characters of a quoted scalar up to a blank or its end, for a number of rounds; the
text that is read is given from its end.  A line break behind a backslash carries no meaning. -/
def quotedChunk (quote : Char) : Nat → List Char → YamlReader (List Char)
  | 0, read => return read
  | n + 1, read => do
      let some c ← peek? | return read
      let next ← peekSecond?
      if endsWord (some c) then return read
      if c = quote then
        if quote = '\'' ∧ next = some '\'' then
          skipMany 2
          quotedChunk quote n ('\'' :: read)
        else return read
      else if c = '\\' ∧ quote = '"' then
        skip
        if next = some '\n' then
          skipBreak
          return read
        quotedChunk quote n ((← escapedChar) :: read)
      else
        skip
        quotedChunk quote n (c :: read)

/-- Reads the blanks and line breaks in a quoted scalar, for a number of rounds. -/
def quotedBlanks : Nat → PendingBlanks → YamlReader PendingBlanks
  | 0, pending => return pending
  | n + 1, pending => do
      match ← peek? with
      | some '\n' =>
          skipBreak
          quotedBlanks n { breaks := pending.breaks + 1 }
      | some c =>
          if !isSpace c then return pending
          if (← get).isLeading then
            if c = '\t' ∧ (← column) < (← indent) then failure
            skipBlank
            quotedBlanks n pending
          else
            skipBlank
            quotedBlanks n { pending with spaces := pending.spaces ++ [c] }
      | none => return pending

/-- Reads the rest of a quoted scalar, for a number of rounds; the text that is read is given from
its end. -/
def quotedRounds (quote : Char) : Nat → List Char → YamlReader String
  | 0, _ => failure
  | n + 1, read => do
      let s ← get
      if s.rest.isEmpty || decide ((s.column : Int) < s.indent) then failure
      if s.column == 0 && (← atDocumentMark) then failure
      let read ← quotedChunk quote (← rounds) read
      if (← peek?) = some quote then return String.ofList read.reverse
      let isJoined := s.line != (← line)
      let pending ← quotedBlanks (← rounds) {}
      let text := if isJoined then List.replicate pending.breaks '\n' else pending.text
      quotedRounds quote n (text.reverse ++ read)

/-- Whether a quoted scalar that starts on a line may end here. -/
def atQuotedEnd (start : Nat) : YamlReader Bool := do
  let c ← peek?
  let inBrackets ← inBrackets
  if endsLine c then return true
  if c = some ':' then return inBrackets || start == (← line)
  return inBrackets && (c == some ',' || c == some ']' || c == some '}')

/-- Reads a quoted scalar, and goes behind the blanks and the comment that follow it. -/
def quotedScalar (quote : Char) : YamlReader String := do
  let start ← line
  skip
  let text ← quotedRounds quote (← rounds) []
  skip
  discard skipLineGap
  unless ← atQuotedEnd start do failure
  return text

/-! ### Block scalars -/

/-- What becomes of the line breaks at the end of a block scalar. -/
inductive Chomping where
  /-- None is kept. -/
  | strip
  /-- The first is kept. -/
  | clip
  /-- All are kept. -/
  | keep
deriving DecidableEq, Inhabited

/-- The header of a block scalar: whether its lines are joined, what becomes of its end, and how far
it is indented, if that is said. -/
structure BlockHeader where
  /-- Whether its lines are joined. -/
  isFolded : Bool
  /-- What becomes of the line breaks at its end. -/
  chomping : Chomping := .clip
  /-- How much further than the lines around it is indented. -/
  indent : Option Nat := none

/-- Reads the part of the header of a block scalar that tells how far it is indented. -/
def blockIndent : YamlReader (Option Nat) := do
  match ← peek? with
  | some '0' => failure
  | some c =>
      if !c.isDigit then return none
      skip
      return some (c.toNat - '0'.toNat)
  | none => return none

/-- Reads the part of the header of a block scalar that tells what becomes of its end. -/
def blockChomping : YamlReader Chomping := do
  match ← peek? with
  | some '+' =>
      skip
      return .keep
  | some '-' =>
      skip
      return .strip
  | _ => return .clip

/-- Reads the header of a block scalar up to the end of its line. -/
def blockHeader : YamlReader BlockHeader := do
  let isFolded := (← peek?) == some '>'
  skip
  dropValueIndents
  let header ← do
    match ← blockChomping with
    | .clip =>
        let indent ← blockIndent
        let chomping ← if indent.isSome then blockChomping else pure .clip
        pure { isFolded, chomping, indent }
    | chomping => pure { isFolded, chomping, indent := ← blockIndent }
  discard skipLineGap
  unless endsLine (← peek?) do failure
  return header

/-- Reads the spaces in front of the next line that is not empty, up to a column if one is given,
for a number of rounds; gives the number of empty lines and the greatest number of spaces. -/
def blockGap (limit : Option Nat) : Nat → Nat → Nat → YamlReader (Nat × Nat)
  | 0, breaks, most => return (breaks, most)
  | n + 1, breaks, most => do
      let s ← get
      let spaces := (s.rest.takeWhile (· == ' ')).length
      skipBlanks ((limit.map fun l => min spaces (l - s.column)).getD spaces)
      let most := max most (← get).column
      if (← peek?) = some '\n' then
        skipBreak
        blockGap limit n (breaks + 1) most
      else return (breaks, most)

/-- What has been read of a block scalar. -/
structure BlockText where
  /-- Its text. -/
  text : List Char := []
  /-- Whether a line break behind the text is not added to it. -/
  hasBreak : Bool := false
  /-- The number of empty lines behind that. -/
  emptyLines : Nat
  /-- Whether the last line starts with a blank. -/
  isIndented : Bool := false

/-- The line breaks behind a block scalar that are not added to its text, in front of a line. -/
def BlockText.gap (read : BlockText) (isFolded startsBlank : Bool) : List Char :=
  let empty := List.replicate read.emptyLines '\n'
  if isFolded && read.hasBreak && !read.isIndented && !startsBlank then
    if read.emptyLines = 0 then [' '] else empty
  else (if read.hasBreak then ['\n'] else []) ++ empty

/-- Reads the lines of a block scalar that is indented by a number of columns, for a number of
rounds. -/
def blockRounds (isFolded : Bool) (depth : Nat) : Nat → BlockText → YamlReader BlockText
  | 0, read => return read
  | n + 1, read => do
      let s ← get
      if s.column != depth || s.rest.isEmpty then return read
      if depth == 0 && (← atTriple '.') then return read
      let startsBlank := (s.rest.head?.map isSpace).getD false
      let content := s.rest.takeWhile (· != '\n')
      skipBlanks content.length
      let text := read.text ++ read.gap isFolded startsBlank ++ content
      if (← peek?).isNone then
        return { text, hasBreak := false, emptyLines := 0, isIndented := startsBlank }
      skipBreak
      let (emptyLines, _) ← blockGap (some depth) (← rounds) 0 0
      blockRounds isFolded depth n { text, hasBreak := true, emptyLines, isIndented := startsBlank }

/-- The text of a block scalar of which there are only empty lines. -/
def emptyBlock (chomping : Chomping) (hasBreak : Bool) (emptyLines : Nat) : List Char :=
  match chomping with
  | .strip => []
  | .clip => if hasBreak then ['\n'] else []
  | .keep => if hasBreak then List.replicate (max 1 emptyLines) '\n' else []

/-- Reads a block scalar. -/
def blockScalar : YamlReader String := do
  let header ← blockHeader
  let hasBreak := (← peek?).isSome
  if hasBreak then skipBreak
  if (← peek?) = some '\t' then failure
  let outer ← indent
  let given := header.indent.map fun extra => (max outer 0).toNat + extra
  let (emptyLines, most) ← blockGap given (← rounds) 0 0
  let depth := given.getD (max most (outer + 1).toNat)
  if (← peek?).isNone then
    return String.ofList (emptyBlock header.chomping hasBreak emptyLines)
  let here ← column
  if here < depth ∧ outer < here then failure
  let read ← blockRounds header.isFolded depth (← rounds) { emptyLines }
  let atEnd := (← peek?).isNone && decide (max 1 depth ≤ (← get).column)
  let last := (if read.hasBreak then ['\n'] else []) ++ (if atEnd then ['\n'] else [])
  let tail :=
    match header.chomping with
    | .strip => []
    | .clip => last
    | .keep => last ++ List.replicate read.emptyLines '\n'
  return String.ofList (read.text ++ tail)

end ResolverTypes.Yaml
