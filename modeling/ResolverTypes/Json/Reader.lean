import ResolverTypes.Data.Value

/-!
# Reading JSON

A reader goes through the characters of a text and stops at the first that is out of place.  An
entry of an object may stand twice; it is kept twice.

## Main definitions

* `JsonProblem` : what is out of place, with its text `JsonProblem.message`.
* `JsonError` : a problem and its place, with its text `JsonError.message`.
* `Json.depthLimit` : how deeply lists and objects may be nested.
* `Json.readTree` : the tree at the start of a text, and the end of the text checked apart from it.
-/

namespace ResolverTypes

/-- What is out of place in a JSON text. -/
inductive JsonProblem where
  /-- The text ends in a list. -/
  | endInList
  /-- The text ends in an object. -/
  | endInObject
  /-- The text ends in a string. -/
  | endInString
  /-- The text ends where a value stands. -/
  | endInValue
  /-- A key is not followed by a colon. -/
  | missingColon
  /-- An item of a list is followed by something else than a comma or the end of the list. -/
  | listNotContinued
  /-- An entry of an object is followed by something else than a comma or the end of the object. -/
  | objectNotContinued
  /-- A word other than `true`, `false` and `null`. -/
  | unknownWord
  /-- No value starts here. -/
  | noValue
  /-- A backslash is followed by no escape. -/
  | invalidEscape
  /-- A number breaks off. -/
  | invalidNumber
  /-- A number is too great. -/
  | numberOutOfRange
  /-- A string holds a control character. -/
  | controlCharacter
  /-- A key is not a string. -/
  | keyNotString
  /-- A second half of a character stands alone. -/
  | loneSurrogate
  /-- A comma before the end of a list or an object. -/
  | trailingComma
  /-- Something follows the value. -/
  | trailingCharacters
  /-- A first half of a character is followed by no second half. -/
  | unfinishedSurrogate
  /-- Lists and objects are nested too deeply. -/
  | tooDeep
deriving DecidableEq, Repr, Inhabited

/-- The text of a problem. -/
def JsonProblem.message : JsonProblem → String
  | .endInList => "EOF while parsing a list"
  | .endInObject => "EOF while parsing an object"
  | .endInString => "EOF while parsing a string"
  | .endInValue => "EOF while parsing a value"
  | .missingColon => "expected `:`"
  | .listNotContinued => "expected `,` or `]`"
  | .objectNotContinued => "expected `,` or `\x7d`"
  | .unknownWord => "expected ident"
  | .noValue => "expected value"
  | .invalidEscape => "invalid escape"
  | .invalidNumber => "invalid number"
  | .numberOutOfRange => "number out of range"
  | .controlCharacter => "control character (\\u0000-\\u001F) found while parsing a string"
  | .keyNotString => "key must be a string"
  | .loneSurrogate => "lone leading surrogate in hex escape"
  | .trailingComma => "trailing comma"
  | .trailingCharacters => "trailing characters"
  | .unfinishedSurrogate => "unexpected end of hex escape"
  | .tooDeep => "recursion limit exceeded"

/-- A problem with its place. -/
structure JsonError where
  /-- What is out of place. -/
  problem : JsonProblem
  /-- The line, counted from one. -/
  line : Nat
  /-- The number of bytes of the line up to and with the first of the character out of place. -/
  column : Nat
deriving DecidableEq, Repr, Inhabited

/-- The text of the error. -/
def JsonError.message (error : JsonError) : String :=
  error.problem.message ++ " at line " ++ toString error.line ++ " column " ++
    toString error.column

namespace Json

/-- Where a reader stops: a problem, and the number of bytes behind its place. -/
structure Stop where
  /-- What is out of place. -/
  problem : JsonProblem
  /-- The number of bytes behind the place. -/
  left : Nat
deriving DecidableEq, Repr

/-- A computation that reads characters. -/
abbrev JsonReader := StateT (List Char) (Except Stop)

/-- The number of bytes of some characters. -/
def byteCount (chars : List Char) : Nat := (String.ofList chars).utf8ByteSize

/-- Stops behind the characters read so far. -/
def stop {α : Type} (problem : JsonProblem) : JsonReader α := do
  throw ⟨problem, byteCount (← get)⟩

/-- Stops at a character that has been read, behind the first of its bytes. -/
def stopAt {α : Type} (c : Char) (problem : JsonProblem) : JsonReader α := do
  throw ⟨problem, byteCount (← get) + (c.utf8Size - 1)⟩

/-- Stops at the next character, behind the first of its bytes. -/
def stopAtNext {α : Type} (problem : JsonProblem) : JsonReader α := do
  throw ⟨problem, byteCount (← get) - 1⟩

/-- The next character; it stays to be read. -/
def peek? : JsonReader (Option Char) := return (← get).head?

/-- Reads the next character, if there is one. -/
def next? : JsonReader (Option Char) := do
  let c ← peek?
  modify (·.drop 1)
  return c

/-- Whether a character may stand between tokens. -/
def isGap (c : Char) : Bool := c == ' ' || c == '\n' || c == '\t' || c == '\r'

/-- The next character after gaps; it stays to be read. -/
def peekPastGaps? : JsonReader (Option Char) := do
  modify (·.dropWhile isGap)
  peek?

/-- Reads the rest of a word. -/
def word : List Char → JsonReader Unit
  | [] => return
  | c :: cs => do
      match ← next? with
      | none => stop .endInValue
      | some other => if other = c then word cs else stopAt other .unknownWord

/-! ### Strings -/

/-- The value of a hexadecimal digit. -/
def hexDigit? (c : Char) : Option Nat :=
  if '0' ≤ c ∧ c ≤ '9' then some (c.toNat - '0'.toNat)
  else if 'a' ≤ c ∧ c ≤ 'f' then some (c.toNat - 'a'.toNat + 10)
  else if 'A' ≤ c ∧ c ≤ 'F' then some (c.toNat - 'A'.toNat + 10)
  else none

/-- The number that hexadecimal digits stand for. -/
def hexNumber? (digits : List Char) : Option Nat :=
  (digits.mapM hexDigit?).map fun values => values.foldl (fun n v => 16 * n + v) 0

/-- Reads four hexadecimal digits. -/
def fourDigits : JsonReader Nat := do
  let rest ← get
  let bytes := byteCount rest
  if bytes < 4 then throw ⟨.endInString, 0⟩
  match hexNumber? (rest.take 4) with
  | some n =>
      set (rest.drop 4)
      return n
  | none => throw ⟨.invalidEscape, bytes - 4⟩

/-- Reads a character that has to follow the first half of a character. -/
def surrogateMark (mark : Char) : JsonReader Unit := do
  match ← next? with
  | none => stop .endInString
  | some c => if c = mark then return else stopAt c .unfinishedSurrogate

/-- Reads a character written by its number, or by those of its halves. -/
def numberedChar : JsonReader Char := do
  let n ← fourDigits
  if 0xDC00 ≤ n ∧ n ≤ 0xDFFF then stop .loneSurrogate
  else if n < 0xD800 ∨ 0xDBFF < n then return Char.ofNat n
  else
    surrogateMark '\\'
    surrogateMark 'u'
    let m ← fourDigits
    if m < 0xDC00 ∨ 0xDFFF < m then stop .loneSurrogate
    else return Char.ofNat (0x10000 + (n - 0xD800) * 0x400 + (m - 0xDC00))

/-- Reads what follows a backslash. -/
def escapedChar : JsonReader Char := do
  match ← next? with
  | none => stop .endInString
  | some 'u' => numberedChar
  | some 'b' => return Char.ofNat 8
  | some 'f' => return Char.ofNat 12
  | some 'n' => return '\n'
  | some 'r' => return '\r'
  | some 't' => return '\t'
  | some c => if c = '"' ∨ c = '\\' ∨ c = '/' then return c else stopAt c .invalidEscape

/-- Reads the rest of a string, for a number of characters. -/
def stringRounds : Nat → List Char → JsonReader String
  | 0, _ => stop .endInString
  | rounds + 1, read => do
      match ← next? with
      | none => stop .endInString
      | some '"' => return String.ofList read.reverse
      | some '\\' => stringRounds rounds ((← escapedChar) :: read)
      | some c =>
          if c.toNat < 0x20 then stop .controlCharacter else stringRounds rounds (c :: read)

/-- Reads the rest of a string. -/
def string : JsonReader String := do stringRounds ((← get).length + 1) []

/-! ### Numbers -/

/-- Reads digits. -/
def digits : JsonReader (List Char) := do
  let read := (← get).takeWhile Char.isDigit
  modify (·.drop read.length)
  return read

/-- The number that decimal digits stand for. -/
def decimalNumber (digits : List Char) : Nat :=
  digits.foldl (fun n c => 10 * n + (c.toNat - '0'.toNat)) 0

/-- Reads the digits of a whole number: a zero alone, or digits that start with another. -/
def wholeDigits : JsonReader (List Char) := do
  match ← next? with
  | none => stop .endInValue
  | some '0' =>
      match ← peek? with
      | some c => if c.isDigit then stopAtNext .invalidNumber else return ['0']
      | none => return ['0']
  | some c => if c.isDigit then return c :: (← digits) else stopAt c .invalidNumber

/-- Reads the digits after a point, if there is one. -/
def fractionDigits? : JsonReader (Option (List Char)) := do
  if (← peek?) = some '.' then
    discard next?
    let read ← digits
    if read.isEmpty then
      stopAtNext (if (← peek?).isSome then .invalidNumber else .endInValue)
    else return some read
  else return none

/-- The greatest power of ten that is written out. -/
def greatestExponent : Nat := 2147483647

/-- The digits of a power of ten up to the one with which it gets too great, if it does. -/
def excessiveDigits? (digits : List Char) : Option (List Char) :=
  ((List.range digits.length).find? fun n =>
    greatestExponent < decimalNumber (digits.take (n + 1))).map fun n => digits.take (n + 1)

/-- Reads a power of ten, if there is one, behind digits that are all zeros or not. -/
def exponent? (isZero : Bool) : JsonReader (Option Int) := do
  let c ← peek?
  if c = some 'e' ∨ c = some 'E' then
    discard next?
    let sign ← peek?
    if sign = some '+' ∨ sign = some '-' then discard next?
    match ← next? with
    | none => stop .endInValue
    | some first =>
        if first.isDigit then
          let rest ← get
          let read := first :: (← digits)
          if let some excessive := excessiveDigits? read then
            if !isZero && sign ≠ some '-' then
              set (rest.drop (excessive.length - 1))
              stop .numberOutOfRange
          let n : Int := decimalNumber read
          return some (if sign = some '-' then -n else n)
        else stopAt first .invalidNumber
  else return none

/-- The greatest number of 64 bits. -/
def greatestWord : Nat := 18446744073709551615

/-- A number followed by digits, as many as leave it with at most 64 bits, and the other digits. -/
def continueWord (n : Nat) : List Char → Nat × List Char
  | [] => (n, [])
  | c :: cs =>
      let next := 10 * n + (c.toNat - '0'.toNat)
      if next ≤ greatestWord then continueWord next cs else (n, c :: cs)

/-- The decimal of a number with a point or a power of ten, or of a great one: digits that do not
fit a word any more count as zeros.  Those behind the point follow the ones that were kept. -/
def wordDecimal (negative : Bool) (whole fraction : List Char) (exponent : Int) : Decimal :=
  let (kept, zeros) := continueWord 0 whole
  let (digits, dropped) := continueWord kept fraction
  { negative, digits, exponent := exponent + zeros.length - (fraction.length - dropped.length) }

/-- Reads a number after its sign. -/
def numeral (negative : Bool) : JsonReader Numeral := do
  let whole ← wholeDigits
  let fraction ← fractionDigits?
  let exponent ← exponent? ((whole ++ fraction.getD []).all (· == '0'))
  let n : Nat := decimalNumber whole
  let value : Int := if negative then -n else n
  if fraction.isNone ∧ exponent.isNone ∧ Numeral.isWord value ∧ (n ≠ 0 ∨ !negative) then
    return .integer value
  else
    match (wordDecimal negative whole (fraction.getD []) (exponent.getD 0)).roundedInSteps? with
    | some rounded => return .decimal rounded
    | none => stop .numberOutOfRange

/-! ### Lists and objects -/

/-- Reads the items of a list after its bracket, for a number of rounds. -/
def itemRounds (item : JsonReader Tree) : Nat → List Tree → JsonReader (List Tree)
  | 0, read => return read.reverse
  | rounds + 1, read => do
      match ← peekPastGaps? with
      | none => stopAtNext .endInList
      | some ']' =>
          discard next?
          return read.reverse
      | some c =>
          if read.isEmpty then itemRounds item rounds [← item]
          else if c = ',' then
            discard next?
            match ← peekPastGaps? with
            | none => stopAtNext .endInValue
            | some ']' => stopAtNext .trailingComma
            | some _ => itemRounds item rounds ((← item) :: read)
          else stopAtNext .listNotContinued

/-- Reads an entry of an object. -/
def entry (item : JsonReader Tree) : JsonReader (Key × Tree) := do
  discard next?
  let name ← string
  match ← peekPastGaps? with
  | none => stopAtNext .endInObject
  | some ':' =>
      discard next?
      return (.name name, ← item)
  | some _ => stopAtNext .missingColon

/-- Reads the entries of an object after its brace, for a number of rounds. -/
def entryRounds (item : JsonReader Tree) :
    Nat → List (Key × Tree) → JsonReader (List (Key × Tree))
  | 0, read => return read.reverse
  | rounds + 1, read => do
      match ← peekPastGaps? with
      | none => stopAtNext .endInObject
      | some '}' =>
          discard next?
          return read.reverse
      | some c =>
          if read.isEmpty then
            if c = '"' then entryRounds item rounds [← entry item] else stopAtNext .keyNotString
          else if c = ',' then
            discard next?
            match ← peekPastGaps? with
            | none => stopAtNext .endInValue
            | some '"' => entryRounds item rounds ((← entry item) :: read)
            | some '}' => stopAtNext .trailingComma
            | some _ => stopAtNext .keyNotString
          else stopAtNext .objectNotContinued

/-- Reads a value in which lists and objects are nested less deeply than a bound. -/
def tree : Nat → JsonReader Tree
  | 0 => stopAtNext .tooDeep
  | depth + 1 => do
      match ← peekPastGaps? with
      | none => stopAtNext .endInValue
      | some c =>
          if c.isDigit then return .number (← numeral false)
          else if (c = '[' ∨ c = '{') ∧ depth = 0 then stopAtNext .tooDeep
          else
            match c with
            | 'n' =>
                word "null".toList
                return .null
            | 't' =>
                word "true".toList
                return .boolean true
            | 'f' =>
                word "false".toList
                return .boolean false
            | '-' =>
                discard next?
                return .number (← numeral true)
            | '"' =>
                discard next?
                return .string (← string)
            | '[' =>
                discard next?
                return .list (← itemRounds (tree depth) ((← get).length + 1) [])
            | '{' =>
                discard next?
                return .mapping (← entryRounds (tree depth) ((← get).length + 1) [])
            | _ => stopAtNext .noValue

/-! ### Texts -/

/-- A bound that no depth of nested lists and objects reaches. -/
def depthLimit : Nat := 128

/-- The line of a place in a text, given as a number of bytes before it, and its column. -/
def placeOf (chars : List Char) (bytes : Nat) (line column : Nat) : Nat × Nat :=
  match chars with
  | [] => (line, column)
  | c :: cs =>
      if bytes = 0 then (line, column)
      else if c = '\n' then placeOf cs (bytes - 1) (line + 1) 0
      else
        let size := min c.utf8Size bytes
        placeOf cs (bytes - size) line (column + size)

/-- A stop as an error of a text. -/
def Stop.error (text : String) (stopped : Stop) : JsonError :=
  let (line, column) := placeOf text.toList (text.utf8ByteSize - stopped.left) 1 0
  ⟨stopped.problem, line, column⟩

/-- The tree at the start of a text, with the characters after it. -/
def readTree (text : String) : Except JsonError (Tree × List Char) :=
  ((tree depthLimit).run text.toList).mapError (·.error text)

/-- Checks that nothing but gaps is left of a text. -/
def checkEnd (text : String) (rest : List Char) : Except JsonError Unit :=
  let rest := rest.dropWhile isGap
  if rest.isEmpty then .ok ()
  else .error (Stop.error text ⟨.trailingCharacters, byteCount rest - 1⟩)

end Json

end ResolverTypes
