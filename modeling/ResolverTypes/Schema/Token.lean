import ResolverTypes.Schema.Position

/-!
# Tokens of the schema language

A schema text is a sequence of tokens between which blanks, commas and comments carry no meaning.
What is no token is reported with its place, and reading goes on behind it.

## Main definitions

* `Token` : a token with its text and place.
* `Lexeme` : a token, what stands between tokens, or a report on what is neither.
* `lexemes` : the lexemes of a text, an end mark last.
-/

namespace ResolverTypes.Schema

/-- The kinds of tokens. -/
inductive TokenKind where
  | bang | dollar | ampersand | leftParen | rightParen | spread | colon | equals | at
  | leftBracket | rightBracket | leftBrace | pipe | rightBrace
  | name | string | int | float | eof
deriving DecidableEq, Repr, Inhabited

/-- A token. -/
structure Token where
  /-- The kind of the token. -/
  kind : TokenKind
  /-- The text of the token. -/
  text : String
  /-- The number of bytes before the token. -/
  offset : Nat
deriving DecidableEq, Repr, Inhabited

/-- A token, a piece of text that carries no meaning, or a report on one that is no token. -/
inductive Lexeme where
  /-- A token. -/
  | token (token : Token)
  /-- Blanks, a comma or a comment, with its text and place. -/
  | gap (text : String) (offset : Nat)
  /-- A report, with the place of the piece and its number of bytes. -/
  | invalid (message : String) (offset size : Nat)
deriving DecidableEq, Repr, Inhabited

/-- Whether a lexeme is a token. -/
def Lexeme.isToken : Lexeme → Bool
  | .token _ => true
  | _ => false

/-- Whether a lexeme is a report. -/
def Lexeme.isInvalid : Lexeme → Bool
  | .invalid .. => true
  | _ => false

/-! ### Classes of characters -/

/-- Whether a character separates tokens without being one. -/
def isIgnoredChar (c : Char) : Bool :=
  c == ' ' || c == '\t' || c == '\n' || c == '\r' || c == '\uFEFF'

/-- Whether a name may start with a character. -/
def isNameStart (c : Char) : Bool := c.isAlpha || c == '_'

/-- Whether a name may go on with a character. -/
def isNameChar (c : Char) : Bool := c.isAlphanum || c == '_'

/-- Whether a character is a hexadecimal digit. -/
def isHexDigit (c : Char) : Bool :=
  c.isDigit || ('a' ≤ c && c ≤ 'f') || ('A' ≤ c && c ≤ 'F')

/-- The kind of a token of one character. -/
def punctuator? : Char → Option TokenKind
  | '!' => some .bang
  | '$' => some .dollar
  | '&' => some .ampersand
  | '(' => some .leftParen
  | ')' => some .rightParen
  | ':' => some .colon
  | '=' => some .equals
  | '@' => some .at
  | '[' => some .leftBracket
  | ']' => some .rightBracket
  | '\x7b' => some .leftBrace
  | '|' => some .pipe
  | '\x7d' => some .rightBrace
  | _ => none

/-! ### Strings -/

/-- What a scan of a token finds: the characters of the token, and whether it is one. -/
structure Scan where
  /-- The number of characters taken. -/
  length : Nat
  /-- The kind of the token, or what is wrong with it. -/
  result : Except String TokenKind

/-- A scan that takes more characters in front. -/
def Scan.after (scan : Scan) (count : Nat) : Scan := ⟨scan.length + count, scan.result⟩

/-- The kind of a finished string, or the problem found in it. -/
def stringResult (problem : Option String) : Except String TokenKind :=
  problem.elim (.ok .string) .error

/-- The rest of a block string, after its three opening quotes. -/
def scanBlockString (problem : Option String) : List Char → Scan
  | [] => ⟨0, .error "unterminated string value"⟩
  | '\\' :: '"' :: '"' :: '"' :: cs => (scanBlockString problem cs).after 4
  | '"' :: '"' :: '"' :: _ => ⟨3, stringResult problem⟩
  | _ :: cs => (scanBlockString problem cs).after 1

/-- What the next character of a string is part of. -/
inductive StringPart where
  /-- The text itself, of which nothing has been read. -/
  | start
  /-- The text itself. -/
  | plain
  /-- The character after a backslash. -/
  | escape
  /-- The digits of a code unit, a number of which are still to come. -/
  | codeUnit (missing value : Nat)
  /-- The digits of a code point in braces, a number of which have been read. -/
  | codePoint (read value : Nat)
deriving DecidableEq, Repr, Inhabited

/-- The value of a hexadecimal digit. -/
def hexValue (c : Char) : Nat :=
  if c.isDigit then c.toNat - '0'.toNat
  else if c.isLower then c.toNat - 'a'.toNat + 10
  else c.toNat - 'A'.toNat + 10

/-- Whether a code unit is the first half of a pair. -/
def isLeadingHalf (unit : Nat) : Bool := 0xD800 ≤ unit && unit < 0xDC00

/-- Whether a code unit is the second half of a pair. -/
def isTrailingHalf (unit : Nat) : Bool := 0xDC00 ≤ unit && unit < 0xE000

/-- The problem with half of a pair without the other half. -/
def unpairedHalf : String := "unpaired surrogate in unicode escape sequence"

/-- The problem with an escaped code point that is no character. -/
def noScalarValue : String := "unicode escape sequence must specify a Unicode scalar value"

/-- Whether a list of characters starts with the escape of a code unit. -/
def startsCodeUnit : List Char → Bool
  | '\\' :: 'u' :: _ => true
  | _ => false

/-- What an escaped code unit comes to, given whether it follows the first half of a pair and what
comes behind it: whether another half has to follow, and the problem with it. -/
def codeUnitProblem (awaited : Bool) (unit : Nat) (rest : List Char) : Bool × Option String :=
  if awaited then (false, if isTrailingHalf unit then none else some unpairedHalf)
  else if isTrailingHalf unit then (false, some unpairedHalf)
  else if isLeadingHalf unit then
    if startsCodeUnit rest then (true, none) else (false, some unpairedHalf)
  else (false, none)

/-- The rest of a string, after its opening quote.  A string ends at its closing quote whatever is
wrong in it, and of several problems the last is reported.  Behind the opening quote a line may
end.  The flag tells whether the second half of a pair of code units is awaited. -/
def scanString (problem : Option String) (awaited : Bool) : StringPart → List Char → Scan
  | .start, [] => ⟨0, .error "unexpected end of data while lexing string value"⟩
  | _, [] => ⟨0, .error "unterminated string value"⟩
  | .start, '"' :: '"' :: cs => (scanBlockString problem cs).after 2
  | .start, '\n' :: cs => (scanString problem false .plain cs).after 1
  | .start, '\r' :: cs => (scanString problem false .plain cs).after 1
  | .escape, c :: cs =>
      if c == 'u' then
        match awaited, cs with
        | false, '\x7b' :: rest => (scanString problem false (.codePoint 0 0) rest).after 2
        | _, rest => (scanString problem awaited (.codeUnit 4 0) rest).after 1
      else if ['"', '\\', '/', 'b', 'f', 'n', 'r', 't'].contains c then
        (scanString problem false .plain cs).after 1
      else (scanString (some "unexpected escaped character") false .plain cs).after 1
  | .codeUnit missing value, c :: cs =>
      if c == '"' then ⟨1, .error "incomplete unicode escape sequence"⟩
      else if isHexDigit c then
        let value := 16 * value + hexValue c
        if missing ≤ 1 then
          let (next, found) := codeUnitProblem awaited value cs
          (scanString (found.or problem) next .plain cs).after 1
        else (scanString problem awaited (.codeUnit (missing - 1) value) cs).after 1
      else (scanString (some "invalid unicode escape sequence") false .plain cs).after 1
  | .codePoint read value, c :: cs =>
      if c == '"' then ⟨1, .error "incomplete unicode escape sequence"⟩
      else if c == '\x7d' then
        let isScalar :=
          read != 0 && value ≤ 0x10FFFF && !isLeadingHalf value && !isTrailingHalf value
        (scanString (if isScalar then problem else some noScalarValue) false .plain cs).after 1
      else if isHexDigit c then
        (scanString problem false (.codePoint (read + 1) (16 * value + hexValue c)) cs).after 1
      else (scanString (some "invalid unicode escape sequence") false .plain cs).after 1
  | _, c :: cs =>
      if c == '"' then ⟨1, stringResult problem⟩
      else if c == '\n' || c == '\r' then
        (scanString (some "unexpected line terminator") awaited .plain cs).after 1
      else (scanString problem awaited (if c == '\\' then .escape else .plain) cs).after 1

/-! ### Numbers -/

/-- The words for a character that a number cannot hold. -/
def unexpectedInNumber (c : Char) (part : String) : String :=
  "Unexpected character `" ++ String.singleton c ++ "`" ++ part

/-- The words for a number that ends too early. -/
def unfinishedFloat : String := "Unexpected EOF in float value"

/-- The digits at the start of a list of characters, and the rest. -/
def digits (chars : List Char) : List Char × List Char :=
  (chars.takeWhile Char.isDigit, chars.dropWhile Char.isDigit)

/-- The end of a number of a kind, before the given rest. -/
def scanNumberEnd (length : Nat) (kind : TokenKind) (part : String) : List Char → Scan
  | [] => ⟨length, .ok kind⟩
  | c :: _ =>
      if isNameStart c || c == '.' then ⟨length + 1, .error (unexpectedInNumber c part)⟩
      else ⟨length, .ok kind⟩

/-- The exponent of a number, after its letter. -/
def scanExponent (length : Nat) (chars : List Char) : Scan :=
  let (sign, rest) :=
    match chars with
    | '+' :: cs => (1, cs)
    | '-' :: cs => (1, cs)
    | cs => (0, cs)
  let wanted :=
    if sign = 0 then ", expected exponent digit or sign" else ", expected exponent digit"
  let (ds, rest) := digits rest
  match ds, rest with
  | [], [] => ⟨length + sign, .error unfinishedFloat⟩
  | [], c :: _ => ⟨length + sign + 1, .error (unexpectedInNumber c wanted)⟩
  | ds, rest => scanNumberEnd (length + sign + ds.length) .float " as float suffix" rest

/-- The rest of a number after its digits before the point. -/
def scanAfterInteger (length : Nat) : List Char → Scan
  | '.' :: cs =>
      let (ds, rest) := digits cs
      match ds, rest with
      | [], [] => ⟨length + 1, .error unfinishedFloat⟩
      | [], c :: _ =>
          ⟨length + 2, .error (unexpectedInNumber c ", expected fractional digit")⟩
      | ds, 'e' :: rest => scanExponent (length + ds.length + 2) rest
      | ds, 'E' :: rest => scanExponent (length + ds.length + 2) rest
      | ds, rest => scanNumberEnd (length + ds.length + 1) .float " as float suffix" rest
  | 'e' :: cs => scanExponent (length + 1) cs
  | 'E' :: cs => scanExponent (length + 1) cs
  | cs => scanNumberEnd length .int " as integer suffix" cs

/-- A number, after its sign. -/
def scanNumber : List Char → Scan
  | '0' :: c :: cs =>
      if c.isDigit then
        ⟨2, .error "Numbers must not have non-significant leading zeroes"⟩
      else scanAfterInteger 1 (c :: cs)
  | chars =>
      let (ds, rest) := digits chars
      match ds, rest with
      | [], [] => ⟨0, .error "Unexpected character \"-\""⟩
      | [], c :: _ => ⟨1, .error (unexpectedInNumber c "")⟩
      | ds, rest => scanAfterInteger ds.length rest

/-! ### All tokens -/

/-- The token that a nonempty list of characters starts with. -/
def scanToken (c : Char) (cs : List Char) : Scan :=
  if isNameStart c then ⟨(cs.takeWhile isNameChar).length + 1, .ok .name⟩
  else if c == '"' then (scanString none false .start cs).after 1
  else if c.isDigit then scanNumber (c :: cs)
  else if c == '-' then (scanNumber cs).after 1
  else if c == '.' then
    match cs with
    | '.' :: '.' :: _ => ⟨3, .ok .spread⟩
    | rest => ⟨1 + min rest.length 1, .error "Unterminated spread operator"⟩
  else
    match punctuator? c with
    | some kind => ⟨1, .ok kind⟩
    | none => ⟨1, .error ("Unexpected character \"" ++ String.singleton c ++ "\"")⟩

/-- The number of bytes of some characters. -/
def byteCount (chars : List Char) : Nat := chars.foldl (fun n c => n + c.utf8Size) 0

/-- The text of the blanks, comma or comment that starts with a character, if one does. -/
def gapText? (c : Char) (cs : List Char) : Option (List Char) :=
  if isIgnoredChar c then some (c :: cs.takeWhile isIgnoredChar)
  else if c == ',' then some [c]
  else if c == '#' then some (c :: cs.takeWhile fun d => d != '\n' && d != '\r')
  else none

/-- The lexemes of some characters, of which `offset` bytes stand in front.  Every round takes a
character at least, so that as many rounds as there are characters suffice. -/
def scanLexemes : Nat → Nat → List Char → List Lexeme
  | _, offset, [] => [.token ⟨.eof, "EOF", offset⟩]
  | 0, offset, _ => [.token ⟨.eof, "EOF", offset⟩]
  | rounds + 1, offset, c :: cs =>
      match gapText? c cs with
      | some text =>
          .gap (String.ofList text) offset ::
            scanLexemes rounds (offset + byteCount text) ((c :: cs).drop text.length)
      | none =>
          let scan := scanToken c cs
          let taken := (c :: cs).take (max scan.length 1)
          let lexeme :=
            match scan.result with
            | .ok kind => .token ⟨kind, String.ofList taken, offset⟩
            | .error message => .invalid message offset (byteCount taken)
          lexeme ::
            scanLexemes rounds (offset + byteCount taken) ((c :: cs).drop (max scan.length 1))

/-- The lexemes of a text, an end mark last. -/
def lexemes (text : String) : List Lexeme := scanLexemes text.length 0 text.toList

end ResolverTypes.Schema
