import ResolverTypes.Text.Width

/-!
# Tokens of a module

The tokens of a TypeScript module: words, literals and marks, each with its place in the text and
whether it stands on a new line.

## Main definitions

* `ModulePlace` : a place in the text of a module.
* `LayoutError` : what is wrong with a text, and where.
* `ModuleToken`, `ModuleTokenKind` : a token and its kind.
* `reservedWords`, `contextualWords` : the words that have a meaning of their own.
* `ModuleToken.label` : the name under which a token is reported.
-/

namespace ResolverTypes.Layout

/-! ### Places -/

/-- A place in the text of a module. -/
structure ModulePlace where
  /-- The number of characters in front of it. -/
  offset : Nat := 0
  /-- The line, counted from one. -/
  line : Nat := 1
  /-- The column, counted from zero. -/
  column : Nat := 0
deriving DecidableEq, Repr, Inhabited

/-- Whether a character ends a line of a module. -/
def isModuleBreak (c : Char) : Bool :=
  c == '\n' || c == '\r' || c.toNat == 0x2028 || c.toNat == 0x2029

/-- Whether a character carries no meaning between tokens. -/
def isModuleBlank (c : Char) : Bool :=
  c == ' ' || c == '\t' || c == '\x0b' || c == '\x0c' || isModuleBreak c ||
    [0x85, 0xA0, 0x1680, 0x202F, 0x205F, 0x3000, 0xFEFF].contains c.toNat ||
    (0x2000 ≤ c.toNat && c.toNat ≤ 0x200B)

/-- The place behind some characters that start at a place. -/
def ModulePlace.after : ModulePlace → List Char → ModulePlace
  | place, [] => place
  | place, '\r' :: '\n' :: cs =>
      ModulePlace.after ⟨place.offset + 2, place.line + 1, 0⟩ cs
  | place, c :: cs =>
      if isModuleBreak c then ModulePlace.after ⟨place.offset + 1, place.line + 1, 0⟩ cs
      else
        ModulePlace.after ⟨place.offset + 1, place.line, place.column + Text.charColumns c⟩ cs

/-- What is wrong with the text of a module, and where. -/
structure LayoutError where
  /-- What is wrong. -/
  message : String
  /-- The line, counted from one. -/
  line : Nat
  /-- The column, counted from zero. -/
  column : Nat
deriving DecidableEq, Repr, Inhabited

/-- Something wrong at a place. -/
def ModulePlace.error (place : ModulePlace) (message : String) : LayoutError :=
  ⟨message, place.line, place.column⟩

/-! ### Tokens -/

/-- The kinds of tokens. -/
inductive ModuleTokenKind where
  /-- An identifier or keyword. -/
  | word
  /-- A string in quotes. -/
  | string
  /-- A template in backquotes that holds no value. -/
  | template
  /-- A template in backquotes up to its first value. -/
  | templateHead
  /-- A number. -/
  | number
  /-- A whole number of any size. -/
  | bigint
  /-- A regular expression. -/
  | regex
  /-- A mark of punctuation. -/
  | mark
  /-- The end of the text. -/
  | eof
  /-- Text that is no token, for a reason. -/
  | invalid (reason : LayoutError)
deriving DecidableEq, Repr, Inhabited

/-- A token. -/
structure ModuleToken where
  /-- The kind of the token. -/
  kind : ModuleTokenKind
  /-- The text of the token. -/
  text : String
  /-- The place where the token starts. -/
  start : ModulePlace := {}
  /-- The number of characters up to the end of the token. -/
  stop : Nat := 0
  /-- Whether a line ends between the token before and this one. -/
  onNewLine : Bool := false
deriving DecidableEq, Repr, Inhabited

namespace ModuleToken

/-- Whether a token is a given mark. -/
def isMark (token : ModuleToken) (mark : String) : Bool :=
  token.kind == .mark && token.text == mark

/-- Whether a token is one of some marks. -/
def isOneOf (token : ModuleToken) (marks : List String) : Bool :=
  token.kind == .mark && marks.contains token.text

/-- Whether a token is a given word. -/
def isWord (token : ModuleToken) (word : String) : Bool :=
  token.kind == .word && token.text == word

/-- Whether a token is a word of any meaning. -/
def isAnyWord (token : ModuleToken) : Bool := token.kind == .word

/-- Whether a token is a template or the head of one. -/
def isTemplate (token : ModuleToken) : Bool :=
  token.kind == .template || token.kind == .templateHead

end ModuleToken

/-! ### Words -/

/-- The words that are no identifiers. -/
def reservedWords : List String :=
  ["await", "break", "case", "catch", "class", "const", "continue", "debugger", "default", "delete",
    "do", "else", "export", "extends", "false", "finally", "for", "function", "if", "import", "in",
    "instanceof", "new", "null", "return", "super", "switch", "this", "throw", "true", "try",
    "typeof", "var", "void", "while", "with"]

/-- The words that have a meaning at some places and are identifiers elsewhere. -/
def contextualWords : List String :=
  ["abstract", "accessor", "any", "as", "assert", "asserts", "async", "bigint", "boolean",
    "declare", "enum", "from", "get", "global", "implements", "infer", "interface", "intrinsic",
    "is", "keyof", "let", "meta", "module", "namespace", "never", "number", "object", "of", "out",
    "override", "package", "private", "protected", "public", "readonly", "require", "satisfies",
    "set", "static", "string", "symbol", "target", "type", "undefined", "unique", "unknown",
    "using", "yield"]

/-- The words that a module, in which the rules are strict, has no variables of. -/
def strictWords : List String :=
  ["implements", "interface", "let", "package", "private", "protected", "public", "static",
    "yield"]

/-- The words that cannot name a variable of a module. -/
def variableWords : List String :=
  reservedWords ++
    ["enum", "implements", "interface", "let", "package", "private", "protected", "public", "yield"]

/-- The name under which a token is reported. -/
def ModuleToken.label (token : ModuleToken) : String :=
  match token.kind with
  | .word =>
      if reservedWords.contains token.text || contextualWords.contains token.text then token.text
      else "ident"
  | .string => "string literal"
  | .template => "no substitution template literal"
  | .templateHead => "template head"
  | .number => "numeric literal"
  | .bigint => "bigint literal"
  | .regex => "regexp literal"
  | .eof => "<eof>"
  | .invalid _ => "<lexing error>"
  | .mark => token.text

/-! ### Comments around tokens -/

/-- The marks between two values. -/
def betweenValues : List String :=
  ["+", "-", "*", "/", "%", "**", "&", "|", "^", "&&", "||", "??", "==", "!=", "===", "!==", "<",
    ">", "<<", ">>", ">>>", "<=", ">="]

/-- Whether a comment that runs to the end of its line may belong to the token in front of it. -/
def ModuleToken.takesLineComment (token : ModuleToken) : Bool := !token.isOneOf betweenValues

/-- Whether a comment between signs may belong to the token in front of it. -/
def ModuleToken.takesBlockComment (token : ModuleToken) : Bool :=
  match token.kind with
  | .word => !reservedWords.contains token.text
  | .string | .number | .bigint | .regex => true
  | .mark => token.isOneOf [";", "\x7b", "\x7d"]
  | _ => false

end ResolverTypes.Layout
