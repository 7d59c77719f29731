import ResolverTypes.Yaml.Scalar

/-!
# Tags of YAML

A tag in front of a node says what the node stands for.  Some tags name the kinds of scalars and
collections, and any other tag that is a simple word names a variant, of which the node is the
content.

## Main definitions

* `Yaml.Tag` : what a tag says.
* `Yaml.Tag.ofParts` : the tag that is written in two parts.
* `Yaml.ScalarStyle`, `Yaml.Tag.scalar?` : what a scalar with a tag stands for.
* `Yaml.base64?` : the bytes that letters and digits stand for.
-/

namespace ResolverTypes.Yaml

/-- What a tag says. -/
inductive Tag where
  /-- That the node is taken as it is written. -/
  | literal
  /-- The kind of the node. -/
  | kind (name : String)
  /-- The variant of which the node is the content. -/
  | variant (name : String)
  /-- Nothing. -/
  | idle
deriving DecidableEq, Repr, Inhabited

namespace Tag

/-- What the tags of YAML itself start with. -/
def ownStart : String := "tag:yaml.org,2002:"

/-- The names of the kinds of nodes. -/
def kindNames : List String :=
  ["int", "float", "bool", "null", "str", "seq", "map", "binary", "timestamp", "degrees", "radians"]

/-- A text without another at its start. -/
def dropStart (start text : String) : String :=
  if text.startsWith start then String.ofList (text.toList.drop start.length) else text

/-- Whether a name is that of a variant: it holds no mark that tells more than a name. -/
def isVariantName (name : String) : Bool :=
  name != "" && name != "include" && !name.toList.any [':', '!', '#'].contains

/-- The tag that is written in two parts, an exclamation mark between them. -/
def ofParts (handle name : String) : Tag :=
  let full := if handle = "!" then "!" ++ name else handle ++ "!" ++ name
  let own := dropStart ownStart full
  let word := dropStart "!" own
  let simple := String.ofList (own.toList.dropWhile (· == '!'))
  if full = "!!" then .literal
  else if own != word && kindNames.contains word then .kind word
  else if isVariantName simple then .variant simple
  else .idle

end Tag

/-! ### Scalars -/

/-- How a scalar is written. -/
inductive ScalarStyle where
  /-- Without quotes. -/
  | plain
  /-- In single quotes. -/
  | single
  /-- In double quotes, or as a block. -/
  | other
deriving DecidableEq, Repr, Inhabited

/-- The six bits that a letter or digit stands for. -/
def sixBits? (c : Char) : Option Nat :=
  if c.isUpper then some (c.toNat - 'A'.toNat)
  else if c.isLower then some (c.toNat - 'a'.toNat + 26)
  else if c.isDigit then some (c.toNat - '0'.toNat + 52)
  else if c = '+' then some 62
  else if c = '/' then some 63
  else none

/-- The bytes that groups of four letters and digits stand for; the last group may end in equals
signs, in place of bits that are zero. -/
def base64Groups? : List Char → Option (List UInt8)
  | [] => some []
  | [a, b, '=', '='] => do
      let n := 64 * (← sixBits? a) + (← sixBits? b)
      if n % 16 = 0 then some [(n / 16).toUInt8] else none
  | [a, b, c, '='] => do
      let n := 4096 * (← sixBits? a) + 64 * (← sixBits? b) + (← sixBits? c)
      if n % 4 = 0 then some [(n / 1024).toUInt8, (n / 4).toUInt8] else none
  | a :: b :: c :: d :: rest => do
      let high := 262144 * (← sixBits? a) + 4096 * (← sixBits? b)
      let n := high + 64 * (← sixBits? c) + (← sixBits? d)
      return (n / 65536).toUInt8 :: (n / 256).toUInt8 :: n.toUInt8 :: (← base64Groups? rest)
  | _ => none

/-- The bytes that a text of letters and digits stands for; blanks carry no meaning. -/
def base64? (text : String) : Option (List UInt8) :=
  base64Groups? (text.toList.filter fun c => !c.isWhitespace)

/-- The text that bytes in letters and digits stand for. -/
def base64Text? (text : String) : Option String := do
  String.fromUTF8? ⟨(← base64? text).toArray⟩

/-- What a scalar without a tag stands for. -/
def scalarTree (style : ScalarStyle) (text : String) : Tree :=
  if style = .plain then plainTree text else .string text

/-- What a scalar stands for, given its tag, unless the two do not fit. -/
def Tag.scalar? (tag : Option Tag) (style : ScalarStyle) (text : String) : Option Tree :=
  match tag with
  | none => some (scalarTree style text)
  | some .idle => some (scalarTree style text)
  | some (.variant name) => some (.mapping [(.name name, scalarTree style text)])
  | some .literal => some (if style = .plain ∧ isNull text then .null else .string text)
  | some (.kind name) =>
      if name = "null" ∨ (style = .plain ∧ isNull text) then some .null
      else if name = "str" then some (.string text)
      else if name = "binary" then (base64Text? text).map .string
      else none

end ResolverTypes.Yaml
