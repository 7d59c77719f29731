/-!
# Blank text

White space in the sense of the Unicode standard, its property `White_Space`.  A text is blank when
it holds nothing else.

## Main definitions

* `isBlankChar` : white space.
* `isBlank` : whether a text holds white space only.
* `trim` : a text without white space at either end.
-/

namespace ResolverTypes.Text

/-- Whether a character has the property `White_Space`. -/
def isBlankChar (c : Char) : Bool :=
  (0x9 ≤ c.toNat && c.toNat ≤ 0xD) || (0x2000 ≤ c.toNat && c.toNat ≤ 0x200A) ||
    [0x20, 0x85, 0xA0, 0x1680, 0x2028, 0x2029, 0x202F, 0x205F, 0x3000].contains c.toNat

/-- Whether a text holds white space only. -/
def isBlank (text : String) : Bool := text.toList.all isBlankChar

/-- A list of characters without white space at its start. -/
def dropBlank (chars : List Char) : List Char := chars.dropWhile isBlankChar

/-- A text without white space at either end. -/
def trim (text : String) : String :=
  String.ofList (dropBlank (dropBlank text.toList).reverse).reverse

end ResolverTypes.Text
