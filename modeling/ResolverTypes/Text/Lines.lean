/-!
# Lines of a text

The line and column of a place in a text.  Places are counted in bytes of the text's UTF-8 form,
and so are columns.  A line break ends the line it stands on, and a text that ends in a line break
has no further line after it.

## Main definitions

* `isLineBreak` : the characters that end a line.
* `lineStarts` : where the lines of a text start.
* `lineColumn` : the line and column of a place, both counted from one.
-/

namespace ResolverTypes.Text

/-- Whether a character ends a line. -/
def isLineBreak (c : Char) : Bool :=
  (0xA ≤ c.toNat && c.toNat ≤ 0xD) || [0x85, 0x2028, 0x2029].contains c.toNat

/-- The places after line breaks at which more text follows, the text starting at `place`.  A
carriage return and the line feed after it are one break. -/
def startsAfterBreaks (place : Nat) : List Char → List Nat
  | [] => []
  | ['\r', '\n'] => []
  | '\r' :: '\n' :: c :: cs => (place + 2) :: startsAfterBreaks (place + 2) (c :: cs)
  | c :: cs =>
      let next := place + c.utf8Size
      if isLineBreak c && !cs.isEmpty then next :: startsAfterBreaks next cs
      else startsAfterBreaks next cs

/-- The places at which the lines of a text start. -/
def lineStarts (text : String) : List Nat := 0 :: startsAfterBreaks 0 text.toList

/-- The line and column of a place, both counted from one. -/
def lineColumn (text : String) (place : Nat) : Nat × Nat :=
  let reached := (lineStarts text).takeWhile (· ≤ place)
  (reached.length, place - reached.getLastD 0 + 1)

end ResolverTypes.Text
