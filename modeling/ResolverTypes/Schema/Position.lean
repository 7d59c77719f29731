/-!
# Positions in schema texts

A schema is read from several texts.  A position names the text by its number and the place in it
by the number of bytes before it.  What is built in has its place in a text of its own, of which
only the lines are known.

## Main definitions

* `Position` : a place in one of the texts.
* `Located` : a value with the position at which it is written.
-/

namespace ResolverTypes.Schema

/-- A place in one of the texts of a schema, or at the start of a line of what is built in. -/
inductive Position where
  /-- The start of a line of what is built in, lines being counted from one. -/
  | builtIn (line : Nat)
  /-- The place behind a number of bytes of the text of a number. -/
  | inText (source offset : Nat)
deriving DecidableEq, Repr, Inhabited

/-- Whether a position comes no later than another: what is built in comes first, and texts are in
the order of their numbers. -/
def Position.le : Position → Position → Bool
  | .builtIn line, .builtIn line' => line ≤ line'
  | .builtIn _, .inText .. => true
  | .inText .., .builtIn _ => false
  | .inText source offset, .inText source' offset' =>
      source < source' || (source == source' && offset ≤ offset')

/-- A value with the position at which it is written, if that is known. -/
structure Located (α : Type) where
  /-- The value. -/
  value : α
  /-- The position at which it is written. -/
  position : Option Position
deriving DecidableEq, Repr, Inhabited

/-- A name with the position at which it is written. -/
abbrev Name := Located String

end ResolverTypes.Schema
