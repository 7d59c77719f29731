/-!
# Laid-out text

A piece of text that is laid out where it stands: text on a line, the end of a line, and pieces
that are a step deeper.  The comments of the text that a piece stands for are not part of it; it
marks the places at which they are shown.

## Main definitions

* `Layout` : a piece of text.
* `Layout.separated`, `Layout.block`, `Layout.braces` : lists on a line, and on lines of their own.
-/

namespace ResolverTypes

/-- A piece of text that is laid out where it stands. -/
inductive Layout where
  /-- Text on a line. -/
  | text (content : String)
  /-- The end of the line, unless nothing stands on the line. -/
  | line
  /-- A piece whose lines are a step deeper. -/
  | deeper (inner : Layout)
  /-- Pieces that follow one another. -/
  | run (parts : List Layout)
  /-- The comments in front of a place. -/
  | before (place : Nat)
  /-- The comments behind a place, with a space in front. -/
  | behind (place : Nat)
  /-- The comments behind a place at the end of an item of a list, with no space in front. -/
  | close (place : Nat)
deriving Inhabited

namespace Layout

/-- No text. -/
def nothing : Layout := .run []

/-- Pieces with a text between each two. -/
def separated (separator : String) : List Layout → Layout
  | [] => nothing
  | [part] => part
  | part :: parts => .run [part, .text separator, separated separator parts]

/-- Pieces with commas between them. -/
def commas (parts : List Layout) : Layout := separated ", " parts

/-- Pieces each of which but the last has a text behind it. -/
def withSeparator (separator : String) : List Layout → List Layout
  | [] => []
  | [part] => [part]
  | part :: parts => .run [part, .text separator] :: withSeparator separator parts

/-- Pieces on lines of their own. -/
def lines (parts : List Layout) : Layout := .run (parts.map fun part => .run [part, .line])

/-- Items on lines of their own, between two marks that are on lines of their own too. -/
def block (opening : String) (items : List Layout) (closing : String) : Layout :=
  .run [.text opening, .line, .deeper (lines items), .text closing]

/-- Items in braces. -/
def braces (items : List Layout) : Layout := block "\x7b" items "\x7d"

/-- Pieces in parentheses. -/
def parens (parts : List Layout) : Layout := .run [.text "(", commas parts, .text ")"]

/-- A word and what follows it, unless the word is left out. -/
def word (present : Bool) (content : String) : Layout :=
  if present then .text (content ++ " ") else nothing

end Layout

end ResolverTypes
