import ResolverTypes.Layout.Basic

/-!
# Comments and the laid-out page

The comments of a text are kept apart from what is laid out, each with the place that it stands at:
in front of the token behind it, or behind the token in front of it.  When the text is laid out
anew, a comment is shown where the layout asks for it, once.

## Main definitions

* `Comment`, `Comments` : a comment, and the comments of a text.
* `Page` : a text while it is laid out.
* `Layout.render` : the text of a layout with its comments.
-/

namespace ResolverTypes

/-- A comment. -/
structure Comment where
  /-- The text, with the signs around it. -/
  text : String
  /-- Whether the comment runs to the end of its line. -/
  isLine : Bool
deriving DecidableEq, Repr, Inhabited

/-- The comments of a text, each with its place, the latest first. -/
structure Comments where
  /-- The comments in front of places. -/
  before : List (Nat × Comment) := []
  /-- The comments behind places. -/
  behind : List (Nat × Comment) := []
deriving Repr, Inhabited

/-- The comments at a place, in the order of the text. -/
def commentsAt (place : Nat) (comments : List (Nat × Comment)) : List Comment :=
  ((comments.filter fun entry => entry.1 == place).map (·.2)).reverse

/-- The comments at other places. -/
def commentsElsewhere (place : Nat) (comments : List (Nat × Comment)) : List (Nat × Comment) :=
  comments.filter fun entry => entry.1 != place

/-- A text while it is laid out. -/
structure Page where
  /-- What is written. -/
  written : String := ""
  /-- Whether nothing stands on the line yet. -/
  isFresh : Bool := true
  /-- The depth of the line. -/
  depth : Nat := 0
  /-- The comments that are not written yet. -/
  comments : Comments
deriving Inhabited

namespace Page

/-- The blanks at the start of a line at a depth. -/
def indentation (depth : Nat) : String := String.ofList (List.replicate (4 * depth) ' ')

/-- Writes on the line. -/
def write (page : Page) (content : String) : Page :=
  if content.isEmpty then page
  else
    let start := if page.isFresh then indentation page.depth else ""
    { page with written := page.written ++ start ++ content, isFresh := false }

/-- Ends the line, unless nothing stands on it. -/
def endLine (page : Page) : Page :=
  if page.isFresh then page else { page with written := page.written ++ "\n", isFresh := true }

/-- Writes a comment, behind a space if asked for: one that runs to the end of its line ends the
line, and another has a space behind it. -/
def writeComment (spaced : Bool) (page : Page) (comment : Comment) : Page :=
  let page := (if spaced then page.write " " else page).write comment.text
  if comment.isLine then page.endLine else page.write " "

/-- Writes the comments in front of a place. -/
def writeBefore (page : Page) (place : Nat) : Page :=
  let all := page.comments
  if all.before.isEmpty then page
  else
    let rest := { all with before := commentsElsewhere place all.before }
    (commentsAt place all.before).foldl (writeComment false) { page with comments := rest }

/-- Writes the comments behind a place, each behind a space if asked for. -/
def writeBehind (spaced : Bool) (page : Page) (place : Nat) : Page :=
  let all := page.comments
  if all.behind.isEmpty then page
  else
    let rest := { all with behind := commentsElsewhere place all.behind }
    (commentsAt place all.behind).foldl (writeComment spaced) { page with comments := rest }

end Page

namespace Layout

mutual

/-- Writes a layout on a page. -/
def writeOn (page : Page) : Layout → Page
  | .text content => page.write content
  | .line => page.endLine
  | .deeper inner =>
      let page := inner.writeOn { page with depth := page.depth + 1 }
      { page with depth := page.depth - 1 }
  | .run parts => writeAllOn page parts
  | .before place => page.writeBefore place
  | .behind place => page.writeBehind true place
  | .close place => page.writeBehind false place

/-- Writes layouts on a page, one behind the other. -/
def writeAllOn (page : Page) : List Layout → Page
  | [] => page
  | part :: parts => writeAllOn (part.writeOn page) parts

end

/-- The text of a layout with its comments. -/
def render (layout : Layout) (comments : Comments) : String :=
  (layout.writeOn { comments }).written

end Layout

end ResolverTypes
