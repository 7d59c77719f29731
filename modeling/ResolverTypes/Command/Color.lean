/-!
# Colors

Whether output is colored, and how.  Flags come first, then the variables `NO_COLOR`,
`CLICOLOR_FORCE` and `CLICOLOR`, in this order.

## Main definitions

* `colorOverride` : what flags and variables say about colors, if they say anything.
* `usesColor` : whether output is colored.
* `Style`, `paint` : text in a style.
-/

namespace ResolverTypes.Command

/-- What flags and variables say about colors, if they say anything. -/
def colorOverride (force refuse : Bool) (environment : String → Option String) : Option Bool :=
  if force then some true
  else if refuse || (environment "NO_COLOR").isSome then some false
  else
    match environment "CLICOLOR_FORCE" with
    | some value => if value ≠ "" ∧ value ≠ "0" then some true else none
    | none => if environment "CLICOLOR" = some "0" then some false else none

/-- Whether output is colored: where nothing is said, if an empty `CLICOLOR_FORCE` asks for it, or
if it goes to a terminal. -/
def usesColor (force refuse : Bool) (environment : String → Option String) (isTerminal : Bool) :
    Bool :=
  match colorOverride force refuse environment with
  | some value => value
  | none =>
      match environment "CLICOLOR_FORCE" with
      | some value => value != "0" || isTerminal
      | none => isTerminal

/-- A style of text. -/
inductive Style where
  /-- Red. -/
  | red
  /-- Cyan. -/
  | cyan
  /-- Dimmed. -/
  | dimmed
  /-- Bold and green. -/
  | boldGreen
  /-- Bold and yellow. -/
  | boldYellow
  /-- Bold and red. -/
  | boldRed
deriving DecidableEq, Repr, Inhabited

/-- The code of a style. -/
def Style.code : Style → String
  | .red => "31"
  | .cyan => "36"
  | .dimmed => "2"
  | .boldGreen => "1;32"
  | .boldYellow => "1;33"
  | .boldRed => "1;31"

/-- Text in a style, if colors are used. -/
def paint (colored : Bool) (style : Style) (text : String) : String :=
  if colored then "\x1b[" ++ style.code ++ "m" ++ text ++ "\x1b[0m" else text

end ResolverTypes.Command
