/-!
# File paths

Paths are texts whose parts are separated by slashes.  Two paths with the same components lead to
the same place: repeated slashes and dots between slashes carry no meaning, and only a dot at the
very start is a component of its own.

## Main definitions

* `FilePath` : the text of a path.
* `FilePath.components` : what a path consists of.
* `FilePath.join`, `FilePath.parent?`, `FilePath.fileName?`, `FilePath.extension?` : the operations.
* `FilePath.relativeTo?` : the rest of a path below another.
-/

namespace ResolverTypes

/-- A path, as it is written. -/
abbrev FilePath := String

/-- A component of a path. -/
inductive PathComponent where
  /-- The root of all directories. -/
  | root
  /-- The current directory, written as a dot at the start of a path. -/
  | current
  /-- The parent directory. -/
  | up
  /-- An entry of a directory. -/
  | entry (name : String)
deriving DecidableEq, Inhabited

namespace FilePath

/-- Whether a path starts at the root. -/
def isAbsolute (path : FilePath) : Bool := path.toList.head? == some '/'

/-- The parts of a list of characters between slashes. -/
def splitParts : List Char → List (List Char)
  | [] => [[]]
  | c :: cs =>
      if c = '/' then [] :: splitParts cs
      else
        match splitParts cs with
        | [] => [[c]]
        | part :: parts => (c :: part) :: parts

/-- The component that a part stands for, if it stands for any. -/
def partComponent? (part : List Char) : Option PathComponent :=
  match part with
  | [] => none
  | ['.'] => none
  | ['.', '.'] => some .up
  | _ => some (.entry (String.ofList part))

/-- The components of a path. -/
def components (path : FilePath) : List PathComponent :=
  let parts := splitParts path.toList
  let start :=
    if path.isAbsolute then [.root] else if parts.head? == some ['.'] then [.current] else []
  start ++ parts.filterMap partComponent?

/-- Whether two paths have the same components. -/
def equivalent (a b : FilePath) : Bool := a.components == b.components

/-- A path seen from a base: an absolute path stands for itself. -/
def join (base path : FilePath) : FilePath :=
  if path.isAbsolute || base.isEmpty then path
  else if base.toList.getLast? == some '/' then base ++ path
  else base ++ "/" ++ path

/-- The characters of a path, last first, without separators and dots of no meaning in front. -/
def trimEndReversed : List Char → List Char
  | [] => []
  | ['/'] => ['/']
  | '/' :: rest => trimEndReversed rest
  | '.' :: '/' :: rest => trimEndReversed ('/' :: rest)
  | chars => chars

/-- The characters of a path without separators and dots of no meaning in front. -/
def trimStart : List Char → List Char
  | '/' :: rest => trimStart rest
  | ['.'] => []
  | '.' :: '/' :: rest => trimStart rest
  | chars => chars

/-- A path without separators and dots of no meaning at its end. -/
def trimEnd (path : FilePath) : FilePath :=
  String.ofList (trimEndReversed path.toList.reverse).reverse

/-- The directory that a path's last component stands in; the root and the empty path have none. -/
def parent? (path : FilePath) : Option FilePath :=
  match path.components.getLast? with
  | none | some .root => none
  | some _ =>
      let rest := (trimEndReversed path.toList.reverse).dropWhile (· != '/')
      some (String.ofList (trimEndReversed rest).reverse)

/-- The name of the entry that a path ends in. -/
def fileName? (path : FilePath) : Option String :=
  match path.components.getLast? with
  | some (.entry name) => some name
  | _ => none

/-- The part of a file's name after its last dot; a name that starts with its only dot has none. -/
def extension? (path : FilePath) : Option String :=
  match path.fileName? with
  | none => none
  | some name =>
      let reversed := name.toList.reverse
      let tail := reversed.takeWhile (· != '.')
      match reversed.drop tail.length with
      | [] => none
      | ['.'] => none
      | _ => some (String.ofList tail.reverse)

/-- The characters after the first component of a relative path. -/
def dropComponent (chars : List Char) : List Char := (trimStart chars).dropWhile (· != '/')

/-- What is left of a path after its first components. -/
def dropComponents : Nat → List Char → List Char
  | 0, chars => chars
  | n + 1, chars => dropComponents n (dropComponent chars)

/-- The rest of a path below a base, if the base's components come first in it. -/
def relativeTo? (path base : FilePath) : Option FilePath :=
  let own := path.components
  let others := base.components
  if others.isPrefixOf own then
    let entries := others.filter (· != .root) |>.length
    if entries = 0 ∧ others = [] then some (trimEnd path)
    else
      let rest :=
        if own.head? == some .current then dropComponents (entries - 1) (path.toList.drop 1)
        else dropComponents entries path.toList
      some (trimEnd (String.ofList (trimStart rest)))
  else none

/-- A path as shown to a reader who is in a directory: the part below that directory, or all of
it. -/
def display (path base : FilePath) : String := (path.relativeTo? base).getD path

end FilePath

end ResolverTypes
