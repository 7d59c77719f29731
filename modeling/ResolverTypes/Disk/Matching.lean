import ResolverTypes.Disk.FileTree
import ResolverTypes.Disk.Pattern

/-!
# Files that fit a pattern

The paths of a file tree that fit a pattern, found component by component.  A component without
wildcards is looked up by its name; any other is compared with the names of a directory, in their
order.

## Main definitions

* `FileTree.expand` : the paths below a path that fit the components of a pattern.
* `FileTree.pathsMatching` : the paths that fit a pattern.
* `FileTree.filesMatching` : the files among them.
* `fixedPart` : the directory below which all of them are.
-/

namespace ResolverTypes

/-- Whether a component of a pattern stands for any directories. -/
def isAnyDirectories (tokens : List PatternToken) : Bool := tokens.contains .anyDirectories

/-- The components of a pattern with one in place of several in a row that stand for any
directories. -/
def collapseDirectories : List (List PatternToken) → List (List PatternToken)
  | [] => []
  | tokens :: rest =>
      match collapseDirectories rest with
      | [] => [tokens]
      | next :: more =>
          if isAnyDirectories tokens && isAnyDirectories next then next :: more
          else tokens :: next :: more

/-- The texts of the components of a pattern, behind the separator it may start with. -/
def patternComponents (pattern : String) : List String :=
  let chars := pattern.toList
  let rest := if chars.head? = some '/' then chars.drop 1 else chars
  if rest = [] then [""]
  else
    let parts := FilePath.splitParts rest
    (if parts.getLast? = some [] then parts.dropLast else parts).map String.ofList

/-- Whether a component of a pattern has a wildcard, or a bracket that may start one. -/
def hasWildcard (component : List Char) : Bool :=
  component.any fun c => c == '*' || c == '?' || c == '['

/-- The path in front of the first component of a pattern with a wildcard. -/
def fixedPart (pattern : String) : FilePath :=
  let parts := (FilePath.splitParts pattern.toList).takeWhile fun part => !hasWildcard part
  let path := "/".intercalate (parts.map String.ofList)
  if path.isEmpty then (if FilePath.isAbsolute pattern then "/" else ".") else path

namespace FileTree

/-- A path below another; the working directory is not named. -/
def childPath (path : FilePath) (name : String) : FilePath :=
  if FilePath.equivalent path "." then name else FilePath.join path name

/-- The entries of the directory that a path finds, with their names, in the order of the names. -/
def childPaths (tree : FileTree) (directory : Location) (path : FilePath) :
    List (FilePath × String) :=
  match tree.locate directory path with
  | .ok location => (tree.children location).map fun name => (childPath path name, name)
  | .error _ => []

/-- What is found at the entries of a directory and of all directories below, for a number of
levels, each before its own entries. -/
def below (tree : FileTree) (directory : Location) (found : FilePath → String → List FilePath) :
    Nat → FilePath → List FilePath
  | 0, _ => []
  | n + 1, path =>
      (tree.childPaths directory path).flatMap fun child =>
        found child.1 child.2 ++
          if tree.isDirectory directory child.1 then below tree directory found n child.1 else []

/-- The directories `..` and `.` as far as a component of a pattern names them with its first
character. -/
def specialNames (tokens : List PatternToken) : List String :=
  if tokens.head? = some (.char '.') then
    ["..", "."].filter fun name => matchesTokens tokens name.toList
  else []

/-- The path of a component that stands for itself below another path, if something is there. -/
def literalPath? (tree : FileTree) (directory : Location) (path : FilePath) (name : String) :
    Option FilePath :=
  let next := childPath path name
  if name = "." ∨ name = ".." then
    if tree.isDirectory directory path then some next else none
  else if tree.holds directory next then some next
  else none

/-- The paths below a path that fit the components of a pattern. -/
def expand (tree : FileTree) (directory : Location) :
    List (List PatternToken) → FilePath → List FilePath
  | [], path => [path]
  | [tokens], path =>
      match literalText? tokens with
      | some name => (tree.literalPath? directory path name).toList
      | none =>
          if !tree.isDirectory directory path then []
          else if isAnyDirectories tokens then
            tree.below directory
              (fun child _ => if tree.isDirectory directory child then [child] else [])
              (tree.entries.length + 1) path
          else
            (specialNames tokens).map (FilePath.join path) ++
              ((tree.childPaths directory path).filter fun child =>
                matchesTokens tokens child.2.toList).map (·.1)
  | tokens :: next :: rest, path =>
      match literalText? tokens with
      | some name =>
          match tree.literalPath? directory path name with
          | some found => expand tree directory (next :: rest) found
          | none => []
      | none =>
          if !tree.isDirectory directory path then []
          else if isAnyDirectories tokens then
            tree.below directory
              (fun child name =>
                if matchesTokens next name.toList then expand tree directory rest child else [])
              (tree.entries.length + 1) path
          else
            (specialNames tokens).flatMap
                (fun name => expand tree directory (next :: rest) (FilePath.join path name)) ++
              (tree.childPaths directory path).flatMap fun child =>
                if matchesTokens tokens child.2.toList then
                  expand tree directory (next :: rest) child.1
                else []

/-- The paths that fit a pattern. -/
def pathsMatching (tree : FileTree) (directory : Location) (pattern : String) :
    Except PatternError (List FilePath) := do
  discard (readPattern pattern)
  let components ← (patternComponents pattern).mapM readPattern
  let start := if FilePath.isAbsolute pattern then "/" else "."
  let paths := tree.expand directory (collapseDirectories components) start
  return if pattern.toList.getLast? = some '/' then paths.filter (tree.isDirectory directory)
    else paths

/-- The files that fit a pattern. -/
def filesMatching (tree : FileTree) (directory : Location) (pattern : String) :
    Except PatternError (List FilePath) := do
  return (← tree.pathsMatching directory pattern).filter (tree.isFile directory)

end FileTree

end ResolverTypes
