import ResolverTypes.Data.NameMap
import ResolverTypes.Disk.FilePath

/-!
# File trees

The files and directories that a command works on.  Each stands at a location, the list of the names
that lead to it from the root.  A path is followed from a working directory: every component but the
last has to be a directory.

## Main definitions

* `Location`, `FileEntry`, `FileTree` : places, what stands there, and all of it.
* `FileError` : why an operation fails, with its text `FileError.message`.
* `FileTree.locate`, `FileTree.entry` : where a path leads, and what it finds there.
* `FileTree.readText`, `FileTree.writeText`, `FileTree.createDirectories` : the operations.
-/

namespace ResolverTypes

/-- The names that lead to a place from the root. -/
abbrev Location := List String

/-- What a file holds. -/
inductive FileContent where
  /-- Text. -/
  | text (text : String)
  /-- Bytes that are no text. -/
  | binary (bytes : List UInt8)
deriving DecidableEq, Inhabited

/-- What stands at a location. -/
inductive FileEntry where
  /-- A file. -/
  | file (content : FileContent)
  /-- A directory. -/
  | directory
deriving DecidableEq, Inhabited

/-- Why an operation on files fails. -/
inductive FileError where
  /-- Nothing stands there. -/
  | notFound
  /-- Something stands there already. -/
  | alreadyExists
  /-- A file stands where a directory is asked for. -/
  | notADirectory
  /-- A directory stands where a file is asked for. -/
  | isADirectory
  /-- A file holds no text. -/
  | notText
  /-- A name or a path is too long. -/
  | nameTooLong
  /-- A path holds the character zero. -/
  | nullInPath
deriving DecidableEq, Repr, Inhabited

/-- The text of the error. -/
def FileError.message : FileError → String
  | .notFound => "No such file or directory (os error 2)"
  | .alreadyExists => "File exists (os error 17)"
  | .notADirectory => "Not a directory (os error 20)"
  | .isADirectory => "Is a directory (os error 21)"
  | .notText => "stream did not contain valid UTF-8"
  | .nameTooLong => "File name too long (os error 36)"
  | .nullInPath => "file name contained an unexpected NUL byte"

/-- Files and directories, by their locations. -/
structure FileTree where
  /-- The entries; of a location that stands twice the first entry counts. -/
  entries : List (Location × FileEntry) := []
deriving DecidableEq, Inhabited

namespace FileTree

/-- What stands at a location; the root is a directory. -/
def at? (tree : FileTree) (location : Location) : Option FileEntry :=
  if location = [] then some .directory else tree.entries.lookup location

/-- The tree with an entry at a location. -/
def put (tree : FileTree) (location : Location) (entry : FileEntry) : FileTree :=
  ⟨(location, entry) :: tree.entries.filter fun e => e.1 != location⟩

/-- The names of the entries of a directory, in increasing order. -/
def children (tree : FileTree) (location : Location) : List String :=
  sortedNames (tree.entries.filterMap fun e =>
    if e.1.dropLast = location ∧ e.1 ≠ [] then e.1.getLast? else none)

/-! ### Paths -/

/-- Fails unless a directory stands at a location. -/
def requireDirectory (tree : FileTree) (location : Location) : Except FileError Unit :=
  match tree.at? location with
  | some .directory => .ok ()
  | some (.file _) => .error .notADirectory
  | none => .error .notFound

/-- The greatest number of bytes of a name. -/
def nameLimit : Nat := 255

/-- The greatest number of bytes of a path. -/
def pathLimit : Nat := 4095

/-- Where a component leads from a location. -/
def step (tree : FileTree) (location : Location) (component : PathComponent) :
    Except FileError Location := do
  match component with
  | .root => return []
  | .current => return location
  | .up =>
      tree.requireDirectory location
      return location.dropLast
  | .entry name =>
      tree.requireDirectory location
      if name.utf8ByteSize > nameLimit then throw .nameTooLong
      return location ++ [name]

/-- Where a path leads from a working directory. -/
def locate (tree : FileTree) (directory : Location) (path : FilePath) :
    Except FileError Location :=
  if path.toList.contains (Char.ofNat 0) then .error .nullInPath
  else if path.isEmpty then .error .notFound
  else if path.utf8ByteSize > pathLimit then .error .nameTooLong
  else path.components.foldlM tree.step directory

/-- Whether a path can only lead to a directory: it ends in a separator, or a dot behind one. -/
def asksDirectory (path : FilePath) : Bool :=
  match path.toList.reverse with
  | '/' :: _ => true
  | '.' :: '/' :: _ => true
  | _ => false

/-- Whether a path ends in a dot behind a separator, which asks for a directory before it. -/
def endsInDot (path : FilePath) : Bool :=
  match path.toList.reverse.dropWhile (· == '/') with
  | '.' :: '/' :: _ => true
  | _ => false

/-- What a path finds. -/
def entry (tree : FileTree) (directory : Location) (path : FilePath) :
    Except FileError FileEntry := do
  match tree.at? (← tree.locate directory path) with
  | none => throw .notFound
  | some .directory => return .directory
  | some (.file content) =>
      if asksDirectory path then throw .notADirectory else return .file content

/-- Whether a path finds a file. -/
def isFile (tree : FileTree) (directory : Location) (path : FilePath) : Bool :=
  match tree.entry directory path with
  | .ok (.file _) => true
  | _ => false

/-- Whether a path finds a directory. -/
def isDirectory (tree : FileTree) (directory : Location) (path : FilePath) : Bool :=
  match tree.entry directory path with
  | .ok .directory => true
  | _ => false

/-- Whether a path finds anything. -/
def holds (tree : FileTree) (directory : Location) (path : FilePath) : Bool :=
  (tree.entry directory path).toOption.isSome

/-! ### Operations -/

/-- The text of the file that a path finds. -/
def readText (tree : FileTree) (directory : Location) (path : FilePath) :
    Except FileError String := do
  match ← tree.entry directory path with
  | .directory => throw .isADirectory
  | .file (.text text) => return text
  | .file (.binary _) => throw .notText

/-- The tree with a text in the file that a path leads to. -/
def writeText (tree : FileTree) (directory : Location) (path : FilePath) (text : String) :
    Except FileError FileTree := do
  let location ← tree.locate directory path
  match tree.at? location with
  | some .directory => throw .isADirectory
  | some (.file _) =>
      if asksDirectory path then throw .notADirectory
      else return tree.put location (.file (.text text))
  | none =>
      if endsInDot path then throw .notFound
      else if asksDirectory path then throw .isADirectory
      else return tree.put location (.file (.text text))

/-- The tree with a directory where a path leads. -/
def createDirectory (tree : FileTree) (directory : Location) (path : FilePath) :
    Except FileError FileTree := do
  let location ← tree.locate directory path
  if (tree.at? location).isSome then throw .alreadyExists
  return tree.put location .directory

/-- The tree with a directory where a path leads, if none stands there yet. -/
def ensureDirectory (tree : FileTree) (directory : Location) (path : FilePath) :
    Except FileError FileTree :=
  match tree.createDirectory directory path with
  | .ok created => .ok created
  | .error e => if tree.isDirectory directory path then .ok tree else .error e

/-- Makes directories of a path and, where one is missing, of the paths to it, for a number of
components.  What has been made stays also when a later step fails. -/
def createRounds (directory : Location) :
    Nat → FileTree → FilePath → FileTree × Except FileError Unit
  | 0, tree, _ => (tree, .ok ())
  | n + 1, tree, path =>
      if path.isEmpty then (tree, .ok ())
      else
        match tree.ensureDirectory directory path with
        | .ok made => (made, .ok ())
        | .error .notFound =>
            match createRounds directory n tree (path.parent?.getD "") with
            | (made, .error e) => (made, .error e)
            | (made, .ok ()) =>
                match made.ensureDirectory directory path with
                | .ok whole => (whole, .ok ())
                | .error e => (made, .error e)
        | .error e => (tree, .error e)

/-- Makes a directory where a path leads, and all that are missing on the way. -/
def createDirectories (tree : FileTree) (directory : Location) (path : FilePath) :
    FileTree × Except FileError Unit :=
  createRounds directory (path.components.length + 1) tree path

/-! ### Look-up -/

theorem at?_put (tree : FileTree) {location : Location} (h : location ≠ []) (entry : FileEntry) :
    (tree.put location entry).at? location = some entry := by
  simp [at?, put, h]

theorem lookup_filter_ne {location other : Location} (h : other ≠ location)
    (entries : List (Location × FileEntry)) :
    (entries.filter fun e => e.1 != location).lookup other = entries.lookup other := by
  induction entries with
  | nil => rfl
  | cons e rest ih =>
      obtain ⟨l, v⟩ := e
      by_cases hl : l = location
      · subst hl
        simp [List.filter, List.lookup_cons, beq_false_of_ne h, ih]
      · simp [List.filter, List.lookup_cons, bne_iff_ne.mpr hl, ih]

theorem at?_put_of_ne (tree : FileTree) {location other : Location} (h : other ≠ location)
    (entry : FileEntry) : (tree.put location entry).at? other = tree.at? other := by
  simp [at?, put, List.lookup_cons, beq_false_of_ne h, lookup_filter_ne h]

end FileTree

end ResolverTypes
