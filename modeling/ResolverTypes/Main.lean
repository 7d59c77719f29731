import ResolverTypes.Command.Run

/-!
# The command line

The command reads the part of the file tree that its project may depend on, runs on it, and puts
into the real tree what it has made.

## Main definitions

* `main` : the command.
-/

open ResolverTypes ResolverTypes.Command

/-- What the file at a path holds. -/
def readContent (path : FilePath) : IO FileContent := do
  let bytes ← IO.FS.readBinFile path
  match String.fromUTF8? bytes with
  | some text => return .text text
  | none => return .binary bytes.toList

/-- A tree with an entry at the place of a path, and with the directories that lead to it. -/
def putPath (world : Surroundings) (tree : FileTree) (path : FilePath) (entry : FileEntry) :
    FileTree :=
  let location := { world with directory := FilePath.join world.directory path }.location
  let parents := (List.range location.length).map location.take
  let tree := parents.foldl
    (fun tree parent => if (tree.at? parent).isSome then tree else tree.put parent .directory) tree
  if location = [] then tree else tree.put location entry

/-- A tree with the file at a path, if there is one. -/
def loadFile (world : Surroundings) (tree : FileTree) (path : FilePath) : IO FileTree := do
  try
    return putPath world tree path (.file (← readContent path))
  catch _ => return tree

/-- The names of the entries of the directory at a path, if there is one. -/
def entryNames? (path : FilePath) : IO (Option (List String)) := do
  try
    let entries ← (← IO.FS.realPath path).readDir
    return some (entries.toList.map (·.fileName))
  catch _ => return none

/-- A tree with the file or the directory at a path, if there is one. -/
def loadEntry (world : Surroundings) (tree : FileTree) (path : FilePath) : IO FileTree := do
  if tree.holds world.location path then return tree
  match ← entryNames? path with
  | none => loadFile world tree path
  | some _ => return putPath world tree path .directory

/-- A tree with all that a path leads to. -/
partial def loadBelow (world : Surroundings) (tree : FileTree) (path : FilePath) : IO FileTree := do
  match ← entryNames? path with
  | none => loadFile world tree path
  | some names =>
      let tree := putPath world tree path .directory
      names.foldlM (fun tree name => loadBelow world tree (FilePath.join path name)) tree

/-- The part of the file tree that an invocation may depend on. -/
def loadTree (world : Surroundings) (invocation : Invocation) : IO FileTree := do
  let candidates :=
    invocation.common.config.toList ++
      (FilePath.ancestors world.directory).flatMap fun directory =>
        configFileNames.map (FilePath.join directory)
  let tree := putPath world {} world.directory .directory
  let tree ← candidates.foldlM (loadFile world) tree
  match prepare tree world invocation.common with
  | .error _ => return tree
  | .ok project =>
      let tree ← (project.patterns.map fixedPart).foldlM (loadBelow world) tree
      let output :=
        match invocation.subcommand with
        | .generate (some path) _ _ => path
        | _ => project.outputPath
      (FilePath.ancestors output).foldlM (loadEntry world) tree

/-- The path of a location. -/
def pathOf (location : Location) : FilePath := "/" ++ "/".intercalate location

/-- Puts into the real tree what stands in one tree and not in another. -/
def store (before after : FileTree) : IO Unit := do
  let made := after.entries.filter fun e => before.at? e.1 != some e.2
  for (location, _) in made.filter fun e => e.2 == .directory do
    IO.FS.createDirAll (pathOf location)
  for (location, entry) in made do
    if let .file (.text text) := entry then IO.FS.writeFile (pathOf location) text

/-- The command. -/
def main (arguments : List String) : IO UInt32 := do
  let start ← IO.monoMsNow
  let names := ["NO_COLOR", "CLICOLOR_FORCE", "CLICOLOR"]
  let values ← names.mapM fun name => return (name, ← IO.getEnv name)
  let world : Surroundings :=
    { directory := (← IO.currentDir).toString
      environment := fun name => (values.lookup name).join
      isTerminal := ← (← IO.getStdout).isTty }
  let tree ←
    match readArguments arguments with
    | .run invocation => loadTree world invocation
    | _ => pure {}
  let hundredths := ((← IO.monoMsNow) - start) / 10
  let digits := toString (hundredths % 100)
  let elapsed :=
    toString (hundredths / 100) ++ "." ++ (if digits.length = 1 then "0" else "") ++ digits
  let (after, outcome) := run tree { world with elapsed } arguments
  store tree after
  IO.print outcome.stdout
  IO.eprint outcome.stderr
  return outcome.exit.number.toUInt32
