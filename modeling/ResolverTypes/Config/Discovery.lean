import ResolverTypes.Config.Loading

/-!
# Finding configurations

The configuration for a directory is the file of the most preferred name in it, or else in the
nearest directory above it that has one.

## Main definitions

* `configFileNames` : the names of configuration files, the most preferred first.
* `FilePath.ancestors` : a path and the paths of the directories above it.
* `Config.find?` : the file for a directory.
* `Config.resolve` : the configuration for a directory, or at a given path, with its path.
-/

namespace ResolverTypes

/-- The names of configuration files, the most preferred first. -/
def configFileNames : List String :=
  [".graphqlrc.yml", ".graphqlrc.yaml", ".graphqlrc.json", ".graphqlrc", "graphql.config.yml",
    "graphql.config.yaml", "graphql.config.json"]

/-- A path and the paths of the directories above it, for a number of steps. -/
def FilePath.ancestorRounds : Nat → FilePath → List FilePath
  | 0, path => [path]
  | n + 1, path =>
      match FilePath.parent? path with
      | some parent => path :: ancestorRounds n parent
      | none => [path]

/-- A path and the paths of the directories above it, the nearest first. -/
def FilePath.ancestors (path : FilePath) : List FilePath :=
  FilePath.ancestorRounds path.components.length path

namespace Config

/-- The file with the configuration for a directory. -/
def find? (tree : FileTree) (directory : Location) (start : FilePath) : Option FilePath :=
  (FilePath.ancestors start).findSome? fun ancestor =>
    (configFileNames.map (FilePath.join ancestor)).find? (tree.isFile directory)

/-- The configuration at a given path, or else the one for a directory, with its path. -/
def resolve (tree : FileTree) (directory : Location) (explicit : Option FilePath)
    (start : FilePath) : Except ConfigError (FilePath × Config) := do
  let path ←
    match explicit with
    | some path => pure path
    | none =>
        match find? tree directory start with
        | some path => pure path
        | none => throw (.notFound start)
  return (path, ← load tree directory path)

end Config

end ResolverTypes
