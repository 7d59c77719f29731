import ResolverTypes.Config.Loading

/-!
# Selecting a project

The project that a command works on: the one of a given name, or else the only one, or else the one
that bears the default name.

## Main definitions

* `Config.select` : the selected project with its name.
-/

namespace ResolverTypes.Config

/-- The project of a configuration that a name, or the lack of one, selects, with its name. -/
def select (config : Config) (name : Option String) : Except ConfigError (String × Project) :=
  let named (wanted : String) : Option (String × Project) :=
    config.projects.find? fun p => p.1 == wanted
  match name with
  | some name =>
      match named name with
      | some project => .ok project
      | none => .error (.unknownProject name config.projectNames)
  | none =>
      if config.projectCount = 1 then
        match config.projects with
        | project :: _ => .ok project
        | [] => .error (.projectRequired [])
      else
        match named defaultName with
        | some project => .ok project
        | none => .error (.projectRequired config.projectNames)

end ResolverTypes.Config
