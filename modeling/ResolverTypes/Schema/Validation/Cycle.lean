import ResolverTypes.Schema.Basic

/-!
# Cycles of definitions

An input that has to hold a value of its own, and a directive that is used in its own definition,
are looked for along the definitions that refer to one another.  A path of more than `pathLimit`
definitions is not followed any further.

## Main definitions

* `CycleSearch` : what is found at the end of a path.
* `inputCycle?` : the cycle or long path that starts at an input.
* `directiveCycle?` : the cycle or long path that starts at a directive.
-/

namespace ResolverTypes.Schema

/-- What is found at the end of a path of definitions. -/
inductive CycleSearch where
  /-- The definition that the path starts at. -/
  | cycle
  /-- More definitions than a path may have. -/
  | tooLong
deriving DecidableEq, Repr, Inhabited

/-- The greatest number of definitions on a path. -/
def pathLimit : Nat := 32

variable (schema : Schema)

/-! ### Inputs -/

/-- What is found on the paths from an input, given the names on the path so far, of which `room`
more than are there may be. -/
def inputSearch (root : String) : Nat → List String → String → Option CycleSearch
  | 0, _, _ => some .tooLong
  | room + 1, path, name =>
      ((schema.inputFields? name).getD []).findSome? fun field =>
        match field.type with
        | .named inner true =>
            if path.contains inner.value then
              if inner.value == root then some .cycle else none
            else if (schema.inputFields? inner.value).isSome then
              inputSearch root room (inner.value :: path) inner.value
            else none
        | _ => none

/-- What is found on the paths from an input, if its values cannot all be finite. -/
def inputCycle? (name : String) : Option CycleSearch :=
  inputSearch schema name pathLimit [name] name

/-! ### Directives -/

/-- A definition that another one refers to. -/
inductive Mention where
  /-- The definition of a directive. -/
  | directive (name : String)
  /-- The definition of a type. -/
  | type (name : String)
deriving DecidableEq, Repr, Inhabited

/-- The directives in some uses. -/
def useMentions (uses : List DirectiveUse) : List Mention :=
  uses.map fun use => .directive use.name.value

/-- The directives and the type in the definition of an argument. -/
def InputValue.mentions (value : InputValue) : List Mention :=
  useMentions value.directives ++ [.type value.type.innerName.value]

/-- The directives and types in the definition of a type. -/
def TypeDefinition.mentions (type : TypeDefinition) : List Mention :=
  useMentions type.directives ++
    match type.body with
    | .enum values => values.flatMap fun value => useMentions value.directives
    | .input fields => fields.flatMap (·.mentions)
    | _ => []

/-- A path of definitions of one sort. -/
structure DefinitionPath where
  /-- The names on the path, the last first. -/
  names : List String
  /-- The number of names that may be added. -/
  room : Nat := pathLimit - names.length

/-- What is found on the paths from some definitions, given the directives and the types on the
path so far. -/
def directiveSearch (root : String) (directives types : DefinitionPath) (mentions : List Mention) :
    Option CycleSearch :=
  mentions.findSome? fun
    | .directive name =>
        if directives.names.contains name then if name == root then some .cycle else none
        else
          (schema.directive? name).bind fun definition =>
            match _h : directives.room with
            | 0 => some .tooLong
            | room + 1 =>
                directiveSearch root ⟨name :: directives.names, room⟩ types
                  (definition.arguments.flatMap (·.mentions))
    | .type name =>
        if types.names.contains name then none
        else
          (schema.type? name).bind fun type =>
            match _h : types.room with
            | 0 => some .tooLong
            | room + 1 =>
                directiveSearch root directives ⟨name :: types.names, room⟩ type.mentions
termination_by directives.room + types.room

/-- What is found on the paths from a directive, if it is used in its own definition or is too
deeply nested for that to be told. -/
def directiveCycle? (definition : DirectiveDefinition) : Option CycleSearch :=
  let name := definition.name.value
  directiveSearch schema name { names := [name] } { names := [] }
    (definition.arguments.flatMap (·.mentions))

end ResolverTypes.Schema
