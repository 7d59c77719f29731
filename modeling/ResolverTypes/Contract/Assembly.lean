import ResolverTypes.Contract.Group
import ResolverTypes.TypeScript.Document

/-!
# Assembly of a document

The document of a graph, unless two of its declarations would share a name.

## Main definitions

* `GenerationError` : why a graph has no document.
* `draftDocument` : the document of a graph before its names are compared.
* `assemble` : the document of a graph.

## Main results

* `firstDuplicate_eq_none_iff` : a list has no first repeated name exactly when no name repeats.
-/

namespace ResolverTypes

open TypeScript

/-- The part of a module in which a name is declared. -/
inductive Scope where
  /-- The namespace of a group. -/
  | group (namespaceName : String)
  /-- The module itself. -/
  | module
deriving DecidableEq

/-- The words for a scope. -/
def Scope.description : Scope → String
  | .group name => "namespace `" ++ name ++ "`"
  | .module => "the module scope"

/-- Why a graph has no document. -/
inductive GenerationError where
  /-- Two declarations of a scope have the same name. -/
  | nameCollision (scope : Scope) (name : String)
  /-- An argument names an input that the graph does not define. -/
  | missingInput (name owner : String)
deriving DecidableEq

/-- The message of an error. -/
def GenerationError.message : GenerationError → String
  | .nameCollision scope name =>
      "generated name `" ++ name ++ "` is declared twice in " ++ scope.description ++
        "; rename one of the schema elements it comes from"
  | .missingInput name owner =>
      "input type `" ++ name ++ "` used by `" ++ owner ++ "` has no definition in the schema graph"

/-- The first name of a list that repeats an earlier one. -/
def firstDuplicate (names : List String) : Option String :=
  go [] names
where
  /-- The first name that is among those seen or repeats an earlier one. -/
  go (seen : List String) : List String → Option String
    | [] => none
    | name :: rest => if name ∈ seen then some name else go (name :: seen) rest

theorem firstDuplicate_go_eq_none_iff (seen names : List String) :
    firstDuplicate.go seen names = none ↔ names.Nodup ∧ ∀ n ∈ names, n ∉ seen := by
  induction names generalizing seen with
  | nil => simp [firstDuplicate.go]
  | cons name rest ih =>
      rw [firstDuplicate.go]
      split
      next h => simp [h]
      next h =>
        rw [ih]
        simp only [List.nodup_cons, List.mem_cons, not_or]
        grind

/-- A list has no first repeated name exactly when no name repeats. -/
theorem firstDuplicate_eq_none_iff (names : List String) :
    firstDuplicate names = none ↔ names.Nodup := by
  simp [firstDuplicate, firstDuplicate_go_eq_none_iff]

variable (graph : SchemaGraph) (options : Options)

/-! ### The parts of a document -/

/-- The import of the type that carries the information on a request, then those of the models
and of the context that the options name modules for. -/
def documentImports : List Import :=
  let models :=
    match options.modelsModule, sortedNames options.models.values with
    | some _, [] => []
    | some module, names => [⟨names, module⟩]
    | none, _ => []
  let context :=
    match options.contextType, options.contextModule with
    | some name, some module => [⟨[name], module⟩]
    | _, _ => []
  ⟨[infoType], "graphql"⟩ :: (models ++ context)

/-- The alias of an enum: the union of its values. -/
def enumDeclaration (enum : EnumDef) : Declaration :=
  .typeAlias enum.name (.unionOf (enum.values.map .literal))

/-- The inputs that no single group can hold, in increasing order: those that fields of inputs
name and those that arguments of interface fields name. -/
def sharedInputNames : List String :=
  sortedNames <| graph.inputRegistry.values.flatMap (·.fieldInputs) ++
    (graph.interfaces.flatMap (·.fields)).flatMap (·.argumentInputs)

/-- The declarations of the shared inputs. -/
def sharedInputs : List Declaration :=
  ((sharedInputNames graph).filterMap graph.inputRegistry.get?).map (inputDeclaration options)

/-- The contract of a type, as seen from outside its namespace. -/
def contractReference (typeName : String) : TypeExpr :=
  .named (namespaceName typeName ++ "." ++ contractName)

/-- The interface of all contracts: those of objects are required, the others optional. -/
def aggregateDeclaration : Declaration :=
  .interface "Resolvers" <|
    graph.objects.map (fun o => ⟨o.name, false, contractReference o.name⟩) ++
      graph.interfaces.map (fun i => ⟨i.name, true, contractReference i.name⟩) ++
      graph.unions.map fun u => ⟨u.name, true, contractReference u.name⟩

/-! ### The document -/

/-- The groups of the objects of a graph. -/
def objectGroups : Except GenerationError (List Group) :=
  graph.objects.mapM fun object =>
    (objectGroup graph options object).mapError (.missingInput · object.name)

/-- The document of a graph before its names are compared. -/
def draftDocument : Except GenerationError Document := do
  let objectGroups ← objectGroups graph options
  return {
    imports := documentImports options
    enums := graph.enums.map enumDeclaration
    sharedInputs := sharedInputs graph options
    groups := objectGroups ++ graph.interfaces.map (interfaceGroup graph options) ++
      graph.unions.map (unionGroup graph options)
    aggregate := aggregateDeclaration graph }

/-- The first collision of names in a group. -/
def groupCollision? (group : Group) : Option GenerationError :=
  (firstDuplicate (group.declarations.map (·.name))).map
    (.nameCollision (.group group.namespaceName))

/-- The first collision of names in a document, those inside groups before those of the module. -/
def collision? (document : Document) : Option GenerationError :=
  (document.groups.findSome? groupCollision?).or <|
    (firstDuplicate document.moduleNames).map (.nameCollision .module)

/-- The document of a graph. -/
def assemble : Except GenerationError Document := do
  let document ← draftDocument graph options
  match collision? document with
  | some error => .error error
  | none => return document

end ResolverTypes
