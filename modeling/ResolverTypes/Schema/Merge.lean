import ResolverTypes.Schema.Basic
import ResolverTypes.Schema.Problem

/-!
# Merging definitions

Definitions are taken one by one.  An extension is merged into the type it extends, wherever it
stands; of two parts with the same name the first is kept and the second reported.

## Main definitions

* `TypeBody.extend?` : a type with the parts of another added.
* `Draft` : what the definitions read so far come to.
* `Draft.add` : one more definition.
* `Draft.finish` : the schema, once all definitions are read.
-/

namespace ResolverTypes.Schema

/-! ### Adding parts -/

/-- The items of a list with further ones added, those whose name is taken being reported where
they stand. -/
def addParts {α : Type} (nameOf : α → Name) (positionOf : α → Option Position)
    (problem : String → Problem) : List α → List α → List α × List Diagnostic
  | items, [] => (items, [])
  | items, part :: parts =>
      if items.any (fun item => (nameOf item).value == (nameOf part).value) then
        let (all, reported) := addParts nameOf positionOf problem items parts
        (all, ⟨positionOf part, problem (nameOf part).value⟩ :: reported)
      else addParts nameOf positionOf problem (items ++ [part]) parts

/-- A type of some kind with nothing in it. -/
def TypeBody.cleared : TypeBody → TypeBody
  | .scalar => .scalar
  | .object .. => .object [] []
  | .interface .. => .interface [] []
  | .union _ => .union []
  | .enum _ => .enum []
  | .input _ => .input []

/-- A type with the parts of another of its kind added. -/
def TypeBody.extend? (owner : String) : TypeBody → TypeBody → Option (TypeBody × List Diagnostic)
  | .scalar, .scalar => some (.scalar, [])
  | .object interfaces fields, .object interfaces' fields' =>
      let (i, reported) :=
        addParts id (·.position) (.duplicateInterface owner) interfaces interfaces'
      let (f, reported') :=
        addParts Field.name Field.position (.duplicatePart "field" · "object type" owner)
          fields fields'
      some (.object i f, reported ++ reported')
  | .interface interfaces fields, .interface interfaces' fields' =>
      let (i, reported) :=
        addParts id (·.position) (.duplicateInherited owner) interfaces interfaces'
      let (f, reported') :=
        addParts Field.name Field.position (.duplicatePart "field" · "interface type" owner)
          fields fields'
      some (.interface i f, reported ++ reported')
  | .union members, .union members' =>
      let (m, reported) :=
        addParts id (·.position) (.duplicatePart "member" · "union type" owner) members members'
      some (.union m, reported)
  | .enum values, .enum values' =>
      let (v, reported) :=
        addParts EnumValue.name EnumValue.position (.duplicatePart "value" · "enum type" owner)
          values values'
      some (.enum v, reported)
  | .input fields, .input fields' =>
      let (f, reported) :=
        addParts InputValue.name InputValue.position
          (.duplicatePart "field" · "input object type" owner) fields fields'
      some (.input f, reported)
  | _, _ => none

/-- A type with an extension merged into it, unless the extension is of another kind. -/
def TypeDefinition.extend? (type extension : TypeDefinition) :
    Option (TypeDefinition × List Diagnostic) :=
  (type.body.extend? type.name.value extension.body).map fun (body, reported) =>
    ({ type with body, directives := type.directives ++ extension.directives }, reported)

/-- A clause of the schema with the roots and directives of an extension added. -/
def SchemaClause.extend (clause extension : SchemaClause) : SchemaClause × List Diagnostic :=
  let step (sofar : List RootClause × List Diagnostic) (root : RootClause) :=
    if sofar.1.any (·.kind == root.kind) then
      (sofar.1, sofar.2 ++ [⟨root.position, .duplicateRoot root.kind.keyword⟩])
    else (sofar.1 ++ [root], sofar.2)
  let (roots, reported) := extension.roots.foldl step (clause.roots, [])
  ({ clause with roots, directives := clause.directives ++ extension.directives }, reported)

/-! ### Drafts -/

/-- What the definitions read so far come to. -/
structure Draft where
  /-- The types defined so far. -/
  types : List TypeDefinition := builtInTypes
  /-- The directives defined so far. -/
  directives : List DirectiveDefinition := builtInDirectives
  /-- The definition of the schema, once it is read. -/
  clause : Option SchemaClause := none
  /-- The extensions of types that are not defined so far. -/
  waiting : List TypeDefinition := []
  /-- The extensions of the schema that stand before its definition. -/
  waitingClauses : List SchemaClause := []
  /-- What is wrong with the definitions. -/
  reported : List Diagnostic := []

namespace Draft

/-- Adds diagnostics. -/
def report (draft : Draft) (diagnostics : List Diagnostic) : Draft :=
  { draft with reported := draft.reported ++ diagnostics }

/-- Adds the definition of a type, with the extensions that wait for it. -/
def addType (draft : Draft) (type : TypeDefinition) : Draft :=
  match draft.types.find? (·.name.value == type.name.value) with
  | some previous =>
      match type.body with
      | .scalar =>
          if previous.isBuiltIn then draft.report [⟨type.position, .builtInScalar⟩]
          else draft.report [⟨type.name.position, .typeCollision type.name.value⟩]
      | _ => draft.report [⟨type.name.position, .typeCollision type.name.value⟩]
  | none =>
      let (own, others) := draft.waiting.partition (·.name.value == type.name.value)
      let start := { type with body := type.body.cleared, directives := [] }
      let step (sofar : TypeDefinition × List Diagnostic) (extension : TypeDefinition) :=
        match sofar.1.extend? extension with
        | some (extended, reported) => (extended, sofar.2 ++ reported)
        | none => sofar
      let (merged, reported) := (type :: own).foldl step (start, [])
      { draft with types := draft.types ++ [merged], waiting := others }.report reported

/-- Adds the extension of a type; it waits if the type is not defined so far. -/
def addTypeExtension (draft : Draft) (extension : TypeDefinition) : Draft :=
  match draft.types.find? (·.name.value == extension.name.value) with
  | none => { draft with waiting := draft.waiting ++ [extension] }
  | some type =>
      match type.extend? extension with
      | none =>
          draft.report [⟨extension.name.position,
            .extensionKind extension.body.description extension.name.value type.body.description⟩]
      | some (extended, reported) =>
          let types := draft.types.map fun t =>
            if t.name.value == extension.name.value then extended else t
          { draft with types }.report reported

/-- Adds the definition of a directive; one that is built in gives way once. -/
def addDirective (draft : Draft) (directive : DirectiveDefinition) : Draft :=
  match draft.directives.find? (·.name.value == directive.name.value) with
  | none => { draft with directives := draft.directives ++ [directive] }
  | some previous =>
      if previous.isBuiltIn then
        { draft with
          directives := draft.directives.map fun d =>
            if d.name.value == directive.name.value then directive else d }
      else draft.report [⟨directive.name.position, .directiveCollision directive.name.value⟩]

/-- Adds the definition of the schema, with the extensions that wait for it. -/
def addClause (draft : Draft) (clause : SchemaClause) : Draft :=
  match draft.clause with
  | some _ => draft.report [⟨clause.position, .schemaCollision⟩]
  | none =>
      let step (sofar : SchemaClause × List Diagnostic) (extension : SchemaClause) :=
        let (extended, reported) := sofar.1.extend extension
        (extended, sofar.2 ++ reported)
      let start : SchemaClause := ⟨[], [], clause.position⟩
      let (merged, reported) := (clause :: draft.waitingClauses).foldl step (start, [])
      { draft with clause := some merged, waitingClauses := [] }.report reported

/-- Adds an extension of the schema; it waits if the schema is not defined so far. -/
def addClauseExtension (draft : Draft) (extension : SchemaClause) : Draft :=
  match draft.clause with
  | none => { draft with waitingClauses := draft.waitingClauses ++ [extension] }
  | some clause =>
      let (extended, reported) := clause.extend extension
      { draft with clause := some extended }.report reported

/-- Adds a definition. -/
def add (draft : Draft) : Definition → Draft
  | .schema clause => draft.addClause clause
  | .schemaExtension clause => draft.addClauseExtension clause
  | .type type => draft.addType type
  | .typeExtension extension => draft.addTypeExtension extension
  | .directive directive => draft.addDirective directive
  | .operation position => draft.report [⟨position, .executable "an operation definition"⟩]
  | .fragment position => draft.report [⟨position, .executable "a fragment definition"⟩]

/-- The roots of a schema without a definition: the object types that have the default names. -/
def implicitRoots (draft : Draft) : List RootClause :=
  [OperationKind.query, .mutation, .subscription].filterMap fun kind =>
    match draft.types.find? (·.name.value == kind.defaultTypeName) with
    | some ⟨_, _, .object .., _⟩ => some ⟨kind, ⟨kind.defaultTypeName, none⟩, none⟩
    | _ => none

/-- The draft with a clause for the schema, made of the default roots if it is not defined.  Only
a schema that has such a root can be extended. -/
def withClause (draft : Draft) : Draft :=
  match draft.clause with
  | some _ => draft
  | none =>
      let roots := draft.implicitRoots
      let defined := { draft with clause := some ⟨[], roots, none⟩, waitingClauses := [] }
      if roots.isEmpty then
        defined.report (draft.waitingClauses.map fun c => ⟨c.position, .orphanSchemaExtension⟩)
      else draft.waitingClauses.foldl addClauseExtension defined

/-- The schema that all definitions come to, and what is wrong with them. -/
def finish (draft : Draft) : Schema × List Diagnostic :=
  let complete := draft.withClause
  let orphans := complete.waiting.map fun extension =>
    ⟨extension.name.position, .orphanTypeExtension extension.name.value⟩
  (⟨complete.clause.getD ⟨[], [], none⟩, complete.types, complete.directives⟩,
    complete.reported ++ orphans)

end Draft

end ResolverTypes.Schema
