import ResolverTypes.Graph.Lowering
import ResolverTypes.Schema.Merge
import ResolverTypes.Schema.Parser
import ResolverTypes.Schema.Validation.Basic
import ResolverTypes.Text.Lines

/-!
# Schemas from texts

The schema that several texts define together, and the graph of it.  Errors of reading and merging
are reported together; only a schema without them is validated.

## Main definitions

* `SourceText` : a text with the path it is known by.
* `Report` : a diagnostic with its place in words.
* `mergeSources`, `loadSchema` : the schema of some texts, before and after validation.
* `SchemaGraph.ofSources` : the graph of some texts.
-/

namespace ResolverTypes

namespace Schema

/-- A schema text with the path it is known by. -/
structure SourceText where
  /-- The path. -/
  path : String
  /-- The text. -/
  text : String
deriving DecidableEq, Repr, Inhabited

/-- A diagnostic with its place in words. -/
structure Report where
  /-- The path of the text, if the diagnostic has a place. -/
  path : Option String
  /-- The line and column, if the diagnostic has a place. -/
  lineColumn : Option (Nat × Nat)
  /-- What is wrong. -/
  message : String
deriving DecidableEq, Repr, Inhabited

/-- A report on one line. -/
def Report.line (report : Report) : String :=
  match report.path, report.lineColumn with
  | some path, some (line, column) =>
      path ++ ":" ++ toString line ++ ":" ++ toString column ++ ": " ++ report.message
  | some path, none => path ++ ": " ++ report.message
  | none, _ => report.message

/-- The path under which what is built in is known. -/
def builtInPath : String := "built_in.graphql"

/-- The report of a diagnostic on some texts. -/
def Diagnostic.report (sources : List SourceText) (diagnostic : Diagnostic) : Report :=
  let message := diagnostic.problem.message
  match diagnostic.position with
  | some (.inText number offset) =>
      match sources[number]? with
      | some source => ⟨source.path, Text.lineColumn source.text offset, message⟩
      | none => ⟨none, none, message⟩
  | some (.builtIn line) => ⟨some builtInPath, some (line, 1), message⟩
  | none => ⟨none, none, message⟩

/-- The reports of diagnostics, in the order in which they are reported. -/
def reports (sources : List SourceText) (diagnostics : List Diagnostic) : List Report :=
  (inReportOrder diagnostics).map (·.report sources)

/-- An error of reading as a diagnostic. -/
def SyntaxError.diagnostic (source : Nat) (error : SyntaxError) : Diagnostic :=
  ⟨some (.inText source error.offset),
    if error.isLimit then .tooDeep error.message else .syntaxError error.message⟩

/-- A draft with the definitions of a text added. -/
def Draft.addText (draft : Draft) (source : Nat × SourceText) : Draft :=
  let (definitions, errors) := readDefinitions source.1 source.2.text
  definitions.foldl Draft.add (draft.report (errors.map (·.diagnostic source.1)))

/-- Items with their numbers, from a first number on. -/
def numbered {α : Type} (first : Nat) : List α → List (Nat × α)
  | [] => []
  | a :: as => (first, a) :: numbered (first + 1) as

/-- The schema that texts define together, unless something is wrong with them. -/
def mergeSources (sources : List SourceText) : Except (List Report) Schema :=
  let (schema, diagnostics) := ((numbered 0 sources).foldl Draft.addText {}).finish
  if diagnostics.isEmpty then .ok schema else .error (reports sources diagnostics)

/-- The valid schema that texts define together. -/
def loadSchema (sources : List SourceText) : Except (List Report) Schema := do
  let schema ← mergeSources sources
  let diagnostics := schemaProblems schema
  if diagnostics.isEmpty then return schema else throw (reports sources diagnostics)

end Schema

/-- Why texts have no graph. -/
inductive GraphError where
  /-- Something is wrong with the texts. -/
  | invalid (reports : List Schema.Report)
  /-- A reference leads nowhere. -/
  | unknownType (error : UnknownType)
deriving DecidableEq, Repr

/-- The text of the error. -/
def GraphError.message : GraphError → String
  | .invalid reports => "schema has " ++ toString reports.length ++ " error(s)"
  | .unknownType error => error.message

/-- The graph of the valid schema that texts define together. -/
def SchemaGraph.ofSources (sources : List Schema.SourceText) : Except GraphError SchemaGraph := do
  let schema ← (Schema.loadSchema sources).mapError .invalid
  (SchemaGraph.ofSchema schema).mapError .unknownType

end ResolverTypes
