import ResolverTypes.Layout.ModuleReader

/-!
# Formatting a module

A module is read and laid out anew, a statement to a line.  Text that cannot be read stays as it
is, and what is wrong with it is told.

## Main definitions

* `FormatDiagnostic` : why a text stayed as it is.
* `GeneratedOutput` : a text with what is to be told about it.
* `formatModule` : the text of a module, laid out anew.
-/

namespace ResolverTypes

/-- Why a text stayed as it is. -/
structure FormatDiagnostic where
  /-- The line, counted from one, and the column, counted from zero. -/
  lineColumn : Option (Nat × Nat)
  /-- What is wrong. -/
  message : String
deriving DecidableEq, Repr, Inhabited

/-- A diagnostic on one line. -/
def FormatDiagnostic.line (diagnostic : FormatDiagnostic) : String :=
  match diagnostic.lineColumn with
  | some (line, column) =>
      "resolvers.ts:" ++ toString line ++ ":" ++ toString column ++ ": " ++ diagnostic.message
  | none => "resolvers.ts: " ++ diagnostic.message

/-- A generated text with what is to be told about it. -/
structure GeneratedOutput where
  /-- The text. -/
  code : String
  /-- Why the text is not laid out anew, if it should be and is not. -/
  diagnostics : List FormatDiagnostic := []
deriving DecidableEq, Repr, Inhabited

/-- The layout of a module behind its first line if that says how to run it, with the comments of
the text.  What stops the reader counts more than what is noted, and of that the first counts. -/
def readModule (scan : Layout.ModuleScan) : Except Layout.LayoutError (Layout × Comments) :=
  let (token, left, problems) := scan.next
  let start : Layout.ReaderState := { token, scan := left, notes := problems.reverse }
  match Layout.ModuleReader.moduleLayout.run start with
  | (.error e, _) => .error e
  | (.ok layout, after) =>
      match after.notes.getLast? with
      | some e => .error e
      | none => .ok (layout, after.scan.comments)

/-- The text of a module, laid out anew. -/
def layoutModule (text : String) : Except Layout.LayoutError String := do
  let (scan, first) := Layout.ModuleScan.ofText text
  let (layout, comments) ← readModule scan
  return (first.map (· ++ "\n")).getD "" ++ layout.render comments

/-- The text of a module, laid out anew if it can be read. -/
def formatModule (text : String) : GeneratedOutput :=
  match layoutModule text with
  | .ok code => { code }
  | .error error =>
      { code := text, diagnostics := [⟨some (error.line, error.column), error.message⟩] }

end ResolverTypes
