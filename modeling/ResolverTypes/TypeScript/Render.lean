import ResolverTypes.TypeScript.Declaration

/-!
# Rendering declarations

The text of types, declarations and groups.  A function inside a union stands in parentheses, since
without them its result would take in the rest of the union, and a string literal has its quotes
and backslashes escaped.

## Main definitions

* `TypeExpr.render`, `Member.render` : the text of a type and of a member.
* `Declaration.render` : the lines of a declaration, at a depth of indentation.
* `Group.render` : the lines of a namespace.
-/

namespace ResolverTypes.TypeScript

/-! ### String literals -/

/-- The characters of a string with a backslash before every quote and backslash. -/
def escapeChars : List Char → List Char
  | [] => []
  | c :: cs => if c = '"' ∨ c = '\\' then '\\' :: c :: escapeChars cs else c :: escapeChars cs

/-- A string as a literal in double quotes. -/
def quote (value : String) : String := "\"" ++ String.ofList (escapeChars value.toList) ++ "\""

/-! ### Types -/

/-- Whether a type has to stand in parentheses inside a union. -/
def TypeExpr.needsParentheses : TypeExpr → Bool
  | .function _ _ => true
  | _ => false

/-- The mark after the name of a member that may be missing. -/
def optionalMark (optional : Bool) : String := if optional then "?" else ""

mutual

/-- The text of a type. -/
def TypeExpr.render : TypeExpr → String
  | .named name => name
  | .literal value => quote value
  | .array item => "Array<" ++ item.render ++ ">"
  | .union members => renderAlternatives members
  | .promise value => "Promise<" ++ value.render ++ ">"
  | .asyncIterator item => "AsyncIterator<" ++ item.render ++ ">"
  | .function parameters result => "(" ++ renderParameters parameters ++ ") => " ++ result.render
  | .object [] => "\x7b\x7d"
  | .object (m :: ms) => "\x7b " ++ renderMembers (m :: ms) ++ " \x7d"

/-- The text of the members of a union. -/
def renderAlternatives : List TypeExpr → String
  | [] => ""
  | [t] => if t.needsParentheses then "(" ++ t.render ++ ")" else t.render
  | t :: u :: ts =>
      (if t.needsParentheses then "(" ++ t.render ++ ")" else t.render) ++ " | " ++
        renderAlternatives (u :: ts)

/-- The text of the parameters of a function. -/
def renderParameters : List (Parameter TypeExpr) → String
  | [] => ""
  | [⟨name, type⟩] => name ++ ": " ++ type.render
  | ⟨name, type⟩ :: p :: ps => name ++ ": " ++ type.render ++ ", " ++ renderParameters (p :: ps)

/-- The text of the members of an object type on one line. -/
def renderMembers : List (Member TypeExpr) → String
  | [] => ""
  | [⟨name, optional, type⟩] => name ++ optionalMark optional ++ ": " ++ type.render
  | ⟨name, optional, type⟩ :: m :: ms =>
      name ++ optionalMark optional ++ ": " ++ type.render ++ "; " ++ renderMembers (m :: ms)

end

/-- The text of a member. -/
def Member.render (member : Member TypeExpr) : String :=
  member.name ++ optionalMark member.optional ++ ": " ++ member.type.render

/-! ### Declarations -/

/-- A line at a depth of indentation, two blanks for each step. -/
def line (depth : Nat) (text : String) : String :=
  String.ofList (List.replicate (2 * depth) ' ') ++ text ++ "\n"

/-- The lines of a declaration. -/
def Declaration.render (depth : Nat) : Declaration → String
  | .interface name members =>
      line depth ("export interface " ++ name ++ " \x7b") ++
        String.join (members.map fun m => line (depth + 1) (m.render ++ ";")) ++
        line depth "\x7d"
  | .typeAlias name type => line depth ("export type " ++ name ++ " = " ++ type.render ++ ";")
  | .defaultResolvers parent fields =>
      line depth "export const defaultResolvers = \x7b" ++
        String.join (fields.map fun f =>
          line (depth + 1) (f ++ ": (parent: " ++ parent.render ++ ") => parent." ++ f ++ ",")) ++
        line depth "\x7d;"

/-- The lines of a group: a namespace around its declarations. -/
def Group.render (group : Group) : String :=
  line 0 ("export namespace " ++ group.namespaceName ++ " \x7b") ++
    String.join (group.declarations.map (·.render 1)) ++ line 0 "\x7d"

end ResolverTypes.TypeScript
