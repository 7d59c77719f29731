import ResolverTypes.Data.Decimal
import ResolverTypes.Schema.Basic
import ResolverTypes.Schema.Problem

/-!
# Uses of directives

A directive may be used where its definition says, with the arguments that its definition names,
each of a value of its type.

## Main definitions

* `valueProblems` : what is wrong with a value of a type.
* `directiveProblems` : what is wrong with the directives used at a place.
-/

namespace ResolverTypes.Schema

variable (schema : Schema)

/-! ### Values -/

/-- The built-in scalars that a value may be of. -/
def scalarsOf : ValueSyntax → List String
  | .int _ => ["ID", "Int", "Float"]
  | .float _ => ["Float"]
  | .string => ["String", "ID"]
  | .boolean _ => ["Boolean"]
  | _ => []

/-- Whether the text of an integer fits a signed word of 32 bits. -/
def fitsInt (text : String) : Bool :=
  match text.toInt? with
  | some n => -2147483648 ≤ n && n ≤ 2147483647
  | none => false

/-- Whether the text of a number stands for a finite number of double precision. -/
def fitsFloat (text : String) : Bool :=
  let (negative, rest) :=
    if text.startsWith "-" then (true, text.toList.drop 1) else (false, text.toList)
  let whole := rest.takeWhile Char.isDigit
  let rest := rest.drop whole.length
  let fraction := if rest.head? = some '.' then (rest.drop 1).takeWhile Char.isDigit else []
  let rest := if rest.head? = some '.' then rest.drop (fraction.length + 1) else rest
  let exponent := String.ofList (rest.drop (if (rest.drop 1).head? = some '+' then 2 else 1))
  let decimal : Decimal :=
    { negative
      digits := (String.ofList (whole ++ fraction)).toNat?.getD 0
      exponent := exponent.toInt?.getD 0 - fraction.length }
  decimal.rounded?.isSome

mutual

/-- What is wrong with a value where one of a type is asked for. -/
def valueProblems (type : TypeSyntax) : Located ValueSyntax → List Diagnostic
  | ⟨value, position⟩ =>
      let wrong : List Diagnostic :=
        [⟨position, .valueType type.spelling value.description⟩]
      match schema.type? type.innerName.value with
      | none => []
      | some definition =>
          let isCustomScalar :=
            match definition.body with
            | .scalar => !definition.isBuiltIn
            | _ => false
          match value with
          | .null => if type.isNonNull then wrong else []
          | .variable _ => []
          | .enum name =>
              match definition.body with
              | .enum values =>
                  if values.any (·.name.value == name) then []
                  else [⟨position, .undefinedEnumValue name definition.name.value⟩]
              | _ => if isCustomScalar then [] else wrong
          | .list items =>
              match type with
              | .list item _ =>
                  if definition.isInputType then itemProblems item items
                  else [⟨position, .valueType item.spelling value.description⟩]
              | .named .. => if isCustomScalar then itemProblems type items else wrong
          | .object fields =>
              match definition.body with
              | .input inputs =>
                  let unknown : List Diagnostic :=
                    match fields.find? fun f => !inputs.any (·.name.value == f.1) with
                    | some f => [⟨f.2.position, .undefinedInputField f.1 definition.name.value⟩]
                    | none => []
                  let missing : List Diagnostic :=
                    inputs.filterMap fun i =>
                      let given := fields.filter (·.1 == i.name.value)
                      let hasNull := given.any fun
                        | ⟨_, .null, _⟩ => true
                        | _ => false
                      if i.isRequired && (given.isEmpty || hasNull) then
                        some ⟨position, .requiredInputField definition.name.value i.name.value⟩
                      else none
                  unknown ++ missing ++ fieldProblems inputs [] fields
              | _ => if isCustomScalar then [] else wrong
          | scalar =>
              if isCustomScalar then []
              else
                match definition.body with
                | .scalar =>
                    if (scalarsOf scalar).contains definition.name.value then
                      match scalar with
                      | .int text =>
                          if definition.name.value == "Int" && !fitsInt text then
                            [⟨position, .intRange⟩]
                          else if definition.name.value == "Float" && !fitsFloat text then
                            [⟨position, .floatRange⟩]
                          else []
                      | .float text =>
                          if fitsFloat text then [] else [⟨position, .floatRange⟩]
                      | _ => []
                    else wrong
                | _ => wrong

/-- What is wrong with the items of a list. -/
def itemProblems (type : TypeSyntax) : List (Located ValueSyntax) → List Diagnostic
  | [] => []
  | item :: items => valueProblems type item ++ itemProblems type items

/-- What is wrong with the fields of an input; of a name that stands twice the first counts. -/
def fieldProblems (inputs : List InputValue) (seen : List String) :
    List (String × Located ValueSyntax) → List Diagnostic
  | [] => []
  | ⟨name, value⟩ :: fields =>
      (match inputs.find? (·.name.value == name) with
        | some input => if seen.contains name then [] else valueProblems input.type value
        | none => []) ++ fieldProblems inputs (name :: seen) fields

end

/-! ### Uses -/

/-- The later items of a list whose name stands before. -/
def repeatedParts {α : Type} (nameOf : α → String) : List String → List α → List α
  | _, [] => []
  | seen, part :: parts =>
      if seen.contains (nameOf part) then part :: repeatedParts nameOf seen parts
      else repeatedParts nameOf (nameOf part :: seen) parts

/-- What is wrong with one use of a directive at a place of a kind. -/
def directiveUseProblems (location : String) (use : DirectiveUse) : List Diagnostic :=
  let repeated : List Diagnostic :=
    (repeatedParts (·.name.value) [] use.arguments).map fun a =>
      ⟨a.name.position, .repeatedArgument a.name.value⟩
  match schema.directive? use.name.value with
  | none => repeated ++ [⟨use.position, .undefinedDirective use.name.value⟩]
  | some definition =>
      let misplaced : List Diagnostic :=
        if definition.locations.contains location then []
        else [⟨use.position, .unsupportedLocation use.name.value location⟩]
      let given : List Diagnostic :=
        use.arguments.flatMap fun a =>
          match definition.arguments.find? (·.name.value == a.name.value) with
          | some input => valueProblems schema input.type a.value
          | none => [⟨a.name.position, .undefinedArgument a.name.value use.name.value⟩]
      let missing : List Diagnostic :=
        definition.arguments.filterMap fun input =>
          let isNull :=
            match use.arguments.find? (·.name.value == input.name.value) with
            | none => true
            | some ⟨_, ⟨.null, _⟩⟩ => true
            | _ => false
          if input.isRequired && isNull then
            some ⟨use.position, .requiredArgument use.name.value input.name.value⟩
          else none
      repeated ++ misplaced ++ given ++ missing

/-- What is wrong with the directives used at a place of a kind. -/
def directiveProblems (location : String) (uses : List DirectiveUse) : List Diagnostic :=
  let repeated : List Diagnostic :=
    (repeatedParts (·.name.value) [] uses).filterMap fun use =>
      match schema.directive? use.name.value with
      | some definition =>
          if definition.repeatable then none
          else some ⟨use.position, .repeatedDirective use.name.value⟩
      | none => none
  repeated ++ uses.flatMap (directiveUseProblems schema location)

end ResolverTypes.Schema
