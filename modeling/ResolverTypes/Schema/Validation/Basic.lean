import ResolverTypes.Schema.Validation.Cycle
import ResolverTypes.Schema.Validation.Directive
import ResolverTypes.Schema.Validation.Interface

/-!
# Validation of a schema

What is wrong with a schema whose definitions have been merged: names that lead nowhere, types of
the wrong kind, types with nothing in them, and interfaces that are not implemented as declared.

## Main definitions

* `typeProblems` : what is wrong with a type.
* `schemaProblems` : what is wrong with a schema.
-/

namespace ResolverTypes.Schema

variable (schema : Schema)

/-- Names that start with two underscores are reserved for what is built in. -/
def reservedNameProblems (description : String) (name : Name) : List Diagnostic :=
  if name.position.isSome && name.value.startsWith "__" then
    [⟨name.position, .reservedName description name.value⟩]
  else []

/-! ### Fields and arguments -/

/-- Whether a value of a type can be the result of a field. -/
def TypeDefinition.isOutputType (type : TypeDefinition) : Bool :=
  match type.body with
  | .input _ => false
  | _ => true

/-- What is wrong with arguments, or with the fields of an input, one by one. -/
def inputValueProblems (description location : String) (values : List InputValue) :
    List Diagnostic :=
  values.flatMap fun v =>
    let name := v.type.innerName
    reservedNameProblems description v.name ++ directiveProblems schema location v.directives ++
      match schema.type? name.value with
      | none => [⟨name.position, .undefinedType name.value⟩]
      | some type => if type.isInputType then [] else [⟨v.position, .notInputType v.name.value⟩]

/-- The first of the values that have a name. -/
def firstNamed (values : List InputValue) (name : String) : Option InputValue :=
  values.find? (·.name.value == name)

/-- What is wrong with the arguments of a field or directive.  A name that stands twice is
reported at its first place. -/
def argumentDefinitionProblems (arguments : List InputValue) : List Diagnostic :=
  inputValueProblems schema "an argument" "ARGUMENT_DEFINITION" arguments ++
    (repeatedParts (·.name.value) [] arguments).filterMap fun a =>
      (firstNamed arguments a.name.value).map fun first =>
        ⟨first.position, .duplicateArgument a.name.value⟩

/-- What is wrong with the fields of an object or interface. -/
def fieldDefinitionProblems (fields : List Field) : List Diagnostic :=
  fields.flatMap fun f =>
    let name := f.type.innerName
    reservedNameProblems "a field" f.name ++
      directiveProblems schema "FIELD_DEFINITION" f.directives ++
      argumentDefinitionProblems schema f.arguments ++
      match schema.type? name.value with
      | none => [⟨name.position, .undefinedType name.value⟩]
      | some type => if type.isOutputType then [] else [⟨f.position, .notOutputType f.name.value⟩]

/-! ### Types -/

/-- The problem with a cycle of definitions, or with a path that is too long to tell. -/
def cycleProblems (position : Option Position) (name : String) (cycle : Problem) :
    Option CycleSearch → List Diagnostic
  | none => []
  | some .cycle => [⟨position, cycle⟩]
  | some .tooLong => [⟨position, .tooMuchNesting name⟩]

/-- What is wrong with a type. -/
def typeProblems (type : TypeDefinition) : List Diagnostic :=
  let name := type.name.value
  let empty (isEmpty : Bool) (problem : Problem) : List Diagnostic :=
    if isEmpty then [⟨type.position, problem⟩] else []
  match type.body with
  | .scalar =>
      if type.isBuiltIn then []
      else
        reservedNameProblems "a scalar type" type.name ++
          directiveProblems schema "SCALAR" type.directives
  | .object implemented fields =>
      reservedNameProblems "an object type" type.name ++
        directiveProblems schema "OBJECT" type.directives ++
        fieldDefinitionProblems schema fields ++ empty fields.isEmpty (.noFields name) ++
        implementationProblems schema type implemented fields
  | .interface implemented fields =>
      reservedNameProblems "an interface type" type.name ++
        directiveProblems schema "INTERFACE" type.directives ++
        empty fields.isEmpty (.noFields name) ++
        (implemented.filter (·.value == name)).map (fun i =>
          ⟨i.position, .selfImplementation name⟩) ++
        fieldDefinitionProblems schema fields ++
        implementationProblems schema type implemented fields
  | .union members =>
      reservedNameProblems "a union type" type.name ++
        directiveProblems schema "UNION" type.directives ++
        (members.flatMap fun m =>
          match schema.type? m.value with
          | none => [⟨m.position, .undefinedType m.value⟩]
          | some ⟨_, _, .object .., _⟩ => []
          | some _ => [⟨m.position, .memberNotObject m.value⟩]) ++
        empty members.isEmpty (.noMembers name)
  | .enum values =>
      reservedNameProblems "an enum type" type.name ++
        directiveProblems schema "ENUM" type.directives ++
        (values.flatMap fun v =>
          reservedNameProblems "an enum value" v.name ++
            directiveProblems schema "ENUM_VALUE" v.directives) ++
        empty values.isEmpty (.noValues name)
  | .input fields =>
      reservedNameProblems "an input object type" type.name ++
        directiveProblems schema "INPUT_OBJECT" type.directives ++
        cycleProblems type.position name (.recursiveInput name) (inputCycle? schema name) ++
        inputValueProblems schema "an input object field" "INPUT_FIELD_DEFINITION" fields ++
        empty fields.isEmpty (.noInputValues name)

/-! ### The schema -/

/-- What is wrong with the roots of a schema. -/
def rootProblems : List Diagnostic :=
  let roots := [OperationKind.query, .mutation, .subscription].filterMap schema.root?
  (roots.flatMap fun root =>
    match schema.type? root.value with
    | none => [⟨root.position, .undefinedType root.value⟩]
    | some ⟨_, _, .object .., _⟩ => []
    | some _ => [⟨root.position, .rootNotObject root.value⟩]) ++
    ((repeatedParts (·.value) [] roots).map fun root =>
      ⟨root.position, .repeatedRoot root.value⟩) ++
    (if (schema.root? .query).isNone then [⟨schema.clause.position, .missingQueryRoot⟩] else []) ++
    directiveProblems schema "SCHEMA" schema.clause.directives

/-- What is wrong with the definition of a directive. -/
def directiveDefinitionProblems (definition : DirectiveDefinition) : List Diagnostic :=
  reservedNameProblems "a directive definition" definition.name ++
    argumentDefinitionProblems schema definition.arguments ++
    cycleProblems definition.position definition.name.value
      (.recursiveDirective definition.name.value) (directiveCycle? schema definition)

/-- What is wrong with a schema. -/
def schemaProblems : List Diagnostic :=
  rootProblems schema ++
    schema.directives.flatMap (directiveDefinitionProblems schema) ++
    schema.types.flatMap (typeProblems schema)

end ResolverTypes.Schema
