import ResolverTypes.Schema.Definition

/-!
# Problems of a schema

What can be wrong with a schema, each with its text and the position it is reported at.

## Main definitions

* `Problem` : what is wrong.
* `Problem.message` : the text of a problem.
* `Diagnostic` : a problem at a position.
-/

namespace ResolverTypes.Schema

/-- What is wrong with a schema. -/
inductive Problem where
  -- reading
  | syntaxError (message : String)
  | tooDeep (message : String)
  -- merging
  | executable (description : String)
  | schemaCollision
  | directiveCollision (name : String)
  | typeCollision (name : String)
  | builtInScalar
  | orphanSchemaExtension
  | orphanTypeExtension (name : String)
  | extensionKind (extension name definition : String)
  | duplicateRoot (keyword : String)
  | duplicateInterface (owner name : String)
  | duplicateInherited (owner name : String)
  | duplicatePart (part name kind owner : String)
  -- roots
  | missingQueryRoot
  | rootNotObject (name : String)
  | repeatedRoot (name : String)
  -- types
  | undefinedType (name : String)
  | reservedName (description name : String)
  | noFields (name : String)
  | noMembers (name : String)
  | noValues (name : String)
  | noInputValues (name : String)
  | notInputType (name : String)
  | notOutputType (name : String)
  | memberNotObject (name : String)
  | duplicateArgument (name : String)
  | recursiveInput (name : String)
  | tooMuchNesting (name : String)
  -- interfaces
  | selfImplementation (name : String)
  | missingTransitive (name via missing : String)
  | missingField (type interface field : String)
  | fieldType (interface type field expected found : String)
  | missingArgument (interface type field argument : String)
  | argumentType (interface type field argument expected found : String)
  | extraArgument (interface type field argument : String)
  -- directives
  | undefinedDirective (name : String)
  | unsupportedLocation (name location : String)
  | repeatedDirective (name : String)
  | recursiveDirective (name : String)
  | undefinedArgument (name directive : String)
  | repeatedArgument (name : String)
  | requiredArgument (directive name : String)
  -- values
  | valueType (expected found : String)
  | undefinedEnumValue (value type : String)
  | undefinedInputField (field type : String)
  | requiredInputField (type field : String)
  | intRange
  | floatRange
deriving DecidableEq, Repr, Inhabited

/-- The text of a problem. -/
def Problem.message : Problem → String
  | syntaxError message => "syntax error: " ++ message
  | tooDeep message => message
  | executable description => "a schema document must not contain " ++ description
  | schemaCollision => "must not have multiple `schema` definitions"
  | directiveCollision name =>
      "the directive `@" ++ name ++ "` is defined multiple times in the schema"
  | typeCollision name => "the type `" ++ name ++ "` is defined multiple times in the schema"
  | builtInScalar => "built-in scalar definitions must be omitted"
  | orphanSchemaExtension => "schema extension without a schema definition"
  | orphanTypeExtension name => "type extension for undefined type `" ++ name ++ "`"
  | extensionKind extension name definition =>
      "adding " ++ extension ++ " extension, but `" ++ name ++ "` is " ++ definition
  | duplicateRoot keyword =>
      "duplicate definitions for the `" ++ keyword ++ "` root operation type"
  | duplicateInterface owner name =>
      "object type `" ++ owner ++ "` implements interface `" ++ name ++ "` more than once"
  | duplicateInherited owner name =>
      "interface type `" ++ owner ++ "` implements interface `" ++ name ++ "` more than once"
  | duplicatePart part name kind owner =>
      "duplicate definitions for the `" ++ name ++ "` " ++ part ++ " of " ++ kind ++ " `" ++
        owner ++ "`"
  | missingQueryRoot => "missing query root operation type in schema definition"
  | repeatedRoot name =>
      "the same type `" ++ name ++ "` must not be used for multiple root operation types"
  | rootNotObject name => "`" ++ name ++ "` field must return an object type"
  | undefinedType name => "cannot find type `" ++ name ++ "` in this document"
  | reservedName description name =>
      description ++ " cannot be named `" ++ name ++
        "` as names starting with two underscores are reserved"
  | noFields name => "`" ++ name ++ "` has no fields"
  | noMembers name => "`" ++ name ++ "` has no member types"
  | noValues name => "`" ++ name ++ "` has no enum values"
  | noInputValues name => "`" ++ name ++ "` has no input values"
  | notInputType name => "`" ++ name ++ "` field must be of an input type"
  | notOutputType name => "`" ++ name ++ "` field must return an output type"
  | memberNotObject name => "union member `" ++ name ++ "` must be an object type"
  | duplicateArgument name => "the value `" ++ name ++ "` is defined multiple times"
  | tooMuchNesting name => "`" ++ name ++ "` contains too much nesting"
  | recursiveInput name => "`" ++ name ++ "` input object cannot reference itself"
  | selfImplementation name => "interface " ++ name ++ " cannot implement itself"
  | missingTransitive name via missing =>
      "interface `" ++ name ++ "` declares that it implements `" ++ via ++
        "`, but to do so it must also implement `" ++ missing ++ "`"
  | missingField type interface field =>
      "type `" ++ type ++ "` does not satisfy interface `" ++ interface ++ "`: missing field `" ++
        field ++ "`"
  | fieldType interface type field expected found =>
      "interface field `" ++ interface ++ "." ++ field ++ "` expects type `" ++ expected ++
        "` but `" ++ type ++ "." ++ field ++ "` of type `" ++ found ++ "` is not a proper subtype"
  | missingArgument interface type field argument =>
      "interface field `" ++ interface ++ "." ++ field ++ "` expects argument `" ++ argument ++
        "` but `" ++ type ++ "." ++ field ++ "` does not provide it"
  | argumentType interface type field argument expected found =>
      "interface field `" ++ interface ++ "." ++ field ++ "` expects argument `" ++ argument ++
        "` of type `" ++ expected ++ "` but `" ++ type ++ "." ++ field ++ "` provides type `" ++
        found ++ "`"
  | extraArgument interface type field argument =>
      "`" ++ type ++ "." ++ field ++ "` has extra required argument `" ++ argument ++
        "` not present in interface `" ++ interface ++ "." ++ field ++ "`"
  | undefinedDirective name => "cannot find directive `@" ++ name ++ "` in this document"
  | unsupportedLocation name location =>
      name ++ " directive is not supported for " ++ location ++ " location"
  | repeatedDirective name =>
      "non-repeatable directive " ++ name ++ " can only be used once per location"
  | recursiveDirective name => "`" ++ name ++ "` directive definition cannot reference itself"
  | undefinedArgument name directive =>
      "the argument `" ++ name ++ "` is not supported by `@" ++ directive ++ "`"
  | repeatedArgument name => "the argument `" ++ name ++ "` is provided more than once"
  | requiredArgument directive name =>
      "the required argument `@" ++ directive ++ "(" ++ name ++ ":)` is not provided"
  | valueType expected found => "expected value of type " ++ expected ++ ", found " ++ found
  | undefinedEnumValue value type =>
      "value `" ++ value ++ "` does not exist on `" ++ type ++ "`"
  | undefinedInputField field type =>
      "field `" ++ field ++ "` does not exist on `" ++ type ++ "`"
  | requiredInputField type field =>
      "the required field `" ++ type ++ "." ++ field ++ "` is not provided"
  | intRange => "int cannot represent non 32-bit signed integer value"
  | floatRange => "float cannot represent non-finite 64-bit floating point value"

/-- A problem at a position; some problems are of the schema as a whole and have none. -/
structure Diagnostic where
  /-- The position. -/
  position : Option Position
  /-- What is wrong. -/
  problem : Problem
deriving DecidableEq, Repr, Inhabited

/-- Whether a diagnostic is reported no later than another: those without a position come first. -/
def Diagnostic.le (a b : Diagnostic) : Bool :=
  match a.position, b.position with
  | none, _ => true
  | some _, none => false
  | some p, some q => p.le q

/-- Diagnostics in the order in which they are reported; at one position they keep their order. -/
def inReportOrder (diagnostics : List Diagnostic) : List Diagnostic :=
  diagnostics.mergeSort Diagnostic.le

end ResolverTypes.Schema
