import ResolverTypes.Schema.Basic
import ResolverTypes.Schema.Problem

/-!
# Implementing interfaces

A type that implements an interface implements the interfaces of that interface as well, and has
all its fields: each with the arguments of the interface's field, and of a type that the
interface's field allows.

## Main definitions

* `isSubtype` : whether the values of a type are values of another.
* `resultProblems`, `argumentProblems` : what is wrong with a field as an implementation of another.
* `implementationProblems` : what is wrong with the interfaces that a type implements.
-/

namespace ResolverTypes.Schema

variable (schema : Schema)

/-- Whether one named type stands for values of another: as a member of a union, or as an object or
interface that implements an interface. -/
def isPossibleType (name abstractName : String) : Bool :=
  let isMember :=
    match schema.type? abstractName with
    | some ⟨_, _, .union members, _⟩ => members.any (·.value == name)
    | _ => false
  let implementsIt :=
    match schema.type? name, schema.type? abstractName with
    | some ⟨_, _, .object implemented _, _⟩, some ⟨_, _, .interface .., _⟩ =>
        implemented.any (·.value == abstractName)
    | some ⟨_, _, .interface implemented _, _⟩, some ⟨_, _, .interface .., _⟩ =>
        implemented.any (·.value == abstractName)
    | _, _ => false
  isMember || implementsIt

/-- Whether the values of a type are values of another. -/
def isSubtype : TypeSyntax → TypeSyntax → Bool
  | .named name nonNull, .named other otherNonNull =>
      (nonNull || !otherNonNull) &&
        (name.value == other.value || isPossibleType schema name.value other.value)
  | .list item nonNull, .list other otherNonNull =>
      (nonNull || !otherNonNull) && isSubtype item other
  | _, _ => false

/-- What is wrong with the type of a field as an implementation of an interface's field. -/
def resultProblems (interface type : String) (expected field : Field) : List Diagnostic :=
  if isSubtype schema field.type expected.type then []
  else
    [⟨field.position,
      .fieldType interface type field.name.value expected.type.spelling field.type.spelling⟩]

/-- What is wrong with the arguments of a field as an implementation of an interface's field. -/
def argumentProblems (interface type : String) (expected field : Field) : List Diagnostic :=
  let name := field.name.value
  let askedFor : List Diagnostic :=
    expected.arguments.flatMap fun e =>
      match field.arguments.find? (·.name.value == e.name.value) with
      | none => [⟨field.position, .missingArgument interface type name e.name.value⟩]
      | some a =>
          if a.type.sameAs e.type then []
          else
            [⟨a.position,
              .argumentType interface type name e.name.value e.type.spelling a.type.spelling⟩]
  let extra : List Diagnostic :=
    field.arguments.filterMap fun a =>
      if a.isRequired && !expected.arguments.any (·.name.value == a.name.value) then
        some ⟨a.position, .extraArgument interface type name a.name.value⟩
      else none
  askedFor ++ extra

/-- The fields of the interfaces that a type implements, with the names of the interfaces. -/
def inheritedFields (implemented : List Name) : List (String × Field) :=
  implemented.flatMap fun i =>
    match schema.interface? i.value with
    | none => []
    | some (_, fields) => fields.map (i.value, ·)

/-- What is wrong with the interfaces that a type implements. -/
def implementationProblems (type : TypeDefinition) (implemented : List Name)
    (fields : List Field) : List Diagnostic :=
  let undefined : List Diagnostic :=
    implemented.filterMap fun i =>
      if (schema.interface? i.value).isSome then none
      else some ⟨i.position, .undefinedType i.value⟩
  let transitive : List Diagnostic :=
    implemented.flatMap fun i =>
      match schema.interface? i.value with
      | none => []
      | some (inherited, _) =>
          inherited.filterMap fun t =>
            if implemented.any (·.value == t.value) then none
            else some ⟨type.position, .missingTransitive type.name.value i.value t.value⟩
  let inherited := inheritedFields schema implemented
  let own? (expected : Field) : Option Field :=
    fields.find? (·.name.value == expected.name.value)
  let missing : List Diagnostic :=
    inherited.filterMap fun (interface, expected) =>
      if (own? expected).isSome then none
      else some ⟨type.position, .missingField type.name.value interface expected.name.value⟩
  let against (problems : String → String → Field → Field → List Diagnostic) : List Diagnostic :=
    inherited.flatMap fun (interface, expected) =>
      ((own? expected).map (problems interface type.name.value expected)).getD []
  undefined ++ transitive ++ missing ++ against (resultProblems schema) ++ against argumentProblems

end ResolverTypes.Schema
