import ResolverTypes.Schema.Position

/-!
# Definitions of a schema

What a schema text consists of: definitions of types, directives and the schema itself, and
extensions of them.  Every part keeps the position at which it is written.

## Main definitions

* `TypeSyntax` : a type as it is written, with its spelling `TypeSyntax.spelling`.
* `TypeBody`, `TypeDefinition` : the definition, or an extension, of a type.
* `DirectiveDefinition`, `SchemaClause` : the definition of a directive and of the schema.
* `Definition` : any part of a schema text.
-/

namespace ResolverTypes.Schema

/-! ### Types and values -/

/-- A type as it is written: a name or a list, with or without an exclamation mark. -/
inductive TypeSyntax where
  /-- A named type. -/
  | named (name : Name) (nonNull : Bool)
  /-- A list. -/
  | list (item : TypeSyntax) (nonNull : Bool)
deriving DecidableEq, Repr, Inhabited

namespace TypeSyntax

/-- The name inside all lists. -/
def innerName : TypeSyntax → Name
  | .named name _ => name
  | .list item _ => item.innerName

/-- Whether the type ends in an exclamation mark. -/
def isNonNull : TypeSyntax → Bool
  | .named _ nonNull => nonNull
  | .list _ nonNull => nonNull

/-- The type as it is written. -/
def spelling : TypeSyntax → String
  | .named name nonNull => name.value ++ if nonNull then "!" else ""
  | .list item nonNull => "[" ++ item.spelling ++ "]" ++ if nonNull then "!" else ""

/-- Whether two types are written alike, wherever they stand. -/
def sameAs : TypeSyntax → TypeSyntax → Bool
  | .named a m, .named b n => a.value == b.value && m == n
  | .list a m, .list b n => a.sameAs b && m == n
  | _, _ => false

end TypeSyntax

/-- A value as it is written. -/
inductive ValueSyntax where
  | null
  | boolean (value : Bool)
  | int (text : String)
  | float (text : String)
  | string
  | enum (name : String)
  | variable (name : String)
  | list (items : List (Located ValueSyntax))
  | object (fields : List (String × Located ValueSyntax))
deriving Inhabited

/-- The words for the kind of a value. -/
def ValueSyntax.description : ValueSyntax → String
  | .null => "null"
  | .boolean _ => "a boolean"
  | .int _ => "an integer"
  | .float _ => "a float"
  | .string => "a string"
  | .enum _ => "an enum"
  | .variable _ => "a variable"
  | .list _ => "a list"
  | .object _ => "an input object"

/-! ### Parts of definitions -/

/-- An argument given to a directive. -/
structure ArgumentUse where
  /-- The name of the argument. -/
  name : Name
  /-- The value given to it. -/
  value : Located ValueSyntax
deriving Inhabited

/-- The use of a directive. -/
structure DirectiveUse where
  /-- The name of the directive. -/
  name : Name
  /-- The arguments given to it. -/
  arguments : List ArgumentUse
  /-- The position of the use. -/
  position : Option Position
deriving Inhabited

/-- An argument of a field or directive, or a field of an input. -/
structure InputValue where
  /-- The name. -/
  name : Name
  /-- The type of the values. -/
  type : TypeSyntax
  /-- Whether a value is given for when there is none. -/
  hasDefault : Bool
  /-- The directives used on it. -/
  directives : List DirectiveUse
  /-- The position, with any description. -/
  position : Option Position
deriving Inhabited

/-- Whether a value has to be given. -/
def InputValue.isRequired (value : InputValue) : Bool := value.type.isNonNull && !value.hasDefault

/-- A field of an object or interface. -/
structure Field where
  /-- The name. -/
  name : Name
  /-- The arguments. -/
  arguments : List InputValue
  /-- The type of the field's value. -/
  type : TypeSyntax
  /-- The directives used on it. -/
  directives : List DirectiveUse
  /-- The position, with any description. -/
  position : Option Position
deriving Inhabited

/-- A value of an enum. -/
structure EnumValue where
  /-- The name. -/
  name : Name
  /-- The directives used on it. -/
  directives : List DirectiveUse
  /-- The position, with any description. -/
  position : Option Position
deriving Inhabited

/-! ### Types -/

/-- The part of a type's definition that differs from kind to kind. -/
inductive TypeBody where
  | scalar
  | object (implements : List Name) (fields : List Field)
  | interface (implements : List Name) (fields : List Field)
  | union (members : List Name)
  | enum (values : List EnumValue)
  | input (fields : List InputValue)
deriving Inhabited

/-- The kind of a type, with its article. -/
def TypeBody.description : TypeBody → String
  | .scalar => "a scalar type"
  | .object .. => "an object type"
  | .interface .. => "an interface type"
  | .union .. => "a union type"
  | .enum .. => "an enum type"
  | .input .. => "an input object type"

/-- The definition of a type, or an extension of one. -/
structure TypeDefinition where
  /-- The name of the type. -/
  name : Name
  /-- The directives used on it. -/
  directives : List DirectiveUse
  /-- What the type consists of. -/
  body : TypeBody
  /-- The position, with any description; a built-in type has none. -/
  position : Option Position
deriving Inhabited

/-- Whether a value of a type can be an argument. -/
def TypeDefinition.isInputType (type : TypeDefinition) : Bool :=
  match type.body with
  | .scalar | .enum _ | .input _ => true
  | _ => false

/-- Whether a type is built in. -/
def TypeDefinition.isBuiltIn (type : TypeDefinition) : Bool := type.position.isNone

/-! ### Directives and the schema -/

/-- The names of the places at which directives may stand. -/
def directiveLocations : List String :=
  ["QUERY", "MUTATION", "SUBSCRIPTION", "FIELD", "FRAGMENT_DEFINITION", "FRAGMENT_SPREAD",
    "INLINE_FRAGMENT", "VARIABLE_DEFINITION", "SCHEMA", "SCALAR", "OBJECT", "FIELD_DEFINITION",
    "ARGUMENT_DEFINITION", "INTERFACE", "UNION", "ENUM", "ENUM_VALUE", "INPUT_OBJECT",
    "INPUT_FIELD_DEFINITION"]

/-- The definition of a directive. -/
structure DirectiveDefinition where
  /-- The name of the directive. -/
  name : Name
  /-- The arguments. -/
  arguments : List InputValue
  /-- Whether the directive may stand several times at one place. -/
  repeatable : Bool
  /-- The places at which the directive may stand. -/
  locations : List String
  /-- The position, with any description. -/
  position : Option Position
deriving Inhabited

/-- Whether a directive is built in; only then its name is written in no text. -/
def DirectiveDefinition.isBuiltIn (definition : DirectiveDefinition) : Bool :=
  definition.name.position.isNone

/-- The kinds of operations. -/
inductive OperationKind where
  | query
  | mutation
  | subscription
deriving DecidableEq, Repr, Inhabited

/-- The word for a kind of operations. -/
def OperationKind.keyword : OperationKind → String
  | .query => "query"
  | .mutation => "mutation"
  | .subscription => "subscription"

/-- The name that the root of a kind of operations has by default. -/
def OperationKind.defaultTypeName : OperationKind → String
  | .query => "Query"
  | .mutation => "Mutation"
  | .subscription => "Subscription"

/-- The naming of a root. -/
structure RootClause where
  /-- The kind of operations that start at the root. -/
  kind : OperationKind
  /-- The type that is the root. -/
  type : Name
  /-- The position of the naming. -/
  position : Option Position
deriving Inhabited

/-- The definition of the schema itself, or an extension of it. -/
structure SchemaClause where
  /-- The directives used on the schema. -/
  directives : List DirectiveUse
  /-- The roots. -/
  roots : List RootClause
  /-- The position, with any description. -/
  position : Option Position
deriving Inhabited

/-- A part of a schema text. -/
inductive Definition where
  | schema (clause : SchemaClause)
  | schemaExtension (clause : SchemaClause)
  | type (definition : TypeDefinition)
  | typeExtension (definition : TypeDefinition)
  | directive (definition : DirectiveDefinition)
  | operation (position : Option Position)
  | fragment (position : Option Position)
deriving Inhabited

end ResolverTypes.Schema
