import ResolverTypes.Schema.Definition

/-!
# Schemas

A schema is what the definitions of all texts come to once extensions are merged into what they
extend.  The scalars and the types of introspection are in every schema.

## Main definitions

* `Schema` : a schema.
* `Schema.type?`, `Schema.directive?` : look-up by name.
* `builtInTypes`, `builtInDirectives` : what is in every schema.
-/

namespace ResolverTypes

namespace Schema

/-- A definition that is built in. -/
def builtIn (body : TypeBody) (name : String) : TypeDefinition := ⟨⟨name, none⟩, [], body, none⟩

/-- A type named in a definition that is built in. -/
def builtInNamed (name : String) (nonNull : Bool := false) : TypeSyntax :=
  .named ⟨name, none⟩ nonNull

/-- A list of named items in a definition that is built in. -/
def builtInList (name : String) (nonNull : Bool := false) : TypeSyntax :=
  .list (builtInNamed name true) nonNull

/-- An argument of a definition that is built in. -/
def builtInArgument (name type : String) (nonNull hasDefault : Bool) : InputValue :=
  ⟨⟨name, none⟩, builtInNamed type nonNull, hasDefault, [], none⟩

/-- A field that is built in. -/
def builtInField (field : String × TypeSyntax) : Field := ⟨⟨field.1, none⟩, [], field.2, [], none⟩

/-- A field that is built in and may list what is deprecated. -/
def builtInListing (field : String × TypeSyntax) : Field :=
  { builtInField field with
    arguments := [builtInArgument "includeDeprecated" "Boolean" false true] }

/-- An object that is built in. -/
def builtInObject (name : String) (fields : List Field) : TypeDefinition :=
  builtIn (.object [] fields) name

/-- An enum that is built in. -/
def builtInEnum (name : String) (values : List String) : TypeDefinition :=
  builtIn (.enum (values.map fun v => ⟨⟨v, none⟩, [], none⟩)) name

/-- The types of introspection. -/
def introspectionTypes : List TypeDefinition :=
  let described : List Field :=
    [("name", builtInNamed "String" true), ("description", builtInNamed "String")].map builtInField
  let deprecated : List Field :=
    [("isDeprecated", builtInNamed "Boolean" true),
      ("deprecationReason", builtInNamed "String")].map builtInField
  [builtInObject "__Schema"
      ([("description", builtInNamed "String"), ("types", builtInList "__Type" true),
        ("queryType", builtInNamed "__Type" true), ("mutationType", builtInNamed "__Type"),
        ("subscriptionType", builtInNamed "__Type"),
        ("directives", builtInList "__Directive" true)].map builtInField),
    builtInObject "__Type"
      ([("kind", builtInNamed "__TypeKind" true), ("name", builtInNamed "String"),
        ("description", builtInNamed "String")].map builtInField ++
        [builtInListing ("fields", builtInList "__Field"),
          builtInField ("interfaces", builtInList "__Type"),
          builtInField ("possibleTypes", builtInList "__Type"),
          builtInListing ("enumValues", builtInList "__EnumValue"),
          builtInListing ("inputFields", builtInList "__InputValue"),
          builtInField ("ofType", builtInNamed "__Type"),
          builtInField ("specifiedByURL", builtInNamed "String")]),
    builtInEnum "__TypeKind"
      ["SCALAR", "OBJECT", "INTERFACE", "UNION", "ENUM", "INPUT_OBJECT", "LIST", "NON_NULL"],
    builtInObject "__Field"
      (described ++ [builtInListing ("args", builtInList "__InputValue" true),
        builtInField ("type", builtInNamed "__Type" true)] ++ deprecated),
    builtInObject "__InputValue"
      (described ++ [builtInField ("type", builtInNamed "__Type" true),
        builtInField ("defaultValue", builtInNamed "String")] ++ deprecated),
    builtInObject "__EnumValue" (described ++ deprecated),
    builtInObject "__Directive"
      (described ++ [builtInField ("locations", builtInList "__DirectiveLocation" true),
        builtInListing ("args", builtInList "__InputValue" true),
        builtInField ("isRepeatable", builtInNamed "Boolean" true)]),
    builtInEnum "__DirectiveLocation" directiveLocations]

/-- The types that are in every schema. -/
def builtInTypes : List TypeDefinition :=
  introspectionTypes ++ ["Int", "Float", "String", "Boolean", "ID"].map (builtIn .scalar)

/-- The directives that are in every schema. -/
def builtInDirectives : List DirectiveDefinition :=
  let selections := ["FIELD", "FRAGMENT_SPREAD", "INLINE_FRAGMENT"]
  let deprecatable :=
    ["FIELD_DEFINITION", "ARGUMENT_DEFINITION", "INPUT_FIELD_DEFINITION", "ENUM_VALUE"]
  let builtIn (name : String) (argument : InputValue) (locations : List String) (line : Nat) :
      DirectiveDefinition :=
    ⟨⟨name, none⟩, [argument], false, locations, some (.builtIn line)⟩
  [builtIn "skip" (builtInArgument "if" "Boolean" true false) selections 137,
    builtIn "include" (builtInArgument "if" "Boolean" true false) selections 143,
    builtIn "deprecated" (builtInArgument "reason" "String" false true) deprecatable 149,
    builtIn "specifiedBy" (builtInArgument "url" "String" true false) ["SCALAR"] 155]

end Schema

open Schema in
/-- A schema: its types and directives, and the clause that names its roots. -/
structure Schema where
  /-- The roots, the directives used on the schema, and the position of its definition; a schema
  without a definition has no position. -/
  clause : SchemaClause
  /-- The types, in the order of their definition. -/
  types : List TypeDefinition
  /-- The directives. -/
  directives : List DirectiveDefinition
deriving Inhabited

namespace Schema

variable (schema : Schema)

/-- The type of a name. -/
def type? (name : String) : Option TypeDefinition :=
  schema.types.find? (·.name.value == name)

/-- The directive of a name. -/
def directive? (name : String) : Option DirectiveDefinition :=
  schema.directives.find? (·.name.value == name)

/-- The root of a kind of operations. -/
def root? (kind : OperationKind) : Option Name :=
  (schema.clause.roots.find? (·.kind == kind)).map (·.type)

/-- The interfaces and fields of an interface type. -/
def interface? (name : String) : Option (List Name × List Field) :=
  match schema.type? name with
  | some ⟨_, _, .interface implemented fields, _⟩ => some (implemented, fields)
  | _ => none

/-- The fields of an input type. -/
def inputFields? (name : String) : Option (List InputValue) :=
  match schema.type? name with
  | some ⟨_, _, .input fields, _⟩ => some fields
  | _ => none

end Schema

end ResolverTypes
