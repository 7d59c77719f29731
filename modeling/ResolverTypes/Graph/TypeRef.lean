/-!
# Type references

A reference to a type of the schema.  Where the schema language marks what cannot be null, a
reference marks what can: `[Post!]` is a nullable list of `Post`.

## Main definitions

* `Kind`, `NamedType` : a type's name together with the kind of its definition.
* `TypeRef` : a named type under lists and nullability.
* `TypeRef.IsCanonical` : a reference does not say twice in a row that a value may be null.
* `TypeRef.spelling` : the reference as the schema language writes it.
-/

namespace ResolverTypes

/-- The kinds of type definitions. -/
inductive Kind where
  | scalar
  | enum
  | object
  | interface
  | union
  | input
deriving DecidableEq, Repr, Inhabited

/-- The name of a type with the kind of its definition. -/
structure NamedType where
  /-- The kind of the definition. -/
  kind : Kind
  /-- The name. -/
  name : String
deriving DecidableEq, Repr, Inhabited

/-- A reference to a type. -/
inductive TypeRef where
  /-- A value of a named type, never null. -/
  | named (type : NamedType)
  /-- A list, never null. -/
  | list (item : TypeRef)
  /-- A value that may be null. -/
  | nullable (inner : TypeRef)
deriving DecidableEq, Repr, Inhabited

namespace TypeRef

/-- The named type under all lists and nullability. -/
def base : TypeRef → NamedType
  | .named type => type
  | .list item => item.base
  | .nullable inner => inner.base

/-- Whether the reference allows null at its top. -/
def isNullable : TypeRef → Bool
  | .nullable _ => true
  | _ => false

/-- A reference does not say twice in a row that a value may be null. -/
def IsCanonical : TypeRef → Prop
  | .named _ => True
  | .list item => item.IsCanonical
  | .nullable inner => inner.isNullable = false ∧ inner.IsCanonical

mutual

/-- The spelling of a reference, with an exclamation mark where null is not allowed. -/
def spelling : TypeRef → String
  | .nullable inner => inner.bareSpelling
  | .named type => type.name ++ "!"
  | .list item => "[" ++ item.spelling ++ "]!"

/-- The spelling of a reference without the exclamation mark at its end. -/
def bareSpelling : TypeRef → String
  | .nullable inner => inner.bareSpelling
  | .named type => type.name
  | .list item => "[" ++ item.spelling ++ "]"

end

end TypeRef

end ResolverTypes
