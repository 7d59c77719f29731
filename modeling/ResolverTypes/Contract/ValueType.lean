import ResolverTypes.Contract.Options
import ResolverTypes.Graph.TypeRef

/-!
# Types of values

The TypeScript type of the values that a schema type reference describes.

## Main definitions

* `TypeRef.valueType` : the type of a value that is at hand, such as an argument.
* `TypeRef.resultType` : the type of a value that a resolver returns, at once or as a promise.
-/

namespace ResolverTypes

open TypeScript

variable (options : Options)

/-- The type of the values of a named type.  Enums and inputs go by their own names; the values of
objects, interfaces and unions are of the bound model, or unknown. -/
def NamedType.valueType (type : NamedType) : TypeExpr :=
  match type.kind with
  | .scalar => options.scalarType type.name
  | .enum | .input => .named type.name
  | .object | .interface | .union => options.models.modelOr type.name .unknown

/-- The type of the values that a reference describes. -/
def TypeRef.valueType : TypeRef → TypeExpr
  | .named type => type.valueType options
  | .list item => .array (valueType item)
  | .nullable inner => .unionOf [valueType inner, .undefined]

/-- The type of what a resolver returns for a reference: a value, or a promise of one. -/
def TypeRef.resultType (type : TypeRef) : TypeExpr := .deferred (type.valueType options)

end ResolverTypes
