import ResolverTypes.Contract.Field

/-!
# Contracts of interfaces and unions

A value of an interface or union is told apart in two ways that answer each other: the abstract
type's `__resolveType` names the object that a value is of, and an object's `__isTypeOf` says
whether a value is one of its own.

## Main definitions

* `resolveTypeMember` : the member `__resolveType` of an interface or union.
* `isTypeOfMember?` : the member `__isTypeOf` of an object that belongs to an abstract type.
-/

namespace ResolverTypes

open TypeScript

variable (graph : SchemaGraph) (options : Options)

/-- The type of a value that may be of any of some objects. -/
def possibleValues (objects : List ObjectDef) : TypeExpr :=
  .unionOf <| objects.map fun o => options.models.modelOr o.name .unknown

/-- The parameters of a function that tells values apart. -/
def discriminationParameters (value : TypeExpr) : List (Parameter TypeExpr) :=
  [⟨"value", value⟩, ⟨"context", options.context⟩, ⟨"info", .named infoType⟩]

/-- The member that names the object which a value of an interface or union is of. -/
def resolveTypeMember (abstractType : String) (optional : Bool) : Member TypeExpr :=
  let possible := graph.possibleTypes abstractType
  ⟨"__resolveType", optional,
    .function (discriminationParameters options (possibleValues options possible))
      (.deferred (.unionOf (possible.map fun o => .literal o.name)))⟩

/-- The objects of all interfaces and unions that an object belongs to. -/
def isTypeOfCandidates (object : ObjectDef) : List ObjectDef :=
  (graph.abstractTypesOf object.name).flatMap graph.possibleTypes

/-- The member that says whether a value is of an object; only an object that belongs to an
interface or union has it. -/
def isTypeOfMember? (object : ObjectDef) : Option (Member TypeExpr) :=
  let candidates := isTypeOfCandidates graph object
  if candidates.isEmpty then none
  else
    some ⟨"__isTypeOf", true,
      .function (discriminationParameters options (possibleValues options candidates))
        (.deferred .boolean)⟩

end ResolverTypes
