import ResolverTypes.TypeScript.TypeExpr

/-!
# Declarations

The declarations of a generated module, as values without any layout.

## Main definitions

* `Declaration` : an exported interface, type alias or record of default resolvers.
* `Group` : the declarations of one schema type, which stand in a namespace of their own.
* `Group.contractMembers` : the members of the group's contract, the interface `Type`.
-/

namespace ResolverTypes.TypeScript

/-- An exported declaration. -/
inductive Declaration where
  /-- An interface with its members. -/
  | interface (name : String) (members : List (Member TypeExpr))
  /-- A name for a type. -/
  | typeAlias (name : String) (type : TypeExpr)
  /-- The record `defaultResolvers`: for each field a function that reads the field off a parent
  of the given type. -/
  | defaultResolvers (parent : TypeExpr) (fields : List String)
deriving DecidableEq

instance : Inhabited Declaration := ⟨.interface "" []⟩

/-- The name that a declaration introduces. -/
def Declaration.name : Declaration → String
  | .interface name _ => name
  | .typeAlias name _ => name
  | .defaultResolvers _ _ => "defaultResolvers"

/-- The name of the interface that a group's contract is. -/
def contractName : String := "Type"

/-- The name of the namespace that holds the declarations of a schema type. -/
def namespaceName (typeName : String) : String := typeName ++ "Resolvers"

/-- The declarations made for one schema type. -/
structure Group where
  /-- The name of the schema type. -/
  typeName : String
  /-- The declarations, in the order in which they are written. -/
  declarations : List Declaration
deriving DecidableEq, Inhabited

namespace Group

/-- The namespace in which the group stands. -/
def namespaceName (group : Group) : String := TypeScript.namespaceName group.typeName

/-- The first declaration of a name. -/
def get? (group : Group) (name : String) : Option Declaration :=
  group.declarations.find? fun d => d.name == name

/-- The members of the contract, none if the group has no interface of that name. -/
def contractMembers (group : Group) : List (Member TypeExpr) :=
  match group.get? contractName with
  | some (.interface _ members) => members
  | _ => []

end Group

end ResolverTypes.TypeScript
