/-!
# Type expressions

The TypeScript types that a generated module is made of, as values.  A union is built by
`TypeExpr.unionOf`, which takes the members of the unions it is given and keeps each member once,
so that a union has at least two members, no two equal and none a union itself.

## Main definitions

* `TypeExpr` : a type.
* `TypeExpr.unionOf` : the union of a list of types.
* `TypeExpr.deferred` : a value or a promise of it.
* `TypeExpr.alternatives` : the members of a union, a type of another form being its own only
  member.

## Main results

* `TypeExpr.beq_iff` : the Boolean comparison of types decides equality.
-/

namespace ResolverTypes.TypeScript

/-- A parameter of a function type. -/
structure Parameter (τ : Type) where
  /-- The name of the parameter. -/
  name : String
  /-- The type of the argument it takes. -/
  type : τ
deriving DecidableEq

/-- A member of an object type or of an interface. -/
structure Member (τ : Type) where
  /-- The name of the member. -/
  name : String
  /-- Whether an object may lack the member. -/
  optional : Bool
  /-- The type of the member's value. -/
  type : τ
deriving DecidableEq

/-- A TypeScript type. -/
inductive TypeExpr where
  /-- A type that goes by its name. -/
  | named (name : String)
  /-- The type of one string. -/
  | literal (value : String)
  /-- An array. -/
  | array (item : TypeExpr)
  /-- A union; `TypeExpr.unionOf` builds one. -/
  | union (members : List TypeExpr)
  /-- A promise. -/
  | promise (value : TypeExpr)
  /-- An asynchronous iterator. -/
  | asyncIterator (item : TypeExpr)
  /-- A function. -/
  | function (parameters : List (Parameter TypeExpr)) (result : TypeExpr)
  /-- An object with the given members. -/
  | object (members : List (Member TypeExpr))

namespace TypeExpr

instance : Inhabited TypeExpr := ⟨.named ""⟩

/-! ### Equality -/

mutual

/-- Whether two types are the same. -/
def beq : TypeExpr → TypeExpr → Bool
  | .named a, .named b => a == b
  | .literal a, .literal b => a == b
  | .array a, .array b => beq a b
  | .union a, .union b => beqTypes a b
  | .promise a, .promise b => beq a b
  | .asyncIterator a, .asyncIterator b => beq a b
  | .function p a, .function q b => beqParameters p q && beq a b
  | .object a, .object b => beqMembers a b
  | _, _ => false

/-- Whether two lists of types are the same. -/
def beqTypes : List TypeExpr → List TypeExpr → Bool
  | [], [] => true
  | a :: as, b :: bs => beq a b && beqTypes as bs
  | _, _ => false

/-- Whether two lists of parameters are the same. -/
def beqParameters : List (Parameter TypeExpr) → List (Parameter TypeExpr) → Bool
  | [], [] => true
  | ⟨n, a⟩ :: as, ⟨m, b⟩ :: bs => n == m && beq a b && beqParameters as bs
  | _, _ => false

/-- Whether two lists of members are the same. -/
def beqMembers : List (Member TypeExpr) → List (Member TypeExpr) → Bool
  | [], [] => true
  | ⟨n, o, a⟩ :: as, ⟨m, p, b⟩ :: bs => n == m && o == p && beq a b && beqMembers as bs
  | _, _ => false

end

mutual

theorem beq_iff : (a b : TypeExpr) → (beq a b = true ↔ a = b)
  | .named a, b => by cases b <;> simp [beq]
  | .literal a, b => by cases b <;> simp [beq]
  | .array a, b => by cases b <;> simp [beq, beq_iff a]
  | .union a, b => by cases b <;> simp [beq, beqTypes_iff a]
  | .promise a, b => by cases b <;> simp [beq, beq_iff a]
  | .asyncIterator a, b => by cases b <;> simp [beq, beq_iff a]
  | .function p a, b => by cases b <;> simp [beq, beqParameters_iff p, beq_iff a]
  | .object a, b => by cases b <;> simp [beq, beqMembers_iff a]

theorem beqTypes_iff : (a b : List TypeExpr) → (beqTypes a b = true ↔ a = b)
  | [], b => by cases b <;> simp [beqTypes]
  | a :: as, b => by cases b <;> simp [beqTypes, beq_iff a, beqTypes_iff as]

theorem beqParameters_iff : (a b : List (Parameter TypeExpr)) → (beqParameters a b = true ↔ a = b)
  | [], b => by cases b <;> simp [beqParameters]
  | ⟨n, a⟩ :: as, [] => by simp [beqParameters]
  | ⟨n, a⟩ :: as, ⟨m, b⟩ :: bs => by
      simp [beqParameters, beq_iff a, beqParameters_iff as]

theorem beqMembers_iff : (a b : List (Member TypeExpr)) → (beqMembers a b = true ↔ a = b)
  | [], b => by cases b <;> simp [beqMembers]
  | ⟨n, o, a⟩ :: as, [] => by simp [beqMembers]
  | ⟨n, o, a⟩ :: as, ⟨m, p, b⟩ :: bs => by
      simp [beqMembers, beq_iff a, beqMembers_iff as, and_assoc]

end

instance : DecidableEq TypeExpr := fun a b => decidable_of_iff _ (beq_iff a b)

/-! ### Names of types -/

/-- The type of every value, unchecked. -/
def any : TypeExpr := .named "any"

/-- The type of every value. -/
def unknown : TypeExpr := .named "unknown"

/-- The type of the missing value. -/
def undefined : TypeExpr := .named "undefined"

/-- The type of no value. -/
def never : TypeExpr := .named "never"

/-- The type of strings. -/
def string : TypeExpr := .named "string"

/-- The type of numbers. -/
def number : TypeExpr := .named "number"

/-- The type of truth values. -/
def boolean : TypeExpr := .named "boolean"

/-- The type of objects of which nothing is asked. -/
def emptyRecord : TypeExpr := .object []

/-! ### Unions -/

/-- The members of a union; a type of another form is its own only member. -/
def alternatives : TypeExpr → List TypeExpr
  | .union members => members
  | type => [type]

/-- The union of a list of types: their alternatives in order, each once.  A union of nothing is
`never`, and a union of one alternative is that alternative. -/
def unionOf (types : List TypeExpr) : TypeExpr :=
  match (types.flatMap alternatives).eraseDups with
  | [] => never
  | [type] => type
  | members => .union members

/-- A value of a type, or a promise of one. -/
def deferred (type : TypeExpr) : TypeExpr := unionOf [type, .promise type]

@[simp]
theorem unionOf_nil : unionOf [] = never := rfl

end TypeExpr

end ResolverTypes.TypeScript
