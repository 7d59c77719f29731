import ResolverTypes.Contract.Options
import ResolverTypes.Text.EditDistance

/-!
# Warnings on model bindings

A binding that names no type of the schema has no effect, and a type without a binding has values
of which nothing is known.  Neither stops generation; both are worth a warning.

## Main definitions

* `BindingWarning` : a warning, with its text `BindingWarning.message`.
* `closestMatch` : the name that a misspelt name was most likely meant to be.
* `bindingWarnings` : all warnings on the bindings of a project.
-/

namespace ResolverTypes

/-- A mismatch between the bindings of a project and the types of its schema. -/
inductive BindingWarning where
  /-- A binding names no type of the schema. -/
  | unknownType (typeName : String) (suggestion : Option String)
  /-- A type of the schema has no binding. -/
  | unbound (typeName : String)
deriving DecidableEq, Inhabited

namespace BindingWarning

/-- The type that a warning is about. -/
def typeName : BindingWarning → String
  | .unknownType name _ => name
  | .unbound name => name

/-- The text of a warning. -/
def message : BindingWarning → String
  | .unknownType name suggestion =>
      "models entry '" ++ name ++ "' does not name an object, interface or union type" ++
        match suggestion with
        | some other => " (did you mean '" ++ other ++ "'?)"
        | none => ""
  | .unbound name => "type '" ++ name ++ "' has no models entry; its values are typed as unknown"

end BindingWarning

/-- The greatest distance at which a name still counts as a misspelling: a third of its length, and
two at least. -/
def misspellingBound (name : String) : Nat := max (name.length / 3) 2

/-- Of two candidates, each with its distance, the nearer, and of two as near the one whose name
comes first. -/
def nearer (a b : Nat × String) : Nat × String :=
  if b.1 < a.1 ∨ b.1 = a.1 ∧ b.2 < a.2 then b else a

/-- The nearest candidate for a misspelt name, if one is near enough. -/
def closestMatch (name : String) (candidates : List String) : Option String :=
  let near := (candidates.map fun c => (Text.editDistance name c, c)).filter
    fun c => c.1 ≤ misspellingBound name
  match near with
  | [] => none
  | c :: cs => some (cs.foldl nearer c).2

/-- The warnings on bindings: first the bindings that name none of the types, in the order of the
names, then the types without a binding, in the given order.  Roots need none. -/
def bindingWarnings (models : ModelBinding) (typeNames : List String) (isRoot : String → Bool) :
    List BindingWarning :=
  (models.keys.filter fun bound => !typeNames.contains bound).map
      (fun bound => .unknownType bound (closestMatch bound typeNames)) ++
    (typeNames.filter fun name => !isRoot name && !models.contains name).map .unbound

end ResolverTypes
