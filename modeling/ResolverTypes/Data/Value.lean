import ResolverTypes.Data.Decimal

/-!
# Values

What a text of data says.  A `Tree` is what a reader finds, in which a mapping may have keys of any
form.  A `Value` is what a program works with; the keys of its objects are names.

## Main definitions

* `Numeral` : a finite number.
* `Value` : a value.
* `Tree` : a value as it is read, with the keys of its mappings in `Key`.
* `Value.toTree`, `Tree.value?` : a value as a tree, and back.

## Main results

* `Tree.value?_toTree` : a value is read back from its tree.
-/

namespace ResolverTypes

/-- A finite number. -/
inductive Numeral where
  /-- A whole number of at most 64 bits. -/
  | integer (value : Int)
  /-- A number of double precision. -/
  | decimal (value : Decimal)
deriving DecidableEq, Repr, Inhabited

/-- Whether a whole number has at most 64 bits, with or without a sign. -/
def Numeral.isWord (n : Int) : Bool :=
  -9223372036854775808 ≤ n && n ≤ 18446744073709551615

/-- A value of a data format. -/
inductive Value where
  /-- The missing value. -/
  | null
  /-- A truth value. -/
  | boolean (value : Bool)
  /-- A number. -/
  | number (value : Numeral)
  /-- A text. -/
  | string (text : String)
  /-- A list of values. -/
  | list (items : List Value)
  /-- A list of values with names; of a name that stands twice the last value counts. -/
  | object (entries : List (String × Value))
deriving Inhabited

/-- The key of an entry of a mapping. -/
inductive Key where
  /-- A text. -/
  | name (text : String)
  /-- A natural number. -/
  | index (number : Nat)
  /-- Anything else. -/
  | other
deriving DecidableEq, Repr, Inhabited

/-- A value as it is read from a text. -/
inductive Tree where
  /-- The missing value. -/
  | null
  /-- A truth value. -/
  | boolean (value : Bool)
  /-- A number. -/
  | number (value : Numeral)
  /-- A text. -/
  | string (text : String)
  /-- A list. -/
  | list (items : List Tree)
  /-- A mapping. -/
  | mapping (entries : List (Key × Tree))
deriving Inhabited

mutual

/-- A value as a tree. -/
def Value.toTree : Value → Tree
  | .null => .null
  | .boolean value => .boolean value
  | .number value => .number value
  | .string text => .string text
  | .list items => .list (toTrees items)
  | .object entries => .mapping (toTreeEntries entries)

/-- Values as trees. -/
def Value.toTrees : List Value → List Tree
  | [] => []
  | value :: rest => value.toTree :: toTrees rest

/-- The entries of an object as entries of a mapping. -/
def Value.toTreeEntries : List (String × Value) → List (Key × Tree)
  | [] => []
  | (name, value) :: rest => (.name name, value.toTree) :: toTreeEntries rest

end

mutual

/-- The value that a tree stands for, if the keys of its mappings are names. -/
def Tree.value? : Tree → Option Value
  | .null => some .null
  | .boolean value => some (.boolean value)
  | .number value => some (.number value)
  | .string text => some (.string text)
  | .list items => (values? items).map .list
  | .mapping entries => (valueEntries? entries).map .object

/-- The values that trees stand for. -/
def Tree.values? : List Tree → Option (List Value)
  | [] => some []
  | tree :: rest => do return (← tree.value?) :: (← values? rest)

/-- The entries of the object that a mapping stands for. -/
def Tree.valueEntries? : List (Key × Tree) → Option (List (String × Value))
  | [] => some []
  | (.name name, tree) :: rest => do return (name, ← tree.value?) :: (← valueEntries? rest)
  | _ :: _ => none

end

mutual

theorem Tree.value?_toTree : (value : Value) → value.toTree.value? = some value
  | .null => rfl
  | .boolean _ => rfl
  | .number _ => rfl
  | .string _ => rfl
  | .list items => by simp [Value.toTree, Tree.value?, Tree.values?_toTrees items]
  | .object entries => by simp [Value.toTree, Tree.value?, Tree.valueEntries?_toTreeEntries entries]

theorem Tree.values?_toTrees : (values : List Value) →
    Tree.values? (Value.toTrees values) = some values
  | [] => rfl
  | value :: rest => by
      simp [Value.toTrees, Tree.values?, Tree.value?_toTree value, Tree.values?_toTrees rest]

theorem Tree.valueEntries?_toTreeEntries : (entries : List (String × Value)) →
    Tree.valueEntries? (Value.toTreeEntries entries) = some entries
  | [] => rfl
  | (name, value) :: rest => by
      simp [Value.toTreeEntries, Tree.valueEntries?, Tree.value?_toTree value,
        Tree.valueEntries?_toTreeEntries rest]

end

end ResolverTypes
