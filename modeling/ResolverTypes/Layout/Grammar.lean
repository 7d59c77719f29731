import ResolverTypes.Layout.Reader

/-!
# The grammar of a module

Phrases stand in phrases of the same kinds: types in types, values in values, statements in
statements.  A reader of a phrase is given the readers of the phrases that stand in it; a bound on
the depth ties them together.  A value may turn out to be what something is assigned or bound to; so
as much of it is kept as tells what it is then.

## Main definitions

* `Phrase` : a phrase as it is read.
* `Value`, `ValueForm` : a value.
* `Pattern`, `PatternForm` : what the parts of a value are bound to.
* `Grammar` : the readers of the phrases that stand in a phrase.
* `Grammar.failing` : the readers at a depth that is not read.
-/

namespace ResolverTypes.Layout

/-- A phrase as it is read, with what it is. -/
structure Phrase (form : Type) where
  /-- How it is laid out, with the comments in front of it. -/
  core : Layout
  /-- What it is. -/
  form : form
  /-- Where it starts. -/
  start : ModulePlace
  /-- The number of characters up to its end. -/
  stop : Nat
deriving Inhabited

/-- How a phrase is laid out, with the comments in front of it and behind it. -/
def Phrase.layout {form : Type} (phrase : Phrase form) : Layout :=
  .run [phrase.core, .behind phrase.stop]

/-- A phrase that ends here. -/
def ModuleReader.finishPhrase {form : Type} (start : ModulePlace) (kind : form) (layout : Layout) :
    ModuleReader (Phrase form) :=
  return ⟨.run [.before start.offset, layout], kind, start, (← get).stop.offset⟩

/-! ### Patterns -/

/-- What the parts of a value are bound to. -/
inductive PatternForm where
  /-- A variable. -/
  | name (text : String)
  /-- The items of a list. -/
  | array
  /-- The properties of an object. -/
  | object
  /-- What is left. -/
  | rest
  /-- A pattern with a value for where there is none. -/
  | assigned
  /-- A value that is assigned to. -/
  | place
  /-- Nothing that can be bound or assigned to. -/
  | invalid
deriving DecidableEq, Repr, Inhabited

/-- A pattern as it is read. -/
abbrev Pattern := Phrase PatternForm

/-! ### Values -/

/-- A property of an object, by what its values are. -/
inductive PropertyForm (value : Type) where
  /-- A variable whose value it has. -/
  | shorthand (key : Layout)
  /-- A variable, with a value for where there is none. -/
  | assigned (key : Layout) (given : value)
  /-- A value by a name, which is laid out. -/
  | pair (key : Layout) (given : value)
  /-- The properties of a value. -/
  | spread (given : value)
  /-- A function. -/
  | function
deriving Inhabited

/-- An item of a list, by what its values are. -/
structure ArrayItem (value : Type) where
  /-- The value. -/
  given : value
  /-- Where the points in front of it are, if it stands for all that it holds. -/
  dots : Option ModulePlace
deriving Inhabited

/-- What a value is, as far as it matters to what may stand around it. -/
inductive ValueForm where
  /-- A variable. -/
  | name (text : String)
  /-- A member of a value. -/
  | member
  /-- A member or a call that is left out where there is no value. -/
  | chain
  /-- The call of a function. -/
  | call
  /-- A new object; whether arguments are given. -/
  | creation (isCall : Bool)
  /-- A function with an arrow: whether its body is a block, whether it may wait, and how it is laid
  out behind the word that says so. -/
  | arrow (hasBlock isAsync : Bool) (rest : Layout)
  /-- A value with an operator in front. -/
  | unary (operator : String)
  /-- A value that is counted up or down, by an operator if one stands in front. -/
  | update (operator : Option String)
  /-- A value that is awaited. -/
  | awaited (inner : Phrase ValueForm)
  /-- Two values with an operator between them. -/
  | binary (operator : String)
  /-- One of two values. -/
  | conditional
  /-- An assignment by an operator, to a value. -/
  | assignment (operator : String) (target : Phrase ValueForm) (given : Phrase ValueForm)
  /-- An assignment to the parts of a value. -/
  | destructuring (target : Pattern) (given : Phrase ValueForm)
  /-- A value in parentheses. -/
  | parens (inner : Phrase ValueForm)
  /-- A number. -/
  | number (text : String)
  /-- A string. -/
  | string (text : String)
  /-- Any other literal. -/
  | literal
  /-- A template, with its text if it holds no value. -/
  | template (text : Option String)
  /-- An object, the comma behind its last property, and whether that comma is shown. -/
  | object (items : List (Phrase (PropertyForm (Phrase ValueForm)))) (comma : Option ModulePlace)
      (showsComma : Bool)
  /-- A list, the comma behind its last item, and whether that comma is shown. -/
  | array (items : List (Option (ArrayItem (Phrase ValueForm)))) (comma : Option ModulePlace)
      (showsComma : Bool)
  /-- The class that a class extends. -/
  | super
  /-- A value that is taken to be of a type; whether the type stands behind it and a word. -/
  | cast (inner : Phrase ValueForm) (hasWord : Bool)
  /-- A function or a class. -/
  | definition
  /-- Any other value. -/
  | other
deriving Inhabited

/-- Whether a value is a variable or a member, perhaps in parentheses or taken to be of a type. -/
def ValueForm.isSimpleTarget : ValueForm → Bool
  | .name word => word != "eval" && word != "arguments"
  | .member => true
  | .parens ⟨_, inner, _, _⟩ => inner.isSimpleTarget
  | .cast ⟨_, inner, _, _⟩ _ => inner.isSimpleTarget
  | _ => false

/-- Whether a value that is no simple target of an assignment is reported as such where calls are
denied or not. -/
def ValueForm.isDenied (deniesCalls : Bool) : ValueForm → Bool
  | .number _ | .string _ | .literal | .binary _ => false
  | .call => deniesCalls
  | .parens ⟨_, inner, _, _⟩ => inner.isDenied deniesCalls
  | _ => true

/-- Whether a value can be the target of an assignment as far as the reading goes. -/
def ValueForm.isTarget : ValueForm → Bool
  | .name _ | .member | .chain | .parens _ | .cast _ _ => true
  | _ => false

/-- A value as it is read. -/
abbrev Value := Phrase ValueForm

/-- A property of an object as it is read. -/
abbrev Property := Phrase (PropertyForm Value)

/-- How a value is read again as a pattern. -/
inductive PatternUse where
  /-- It is bound. -/
  | bound
  /-- It is assigned to. -/
  | assigned
  /-- It is part of what is assigned to. -/
  | assignedPart
deriving DecidableEq, Repr, Inhabited

/-- How the parts of a value are read again. -/
def PatternUse.part : PatternUse → PatternUse
  | .bound => .bound
  | _ => .assignedPart

/-! ### Readers -/

/-- The readers of the phrases that stand in a phrase. -/
structure Grammar where
  /-- A type. -/
  type : ModuleReader Layout
  /-- A type that no other is joined to by a mark. -/
  operatorType : ModuleReader Layout
  /-- A value without commas. -/
  value : ModuleReader Value
  /-- A value that no operator between two values takes apart. -/
  unary : ModuleReader Value
  /-- Values with operators between them. -/
  operation : ModuleReader Value
  /-- A new object, or a member of a value. -/
  creation : ModuleReader Value
  /-- A value that may be called. -/
  leftHand : ModuleReader Value
  /-- A value with the members behind it, without calls and brackets. -/
  members : Value → ModuleReader Value
  /-- An object. -/
  object : ModuleReader Value
  /-- A variable or the parts of a value that are bound. -/
  pattern : ModuleReader Pattern
  /-- A value that is read again as a pattern. -/
  asPattern : PatternUse → Value → ModuleReader Pattern
  /-- A statement; whether it may declare something is given. -/
  statement : Bool → ModuleReader Layout
  /-- A statement of a module or namespace. -/
  item : ModuleReader Layout
deriving Inhabited

/-- What is wrong where a value is asked for. -/
def valueExpected : String := "Expression expected"

/-- The readers at a depth that is not read. -/
def Grammar.failing : Grammar where
  type := ModuleReader.stopHere valueExpected
  operatorType := ModuleReader.stopHere valueExpected
  value := ModuleReader.stopHere valueExpected
  unary := ModuleReader.stopHere valueExpected
  operation := ModuleReader.stopHere valueExpected
  creation := ModuleReader.stopHere valueExpected
  leftHand := ModuleReader.stopHere valueExpected
  members := fun _ => ModuleReader.stopHere valueExpected
  object := ModuleReader.stopHere valueExpected
  pattern := ModuleReader.stopHere valueExpected
  asPattern := fun _ _ => ModuleReader.stopHere valueExpected
  statement := fun _ => ModuleReader.stopHere valueExpected
  item := ModuleReader.stopHere valueExpected

end ResolverTypes.Layout
