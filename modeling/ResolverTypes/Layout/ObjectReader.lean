import ResolverTypes.Layout.ClassReader

/-!
# Objects and lists of a module

Objects and lists that are written out break over lines, a property or an item to a line.  What they
are made of is kept, because an equals sign behind them makes them something that is assigned to.

## Main definitions

* `ModuleReader.finishValue` : a value that ends here.
* `ModuleReader.arguments` : the arguments of a call.
* `ModuleReader.objectOf`, `ModuleReader.arrayOf` : objects and lists.
-/

namespace ResolverTypes.Layout

/-- How an item of a list is laid out. -/
def ArrayItem.layout (item : ArrayItem Value) : Layout :=
  match item.dots with
  | some dots => .run [.before dots.offset, .text "...", item.given.layout]
  | none => item.given.layout

/-- Where an item of a list starts. -/
def ArrayItem.start (item : ArrayItem Value) : ModulePlace := item.dots.getD item.given.start

namespace ModuleReader

/-! ### Values -/

/-- A value that ends here. -/
def finishValue (start : ModulePlace) (form : ValueForm) (layout : Layout) : ModuleReader Value :=
  finishPhrase start form layout

/-- A value of a form, which ends where the reader of its layout ends. -/
def valueOfForm (form : ValueForm) (reader : ModuleReader Layout) : ModuleReader Value := do
  let start ← here
  finishValue start form (← reader)

/-- Reads in the surroundings of a value between marks. -/
def enclosed {α : Type} (reader : ModuleReader α) : ModuleReader α :=
  within (fun c => { c with withoutIn := false, awaitsColon := false }) reader

/-- A value that may stand for all that it holds. -/
def spreadOrValue (g : Grammar) : ModuleReader (ArrayItem Value) := do
  let start ← here
  let isSpread ← eatMark "..."
  return ⟨← g.value, if isSpread then some start else none⟩

/-- The arguments of a call, in parentheses. -/
def arguments (g : Grammar) : ModuleReader Layout := do
  mark "("
  let given ← enclosed do
    many (return !(← atMark ")") && !(← atEnd)) do
      let item ← spreadOrValue g
      unless (← atMark ")") || (← atEnd) do mark ","
      return item
  mark ")"
  return .parens (given.map ArrayItem.layout)

/-! ### Lists -/

/-- Reads the items of a list, for a number of rounds: an item that is left out is none. -/
def arrayRounds (g : Grammar) :
    Nat → List (Option (ArrayItem Value)) → ModuleReader (List (Option (ArrayItem Value)))
  | 0, items => return items.reverse
  | rounds + 1, items => do
      if (← atMark "]") || (← atEnd) then return items.reverse
      if ← eatMark "," then arrayRounds g rounds (none :: items)
      else
        let item ← spreadOrValue g
        unless ← atMark "]" do mark ","
        arrayRounds g rounds (some item :: items)

/-- The items of a list on lines of their own. -/
def arrayLayout (items : List (Option (ArrayItem Value))) (showsComma : Bool) : Layout :=
  let shown := items.map fun item => (item.map ArrayItem.layout).getD .nothing
  match shown.getLast? with
  | none => .text "[]"
  | some last =>
      let last := if showsComma then .run [last, .text ", "] else last
      .block "[" (Layout.withSeparator "," (shown.dropLast ++ [last])) "]"

/-- A list. -/
def arrayOf (g : Grammar) : ModuleReader Value := do
  let start ← here
  mark "["
  let items ← enclosed (do arrayRounds g (← rounds) [])
  let comma ← commaBefore
  let showsComma ← followsComma
  mark "]"
  finishValue start (.array items comma showsComma) (arrayLayout items showsComma)

/-! ### Objects -/

/-- A function of an object, behind its name: one that is called where the property is read or
written loses its types and its lack of a body. -/
def objectMethod (g : Grammar) (kind : FunctionKind) (call : MethodKind) (key : PropertyName) :
    ModuleReader Layout := do
  let parts ← functionParts g kind (call.check key.start)
  let body := parts.body.getD .nothing
  match call with
  | .plain =>
      return .run [.word kind.isAsync "async", .text (if kind.isGenerator then "*" else ""),
        key.layout, .text " ", parts.layout]
  | .getter => return .run [.text call.word, key.layout, .text " () ", body]
  | .setter =>
      return .run [.text call.word, key.layout, .text " ", .parens (parts.taken.map (·.core)), body]

/-- A property of an object whose value is that of a variable of its name. -/
def shorthandProperty (g : Grammar) (start : ModulePlace) (key : PropertyName) :
    ModuleReader Property := do
  if ← eatMark "=" then
    let given ← g.value
    finishPhrase start (.assigned key.layout given)
      (.run [key.layout, .text "=", given.layout])
  else finishPhrase start (.shorthand key.layout) key.layout

/-- A function of an object, behind a word that tells how it runs or how it is called; where a
modifier stands in front of the word is given. -/
def methodBehind (g : Grammar) (modified : Option ModulePlace) (word : String) :
    ModuleReader Layout := do
  if !(["get", "set", "async"].contains word) then
    stopUnexpected
      "... , *,  (, [, :, , ?, =, an identifier, public, protected, private, readonly, <."
  if let some place := modified then
    note place (inBackquotes "async" ++ " modifier cannot be used here")
  match word with
  | "get" => objectMethod g {} .getter (← propertyName g)
  | "set" => objectMethod g {} .setter (← propertyName g)
  | _ =>
      let isGenerator ← eatMark "*"
      objectMethod g { isAsync := true, isGenerator } .plain (← propertyName g)

/-- A property of an object, behind its name; where a modifier stands in front of it is given. -/
def propertyBehind (g : Grammar) (start : ModulePlace) (modified : Option ModulePlace)
    (key : PropertyName) : ModuleReader Property := do
  let token ← peek
  let isShort := token.isMark "\x7d" && key.plain.isSome
  if !(token.isAnyWord || token.isOneOf ["(", "[", ":", ",", "?", "=", "*", "<"] || isShort) then
    note token.start semicolonExpected
    return ← finishPhrase start .function .nothing
  if ← eatMark ":" then
    let given ← g.value
    return ← finishPhrase start (.pair key.layout given)
      (.run [key.layout, .text ": ", given.layout])
  if ← atOneOf ["(", "<"] then
    return ← finishPhrase start .function (← objectMethod g {} .plain key)
  let some word := key.plain | stopUnexpected "identifier"
  let question ← here
  if ← eatMark "?" then note question "An object member cannot be declared optional"
  if ← atOneOf ["=", ",", "\x7d"] then shorthandProperty g start key
  else finishPhrase start .function (← methodBehind g modified word)

/-- A property of an object. -/
def objectProperty (g : Grammar) : ModuleReader Property := do
  let start ← here
  if ← eatMark "..." then
    let given ← g.value
    return ← finishPhrase start (.spread given) (.run [.text "...", given.layout])
  if ← eatMark "*" then
    let kind : FunctionKind := { isGenerator := true }
    return ← finishPhrase start .function (← objectMethod g kind .plain (← propertyName g))
  let isModified ← eatParameterModifier
  propertyBehind g start (if isModified then some start else none) (← propertyName g)

/-- An object. -/
def objectOf (g : Grammar) : ModuleReader Value := do
  let start ← here
  mark "\x7b"
  let items ← enclosed (commaListOpen "\x7d" (objectProperty g))
  let comma ← commaBefore
  let showsComma ← followsComma
  mark "\x7d"
  let shown := items.map fun item => Layout.run [item.core, .close item.stop]
  finishValue start (.object items comma showsComma)
    (if items.isEmpty then .text "\x7b\x7d" else .braces (Layout.withSeparator "," shown))

end ModuleReader

end ResolverTypes.Layout
