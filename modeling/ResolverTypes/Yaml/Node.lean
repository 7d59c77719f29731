import ResolverTypes.Yaml.Token

/-!
# Nodes of YAML

A node is a scalar, a list or a mapping, perhaps with a tag.  Nodes are read from tokens.  A node
that has a name may be used again by that name, once it has been read as a whole.

## Main definitions

* `Yaml.Node` : a node.
* `Yaml.NodeReader` : a computation that reads nodes.
* `Yaml.node` : the node that comes next.
-/

namespace ResolverTypes.Yaml

/-- A node. -/
inductive Node where
  /-- A scalar with its tag, how it is written and its text. -/
  | scalar (tag : Option Tag) (style : ScalarStyle) (text : String)
  /-- A list with its tag. -/
  | list (tag : Option Tag) (items : List Node)
  /-- A mapping with its tag. -/
  | mapping (tag : Option Tag) (entries : List (Node × Node))
deriving Inhabited

/-- A scalar of which nothing is written. -/
def Node.empty : Node := .scalar none .plain ""

/-- The state of a reader of nodes. -/
structure NodeState where
  /-- The text behind the next token. -/
  text : YamlState
  /-- The next token, if it is known. -/
  next : Option YamlToken := none
  /-- The names of nodes, the latest first, each with the number of names in front of it. -/
  names : List (String × Nat) := []
  /-- The nodes that have a name and have been read, by the number of names in front, each with its
  size. -/
  named : List (Nat × Node × Nat) := []
  /-- What stands for the starts of tags. -/
  tagStarts : List (String × String) := []
  /-- The number of parts of the nodes that have been read. -/
  size : Nat := 0
  /-- The number of parts that have been read by a name. -/
  sizeByName : Nat := 0
  /-- The number of times that a name has been used. -/
  nameUses : Nat := 0

/-- A computation that reads nodes. -/
abbrev NodeReader := StateT NodeState Option

/-- The next token; it stays to be read. -/
def peek : NodeReader YamlToken := do
  let s ← get
  match s.next with
  | some token => return token
  | none =>
      let some (token, text) := nextToken.run s.text | failure
      set { s with text, next := some token }
      return token

/-- Reads the next token. -/
def pop : NodeReader Unit := modify fun s => { s with next := none }

/-- Whether the next token is one of some tokens. -/
def atOneOf (tokens : List YamlToken) : NodeReader Bool := return tokens.contains (← peek)

/-- Reads the next token if it is a given one, and says whether it was. -/
def eat (token : YamlToken) : NodeReader Bool := do
  let found := (← peek) == token
  if found then pop
  return found

/-- A number of rounds in which all that is left can be read. -/
def roundsLeft : NodeReader Nat := do
  let s ← get
  return 4 * s.text.rest.length + s.text.tokens.length + s.text.indents.length + 8

/-! ### Properties -/

/-- What stands in front of a node. -/
structure Properties where
  /-- The number of names in front of that of the node, if it has one. -/
  name : Option Nat := none
  /-- The tag of the node. -/
  tag : Option Tag := none
deriving DecidableEq, Inhabited

/-- Whether nothing stands in front of a node. -/
def Properties.isEmpty (properties : Properties) : Bool :=
  properties.name.isNone && properties.tag.isNone

/-- Reads the name of a node, if it has one. -/
def nameIfAny : NodeReader (Option Nat) := do
  match ← peek with
  | .anchor name _ =>
      pop
      let number := (← get).names.length
      modify fun s => { s with names := (name, number) :: s.names }
      return some number
  | _ => return none

/-- The tag that is written in two parts, of which the first may stand for a longer one. -/
def Tag.resolve? (starts : List (String × String)) (handle name : String) : Option Tag :=
  match starts.lookup handle with
  | some start => some (.ofParts start name)
  | none =>
      if handle = "!!" then some (.ofParts Tag.ownStart name)
      else if handle = "" ∨ handle = "!" then some (.ofParts handle name)
      else none

/-- Reads the tag of a node, if it has one. -/
def tagIfAny : NodeReader (Option Tag) := do
  match ← peek with
  | .tag handle name _ =>
      pop
      let some tag := Tag.resolve? (← get).tagStarts handle name | failure
      return some tag
  | _ => return none

/-- Reads what stands in front of a node. -/
def properties : NodeReader Properties := do
  match ← nameIfAny with
  | some name => return { name, tag := ← tagIfAny }
  | none =>
      match ← tagIfAny with
      | some tag => return { name := ← nameIfAny, tag }
      | none => return {}

/-- Counts a part of a node. -/
def countPart : NodeReader Unit := modify fun s => { s with size := s.size + 1 }

/-- The greatest number of parts that are read by a name. -/
def sizeLimit : Nat := 1000000

/-- Reads a name in place of the node that has it. -/
def namedNode (name : String) : NodeReader Node := do
  pop
  let s ← get
  let some (node, size) := (s.names.lookup name).bind fun n => s.named.lookup n | failure
  modify fun s => { s with
    size := s.size + size, sizeByName := s.sizeByName + size, nameUses := s.nameUses + 1 }
  if sizeLimit < (← get).sizeByName then failure
  return node

/-! ### Nodes -/

/-- What a node starts with, behind its properties. -/
inductive NodeStart where
  /-- A name in place of the node. -/
  | byName (name : String)
  /-- A scalar. -/
  | scalar (style : ScalarStyle) (text : String)
  /-- A list between brackets. -/
  | bracketList
  /-- A mapping between brackets. -/
  | bracketMapping
  /-- A list on lines. -/
  | lineList
  /-- A list on lines that starts in the column of the mapping around. -/
  | levelList
  /-- A mapping on lines. -/
  | lineMapping
  /-- Nothing. -/
  | nothing
deriving DecidableEq

/-- Reads the properties of a node, and gives what follows them; whether the node may go on over
lines, and whether it may be a list in the column of the mapping around, are given. -/
def nodeStart (onLines level : Bool) : NodeReader (Properties × NodeStart) := do
  if let .nameUse name ← peek then return ({}, .byName name)
  let properties ← properties
  match ← peek with
  | .item => if level then return (properties, .levelList)
  | .scalar style text => return (properties, .scalar style text)
  | .bracketOpen => return (properties, .bracketList)
  | .braceOpen => return (properties, .bracketMapping)
  | .listStart => if onLines then return (properties, .lineList)
  | .mappingStart => if onLines then return (properties, .lineMapping)
  | _ => pure ()
  if properties.isEmpty then failure
  return (properties, .nothing)

/-- How a scalar counts that has a name: with nothing in single quotes, as one of which nothing is
written. -/
def namedStyle (properties : Properties) (style : ScalarStyle) (text : String) : ScalarStyle :=
  if properties.name.isSome && style == .single && text == "" then .plain else style

/-- Reads nodes until a token ends them, for a number of rounds. -/
def nodeRounds {α : Type} (goesOn : NodeReader Bool) (item : NodeReader α) :
    Nat → NodeReader (List α)
  | 0 => failure
  | n + 1 => do
      if ← goesOn then
        let first ← item
        return first :: (← nodeRounds goesOn item n)
      else return []

/-- A node, unless one of some tokens comes next. -/
def nodeUnless (tokens : List YamlToken) (node : NodeReader Node) : NodeReader Node := do
  if ← atOneOf tokens then
    countPart
    return .empty
  else node

/-- The items of a list on lines. -/
def lineItems (node : NodeReader Node) : NodeReader (List Node) := do
  nodeRounds (return !(← eat .collectionEnd))
    (do
      unless ← eat .item do failure
      nodeUnless [.item, .collectionEnd] node)
    (← roundsLeft)

/-- The items of a list on lines in the column of the mapping around. -/
def levelItems (node : NodeReader Node) : NodeReader (List Node) := do
  nodeRounds (eat .item) (nodeUnless [.item, .key, .value, .collectionEnd] node) (← roundsLeft)

/-- The entries of a mapping on lines. -/
def lineEntries (node : NodeReader Node) : NodeReader (List (Node × Node)) := do
  let side : NodeReader Node := nodeUnless [.key, .value, .collectionEnd] node
  nodeRounds (return !(← eat .collectionEnd))
    (do
      let key ←
        if ← eat .key then side
        else if ← atOneOf [.value] then do
          countPart
          pure Node.empty
        else failure
      let value ← if ← eat .value then side else do
        countPart
        pure Node.empty
      return (key, value))
    (← roundsLeft)

/-- The value of an entry between brackets, given the tokens that end it. -/
def bracketValue (ends : List YamlToken) (node : NodeReader Node) : NodeReader Node := do
  if ← eat .value then nodeUnless ends node
  else
    countPart
    return .empty

/-- Reads the comma in front of an item between brackets, unless the item is the first, and says
whether there is an item up to a closing token. -/
def goesOnBefore (closing : YamlToken) (isFirst : Bool) : NodeReader Bool := do
  if ← eat closing then return false
  if isFirst then return true
  unless ← eat .comma do failure
  return !(← eat closing)

/-- Reads items between brackets, for a number of rounds. -/
def bracketRounds {α : Type} (closing : YamlToken) (item : NodeReader α) :
    Nat → Bool → NodeReader (List α)
  | 0, _ => failure
  | n + 1, isFirst => do
      if ← goesOnBefore closing isFirst then
        let first ← item
        return first :: (← bracketRounds closing item n false)
      else return []

/-- An item of a list between brackets: a node, or an entry that is a mapping of its own. -/
def bracketItem (node : NodeReader Node) : NodeReader Node := do
  if ← eat .key then
    countPart
    let key ← nodeUnless [.comma, .bracketClose, .value] node
    let value ← bracketValue [.comma, .bracketClose] node
    return .mapping none [(key, value)]
  else node

/-- An entry of a mapping between brackets. -/
def bracketEntry (node : NodeReader Node) : NodeReader (Node × Node) := do
  let ends := [YamlToken.comma, .braceClose]
  if ← eat .key then
    let key ← nodeUnless (.value :: ends) node
    return (key, ← bracketValue ends node)
  else if ← atOneOf [.value] then
    countPart
    return (.empty, ← bracketValue ends node)
  else
    let key ← node
    countPart
    return (key, .empty)

/-- Reads the node that starts in a given way, behind its properties; how the nodes in it are read
is given. -/
def nodeBehind (node : Bool → Bool → NodeReader Node) (properties : Properties) :
    NodeStart → NodeReader Node
  | .byName name => namedNode name
  | .scalar style text => do
      pop
      countPart
      return .scalar properties.tag (namedStyle properties style text) text
  | .bracketList => do
      pop
      countPart
      let items ← bracketRounds .bracketClose (bracketItem (node false false)) (← roundsLeft) true
      return .list properties.tag items
  | .bracketMapping => do
      pop
      countPart
      let entries ← bracketRounds .braceClose (bracketEntry (node false false)) (← roundsLeft) true
      return .mapping properties.tag entries
  | .lineList => do
      pop
      countPart
      return .list properties.tag (← lineItems (node true false))
  | .levelList => do
      countPart
      return .list properties.tag (← levelItems (node true false))
  | .lineMapping => do
      pop
      countPart
      return .mapping properties.tag (← lineEntries (node true true))
  | .nothing => do
      countPart
      return .scalar properties.tag .plain ""

/-- Reads a node in which nodes are nested less deeply than a bound; whether it may go on over
lines, and whether it may be a list in the column of the mapping around, are given. -/
def node : Nat → Bool → Bool → NodeReader Node
  | 0, _, _ => failure
  | depth + 1, onLines, level => do
      let (properties, start) ← nodeStart onLines level
      let before := (← get).size
      let found ← nodeBehind (node depth) properties start
      if let some name := properties.name then
        modify fun s => { s with named := (name, found, s.size - before) :: s.named }
      return found

end ResolverTypes.Yaml
