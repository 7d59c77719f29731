import ResolverTypes.Yaml.Node

/-!
# Documents of YAML

A document is a node, which says something as a tree.  The keys of a mapping are distinct, and an
entry whose key is `<<` stands for the entries of other mappings.

## Main definitions

* `Yaml.Node.meaning?` : what a node says.
* `Yaml.readTree` : the tree of a text's document, and whether the text ends with it.
-/

namespace ResolverTypes.Yaml

/-! ### Keys -/

/-- A part of a node as far as it tells keys apart. -/
inductive KeyPart where
  /-- A scalar by its tag and its text. -/
  | scalar (tag : Option Tag) (text : String)
  /-- The start of a list. -/
  | list
  /-- The start of a mapping. -/
  | mapping
  /-- The end of a list or mapping. -/
  | close
deriving DecidableEq, Inhabited

/-- A tag as far as it tells keys apart: variants are all alike. -/
def Tag.forKeys : Tag → Tag
  | .variant _ => .idle
  | tag => tag

mutual

/-- The parts of a node that tell keys apart. -/
def Node.keyParts : Node → List KeyPart
  | .scalar tag _ text => [.scalar (tag.map Tag.forKeys) text]
  | .list _ items => .list :: (itemParts items ++ [.close])
  | .mapping _ entries => .mapping :: (entryParts entries ++ [.close])

/-- The parts of nodes that tell keys apart. -/
def itemParts : List Node → List KeyPart
  | [] => []
  | item :: rest => item.keyParts ++ itemParts rest

/-- The parts of entries that tell keys apart. -/
def entryParts : List (Node × Node) → List KeyPart
  | [] => []
  | (key, value) :: rest => key.keyParts ++ value.keyParts ++ entryParts rest

end

/-- Whether a node is the key of entries of other mappings. -/
def Node.isMerge : Node → Bool
  | .scalar none .plain "<<" => true
  | _ => false

/-- A tree as the key of an entry. -/
def keyOfTree : Tree → Key
  | .string text => .name text
  | .number (.integer n) => if n < 0 then .other else .index n.toNat
  | _ => .other

/-! ### Meaning -/

/-- An entry of a mapping. -/
structure Entry where
  /-- The parts of the key that tell it apart. -/
  parts : List KeyPart
  /-- The key. -/
  key : Key
  /-- The value. -/
  value : Tree
deriving Inhabited

/-- What a node says. -/
structure Meaning where
  /-- The tree. -/
  tree : Tree
  /-- The entries that the node stands for as the value of a `<<` entry, if it can be one. -/
  merged : Option (List Entry) := none
deriving Inhabited

/-- An entry of a mapping, or the entries that it stands for. -/
inductive EntryMeaning where
  /-- An entry of its own. -/
  | own (entry : Entry)
  /-- The entries of other mappings. -/
  | merged (entries : List Entry)

/-- The entries of a list with those of other keys added. -/
def addMissing (entries more : List Entry) : List Entry :=
  more.foldl (fun all e => if all.any fun a => a.parts == e.parts then all else all ++ [e]) entries

/-- The entries of a mapping, if their keys are distinct; of merged entries, the last count most. -/
def mappingEntries? (entries : List EntryMeaning) : Option (List Entry) :=
  let own := entries.filterMap fun
    | .own entry => some entry
    | .merged _ => none
  let merged := entries.filterMap fun
    | .own _ => none
    | .merged entries => some entries
  if decide (own.map Entry.parts).Nodup then some (addMissing own merged.reverse.flatten) else none

/-- The tree of a mapping. -/
def mappingTree (entries : List Entry) : Tree :=
  .mapping (entries.map fun entry => (entry.key, entry.value))

/-- The tree of a list with its tag. -/
def listTree (tag : Option Tag) (items : List Tree) : Tree :=
  match tag with
  | some (.variant name) => .mapping [(.name name, .list items)]
  | _ => .list items

mutual

/-- What a node says, unless its tag does not fit it or keys in it are not distinct. -/
def Node.meaning? : Node → Option Meaning
  | .scalar tag style text => do
      let tree ← Tag.scalar? tag style text
      let isNothing := style = .plain ∧ isNull text
      return ⟨tree, if isNothing then some [] else none⟩
  | .list tag items => do
      let found ← itemMeanings? items
      let merged := found.reverse.mapM Meaning.merged
      return ⟨listTree tag (found.map Meaning.tree), merged.map List.flatten⟩
  | .mapping _ entries => do
      let found ← mappingEntries? (← entryMeanings? entries)
      return ⟨mappingTree found, some found⟩

/-- What nodes say. -/
def itemMeanings? : List Node → Option (List Meaning)
  | [] => some []
  | item :: rest => do return (← item.meaning?) :: (← itemMeanings? rest)

/-- What the entries of a mapping say. -/
def entryMeanings? : List (Node × Node) → Option (List EntryMeaning)
  | [] => some []
  | (key, value) :: rest => do
      let said ← value.meaning?
      let entry ←
        if key.isMerge then pure (.merged (← said.merged))
        else pure (.own ⟨key.keyParts, keyOfTree (← key.meaning?).tree, said.tree⟩)
      return entry :: (← entryMeanings? rest)

end

/-! ### Texts -/

/-- A bound that no depth of nested nodes reaches. -/
def depthLimit : Nat := 2000

/-- A text in which every line break is a line feed. -/
def normalizeBreaks : List Char → List Char
  | [] => []
  | '\r' :: '\n' :: rest => '\n' :: normalizeBreaks rest
  | c :: rest => (if c = '\r' then '\n' else c) :: normalizeBreaks rest

/-- Reads marks of the end of a document. -/
def documentEnds : NodeReader Unit := do
  discard (nodeRounds (eat .documentEnd) (pure ()) (← roundsLeft))

/-- Reads the directives in front of a document, for a number of rounds.  The version is said once,
and what stands for the start of a tag is kept. -/
def directiveRounds : Nat → Bool → NodeReader Unit
  | 0, _ => failure
  | n + 1, isVersioned => do
      match ← peek with
      | .version =>
          if isVersioned then failure
          pop
          directiveRounds n true
      | .tagStart handle start =>
          if ((← get).tagStarts.lookup handle).isSome then failure
          pop
          modify fun s => { s with tagStarts := (handle, start) :: s.tagStarts }
          directiveRounds n isVersioned
      | .directive =>
          pop
          directiveRounds n isVersioned
      | _ => return

/-- Whether a directive comes next. -/
def atDirective : NodeReader Bool := do
  match ← peek with
  | .version => return true
  | .tagStart _ _ => return true
  | .directive => return true
  | _ => return false

/-- Reads the start of a document, and says whether the document may be empty; the mark of its start
is needed unless the contrary is given. -/
def documentHead (isImplicit : Bool) : NodeReader Bool := do
  if isImplicit && !(← atDirective) && !(← atOneOf [.documentStart]) then return false
  modify fun s => { s with tagStarts := [] }
  directiveRounds (← roundsLeft) false
  unless ← eat .documentStart do failure
  return true

/-- Whether the document ends here. -/
def atDocumentEnd : NodeReader Bool := do
  return (← atDirective) || (← atOneOf [.documentStart, .documentEnd, .textEnd])

/-- Reads the first document of a text. -/
def document : NodeReader Node := do
  documentEnds
  if ← atOneOf [.textEnd] then failure
  if (← documentHead true) && (← atDocumentEnd) then return .empty
  node depthLimit true false

/-- Whether the start of another document can be read; whether it needs no mark is given. -/
def atOtherDocument (isImplicit : Bool) : NodeReader Bool := do
  documentEnds
  if ← atOneOf [.textEnd] then return false
  if (← documentHead isImplicit) && (← atDocumentEnd) then return true
  let (_, start) ← nodeStart true false
  match start with
  | .byName name => return ((← get).names.lookup name).isSome
  | _ => return true

/-- Reads the end of a document, and says whether the text ends with it: text behind the end that is
no document does not count. -/
def documentEnd : NodeReader Bool := do
  let isMarked ← eat .documentEnd
  unless isMarked do
    if ← atDirective then failure
  let found := ((atOtherDocument isMarked).run (← get)).map (·.1)
  return !(found.getD false)

/-- The least number of names used that may be too many for the names given. -/
def nameUseLimit : Nat := 100

/-- Whether names are used far more often than they are given. -/
def NodeState.isExcessive (s : NodeState) : Bool :=
  nameUseLimit ≤ s.nameUses && decide (10 * s.names.length < s.nameUses)

/-- The characters of a text that are read: those up to the first of no meaning, without a mark of
the order of bytes at the start. -/
def readableChars (text : String) : List Char :=
  let chars := normalizeBreaks (text.toList.takeWhile fun c => c.toNat != 0)
  if chars.head? = some (Char.ofNat 0xFEFF) then chars.drop 1 else chars

/-- The tree of a text's document, if the text starts with one, and whether the text ends with
it. -/
def readTree (text : String) : Option (Tree × Bool) := do
  let (found, s) ← document.run { text := { rest := readableChars text } }
  let said ← found.meaning?
  let isWhole := ((documentEnd.run s).map (·.1)).getD false
  return (said.tree, isWhole && !s.isExcessive)

end ResolverTypes.Yaml
