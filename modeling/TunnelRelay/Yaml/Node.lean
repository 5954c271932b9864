import TunnelRelay.Yaml.Token

/-!
The nodes of a YAML document, built from its tokens.

A stream holds one document at most. What is left out is an empty plain scalar. An anchor gets a
number, the count of the names known before it, and an alias stands for the last node with the
number of its name; a name that is given away again may so share its number with a later name.
-/

namespace TunnelRelay.Yaml

inductive Node where
  | scalar (anchor : Option Nat) (tag : Option Bytes) (style : ScalarStyle) (text : List Char)
  | sequence (anchor : Option Nat) (items : List Node)
  | mapping (anchor : Option Nat) (entries : List (Node × Node))
  | alias (anchor : Nat)

namespace Node

def empty : Node :=
  .scalar none none .plain []

def anchor? : Node → Option Nat
  | .scalar anchor .. | .sequence anchor _ | .mapping anchor _ => anchor
  | .alias _ => none

mutual

/-- The last node with the given number, in the order of their starts. -/
def find? (anchor : Nat) (node : Node) : Option Node :=
  let here := if node.anchor? = some anchor then some node else none
  match node with
  | .sequence _ items => (findItem? anchor items).or here
  | .mapping _ entries => (findPair? anchor entries).or here
  | .scalar .. | .alias _ => here

def findItem? (anchor : Nat) : List Node → Option Node
  | [] => none
  | item :: items => (findItem? anchor items).or (find? anchor item)

def findPair? (anchor : Nat) : List (Node × Node) → Option Node
  | [] => none
  | (key, value) :: entries =>
    (findPair? anchor entries).or ((find? anchor value).or (find? anchor key))

end

end Node

/-- The tokens that are left of a document, and what the names in it mean. -/
structure Names where
  tokens : List Token
  /-- The starts of tags by handle. -/
  handles : List (List Char × Bytes) :=
    [(['!'], Bytes.ofText "!"), (['!', '!'], Bytes.ofText "tag:yaml.org,2002:")]
  /-- The numbers of anchors by name. -/
  anchors : List (List Char × Nat) := []

/-- Reading with state; a failure is final. -/
abbrev Grammar := StateT Names Option

namespace Grammar

/-- The next token; `none` at the end of the stream. -/
def peek : Grammar (Option Token) := do
  return (← get).tokens.head?

def skip : Grammar Unit :=
  modify fun names => { names with tokens := names.tokens.tail }

def expect (token : Token) : Grammar Unit := do
  if (← peek) ≠ some token then failure
  skip

def define (name : List Char) : Grammar Nat := do
  let { anchors, .. } ← get
  let number := anchors.length
  modify ({ · with anchors := (name, number) :: anchors.filter (·.1 != name) })
  return number

def resolve (tag : Tag) : Grammar Bytes := do
  if tag.handle.isEmpty then return tag.suffix
  let start ← (← get).handles.lookup tag.handle
  return start ++ tag.suffix

def properties : Grammar (Option Nat × Option Bytes) := do
  let anchor? : Grammar (Option (List Char)) := do
    match ← peek with
    | some (.anchor name) => skip; return some name
    | _ => return none
  let tag? : Grammar (Option Tag) := do
    match ← peek with
    | some (.tag tag) => skip; return some tag
    | _ => return none
  let first ← anchor?
  let tag ← tag?
  let name ← if first.isNone && tag.isSome then anchor? else pure first
  let tag ← tag.mapM resolve
  return (← name.mapM define, tag)

def directives (versionSeen : Bool) (seen : List (List Char)) :
    List Token → Grammar (List Token)
  | .directive (.version major minor) :: rest => do
    if versionSeen || major != 1 || !(minor == 1 || minor == 2) then failure
    directives true seen rest
  | .directive (.handle name start) :: rest => do
    if seen.contains name then failure
    modify fun names => { names with handles := (name, start) :: names.handles }
    directives versionSeen (name :: seen) rest
  | rest => return rest

mutual

/-- Reads a node. Collections by indentation are found in block context only, and a sequence whose
entries stand no deeper than the key only as the value or key of a mapping. -/
def node (inBlock inMapping : Bool) : (limit : Nat) → Grammar Node
  | 0 => failure
  | limit + 1 => do
    if let some (.alias name) ← peek then
      skip
      return .alias (← (← get).anchors.lookup name)
    let (anchor, tag) ← properties
    match ← peek with
    | some (.scalar style text) =>
      skip
      return .scalar anchor (tag.filter (· != Bytes.ofText "!")) style text
    | some .flowSequenceStart => skip; return .sequence anchor (← flowItems true limit)
    | some .flowMappingStart => skip; return .mapping anchor (← flowPairs true limit)
    | next =>
      if inBlock && next == some .blockSequenceStart then
        skip
        return .sequence anchor (← blockItems limit)
      else if inBlock && next == some .blockMappingStart then
        skip
        return .mapping anchor (← blockPairs limit)
      else if inMapping && next == some .blockEntry then
        return .sequence anchor (← levelItems limit)
      else if anchor.isSome || tag.isSome then return .scalar anchor tag .plain []
      else failure

def nodeUnless (inBlock inMapping : Bool) (stops : List Token) : (limit : Nat) → Grammar Node
  | 0 => failure
  | limit + 1 => do
    if (← peek).any stops.contains then return .empty else node inBlock inMapping limit

/-- Entries of a sequence in a block of its own, up to the end of the block. -/
def blockItems : (limit : Nat) → Grammar (List Node)
  | 0 => failure
  | limit + 1 => do
    if (← peek) = some .blockEnd then
      skip
      return []
    expect .blockEntry
    let item ← nodeUnless true false [.blockEntry, .blockEnd] limit
    return item :: (← blockItems limit)

/-- Entries of a sequence that stands in the block of its mapping. -/
def levelItems : (limit : Nat) → Grammar (List Node)
  | 0 => failure
  | limit + 1 => do
    if (← peek) ≠ some .blockEntry then return []
    skip
    let item ← nodeUnless true false [.blockEntry, .key, .value, .blockEnd] limit
    return item :: (← levelItems limit)

/-- Keys and values, up to the end of their block. -/
def blockPairs : (limit : Nat) → Grammar (List (Node × Node))
  | 0 => failure
  | limit + 1 => do
    if (← peek) = some .blockEnd then
      skip
      return []
    expect .key
    let key ← nodeUnless true true [.key, .value, .blockEnd] limit
    let value ← value true [.key, .value, .blockEnd] limit
    return (key, value) :: (← blockPairs limit)

/-- The value of a key, if a colon comes next. -/
def value (inBlock : Bool) (stops : List Token) : (limit : Nat) → Grammar Node
  | 0 => failure
  | limit + 1 => do
    if (← peek) ≠ some .value then return .empty
    skip
    nodeUnless inBlock inBlock stops limit

/-- Entries between square brackets. A key and its value may stand there alone; if the key is left
out, the token in its place is dropped. -/
def flowItems (isFirst : Bool) : (limit : Nat) → Grammar (List Node)
  | 0 => failure
  | limit + 1 => do
    if (← peek) ≠ some .flowSequenceEnd && !isFirst then expect .flowEntry
    match ← peek with
    | some .flowSequenceEnd => skip; return []
    | some .key =>
      skip
      let isLeftOut := (← peek).any [Token.value, .flowEntry, .flowSequenceEnd].contains
      if isLeftOut then skip
      let key ← if isLeftOut then pure .empty else node false false limit
      let value ← value false [.flowEntry, .flowSequenceEnd] limit
      return .mapping none [(key, value)] :: (← flowItems false limit)
    | _ =>
      let item ← node false false limit
      return item :: (← flowItems false limit)

def flowPairs (isFirst : Bool) : (limit : Nat) → Grammar (List (Node × Node))
  | 0 => failure
  | limit + 1 => do
    if (← peek) ≠ some .flowMappingEnd && !isFirst then expect .flowEntry
    match ← peek with
    | some .flowMappingEnd => skip; return []
    | some .key =>
      skip
      let key ← nodeUnless false false [.value, .flowEntry, .flowMappingEnd] limit
      let value ← value false [.flowEntry, .flowMappingEnd] limit
      return (key, value) :: (← flowPairs false limit)
    | _ =>
      let key ← node false false limit
      return (key, .empty) :: (← flowPairs false limit)

end

/-- Reads the document of a stream, if there is one. -/
def document : Grammar (Option Node) := do
  let { tokens, .. } ← get
  let limit := 4 * tokens.length + 8
  let isMark : Token → Bool
    | .directive _ | .documentStart => true
    | _ => false
  let root ←
    if tokens.isEmpty then pure none
    else if tokens.head?.any isMark then do
      let rest ← directives false [] tokens
      modify ({ · with tokens := rest })
      expect .documentStart
      let next ← peek
      if next.all fun token => isMark token || token == .documentEnd then pure (some .empty)
      else some <$> node true false limit
    else some <$> node true false limit
  if (← get).tokens.all (· == .documentEnd) then return root else failure

end Grammar

structure Document where
  root : Option Node

/-- Reads a stream; `none` if it is none of YAML or holds several documents. -/
def Document.ofText? (text : String) : Option Document := do
  let tokens ← tokens? (← Glyph.ofText? text)
  let (root, _) ← Grammar.document.run { tokens }
  return { root }

/-- The node that an alias stands for; any other node stands for itself. -/
def Document.follow? (document : Document) : Node → Option Node
  | .alias anchor => document.root.bind (·.find? anchor)
  | node => some node

end TunnelRelay.Yaml
