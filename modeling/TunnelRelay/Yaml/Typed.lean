import TunnelRelay.Yaml.Node

/-!
Reading nodes as values of a known type.

What a plain scalar means depends on the type that is wanted: as a text it is its own characters,
whatever they look like. A quoted scalar is never a number or a truth value.
-/

namespace TunnelRelay.Yaml

def coreTag (name : String) : Bytes :=
  Bytes.ofText ("tag:yaml.org,2002:" ++ name)

def isNull (text : List Char) : Bool :=
  ["null", "Null", "NULL", "~"].any (·.toList == text)

/-- An unsigned number: decimal without leading zeros, or with one of the marks `0x`, `0o`, `0b`;
a plus sign may come first. -/
def natural? (text : List Char) : Option Nat :=
  let unsigned := match text with
    | '+' :: rest => rest
    | rest => rest
  match unsigned with
  | '0' :: 'x' :: digits => Text.number? 16 digits
  | '0' :: 'o' :: digits => Text.number? 8 digits
  | '0' :: 'b' :: digits => Text.number? 2 digits
  | '0' :: _ :: _ => none
  | digits => Text.number? 10 digits

def boolean? (text : List Char) : Option Bool :=
  if ["true", "True", "TRUE"].any (·.toList == text) then some true
  else if ["false", "False", "FALSE"].any (·.toList == text) then some false
  else none

namespace Document

def text? (document : Document) (node : Node) : Option String :=
  match document.follow? node with
  | some (.scalar _ _ _ text) => some (String.ofList text)
  | _ => none

/-- The characters of a value that must be plain, or a literal block with the tag of its type. -/
def bare? (document : Document) (type : String) (node : Node) : Option (List Char) :=
  match document.follow? node with
  | some (.scalar _ tag style text) =>
    if style = .plain ∨ style = .literal ∧ tag = some (coreTag type) then some text else none
  | _ => none

def natural? (document : Document) (limit : Nat) (node : Node) : Option Nat :=
  ((document.bare? "int" node).bind Yaml.natural?).filter (· ≤ limit)

def boolean? (document : Document) (node : Node) : Option Bool :=
  (document.bare? "bool" node).bind Yaml.boolean?

/-- A text or nothing. Nothing is an empty or null plain scalar; a tag makes it a text, unless it
is the tag of null, which no other text may have. -/
def optionalText? (document : Document) (node : Node) : Option (Option String) :=
  match document.follow? node with
  | some (.scalar _ tag .plain text) =>
    if tag = some (coreTag "null") then if isNull text then some none else none
    else if tag.isNone && (text.isEmpty || isNull text) then some none
    else some (some (String.ofList text))
  | some node => some <$> document.text? node
  | none => none

/-- Keys and values. A section that is left empty has none. -/
def entries? (document : Document) (node : Node) : Option (List (Node × Node)) :=
  match document.follow? node with
  | some (.mapping _ entries) => some entries
  | some (.scalar _ tag style text) =>
    if style = .plain ∧ text.isEmpty ∨ tag = some (coreTag "null") then some [] else none
  | _ => none

/-- The values of a section whose names are known. None of them may be repeated; others are
passed over. -/
def fields? (document : Document) (names : List String) (node : Node) :
    Option (List (String × Node)) := do
  let entries ← (← document.entries? node).mapM fun (key, value) =>
    (document.text? key).map fun name => (name, value)
  let fields := entries.filter fun (name, _) => names.contains name
  if (fields.map Prod.fst).Nodup then return fields else none

/-- The values of a mapping whose keys are free. A repeated key keeps its last value. -/
def dictionary? {α : Type} (document : Document) (read : Node → Option α) (node : Node) :
    Option (List (String × α)) := do
  (← document.entries? node).foldlM (fun found (key, value) => do
    let name ← document.text? key
    return found.filter (·.1 != name) ++ [(name, ← read value)]) []

end Document

/-- The value of a field, or what stands for it where it is missing. -/
def field? {α : Type} (fields : List (String × Node)) (name : String) (absent : Option α)
    (read : Node → Option α) : Option α :=
  match fields.lookup name with
  | some node => read node
  | none => absent

end TunnelRelay.Yaml
