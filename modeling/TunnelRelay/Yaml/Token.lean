import TunnelRelay.Yaml.Tag

/-!
The tokens of a YAML stream.

Indentation becomes tokens that open and close blocks. A mapping is noticed only at the colon
behind its first key, so the tokens that introduce a key are put in where the key began.
-/

namespace TunnelRelay.Yaml

inductive Token where
  | directive (directive : Directive)
  | documentStart
  | documentEnd
  | blockSequenceStart
  | blockMappingStart
  | blockEnd
  | flowSequenceStart
  | flowSequenceEnd
  | flowMappingStart
  | flowMappingEnd
  | flowEntry
  | blockEntry
  | key
  | value
  | alias (name : List Char)
  | anchor (name : List Char)
  | tag (tag : Tag)
  | scalar (style : ScalarStyle) (text : List Char)
  deriving DecidableEq, Repr

structure PendingKey where
  required : Bool
  position : Nat
  start : Glyph
  deriving DecidableEq, Repr

/-- A stream that is read up to some character. -/
structure Lexer where
  rest : List Glyph
  tokens : Array Token := #[]
  /-- The columns of the open blocks, the innermost first. -/
  indents : List Nat := []
  /-- The pending key of the innermost flow collection, or of the blocks. -/
  key : Option PendingKey := none
  /-- The pending keys outside the open flow collections, the innermost first. -/
  outer : List (Option PendingKey) := []
  keyAllowed : Bool := true

namespace Lexer

def inFlow (lexer : Lexer) : Bool :=
  !lexer.outer.isEmpty

def emit (lexer : Lexer) (token : Token) : Lexer :=
  { lexer with tokens := lexer.tokens.push token }

/-- Closes the blocks that stand deeper than a column; without a column, all of them. Flow
collections do not care for indentation. -/
def closeBlocks (lexer : Lexer) (column : Option Nat) : Lexer :=
  if lexer.inFlow then lexer
  else
    let isDeeper (indent : Nat) : Bool := column.all (· < indent)
    let closed := lexer.indents.takeWhile isDeeper
    { lexer with
      indents := lexer.indents.dropWhile isDeeper
      tokens := closed.foldl (fun tokens _ => tokens.push .blockEnd) lexer.tokens }

/-- Opens a block in a column, unless one is open there; its token goes to a position. -/
def openBlock (lexer : Lexer) (column position : Nat) (token : Token) : Lexer :=
  if lexer.inFlow || !lexer.indents.head?.all (· < column) then lexer
  else { lexer with
    indents := column :: lexer.indents
    tokens := lexer.tokens.insertIdxIfInBounds position token }

/-- Gives up the pending key, which must not have been required. -/
def dropKey (lexer : Lexer) : Option Lexer :=
  if lexer.key.any (·.required) then none else some { lexer with key := none }

def saveKey (lexer : Lexer) (start : Glyph) : Option Lexer :=
  if lexer.keyAllowed then do
    let required := !lexer.inFlow && lexer.indents.head? == some start.column
    let lexer ← lexer.dropKey
    return { lexer with key := some { required, position := lexer.tokens.size, start } }
  else some lexer

/-- Gives up the pending keys that are too far back: a key stands on the line of its colon, at
most 1024 characters in front of it. -/
def dropStaleKeys (lexer : Lexer) (now : Glyph) : Option Lexer :=
  let isStale (key : PendingKey) : Bool :=
    key.start.line < now.line || key.start.index + 1024 < now.index
  if (lexer.key :: lexer.outer).any (·.any fun key => isStale key && key.required) then none
  else
    let keep (key : Option PendingKey) := key.filter (!isStale ·)
    some { lexer with key := keep lexer.key, outer := lexer.outer.map keep }

/-- Drops blanks, comments and breaks. Outside flow collections a tab is no blank where a key may
begin, and after a break a key may begin. -/
def skipBlanks (inFlow keyAllowed inComment : Bool) : List Glyph → Bool × List Glyph
  | [] => (keyAllowed, [])
  | glyph :: rest =>
    if glyph.isBreak then skipBlanks inFlow (keyAllowed || !inFlow) false rest
    else if inComment || glyph.char == ' ' || glyph.char == '\t' && (inFlow || !keyAllowed)
        || glyph.char == '\uFEFF' && glyph.index == 0 then
      skipBlanks inFlow keyAllowed inComment rest
    else if glyph.char = '#' then skipBlanks inFlow keyAllowed true rest
    else (keyAllowed, glyph :: rest)

def leaveBlocks (lexer : Lexer) : Option Lexer := do
  let lexer ← (lexer.closeBlocks none).dropKey
  return { lexer with keyAllowed := false }

def openFlow (lexer : Lexer) (glyph : Glyph) (token : Token) : Option Lexer := do
  let lexer ← lexer.saveKey glyph
  return { lexer.emit token with key := none, outer := lexer.key :: lexer.outer, keyAllowed := true }

def closeFlow (lexer : Lexer) (token : Token) : Option Lexer := do
  let lexer := (← lexer.dropKey).emit token
  return { lexer with
    key := lexer.outer.head?.join, outer := lexer.outer.tail, keyAllowed := false }

/-- An entry of a block, or the start of a key that a question mark introduces. -/
def openEntry (lexer : Lexer) (column : Nat) (block entry : Token) (keyAllowed : Bool) :
    Option Lexer := do
  if !lexer.inFlow && !lexer.keyAllowed then none
  let lexer := lexer.openBlock column lexer.tokens.size block
  return { (← lexer.dropKey).emit entry with keyAllowed }

def readValue (lexer : Lexer) (column : Nat) : Option Lexer :=
  match lexer.key with
  | some key =>
    let lexer := { lexer with
      key := none
      keyAllowed := false
      tokens := lexer.tokens.insertIdxIfInBounds key.position .key }
    some ((lexer.openBlock key.start.column key.position .blockMappingStart).emit .value)
  | none =>
    if !lexer.inFlow && !lexer.keyAllowed then none
    else
      let lexer := lexer.openBlock column lexer.tokens.size .blockMappingStart
      some { lexer.emit .value with keyAllowed := !lexer.inFlow }

/-- A token that may begin a key, with what is left behind it. -/
def addContent (lexer : Lexer) (start : Glyph) (content : Option (Token × List Glyph)) :
    Option Lexer := do
  let lexer ← lexer.saveKey start
  let (token, rest) ← content
  return { lexer.emit token with rest, keyAllowed := false }

def addBlock (lexer : Lexer) (isFolded : Bool) (behind : List Glyph) : Option Lexer := do
  let lexer ← lexer.dropKey
  let (text, rest) ← readBlock isFolded lexer.indents.head? behind
  let style : ScalarStyle := if isFolded then .folded else .literal
  return { lexer.emit (.scalar style text) with rest, keyAllowed := true }

def addPlain (lexer : Lexer) (start : Glyph) (glyphs : List Glyph) : Option Lexer := do
  let lexer ← lexer.saveKey start
  let indent := lexer.indents.head?.elim 0 (· + 1)
  let plain ← readPlain lexer.inFlow indent {} false true glyphs
  return { lexer.emit (.scalar .plain plain.text) with
    rest := plain.rest, keyAllowed := plain.broken }

def startsPlain (inFlow : Bool) (glyph : Glyph) (behind : List Glyph) : Bool :=
  if glyph.char = '-' then !behind.head?.any (·.isSpace)
  else if glyph.char = '?' ∨ glyph.char = ':' then !inFlow && !Glyph.isBlankNext behind
  else !glyph.isSpace && !",[]\x7b\x7d#&*!|>'\"%@`".toList.contains glyph.char

/-- Reads the token that begins at a character; `behind` follows it. -/
def readToken (lexer : Lexer) (glyph : Glyph) (behind : List Glyph) : Option Lexer :=
  let glyphs := glyph :: behind
  let next := { lexer with rest := behind }
  let ends := Glyph.isBlankNext behind
  if glyph.column = 0 ∧ glyph.char = '%' then do
    let lexer ← lexer.leaveBlocks
    let (directive, rest) ← readDirective behind
    return { lexer.emit (.directive directive) with rest }
  else if Glyph.isMarker '-' glyphs then
    leaveBlocks { lexer with rest := behind.drop 2 } |>.map (·.emit .documentStart)
  else if Glyph.isMarker '.' glyphs then
    leaveBlocks { lexer with rest := behind.drop 2 } |>.map (·.emit .documentEnd)
  else if glyph.char = '-' ∧ ends then
    next.openEntry glyph.column .blockSequenceStart .blockEntry true
  else if glyph.char = '?' ∧ (lexer.inFlow ∨ ends) then
    next.openEntry glyph.column .blockMappingStart .key (!lexer.inFlow)
  else if glyph.char = ':' ∧ (lexer.inFlow ∨ ends) then next.readValue glyph.column
  else match glyph.char with
    | '[' => next.openFlow glyph .flowSequenceStart
    | '\x7b' => next.openFlow glyph .flowMappingStart
    | ']' => next.closeFlow .flowSequenceEnd
    | '\x7d' => next.closeFlow .flowMappingEnd
    | ',' => next.dropKey.map fun lexer => { lexer.emit .flowEntry with keyAllowed := true }
    | '*' => lexer.addContent glyph ((readName behind).map fun (name, rest) => (.alias name, rest))
    | '&' => lexer.addContent glyph ((readName behind).map fun (name, rest) => (.anchor name, rest))
    | '!' =>
      lexer.addContent glyph ((readTag lexer.inFlow behind).map fun (tag, rest) => (.tag tag, rest))
    | '\'' =>
      lexer.addContent glyph ((readSingleQuoted {} behind).map fun (text, rest) =>
        (.scalar .singleQuoted text, rest))
    | '"' =>
      lexer.addContent glyph ((readDoubleQuoted {} behind).map fun (text, rest) =>
        (.scalar .doubleQuoted text, rest))
    | char =>
      if (char = '|' ∨ char = '>') ∧ !lexer.inFlow then next.addBlock (char == '>') behind
      else if startsPlain lexer.inFlow glyph behind then lexer.addPlain glyph glyphs
      else none

/-- Reads at most `limit` tokens, up to the end of the stream. -/
def run : (limit : Nat) → Lexer → Option (List Token)
  | 0, _ => none
  | limit + 1, lexer =>
    let (keyAllowed, rest) := skipBlanks lexer.inFlow lexer.keyAllowed false lexer.rest
    let lexer := { lexer with keyAllowed, rest }
    match rest with
    | [] => lexer.leaveBlocks.map (·.tokens.toList)
    | glyph :: behind => do
      let lexer ← lexer.dropStaleKeys glyph
      run limit (← (lexer.closeBlocks (some glyph.column)).readToken glyph behind)

end Lexer

/-- The tokens of a stream; `none` if it is none of YAML. Every token takes a character at least. -/
def tokens? (glyphs : List Glyph) : Option (List Token) :=
  Lexer.run (glyphs.length + 1) { rest := glyphs }

end TunnelRelay.Yaml
