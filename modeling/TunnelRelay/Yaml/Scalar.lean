import TunnelRelay.Text
import TunnelRelay.Yaml.Glyph

/-!
Reading scalars.

A scalar is plain, in single or double quotes, or a block of lines. In all but literal blocks a
single line break is folded into a space, and further breaks are kept.
-/

namespace TunnelRelay.Yaml

inductive ScalarStyle where
  | plain
  | singleQuoted
  | doubleQuoted
  | literal
  | folded
  deriving DecidableEq, Repr

/-- A text under way, and the blanks and breaks behind its last word. All lists run backwards. -/
structure Folding where
  text : List Char := []
  spaces : List Char := []
  /-- The first break behind the last word, unless it was escaped. -/
  leading : Option Char := none
  trailing : List Char := []
  broken : Bool := false

namespace Folding

/-- One more blank. Blanks behind a break are indentation. -/
def addSpace (folding : Folding) (char : Char) : Folding :=
  if folding.broken then folding else { folding with spaces := char :: folding.spaces }

def addBreak (folding : Folding) (char : Char) : Folding :=
  if folding.broken then { folding with trailing := char :: folding.trailing }
  else { folding with spaces := [], leading := some char, broken := true }

/-- What the blanks and breaks behind the last word amount to, backwards. -/
def gap (folding : Folding) : List Char :=
  if folding.broken then
    if folding.leading = some '\n' then
      if folding.trailing.isEmpty then [' '] else folding.trailing
    else folding.trailing ++ folding.leading.toList
  else folding.spaces

def join (folding : Folding) : Folding :=
  { text := folding.gap ++ folding.text }

def addChar (folding : Folding) (char : Char) : Folding :=
  { text := char :: folding.join.text }

end Folding

/-- What a plain scalar leaves behind: its text, whether it ended behind a break, and the rest. -/
structure PlainResult where
  text : List Char
  broken : Bool
  rest : List Glyph

def isFlowIndicator (char : Char) : Bool :=
  char == ',' || char == '[' || char == ']' || char == '\x7b' || char == '\x7d'

/-- Reads a plain scalar. Outside flow collections its lines stand at `indent` or deeper. -/
def readPlain (inFlow : Bool) (indent : Nat) (folding : Folding) (inWord isFirst : Bool) :
    List Glyph → Option PlainResult
  | [] => some ⟨folding.text.reverse, folding.broken, []⟩
  | glyph :: rest =>
    let char := glyph.char
    if glyph.isSpace then
      if folding.broken && glyph.column < indent && char == '\t' then none
      else readPlain inFlow indent (folding.addSpace char) false false rest
    else if glyph.isBreak then readPlain inFlow indent (folding.addBreak char) false false rest
    else
      let isOver := !inWord && (Glyph.isDocumentMarker (glyph :: rest) || char == '#'
        || !isFirst && !inFlow && glyph.column < indent)
      if !isOver && inFlow && char == ':' && rest.head?.any fun next =>
          isFlowIndicator next.char || next.char == '?' then none
      else if isOver || char == ':' && Glyph.isBlankNext rest
          || inFlow && isFlowIndicator char then
        some ⟨folding.text.reverse, folding.broken, glyph :: rest⟩
      else readPlain inFlow indent (folding.addChar char) true false rest

def escaped? (char : Char) : Option Char :=
  match char with
  | '0' => some '\x00'
  | 'a' => some '\x07'
  | 'b' => some '\x08'
  | 't' | '\t' => some '\t'
  | 'n' => some '\n'
  | 'v' => some '\x0b'
  | 'f' => some '\x0c'
  | 'r' => some '\r'
  | 'e' => some '\x1b'
  | ' ' => some ' '
  | '"' => some '"'
  | '/' => some '/'
  | '\\' => some '\\'
  | 'N' => some '\u0085'
  | '_' => some '\u00a0'
  | 'L' => some '\u2028'
  | 'P' => some '\u2029'
  | _ => none

def hexChar? (digits : List Glyph) : Option Char := do
  let code ← Text.number? 16 (Glyph.chars digits)
  if code.isValidChar then some (Char.ofNat code) else none

/-- Reads a scalar in single quotes, behind the opening one. -/
def readSingleQuoted (folding : Folding) : List Glyph → Option (List Char × List Glyph)
  | [] => none
  | glyph :: rest =>
    if Glyph.isDocumentMarker (glyph :: rest) then none
    else if glyph.isSpace then readSingleQuoted (folding.addSpace glyph.char) rest
    else if glyph.isBreak then readSingleQuoted (folding.addBreak glyph.char) rest
    else if glyph.char = '\'' then
      match rest with
      | next :: more =>
        if next.char = '\'' then readSingleQuoted (folding.addChar '\'') more
        else some (folding.join.text.reverse, rest)
      | [] => some (folding.join.text.reverse, [])
    else readSingleQuoted (folding.addChar glyph.char) rest

/-- Reads a scalar in double quotes, behind the opening one. A break behind a backslash joins two
lines without a space. -/
def readDoubleQuoted (folding : Folding) : List Glyph → Option (List Char × List Glyph)
  | [] => none
  | glyph :: rest =>
    if Glyph.isDocumentMarker (glyph :: rest) then none
    else if glyph.isSpace then readDoubleQuoted (folding.addSpace glyph.char) rest
    else if glyph.isBreak then readDoubleQuoted (folding.addBreak glyph.char) rest
    else if glyph.char = '"' then some (folding.join.text.reverse, rest)
    else if glyph.char = '\\' then
      match rest with
      | [] => none
      | kind :: more =>
        if kind.isBreak then readDoubleQuoted { folding.join with broken := true } more
        else
          match kind.char, more with
          | 'x', a :: b :: more =>
            (hexChar? [a, b]).bind fun char => readDoubleQuoted (folding.addChar char) more
          | 'u', a :: b :: c :: d :: more =>
            (hexChar? [a, b, c, d]).bind fun char =>
              readDoubleQuoted (folding.addChar char) more
          | 'U', a :: b :: c :: d :: e :: f :: g :: h :: more =>
            (hexChar? [a, b, c, d, e, f, g, h]).bind fun char =>
              readDoubleQuoted (folding.addChar char) more
          | char, more =>
            (escaped? char).bind fun char => readDoubleQuoted (folding.addChar char) more
    else readDoubleQuoted (folding.addChar glyph.char) rest

inductive Chomping where
  | strip
  | clip
  | keep
  deriving DecidableEq, Repr

structure BlockHeader where
  chomping : Chomping := .clip
  increment : Option Nat := none

/-- Reads what follows the indicator of a block, up to the end of its line. -/
def readBlockHeader (glyphs : List Glyph) : Option (BlockHeader × List Glyph) := do
  let line := (glyphs.takeWhile (!·.isBreak)).map (·.char)
  let rest := (glyphs.dropWhile (!·.isBreak)).drop 1
  let indicators := line.takeWhile fun char => char == '+' || char == '-' || char.isDigit
  let header ← match indicators with
    | [] => some {}
    | [first] => header? first none
    | [first, second] => header? first (some second)
    | _ => none
  match (line.drop indicators.length).dropWhile isSpace with
  | [] | '#' :: _ => return (header, rest)
  | _ => none
where
  chomping? (char : Char) : Option Chomping :=
    if char = '+' then some .keep else if char = '-' then some .strip else none
  increment? (char : Char) : Option Nat :=
    if char.isDigit ∧ char ≠ '0' then some (char.toNat - 0x30) else none
  header? (first : Char) (second : Option Char) : Option BlockHeader :=
    match chomping? first, second with
    | some chomping, none => some { chomping }
    | some chomping, some second =>
      (increment? second).map fun increment => { chomping, increment }
    | none, none => (increment? first).map fun increment => { increment }
    | none, some second => do
      return { chomping := ← chomping? second, increment := ← increment? first }

structure BlockGap where
  deepest : Nat := 0
  breaks : List Char := []

/-- Reads indentation and empty lines; `indent` is `none` as long as it has to be found out. -/
def readBlockGap (indent : Option Nat) (gap : BlockGap) :
    List Glyph → Option (BlockGap × List Glyph)
  | [] => some (gap, [])
  | glyph :: rest =>
    let within := indent.all (glyph.column < ·)
    if within && glyph.char == ' ' then readBlockGap indent gap rest
    else
      let gap := { gap with deepest := max gap.deepest glyph.column }
      if within && glyph.char == '\t' then none
      else if glyph.isBreak then
        readBlockGap indent { gap with breaks := glyph.char :: gap.breaks } rest
      else some (gap, glyph :: rest)

structure BlockText where
  /-- Backwards. -/
  text : List Char := []
  /-- The break behind the last line. -/
  leading : Option Char := none
  /-- The breaks of empty lines behind it, backwards. -/
  trailing : List Char := []
  /-- The last line starts with a blank. -/
  spaced : Bool := false

namespace BlockText

/-- One more line. A break between two lines that start with no blank is folded. -/
def addLine (block : BlockText) (isFolded : Bool) (line : List Char) (leading : Option Char)
    (trailing : List Char) : BlockText :=
  let spaced := line.head?.any isSpace
  let text :=
    if isFolded && block.leading == some '\n' && !block.spaced && !spaced then
      if block.trailing.isEmpty then ' ' :: block.text else block.text
    else block.leading.toList ++ block.text
  { text := line.reverse ++ (block.trailing ++ text), leading, trailing, spaced }

def finish (block : BlockText) (chomping : Chomping) : List Char :=
  let text := match chomping with
    | .strip => block.text
    | .clip => block.leading.toList ++ block.text
    | .keep => block.trailing ++ (block.leading.toList ++ block.text)
  text.reverse

end BlockText

def readBlockLines (isFolded : Bool) (indent : Nat) :
    (limit : Nat) → BlockText → List Glyph → Option (BlockText × List Glyph)
  | 0, block, glyphs => some (block, glyphs)
  | _ + 1, block, [] => some (block, [])
  | limit + 1, block, glyph :: rest =>
    if glyph.column = indent then do
      let line := (glyph :: rest).takeWhile (!·.isBreak)
      let after := (glyph :: rest).dropWhile (!·.isBreak)
      let (gap, next) ← readBlockGap (some indent) {} (after.drop 1)
      let leading := after.head?.map (·.char)
      readBlockLines isFolded indent limit
        (block.addLine isFolded (Glyph.chars line) leading gap.breaks) next
    else some (block, glyph :: rest)

/-- Reads a block behind its indicator; `parent` is the indentation of what it belongs to. -/
def readBlock (isFolded : Bool) (parent : Option Nat) (glyphs : List Glyph) :
    Option (List Char × List Glyph) := do
  let (header, rest) ← readBlockHeader glyphs
  let known := header.increment.map (parent.getD 0 + ·)
  let (gap, rest) ← readBlockGap known {} rest
  let least := parent.elim 1 (· + 1)
  let indent := known.getD (max gap.deepest least)
  let (block, rest) ← readBlockLines isFolded indent (rest.length + 1)
    { trailing := gap.breaks } rest
  return (block.finish header.chomping, rest)

end TunnelRelay.Yaml
