/-!
The characters of a YAML stream, each with its place.

Every line break but the two of Unicode becomes a line feed here, so that later readers know three
breaks only. The end of the stream counts as blank.
-/

namespace TunnelRelay.Yaml

structure Glyph where
  char : Char
  line : Nat
  column : Nat
  index : Nat
  deriving DecidableEq, Repr

def isBreak (char : Char) : Bool :=
  char == '\n' || char == '\u2028' || char == '\u2029'

def isSpace (char : Char) : Bool :=
  char == ' ' || char == '\t'

/-- Letters of names: ASCII letters and digits, the hyphen and the low line. -/
def isWord (char : Char) : Bool :=
  char.isAlphanum || char == '-' || char == '_'

def isPrintable (char : Char) : Bool :=
  let code := char.toNat
  code == 0x09 || code == 0x0a || code == 0x0d || 0x20 ≤ code && code ≤ 0x7e || code == 0x85
    || 0xa0 ≤ code && code ≤ 0xd7ff || 0xe000 ≤ code && code ≤ 0xfffd || 0x10000 ≤ code

namespace Glyph

def place (line column index : Nat) : List Char → List Glyph
  | [] => []
  | '\r' :: '\n' :: rest => ⟨'\n', line, column, index⟩ :: place (line + 1) 0 (index + 2) rest
  | char :: rest =>
    if char = '\r' ∨ char = '\n' ∨ char = '\u0085' then
      ⟨'\n', line, column, index⟩ :: place (line + 1) 0 (index + 1) rest
    else if isBreak char then
      ⟨char, line, column, index⟩ :: place (line + 1) 0 (index + 1) rest
    else ⟨char, line, column, index⟩ :: place line (column + 1) (index + 1) rest

def isBreak (glyph : Glyph) : Bool :=
  Yaml.isBreak glyph.char

def isSpace (glyph : Glyph) : Bool :=
  Yaml.isSpace glyph.char

/-- The characters of a stream; `none` if one of them may not stand there. A mark of the byte order
at the very start is dropped. -/
def ofText? (text : String) : Option (List Glyph) :=
  let chars := match text.toList with
    | '\uFEFF' :: rest => rest
    | chars => chars
  if chars.all isPrintable then some (place 0 0 0 chars) else none

def isBlankNext : List Glyph → Bool
  | [] => true
  | glyph :: _ => glyph.isSpace || glyph.isBreak

/-- A line starts with three times the same character and nothing else behind it. -/
def isMarker (mark : Char) : List Glyph → Bool
  | first :: second :: third :: rest =>
    first.column == 0 && first.char == mark && second.char == mark && third.char == mark
      && isBlankNext rest
  | _ => false

def isDocumentMarker (glyphs : List Glyph) : Bool :=
  isMarker '-' glyphs || isMarker '.' glyphs

def chars (glyphs : List Glyph) : List Char :=
  glyphs.map (·.char)

end Glyph

end TunnelRelay.Yaml
