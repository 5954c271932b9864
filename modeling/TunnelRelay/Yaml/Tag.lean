import TunnelRelay.Bytes
import TunnelRelay.Yaml.Scalar

/-!
Names in a YAML stream: anchors, tags, and the directives that give tags their meaning.

A tag is a byte string, because its escapes stand for bytes. It is written with a handle, which a
directive may replace, and a suffix.
-/

namespace TunnelRelay.Yaml

/-- A tag as it is written. The handle is empty if the suffix is the whole tag. -/
structure Tag where
  handle : List Char
  suffix : Bytes
  deriving DecidableEq, Repr

inductive Directive where
  | version (major minor : Nat)
  /-- Tags with the handle start with the given bytes. -/
  | handle (name : List Char) (start : Bytes)
  deriving DecidableEq, Repr

def readName (glyphs : List Glyph) : Option (List Char × List Glyph) :=
  let (name, rest) := glyphs.span (isWord ·.char)
  let ends := Glyph.isBlankNext rest
    || rest.head?.any fun next => "?:,]\x7d%@`".toList.contains next.char
  if name.isEmpty || !ends then none else some (Glyph.chars name, rest)

def isTagChar (char : Char) : Bool :=
  isWord char || ";/?:@&=+$.!~*'()".toList.contains char

def isFullTagChar (char : Char) : Bool :=
  isTagChar char || ",[]".toList.contains char

/-- How many bytes of a character are awaited behind a byte, if it fits. -/
def awaitedBehind? (awaited octet : Nat) : Option Nat :=
  if 0 < awaited then if 0x80 ≤ octet ∧ octet < 0xc0 then some (awaited - 1) else none
  else if octet < 0x80 then some 0
  else if 0xc0 ≤ octet ∧ octet < 0xe0 then some 1
  else if 0xe0 ≤ octet ∧ octet < 0xf0 then some 2
  else if 0xf0 ≤ octet ∧ octet < 0xf8 then some 3
  else none

/-- Reads the characters of a tag. A percent sign and two hexadecimal digits are a byte, and the
bytes of a character stand together. -/
def readTagChars (allowed : Char → Bool) (awaited : Nat) :
    List Glyph → Option (Bytes × List Glyph)
  | [] => if awaited = 0 then some ([], []) else none
  | glyph :: rest =>
    if glyph.char = '%' then
      match rest with
      | high :: low :: more => do
        let octet ← Text.number? 16 [high.char, low.char]
        let (bytes, rest) ← readTagChars allowed (← awaitedBehind? awaited octet) more
        return (octet.toUInt8 :: bytes, rest)
      | _ => none
    else if awaited ≠ 0 then none
    else if allowed glyph.char then
      (readTagChars allowed 0 rest).map fun (bytes, rest) =>
        (glyph.char.toNat.toUInt8 :: bytes, rest)
    else some ([], glyph :: rest)

/-- The same, with at least one character. -/
def readSomeTagChars (allowed : Char → Bool) (glyphs : List Glyph) :
    Option (Bytes × List Glyph) :=
  (readTagChars allowed 0 glyphs).filter (!·.1.isEmpty)

/-- Reads letters between exclamation marks, behind the first of them. The second mark may be
missing; the handle holds the marks that are there. -/
def readHandle (glyphs : List Glyph) : List Char × List Glyph :=
  let (letters, rest) := glyphs.span (isWord ·.char)
  match rest with
  | next :: more =>
    if next.char = '!' then ('!' :: Glyph.chars letters ++ ['!'], more)
    else ('!' :: Glyph.chars letters, rest)
  | [] => ('!' :: Glyph.chars letters, [])

/-- Reads a tag behind its first exclamation mark. A lone mark is a tag in full. -/
def readTag (inFlow : Bool) (glyphs : List Glyph) : Option (Tag × List Glyph) := do
  let (tag, rest) ← read?
  let ends := Glyph.isBlankNext rest || inFlow && rest.head?.any (·.char == ',')
  if ends then return (tag, rest) else none
where
  read? : Option (Tag × List Glyph) :=
    match glyphs with
    | first :: more =>
      if first.char = '<' then do
        let (suffix, rest) ← readSomeTagChars isFullTagChar more
        if rest.head?.any (·.char == '>') then return (⟨[], suffix⟩, rest.drop 1) else none
      else short?
    | [] => short?
  short? : Option (Tag × List Glyph) :=
    let (handle, rest) := readHandle glyphs
    if 1 < handle.length ∧ handle.getLast? = some '!' then
      (readSomeTagChars isTagChar rest).map fun (suffix, rest) => (⟨handle, suffix⟩, rest)
    else
      (readTagChars isTagChar 0 rest).map fun (suffix, rest) =>
        let suffix := Bytes.ofText (String.ofList (handle.drop 1)) ++ suffix
        if suffix.isEmpty then (⟨[], Bytes.ofText "!"⟩, rest) else (⟨['!'], suffix⟩, rest)

def readVersionPart (glyphs : List Glyph) : Option (Nat × List Glyph) :=
  let (digits, rest) := glyphs.span (·.char.isDigit)
  if digits.isEmpty ∨ 9 < digits.length then none
  else some (digits.foldl (fun value digit => value * 10 + (digit.char.toNat - 0x30)) 0, rest)

/-- Drops blanks and a comment, up to the end of the line; `none` if there is anything else. -/
def finishLine (glyphs : List Glyph) : Option (List Glyph) :=
  match glyphs.dropWhile (·.isSpace) with
  | [] => some []
  | glyph :: rest =>
    if glyph.char = '#' then some ((rest.dropWhile (!·.isBreak)).drop 1)
    else if glyph.isBreak then some rest
    else none

/-- Reads a directive behind its percent sign. Unknown ones are refused. -/
def readDirective (glyphs : List Glyph) : Option (Directive × List Glyph) := do
  let (name, rest) := glyphs.span (isWord ·.char)
  if !Glyph.isBlankNext rest then none
  let rest := rest.dropWhile (·.isSpace)
  let (directive, rest) ←
    if Glyph.chars name = "YAML".toList then version? rest
    else if Glyph.chars name = "TAG".toList then handle? rest
    else none
  return (directive, ← finishLine rest)
where
  version? (glyphs : List Glyph) : Option (Directive × List Glyph) := do
    let (major, rest) ← readVersionPart glyphs
    if !rest.head?.any (·.char == '.') then none
    let (minor, rest) ← readVersionPart (rest.drop 1)
    return (.version major minor, rest)
  handle? (glyphs : List Glyph) : Option (Directive × List Glyph) := do
    if !glyphs.head?.any (·.char == '!') then none
    let (handle, rest) := readHandle (glyphs.drop 1)
    if handle ≠ ['!'] ∧ (handle.length = 1 ∨ handle.getLast? ≠ some '!') then none
    if !rest.head?.any (·.isSpace) then none
    let (start, rest) ← readSomeTagChars isFullTagChar (rest.dropWhile (·.isSpace))
    if !Glyph.isBlankNext rest then none
    return (.handle handle start, rest)

end TunnelRelay.Yaml
