import TunnelRelay.Bytes

/-!
Universally unique identifiers.

A UUID is 128 bits. It is written in lower-case hexadecimal with hyphens, and read in that form,
without hyphens, in braces, or as a URN.
-/

namespace TunnelRelay

structure Uuid where
  value : BitVec 128
  deriving DecidableEq, Repr

namespace Uuid

/-- The bits of a byte string, as far as there is room for them. -/
def ofBytes (bytes : Bytes) : BitVec 128 :=
  BitVec.ofNat 128 (bytes.foldl (fun value byte => value * 256 + byte.toNat) 0)

/-- A random identifier, from 16 bytes of which six bits give way to the version and the
variant. -/
def ofRandom (bytes : Bytes) : Uuid :=
  let random := ofBytes bytes
  let version : BitVec 128 := 0x4#128 <<< 76
  let variant : BitVec 128 := 0x2#128 <<< 62
  let fixed : BitVec 128 := 0xf#128 <<< 76 ||| 0x3#128 <<< 62
  ⟨random &&& ~~~fixed ||| version ||| variant⟩

def digits (uuid : Uuid) : List Char :=
  (List.range 32).map fun index => Nat.digitChar (uuid.value.toNat >>> (4 * (31 - index)) % 16)

def groups : List Nat := [8, 4, 4, 4, 12]

def cut {α : Type} : List Nat → List α → List (List α)
  | [], _ => []
  | size :: sizes, items => items.take size :: cut sizes (items.drop size)

def text (uuid : Uuid) : String :=
  String.ofList (List.intercalate ['-'] (cut groups uuid.digits))

def forms (uuid : Uuid) : List (String × String) :=
  [("simple", String.ofList uuid.digits), ("upper", uuid.text.toUpper),
    ("braced", "\x7b" ++ uuid.text ++ "\x7d"), ("urn", "urn:uuid:" ++ uuid.text)]

def parseSimple? (bytes : Bytes) : Option Uuid :=
  if bytes.length = 32 then
    (Bytes.ofHex? bytes).map fun bytes => ⟨ofBytes bytes⟩
  else none

def parseHyphenated? (bytes : Bytes) : Option Uuid :=
  if bytes.length = 36 then
    match cut [8, 1, 4, 1, 4, 1, 4, 1, 12] bytes with
    | [first, [0x2d], second, [0x2d], third, [0x2d], fourth, [0x2d], fifth] =>
      parseSimple? (first ++ second ++ third ++ fourth ++ fifth)
    | _ => none
  else none

def parse? (text : String) : Option Uuid :=
  let bytes := Bytes.ofText text
  if bytes.length = 32 then parseSimple? bytes
  else if bytes.length = 38 then
    match bytes with
    | 0x7b :: rest => if rest.getLast? = some 0x7d then parseHyphenated? rest.dropLast else none
    | _ => none
  else if bytes.length = 45 then
    if bytes.take 9 = Bytes.ofText "urn:uuid:" then parseHyphenated? (bytes.drop 9) else none
  else parseHyphenated? bytes

end Uuid

end TunnelRelay
