/-!
Byte strings and their texts.

Everything that travels through the relay is a list of bytes; a text is its UTF-8 form. The cut
`advance?` is total: it answers `none` where there are too few bytes, and it looks at no more
bytes than it passes.
-/

namespace TunnelRelay

abbrev Bytes := List UInt8

namespace Bytes

def ofText (text : String) : Bytes :=
  text.toUTF8.data.toList

/-- The text whose UTF-8 form the bytes are, if there is one. -/
def toText? (bytes : Bytes) : Option String :=
  String.fromUTF8? ⟨bytes.toArray⟩

/-- What is left after the first `count` bytes, or `none` if there are fewer. -/
def advance? : Nat → Bytes → Option Bytes
  | 0, bytes => some bytes
  | _ + 1, [] => none
  | count + 1, _ :: rest => advance? count rest

theorem advance?_eq (count : Nat) (bytes : Bytes) :
    advance? count bytes = if count ≤ bytes.length then some (bytes.drop count) else none := by
  induction count generalizing bytes with
  | zero => simp [advance?]
  | succ count ih =>
    cases bytes with
    | nil => simp [advance?]
    | cons first rest => simp [advance?, ih]

def hexValue? (byte : UInt8) : Option UInt8 :=
  if 0x30 ≤ byte ∧ byte ≤ 0x39 then some (byte - 0x30)
  else if 0x61 ≤ byte ∧ byte ≤ 0x66 then some (byte - 0x57)
  else if 0x41 ≤ byte ∧ byte ≤ 0x46 then some (byte - 0x37)
  else none

def hexByte? (high low : UInt8) : Option UInt8 := do
  return (← hexValue? high) * 16 + (← hexValue? low)

/-- The bytes that hexadecimal digits stand for, two digits each. -/
def ofHex? : Bytes → Option Bytes
  | [] => some []
  | [_] => none
  | high :: low :: rest => do
    return (← hexByte? high low) :: (← ofHex? rest)

def hexDigits (bytes : Bytes) : List Char :=
  bytes.flatMap fun byte => [Nat.digitChar (byte.toNat / 16), Nat.digitChar (byte.toNat % 16)]

theorem toText?_ofText (text : String) : toText? (ofText text) = some text := by
  have same : (⟨(ofText text).toArray⟩ : ByteArray) = text.toUTF8 := by simp [ofText]
  unfold toText?
  rw [same, String.fromUTF8?, String.toUTF8_eq_toByteArray, dif_pos text.isValidUTF8]
  rfl

end Bytes

/-- The decimal digits of a byte string, read as one number; `none` for an empty string or a byte
that is no digit. -/
def decimalValue? (bytes : Bytes) : Option Nat :=
  if bytes.isEmpty then none
  else bytes.foldl (fun value byte =>
    value.bind fun value =>
      if 0x30 ≤ byte ∧ byte ≤ 0x39 then some (value * 10 + (byte.toNat - 0x30)) else none) (some 0)

/-- An unsigned number as a request or guacd writes it: an optional plus sign and at least one
digit, at most `limit`. -/
def parseUnsigned? (limit : Nat) (text : String) : Option Nat :=
  let digits := match Bytes.ofText text with
    | 0x2b :: rest => rest
    | bytes => bytes
  (decimalValue? digits).filter (· ≤ limit)

end TunnelRelay
