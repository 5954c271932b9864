import TunnelRelay.Text
import TunnelRelay.Token

/-!
Files of certificates: base 64 between lines that say what begins and ends there.

A file may hold other things as well; those with a known name must be well formed too.
-/

namespace TunnelRelay.Tls

inductive PemError where
  | badStart
  | endMissing (name : Bytes)
  | badDigits
  deriving DecidableEq, Repr

def PemError.message : PemError → String
  | badStart => "illegal section start"
  | endMissing name =>
    "section end \"-----END " ++ ((Bytes.toText? name).getD "") ++ "-----\" missing"
  | badDigits => "invalid base 64"

def base64Value? (byte : UInt8) : Option Nat :=
  base64Digits.findIdx? fun digit => digit.toNat == byte.toNat

/-- The bytes that digits of base 64 stand for. Padding may fill up the last four digits. -/
def base64Bytes? : Bytes → Option Bytes
  | [] => some []
  | [first, second] | [first, second, 0x3d, 0x3d] => do
    return [((← base64Value? first) * 4 + (← base64Value? second) / 16).toUInt8]
  | [first, second, third] | [first, second, third, 0x3d] => do
    let bits := ((← base64Value? first) * 64 + (← base64Value? second)) * 64
      + (← base64Value? third)
    return [(bits / 1024).toUInt8, (bits / 4).toUInt8]
  | first :: second :: third :: fourth :: rest => do
    let bits := (((← base64Value? first) * 64 + (← base64Value? second)) * 64
      + (← base64Value? third)) * 64 + (← base64Value? fourth)
    return (bits / 65536).toUInt8 :: (bits / 256).toUInt8 :: bits.toUInt8 :: (← base64Bytes? rest)
  | _ => none

def isSpace (byte : UInt8) : Bool :=
  byte == 0x20 || byte == 0x09 || byte == 0x0a || byte == 0x0d

/-- Drops the hyphens at the end of a line that runs backwards; there are `count` of them and no
more, and spaces between them are passed over. -/
def dropHyphens : (count : Nat) → Bytes → Option Bytes
  | 0, bytes => if (bytes.dropWhile (· == 0x20)).head? = some 0x2d then none else some bytes
  | _ + 1, [] => none
  | count + 1, byte :: rest =>
    if byte = 0x2d then dropHyphens count rest
    else if byte = 0x20 then dropHyphens (count + 1) rest
    else none

/-- What a section with the given name holds is worth decoding. -/
def isKnownSection (name : Bytes) : Bool :=
  ["CERTIFICATE", "PUBLIC KEY", "RSA PRIVATE KEY", "PRIVATE KEY", "EC PRIVATE KEY", "X509 CRL",
    "CERTIFICATE REQUEST"].any (Bytes.ofText · == name)

/-- Reads the sections of a file, line by line. `name` is that of the open section, and `digits`
are the lines read in it so far, the last one first. -/
def readSections (name : Option Bytes) (digits : List Bytes) :
    (lines : List Bytes) → Except PemError (List (Bytes × Bytes))
  | [] =>
    match name with
    | none => .ok []
    | some name => .error (.endMissing name)
  | line :: lines =>
    match Text.after? (Bytes.ofText "-----BEGIN ") line, name with
    | some behind, _ =>
      match dropHyphens 5 behind.reverse with
      | none => .error .badStart
      | some name => readSections (some name.reverse) digits lines
    | none, none => readSections none digits lines
    | none, some name =>
      if (Bytes.ofText "-----END " ++ name ++ Bytes.ofText "-----").isPrefixOf line then
        if isKnownSection name then
          match base64Bytes? (digits.reverse.flatten.filter (!isSpace ·)) with
          | none => .error .badDigits
          | some content => do return (name, content) :: (← readSections none [] lines)
        else readSections none [] lines
      else readSections (some name) (line :: digits) lines

def certificates (file : Bytes) : Except PemError (List Bytes) := do
  let lines := (Text.splitOn 0x0a file).flatMap (Text.splitOn 0x0d)
  let sections ← readSections none [] lines
  return (sections.filter (·.1 == Bytes.ofText "CERTIFICATE")).map (·.2)

end TunnelRelay.Tls
