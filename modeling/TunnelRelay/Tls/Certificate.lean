import TunnelRelay.Bytes

/-!
Certificates that may be trusted.

A certificate is nested values, each with a tag and a length in the shortest form. Only its shape
matters here: the parts in their order, the two names of the signature algorithm equal, and no
extension that is critical and unknown or given twice.
-/

namespace TunnelRelay.Tls

/-- Reads a length. A long one starts with the number of its bytes. -/
def readLength : Bytes → Option (Nat × Bytes)
  | [] => none
  | first :: rest =>
    if first < 0x80 then some (first.toNat, rest)
    else
      let width := first.toNat - 0x80
      if width = 0 ∨ 4 < width then none
      else do
        let after ← Bytes.advance? width rest
        let length := (rest.take width).foldl (fun length byte => length * 256 + byte.toNat) 0
        if length < max 0x80 (1 <<< (8 * (width - 1))) then none else return (length, after)

/-- Reads a value with the given tag; what it holds is shorter than 2¹⁶ − 1 bytes. -/
def readValue (tag : UInt8) : Bytes → Option (Bytes × Bytes)
  | [] => none
  | first :: rest => do
    if first ≠ tag then none
    let (length, rest) ← readLength rest
    if 0xffff ≤ length then none
    return (rest.take length, ← Bytes.advance? length rest)

def readOnly (tag : UInt8) (bytes : Bytes) : Option Bytes := do
  let (content, rest) ← readValue tag bytes
  if rest.isEmpty then return content else none

def readValues (tag : UInt8) : (limit : Nat) → Bytes → Option (List Bytes)
  | 0, _ => none
  | limit + 1, bytes =>
    if bytes.isEmpty then some []
    else do
      let (content, rest) ← readValue tag bytes
      return content :: (← readValues tag limit rest)

def integerTag : UInt8 := 0x02
def bitStringTag : UInt8 := 0x03
def octetStringTag : UInt8 := 0x04
def identifierTag : UInt8 := 0x06
def booleanTag : UInt8 := 0x01
def sequenceTag : UInt8 := 0x30
def versionTag : UInt8 := 0xa0
def extensionsTag : UInt8 := 0xa3

/-- Extensions that are understood, by the last byte of their identifiers: the usage of keys, other
names, basic constraints, constraints of names, lists of revoked certificates, and purposes. -/
def knownExtensions : List UInt8 := [15, 17, 19, 30, 31, 37]

/-- Reads an extension; the answer is its number if it is understood. -/
def readExtension (bytes : Bytes) : Option (Option UInt8) := do
  let (identifier, rest) ← readValue identifierTag bytes
  let (isCritical, rest) ←
    if rest.head? = some booleanTag then do
      let (flag, rest) ← readValue booleanTag rest
      if flag = [0xff] then some (true, rest) else if flag = [0] then some (false, rest) else none
    else some (false, rest)
  let content ← readOnly octetStringTag rest
  match identifier with
  | [0x55, 0x1d, number] =>
    if knownExtensions.contains number then do
      if number ≠ 15 then let _ ← readOnly sequenceTag content
      return some number
    else if isCritical then none
    else return none
  | _ => if isCritical then none else return none

/-- The parts that every certificate has behind its version: a serial number, a signature
algorithm, the issuer, the time of validity, the subject and its key. -/
structure CoreParts where
  algorithm : Bytes
  subject : Bytes
  key : Bytes

def readCore (bytes : Bytes) : Option (CoreParts × Bytes) := do
  let (_, rest) ← readValue integerTag bytes
  let (algorithm, rest) ← readValue sequenceTag rest
  let (_, rest) ← readValue sequenceTag rest
  let (_, rest) ← readValue sequenceTag rest
  let (subject, rest) ← readValue sequenceTag rest
  let (key, rest) ← readValue sequenceTag rest
  return ({ algorithm, subject, key }, rest)

def readExtensions (bytes : Bytes) : Option Unit := do
  if bytes.isEmpty then return
  let extensions ← readOnly sequenceTag (← readOnly extensionsTag bytes)
  let found ← (← readValues sequenceTag (extensions.length + 1) extensions).mapM readExtension
  if (found.filterMap id).Nodup then return else none

/-- A root that certificates may lead back to. -/
structure TrustAnchor where
  subject : Bytes
  key : Bytes
  deriving DecidableEq, Repr

/-- Reads a certificate as a root. One without a version is of the first, and has no extensions;
any other must be of the third. -/
def TrustAnchor.ofCertificate? (bytes : Bytes) : Option TrustAnchor := do
  let certificate ← readOnly sequenceTag bytes
  let (signed, rest) ← readValue sequenceTag certificate
  let (algorithm, rest) ← readValue sequenceTag rest
  let signature ← readOnly bitStringTag rest
  if signature.head? ≠ some 0 then none
  let core ←
    match readValue versionTag signed with
    | some (version, rest) => do
      if version ≠ [integerTag, 1, 2] then none
      let (core, rest) ← readCore rest
      if core.algorithm ≠ algorithm then none
      readExtensions rest
      some core
    | none => do
      let (core, rest) ← readCore signed
      if rest.isEmpty then some core else none
  return { subject := core.subject, key := core.key }

end TunnelRelay.Tls
