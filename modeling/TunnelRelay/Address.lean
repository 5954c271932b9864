import TunnelRelay.Text

/-!
Addresses to listen on, as they are written in options and configurations.

An address is a dotted quadruple, or eight groups in brackets, with a port. Names of hosts are not
addresses. Printing is canonical: the longest run of zero groups is left out, the first of equal
ones, if it holds more than one.
-/

namespace TunnelRelay

/-- Where a socket may be bound. -/
inductive SocketAddress where
  | v4 (octets : List UInt8) (port : UInt16)
  | v6 (groups : List UInt16) (scope : UInt32) (port : UInt16)
  deriving DecidableEq, Repr

namespace SocketAddress

def port : SocketAddress → UInt16
  | v4 _ port | v6 _ _ port => port

/-- Every machine has this address: it stands for all of the machine's own, or for the machine
itself. -/
def isLocal : SocketAddress → Bool
  | v4 octets _ => octets.head? == some 127 || octets == [0, 0, 0, 0]
  | v6 groups _ _ => groups.dropLast.all (· == 0) && groups.getLast?.all (· ≤ 1)

/-- Reads digits up to the first other character, and a number that is at most `limit`. -/
def readNumber (base limit : Nat) (chars : List Char) : Option (Nat × List Char) := do
  let (digits, rest) := chars.span fun char => (Text.digitValue? base char).isSome
  let value ← Text.number? base digits
  if value ≤ limit then return (value, rest) else none

def readChar (char : Char) : List Char → Option (List Char)
  | [] => none
  | first :: rest => if first = char then some rest else none

/-- Reads a number below 256 of at most three digits, without leading zeros. -/
def readOctet (chars : List Char) : Option (UInt8 × List Char) := do
  let (value, rest) ← readNumber 10 255 chars
  let width := chars.length - rest.length
  if 3 < width ∨ 1 < width ∧ chars.head? = some '0' then none
  return (value.toUInt8, rest)

def readQuadruple (chars : List Char) : Option (List UInt8 × List Char) := do
  let (first, rest) ← readOctet chars
  let (second, rest) ← readOctet (← readChar '.' rest)
  let (third, rest) ← readOctet (← readChar '.' rest)
  let (fourth, rest) ← readOctet (← readChar '.' rest)
  return ([first, second, third, fourth], rest)

def readGroup (chars : List Char) : Option (UInt16 × List Char) := do
  let (value, rest) ← readNumber 16 0xffff chars
  if 4 < chars.length - rest.length then none
  return (value.toUInt16, rest)

def groupsOfOctets : List UInt8 → List UInt16
  | high :: low :: rest => (high.toUInt16 * 256 + low.toUInt16) :: groupsOfOctets rest
  | _ => []

/-- Reads groups with colons between them, at most `room` of them, as far as they go. A quadruple
may stand for the last two; the answer says if it does. -/
def readGroups (isFirst : Bool) : (room : Nat) → List Char → List UInt16 × Bool × List Char
  | 0, chars => ([], false, chars)
  | room + 1, chars =>
    match if isFirst then some chars else readChar ':' chars with
    | none => ([], false, chars)
    | some behind =>
      match if room = 0 then none else readQuadruple behind, readGroup behind with
      | some (octets, rest), _ => (groupsOfOctets octets, true, rest)
      | none, some (group, rest) =>
        let (groups, hasQuadruple, rest) := readGroups false room rest
        (group :: groups, hasQuadruple, rest)
      | none, none => ([], false, chars)

/-- Reads eight groups; two colons stand for as many zero groups as are missing, at least one. -/
def readAllGroups (chars : List Char) : Option (List UInt16 × List Char) := do
  let (front, hasQuadruple, rest) := readGroups true 8 chars
  if front.length = 8 then return (front, rest)
  if hasQuadruple then none
  let (back, _, rest) := readGroups true (7 - front.length) (← readChar ':' (← readChar ':' rest))
  return (front ++ List.replicate (8 - front.length - back.length) 0 ++ back, rest)

def readPort? (chars : List Char) : Option UInt16 := do
  let (port, rest) ← readNumber 10 65535 (← readChar ':' chars)
  if rest.isEmpty then return port.toUInt16 else none

/-- Reads an address; `none` if it is none. -/
def ofText? (text : String) : Option SocketAddress :=
  match readQuadruple text.toList with
  | some (octets, rest) => (readPort? rest).map (.v4 octets)
  | none => do
    let (groups, rest) ← readAllGroups (← readChar '[' text.toList)
    let (scope, rest) ← match readChar '%' rest with
      | some behind => readNumber 10 (UInt32.size - 1) behind
      | none => some (0, rest)
    return .v6 groups scope.toUInt32 (← readPort? (← readChar ']' rest))

def quadrupleText (octets : List UInt8) : String :=
  ".".intercalate (octets.map toString)

def hexText (group : UInt16) : String :=
  String.ofList (Nat.toDigits 16 group.toNat)

/-- The first of the longest runs of zeros: where it starts, and how long it is. -/
def zeroRun (groups : List UInt16) : Nat × Nat :=
  let runs := (List.range groups.length).map fun start =>
    (start, ((groups.drop start).takeWhile (· == 0)).length)
  runs.foldl (fun best run => if best.2 < run.2 then run else best) (0, 0)

def groupsText (groups : List UInt16) : String :=
  ":".intercalate (groups.map hexText)

/-- The text of eight groups. Addresses that stand for a quadruple end in one. -/
def addressText (groups : List UInt16) : String :=
  match groups with
  | [0, 0, 0, 0, 0, 0xffff, high, low] =>
    let octets := [high, low].flatMap fun group => [(group / 256).toUInt8, group.toUInt8]
    "::ffff:" ++ quadrupleText octets
  | _ =>
    let (start, count) := zeroRun groups
    if 1 < count then
      groupsText (groups.take start) ++ "::" ++ groupsText (groups.drop (start + count))
    else groupsText groups

def text : SocketAddress → String
  | .v4 octets port => quadrupleText octets ++ ":" ++ toString port
  | .v6 groups scope port =>
    let scopeText := if scope = 0 then "" else "%" ++ toString scope
    "[" ++ addressText groups ++ scopeText ++ "]:" ++ toString port

end SocketAddress

end TunnelRelay
