import TunnelRelay.Bytes

/-!
Session tokens.

A token is random bytes in base 64. Whoever reads from or writes to a tunnel over HTTP has to show
it; the comparison looks at every byte, wherever the first difference is.
-/

namespace TunnelRelay

/-- Random bytes behind each token. -/
def tokenLength : Nat := 33

def base64Digits : List Char :=
  "ABCDEFGHIJKLMNOPQRSTUVWXYZabcdefghijklmnopqrstuvwxyz0123456789+/".toList

def base64Digit (value : Nat) : Char :=
  base64Digits[value % 64]?.getD '='

/-- Base 64: four digits for three bytes, with padding at the end. -/
def base64 : Bytes → List Char
  | [] => []
  | [first] =>
    let bits := first.toNat * 16
    [base64Digit (bits / 64), base64Digit bits, '=', '=']
  | [first, second] =>
    let bits := (first.toNat * 256 + second.toNat) * 4
    [base64Digit (bits / 4096), base64Digit (bits / 64), base64Digit bits, '=']
  | first :: second :: third :: rest =>
    let bits := (first.toNat * 256 + second.toNat) * 256 + third.toNat
    base64Digit (bits / 262144) :: base64Digit (bits / 4096) :: base64Digit (bits / 64)
      :: base64Digit bits :: base64 rest

def tokenOf (random : Bytes) : String :=
  String.ofList (base64 random)

/-- Whether a presented token is the expected one: the lengths agree and the bits that differ,
taken together, are none. -/
def tokenMatches (expected presented : String) : Bool :=
  let expected := Bytes.ofText expected
  let presented := Bytes.ofText presented
  expected.length == presented.length
    && (expected.zip presented).foldl (fun difference pair => difference ||| (pair.1 ^^^ pair.2)) 0 == 0

end TunnelRelay
