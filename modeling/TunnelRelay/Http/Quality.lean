import TunnelRelay.Text

/-!
Quality values of content codings.

A quality is written as a decimal number and counts with the precision of a 32-bit float: two
qualities that round to the same float are equal. The value is kept exactly, in units of the
smallest positive float, so that qualities are ordered as integers are. Infinity takes the place
of the first power of two that is too large.
-/

namespace TunnelRelay.Http

/-- A quality: a number of units of 2⁻¹⁴⁹, or a value that cannot be compared. -/
inductive Quality where
  | units (count : Int)
  | incomparable
  deriving DecidableEq, Repr

namespace Quality

/-- How many units make one. -/
def scale : Nat := 1 <<< 149

/-- The first number of units that is no finite float. -/
def infinity : Nat := 1 <<< 277

/-- The significant bits of a float. -/
def precision : Nat := 24

def one : Quality := units scale

/-- The quotient rounded to the nearest integer, a tie to the even one. -/
def divRound (num den : Nat) : Nat :=
  let quotient := num / den
  let twice := 2 * (num % den)
  if den < twice ∨ (twice = den ∧ quotient % 2 = 1) then quotient + 1 else quotient

/-- The float nearest to `num / den`, in units. -/
def nearest (num den : Nat) : Nat :=
  let scaled := num * scale
  let grid := 1 <<< ((scaled / den).log2 + 1 - precision)
  min (divRound scaled (den * grid) * grid) infinity

/-- The float nearest to `mantissa * 10 ^ exponent`, in units. Numbers far outside the range of
floats are settled by their magnitude alone. -/
def ofDecimal (mantissa : Nat) (exponent : Int) : Nat :=
  let magnitude : Int := (Nat.toDigits 10 mantissa).length + exponent
  if mantissa = 0 ∨ magnitude < -60 then 0
  else if 60 < magnitude then infinity
  else if 0 ≤ exponent then nearest (mantissa * Nat.pow 10 exponent.toNat) 1
  else nearest mantissa (Nat.pow 10 (-exponent).toNat)

def digitValue (char : Char) : Nat :=
  char.toNat - '0'.toNat

def decimal (digits : List Char) : Nat :=
  digits.foldl (fun value char => value * 10 + digitValue char) 0

def sign : List Char → Bool × List Char
  | '-' :: rest => (true, rest)
  | '+' :: rest => (false, rest)
  | text => (false, text)

/-- The exponent behind a mantissa: nothing, or `e` and a number. -/
def exponent? : List Char → Option Int
  | [] => some 0
  | mark :: rest =>
    if mark = 'e' ∨ mark = 'E' then
      let (negative, digits) := sign rest
      if digits.isEmpty ∨ digits.any (!·.isDigit) then none
      else some (if negative then -(decimal digits : Int) else decimal digits)
    else none

def magnitude? (text : List Char) : Option Nat :=
  let whole := text.takeWhile Char.isDigit
  let rest := text.dropWhile Char.isDigit
  let (fraction, rest) := match rest with
    | '.' :: rest => (rest.takeWhile Char.isDigit, rest.dropWhile Char.isDigit)
    | rest => ([], rest)
  if whole.isEmpty ∧ fraction.isEmpty then none
  else (exponent? rest).map fun exponent =>
    ofDecimal (decimal (whole ++ fraction)) (exponent - fraction.length)

/-- Reads a quality: a decimal number with optional sign, fraction and exponent, or a name of
infinity or of the incomparable value. -/
def parse? (text : List Char) : Option Quality :=
  let (negative, rest) := sign text
  let name := String.ofList (Text.lower rest)
  if name = "nan" then some incomparable
  else
    let magnitude :=
      if name = "inf" ∨ name = "infinity" then some infinity else magnitude? rest
    magnitude.map fun count => units (if negative then -(count : Int) else count)

/-- The units of a quality that counts: one that can be compared and is above zero. -/
def positive? : Quality → Option Int
  | units count => if 0 < count then some count else none
  | incomparable => none

end Quality

end TunnelRelay.Http
