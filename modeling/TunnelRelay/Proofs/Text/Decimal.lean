import Mathlib.Algebra.Ring.Nat
import Mathlib.Data.List.Induction
import TunnelRelay.Proofs.Text.Codepoints

/-!
Decimal numerals.

A number is printed without leading zeros. A string of digits, read from left to right, has a
value; printing the value gives the string without its leading zeros.
-/

namespace TunnelRelay

namespace Bytes

def IsDigit (byte : UInt8) : Prop :=
  0x30 ≤ byte ∧ byte ≤ 0x39

/-- The number that digits stand for behind others worth `value`. -/
def numeralFrom (value : Nat) (digits : Bytes) : Nat :=
  digits.foldl (fun value digit => value * 10 + (digit.toNat - 0x30)) value

def numeralValue (digits : Bytes) : Nat :=
  numeralFrom 0 digits

/-- Digits without their leading zeros. The last digit stays, zero or not. -/
def stripZeros : Bytes → Bytes
  | [] => []
  | [digit] => [digit]
  | first :: second :: rest =>
      if first = 0x30 then stripZeros (second :: rest)
      else first :: second :: rest

def ofNat (value : Nat) : Bytes :=
  ofText (toString value)

/-! ### Values of digits -/

theorem IsDigit.toNat_bounds {byte : UInt8} (digit : IsDigit byte) :
    48 ≤ byte.toNat ∧ byte.toNat ≤ 57 :=
  ⟨UInt8.le_iff_toNat_le.mp digit.1, UInt8.le_iff_toNat_le.mp digit.2⟩

theorem isDigit_ofNat {value : Nat} (small : value < 10) :
    IsDigit (UInt8.ofNat (48 + value)) ∧
      (UInt8.ofNat (48 + value)).toNat = 48 + value := by
  have kept : (UInt8.ofNat (48 + value)).toNat = 48 + value := by
    rw [UInt8.toNat_ofNat', Nat.mod_eq_of_lt (by omega)]
  refine ⟨⟨?_, ?_⟩, kept⟩
  · rw [UInt8.le_iff_toNat_le, kept]
    change 48 ≤ 48 + value
    omega
  · rw [UInt8.le_iff_toNat_le, kept]
    change 48 + value ≤ 57
    omega

theorem numeralValue_snoc (digits : Bytes) (digit : UInt8) :
    numeralValue (digits ++ [digit]) =
      numeralValue digits * 10 + (digit.toNat - 48) := by
  unfold numeralValue numeralFrom
  rw [List.foldl_append]
  rfl

theorem numeralValue_zero_cons (digits : Bytes) :
    numeralValue (0x30 :: digits) = numeralValue digits := rfl

theorem numeralValue_pos {first : UInt8} (rest : Bytes)
    (digit : IsDigit first) (nonzero : first ≠ 0x30) :
    0 < numeralValue (first :: rest) := by
  induction rest using List.reverseRecOn with
  | nil =>
      have bounds := digit.toNat_bounds
      have different : first.toNat ≠ 48 := by
        intro same
        exact nonzero (UInt8.toNat_inj.mp same)
      change 0 < 0 * 10 + (first.toNat - 48)
      omega
  | append_singleton rest last ih =>
      rw [← List.cons_append, numeralValue_snoc]
      omega

/-! ### Printed numbers -/

theorem ofNat_digit {value : Nat} (small : value < 10) :
    ofNat value = [UInt8.ofNat (48 + value)] := by
  unfold ofNat
  rw [Nat.toString_eq_repr, Nat.repr_of_lt small]
  match value, small with
  | 0, _ | 1, _ | 2, _ | 3, _ | 4, _ | 5, _ | 6, _ | 7, _ | 8, _ | 9, _ => rfl

theorem ofNat_snoc {value digit : Nat} (positive : 0 < value)
    (small : digit < 10) :
    ofNat (value * 10 + digit) =
      ofNat value ++ [UInt8.ofNat (48 + digit)] := by
  rw [← ofNat_digit small]
  unfold ofNat
  simp only [Nat.toString_eq_repr]
  rw [Nat.repr_eq_repr_append_repr (by omega), ofText_append]
  have quotient : (value * 10 + digit) / 10 = value := by omega
  have remainder : (value * 10 + digit) % 10 = digit := by omega
  rw [quotient, remainder]

theorem ofNat_numeral (value : Nat) :
    (∀ byte ∈ ofNat value, IsDigit byte) ∧
      numeralValue (ofNat value) = value := by
  induction value using Nat.strongRecOn with
  | ind value ih =>
      by_cases small : value < 10
      · have digit := isDigit_ofNat small
        rw [ofNat_digit small]
        constructor
        · intro byte member
          rw [List.mem_singleton.mp member]
          exact digit.1
        · change 0 * 10 + ((UInt8.ofNat (48 + value)).toNat - 48) = value
          rw [digit.2]
          omega
      · have split : value = value / 10 * 10 + value % 10 := by omega
        have digit := isDigit_ofNat (Nat.mod_lt value (by decide : 0 < 10))
        have quotient := ih (value / 10) (by omega)
        rw [split, ofNat_snoc (by omega) (by omega)]
        constructor
        · intro byte member
          rcases List.mem_append.mp member with early | late
          · exact quotient.1 byte early
          · rw [List.mem_singleton.mp late]
            exact digit.1
        · rw [numeralValue_snoc, quotient.2, digit.2]
          omega

theorem ofNat_length_pos (value : Nat) : 0 < (ofNat value).length := by
  by_cases small : value < 10
  · rw [ofNat_digit small]
    exact Nat.one_pos
  · have split : value = value / 10 * 10 + value % 10 := by omega
    rw [split, ofNat_snoc (by omega) (by omega), List.length_append]
    exact Nat.lt_of_lt_of_le Nat.one_pos (Nat.le_add_left _ _)

theorem ofNat_length_le {value count : Nat} (positive : 0 < count)
    (bounded : value < 10 ^ count) : (ofNat value).length ≤ count := by
  induction count generalizing value with
  | zero => exact absurd positive (Nat.lt_irrefl 0)
  | succ count ih =>
      by_cases small : value < 10
      · rw [ofNat_digit small, List.length_singleton]
        omega
      · have split : value = value / 10 * 10 + value % 10 := by omega
        have more : 0 < count := by
          rcases Nat.eq_zero_or_pos count with none | some
          · rw [none] at bounded
            omega
          · exact some
        have fewer : value / 10 < 10 ^ count := by
          rw [Nat.pow_succ] at bounded
          omega
        have quotient := ih more fewer
        rw [split, ofNat_snoc (by omega) (by omega), List.length_append,
          List.length_singleton]
        omega

/-! ### Leading zeros -/

theorem stripZeros_length_le (digits : Bytes) :
    (stripZeros digits).length ≤ digits.length := by
  fun_induction stripZeros digits with
  | case1 => exact Nat.le_refl _
  | case2 digit => exact Nat.le_refl _
  | case3 second rest ih => exact Nat.le_succ_of_le ih
  | case4 first second rest nonzero => exact Nat.le_refl _

/-- A last digit stands alone behind zeros, and is kept behind other digits. -/
theorem stripZeros_snoc {digits : Bytes} (last : UInt8)
    (digital : ∀ byte ∈ digits, IsDigit byte) :
    stripZeros (digits ++ [last]) =
      if numeralValue digits = 0 then [last]
      else stripZeros digits ++ [last] := by
  induction digits with
  | nil => rfl
  | cons first rest ih =>
      have restDigits : ∀ byte ∈ rest, IsDigit byte :=
        fun byte member => digital byte (List.mem_cons_of_mem first member)
      by_cases zero : first = 0x30
      · subst zero
        rw [numeralValue_zero_cons]
        have stripped : stripZeros (0x30 :: rest ++ [last]) =
            stripZeros (rest ++ [last]) := by
          cases rest with
          | nil => rfl
          | cons second others => rfl
        rw [stripped, ih restDigits]
        cases rest with
        | nil => rfl
        | cons second others => rfl
      · have positive := numeralValue_pos rest
          (digital first List.mem_cons_self) zero
        rw [if_neg (by omega)]
        cases rest with
        | nil => simp [stripZeros, zero]
        | cons second others => simp [stripZeros, zero]

theorem ofNat_numeralValue {digits : Bytes} (nonempty : digits ≠ [])
    (digital : ∀ byte ∈ digits, IsDigit byte) :
    ofNat (numeralValue digits) = stripZeros digits := by
  induction digits using List.reverseRecOn with
  | nil => exact absurd rfl nonempty
  | append_singleton digits last ih =>
      have digitsDigital : ∀ byte ∈ digits, IsDigit byte :=
        fun byte member => digital byte (List.mem_append_left _ member)
      have lastDigit := digital last (by simp)
      have bounds := lastDigit.toNat_bounds
      have kept : UInt8.ofNat (48 + (last.toNat - 48)) = last := by
        rw [Nat.add_sub_cancel' bounds.1, UInt8.ofNat_toNat]
      rw [numeralValue_snoc, stripZeros_snoc last digitsDigital]
      split
      · rename_i zero
        rw [zero, Nat.zero_mul, Nat.zero_add, ofNat_digit (by omega), kept]
      · rename_i positive
        have some : digits ≠ [] := by
          intro empty
          rw [empty] at positive
          exact positive rfl
        rw [ofNat_snoc (by omega) (by omega), kept, ih some digitsDigital]

end Bytes

end TunnelRelay
