import TunnelRelay.Proofs.Text.Decimal

/-!
Unsigned numbers in texts.

A text is read as a number if it is a string of digits, with a plus sign in front or without one,
and the number does not exceed a limit.
-/

namespace TunnelRelay

/-- A text that stands for a number: at least one digit, behind a plus sign if
there is one. -/
def Denotes (text : String) (value : Nat) : Prop :=
  ∃ digits : Bytes, digits ≠ [] ∧ (∀ byte ∈ digits, Bytes.IsDigit byte) ∧
    Bytes.numeralValue digits = value ∧
    (Bytes.ofText text = digits ∨ Bytes.ofText text = 0x2b :: digits)

def readDigit (value : Option Nat) (byte : UInt8) : Option Nat :=
  value.bind fun value =>
    if 0x30 ≤ byte ∧ byte ≤ 0x39 then some (value * 10 + (byte.toNat - 0x30))
    else none

theorem decimalValue?_eq (bytes : Bytes) : decimalValue? bytes =
    if bytes.isEmpty then none else bytes.foldl readDigit (some 0) := rfl

theorem foldl_readDigit_none (bytes : Bytes) :
    bytes.foldl readDigit none = none := by
  induction bytes with
  | nil => rfl
  | cons byte bytes ih => exact ih

theorem foldl_readDigit_iff (bytes : Bytes) (start value : Nat) :
    bytes.foldl readDigit (some start) = some value ↔
      (∀ byte ∈ bytes, Bytes.IsDigit byte) ∧
        Bytes.numeralFrom start bytes = value := by
  induction bytes generalizing start with
  | nil =>
      constructor
      · intro same
        exact ⟨nofun, Option.some.inj same⟩
      · rintro ⟨-, rfl⟩
        rfl
  | cons byte bytes ih =>
      rw [List.foldl_cons, List.forall_mem_cons]
      by_cases digit : Bytes.IsDigit byte
      · have first : readDigit (some start) byte =
            some (start * 10 + (byte.toNat - 0x30)) := if_pos digit
        rw [first, ih]
        exact ⟨fun others => ⟨⟨digit, others.1⟩, others.2⟩,
          fun all => ⟨all.1.2, all.2⟩⟩
      · have first : readDigit (some start) byte = none := if_neg digit
        rw [first, foldl_readDigit_none]
        exact ⟨nofun, fun all => absurd all.1.1 digit⟩

theorem decimalValue?_iff (bytes : Bytes) (value : Nat) :
    decimalValue? bytes = some value ↔ bytes ≠ [] ∧
      (∀ byte ∈ bytes, Bytes.IsDigit byte) ∧
        Bytes.numeralValue bytes = value := by
  rw [decimalValue?_eq]
  cases bytes with
  | nil => exact ⟨nofun, fun all => absurd rfl all.1⟩
  | cons byte bytes =>
      rw [List.isEmpty_cons, if_neg Bool.false_ne_true, foldl_readDigit_iff]
      exact ⟨fun all => ⟨List.cons_ne_nil byte bytes, all⟩, fun all => all.2⟩

theorem parseUnsigned?_iff (limit : Nat) (text : String) (value : Nat) :
    parseUnsigned? limit text = some value ↔
      Denotes text value ∧ value ≤ limit := by
  unfold parseUnsigned?
  rw [Option.filter_eq_some_iff, decide_eq_true_iff, decimalValue?_iff]
  apply and_congr_left
  intro within
  split
  · rename_i digits signed
    constructor
    · rintro ⟨some, digital, same⟩
      exact ⟨digits, some, digital, same, .inr signed⟩
    · rintro ⟨others, some, digital, same, plain | signed'⟩
      · rw [plain] at signed
        rw [signed] at digital
        exact absurd (digital 0x2b List.mem_cons_self).1 (by decide)
      · rw [signed] at signed'
        cases signed'
        exact ⟨some, digital, same⟩
  · rename_i unsigned
    constructor
    · rintro ⟨some, digital, same⟩
      exact ⟨_, some, digital, same, .inl rfl⟩
    · rintro ⟨digits, some, digital, same, plain | signed⟩
      · rw [plain]
        exact ⟨some, digital, same⟩
      · exact absurd signed (unsigned digits)

end TunnelRelay
