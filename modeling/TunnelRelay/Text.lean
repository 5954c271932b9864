/-!
Cutting and trimming of texts, as lists of characters.

`splitOn` and `intercalate` undo each other; `trim` removes the characters that Unicode counts as
white space from both ends.
-/

namespace TunnelRelay

/-- The characters with the Unicode property `White_Space`. -/
def isBlank (char : Char) : Bool :=
  let code := char.toNat
  0x09 ≤ code && code ≤ 0x0d || code == 0x20 || code == 0x85 || code == 0xa0 || code == 0x1680
    || 0x2000 ≤ code && code ≤ 0x200a || code == 0x2028 || code == 0x2029 || code == 0x202f
    || code == 0x205f || code == 0x3000

namespace Text

def trim (text : List Char) : List Char :=
  ((text.dropWhile isBlank).reverse.dropWhile isBlank).reverse

/-- The pieces between the occurrences of a separator; always at least one. -/
def splitOn {α : Type} [DecidableEq α] (separator : α) : List α → List (List α)
  | [] => [[]]
  | char :: rest =>
    if char = separator then [] :: splitOn separator rest
    else match splitOn separator rest with
      | [] => [[char]]
      | piece :: pieces => (char :: piece) :: pieces

theorem splitOn_ne_nil {α : Type} [DecidableEq α] (separator : α) (text : List α) :
    splitOn separator text ≠ [] := by
  induction text with
  | nil => simp [splitOn]
  | cons char rest ih =>
    simp only [splitOn]
    split
    · simp
    · split <;> simp

theorem splitOn_append {α : Type} [DecidableEq α] (separator : α) (front back : List α) :
    splitOn separator (front ++ separator :: back) =
      splitOn separator front ++ splitOn separator back := by
  induction front with
  | nil => simp [splitOn]
  | cons char front ih =>
    rw [List.cons_append, splitOn, splitOn, ih]
    split
    next => rfl
    next =>
      cases cut : splitOn separator front with
      | nil => exact absurd cut (splitOn_ne_nil separator front)
      | cons piece pieces => rfl

/-- The pieces, with separators between them, are the text again. -/
theorem intercalate_splitOn {α : Type} [DecidableEq α] (separator : α) (text : List α) :
    [separator].intercalate (splitOn separator text) = text := by
  induction text with
  | nil => rfl
  | cons char text ih =>
    rw [splitOn]
    split
    next same =>
      rw [List.intercalate_cons_of_ne_nil (splitOn_ne_nil separator text), ih, same]
      rfl
    next =>
      cases cut : splitOn separator text with
      | nil => exact absurd cut (splitOn_ne_nil separator text)
      | cons piece pieces =>
        rw [cut] at ih
        rw [← ih]
        cases pieces with
        | nil => rfl
        | cons next pieces => simp only [List.intercalate_cons_cons, List.cons_append]

/-- No separator is left in a piece. -/
theorem not_mem_of_mem_splitOn {α : Type} [DecidableEq α] {separator : α}
    {text piece : List α} (member : piece ∈ splitOn separator text) : separator ∉ piece := by
  induction text generalizing piece with
  | nil =>
    rw [splitOn, List.mem_singleton] at member
    rw [member]
    exact List.not_mem_nil
  | cons char text ih =>
    rw [splitOn] at member
    split at member
    next =>
      rcases List.mem_cons.mp member with same | later
      · rw [same]
        exact List.not_mem_nil
      · exact ih later
    next other =>
      cases cut : splitOn separator text with
      | nil => exact absurd cut (splitOn_ne_nil separator text)
      | cons first pieces =>
        rw [cut] at member ih
        rcases List.mem_cons.mp member with same | later
        · rw [same]
          exact List.not_mem_cons_of_ne_of_not_mem (Ne.symm other) (ih List.mem_cons_self)
        · exact ih (List.mem_cons_of_mem first later)

/-- What follows a prefix, if the text starts with it. -/
def after? {α : Type} [DecidableEq α] : (start text : List α) → Option (List α)
  | [], text => some text
  | _ :: _, [] => none
  | char :: start, first :: text => if char = first then after? start text else none

theorem after?_eq_some {α : Type} [DecidableEq α] {start text rest : List α} :
    after? start text = some rest ↔ text = start ++ rest := by
  induction start generalizing text with
  | nil => simp [after?]
  | cons char start ih =>
    cases text with
    | nil => simp [after?]
    | cons first text =>
      simp only [after?, List.cons_append, List.cons.injEq]
      split
      next same => simp [ih, same]
      next differs => simp [Ne.symm differs]

/-- The value of a digit in the given base, where letters follow the decimal digits. -/
def digitValue? (base : Nat) (char : Char) : Option Nat :=
  let value :=
    if char.isDigit then some (char.toNat - 0x30)
    else if 'a' ≤ char ∧ char ≤ 'z' then some (char.toNat - 0x57)
    else if 'A' ≤ char ∧ char ≤ 'Z' then some (char.toNat - 0x37)
    else none
  value.filter (· < base)

/-- The number that digits stand for; `none` for no digit at all and for any other character. -/
def number? (base : Nat) (digits : List Char) : Option Nat :=
  if digits.isEmpty then none
  else digits.foldlM (fun value char => (digitValue? base char).map (value * base + ·)) 0

def lower (text : List Char) : List Char :=
  text.map Char.toLower

end Text

end TunnelRelay
