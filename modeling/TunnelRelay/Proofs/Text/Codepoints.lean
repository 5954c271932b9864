import TunnelRelay.Proofs.Frame.Resumption

/-!
Texts as the codepoints of their bytes.

The UTF-8 form of a text is that of its codepoints, one after another, and the first byte of each
tells how many bytes it takes. Passing over content by first bytes therefore counts codepoints
exactly, in content that is text.
-/

namespace TunnelRelay

namespace Bytes

/-! ### Texts and their bytes -/

theorem ofText_eq_flatMap (text : String) :
    ofText text = text.toList.flatMap String.utf8EncodeChar := by
  have encoded : text.toList.utf8Encode = text.toByteArray :=
    String.utf8Encode_toList
  unfold ofText
  rw [String.toUTF8_eq_toByteArray, ← encoded]
  simp [List.utf8Encode]

@[simp]
theorem ofText_append (first second : String) :
    ofText (first ++ second) = ofText first ++ ofText second := by
  simp only [ofText_eq_flatMap, String.toList_append, List.flatMap_append]

theorem toText?_eq_some_iff {bytes : Bytes} {text : String} :
    toText? bytes = some text ↔ bytes = ofText text := by
  constructor
  · intro found
    unfold toText? String.fromUTF8? at found
    split at found
    · cases found
      simp [ofText, String.fromUTF8]
    · cases found
  · intro same
    rw [same]
    exact toText?_ofText text

theorem ofText_injective {first second : String}
    (same : ofText first = ofText second) : first = second := by
  have found := toText?_ofText first
  rw [same, toText?_ofText] at found
  exact (Option.some.inj found).symm

def IsText (bytes : Bytes) : Prop :=
  ∃ text, ofText text = bytes

theorem isText_ofText (text : String) : IsText (ofText text) :=
  ⟨text, rfl⟩

theorem isText_nil : IsText [] :=
  ⟨"", by simp [ofText]⟩

theorem IsText.append {first second : Bytes} (firstText : IsText first)
    (secondText : IsText second) : IsText (first ++ second) := by
  obtain ⟨left, rfl⟩ := firstText
  obtain ⟨right, rfl⟩ := secondText
  exact ⟨left ++ right, ofText_append left right⟩

theorem isText_singleton {byte : UInt8} (ascii : byte ≤ 0x7f) :
    IsText [byte] := by
  have small : byte.toNat ≤ 127 := UInt8.le_iff_toNat_le.mp ascii
  have kept : (Char.ofNat byte.toNat).val.toNat = byte.toNat := by
    have valid : byte.toNat.isValidChar := Or.inl (by omega)
    rw [Char.ofNat, dif_pos valid]
    rfl
  refine ⟨String.singleton (Char.ofNat byte.toNat), ?_⟩
  rw [ofText_eq_flatMap, String.toList_singleton, List.flatMap_singleton]
  simp only [String.utf8EncodeChar, kept]
  rw [if_pos small, UInt8.ofNat_toNat]

/-! ### The first byte of a codepoint -/

theorem sequenceWidth?_ofNat {value : Nat} (small : value < 256) :
    sequenceWidth? (UInt8.ofNat value) =
      if value ≤ 0x7f then some 1
      else if 0xc2 ≤ value ∧ value ≤ 0xdf then some 2
      else if 0xe0 ≤ value ∧ value ≤ 0xef then some 3
      else if 0xf0 ≤ value ∧ value ≤ 0xf4 then some 4
      else none := by
  have kept : (UInt8.ofNat value).toNat = value := by
    rw [UInt8.toNat_ofNat', Nat.mod_eq_of_lt small]
  simp only [sequenceWidth?, UInt8.le_iff_toNat_le, kept]
  rfl

/-- The first byte of a codepoint tells how many bytes the codepoint takes. -/
theorem utf8EncodeChar_width (char : Char) :
    ∃ lead tail, String.utf8EncodeChar char = lead :: tail ∧
      sequenceWidth? lead = some (tail.length + 1) := by
  have bound : char.val.toNat ≤ 0x10ffff := by
    have valid := char.valid
    unfold UInt32.isValidChar Nat.isValidChar at valid
    omega
  unfold String.utf8EncodeChar
  simp only
  split
  · refine ⟨_, _, rfl, ?_⟩
    rw [sequenceWidth?_ofNat (by omega), if_pos (by omega)]
    rfl
  · split
    · refine ⟨_, _, rfl, ?_⟩
      rw [sequenceWidth?_ofNat (by omega), if_neg (by omega),
        if_pos (by omega)]
      rfl
    · split
      · refine ⟨_, _, rfl, ?_⟩
        rw [sequenceWidth?_ofNat (by omega), if_neg (by omega),
          if_neg (by omega), if_pos (by omega)]
        rfl
      · refine ⟨_, _, rfl, ?_⟩
        rw [sequenceWidth?_ofNat (by omega), if_neg (by omega),
          if_neg (by omega), if_neg (by omega), if_pos (by omega)]
        rfl

end Bytes

/-! ### Passing over text -/

theorem passContent_codepoint (char : Char) (size missing : Nat)
    (rest : Bytes) :
    passContent size (missing + 1) (String.utf8EncodeChar char ++ rest) =
      passContent (size + (String.utf8EncodeChar char).length) missing rest := by
  obtain ⟨lead, tail, encoded, width⟩ := Bytes.utf8EncodeChar_width char
  have advanced : Bytes.advance? tail.length (tail ++ rest) = some rest := by
    rw [Bytes.advance?_eq, if_pos (by simp), List.drop_left]
  rw [encoded, List.cons_append, passContent, width]
  simp only [Nat.add_sub_cancel, advanced]
  rfl

theorem passContent_ofText (text : String) (size : Nat) (rest : Bytes) :
    passContent size text.length (Bytes.ofText text ++ rest) =
      .ok ⟨size + (Bytes.ofText text).length, 0, rest⟩ := by
  rw [Bytes.ofText_eq_flatMap, ← String.length_toList]
  induction text.toList generalizing size with
  | nil => simp [passContent]
  | cons char chars ih =>
      rw [List.flatMap_cons, List.append_assoc, List.length_cons,
        passContent_codepoint, ih, List.length_append, Nat.add_assoc]

theorem passContent_codepoints {chars : List Char} {size missing : Nat}
    {rest after : Bytes}
    (done : passContent size missing
        (chars.flatMap String.utf8EncodeChar ++ rest) =
      .ok ⟨size + (chars.flatMap String.utf8EncodeChar).length, 0, after⟩) :
    chars.length = missing := by
  induction chars generalizing size missing with
  | nil =>
      have counted := (passContent_forward done).1
      simp only [List.flatMap_nil, List.length_nil] at counted ⊢
      omega
  | cons char chars ih =>
      cases missing with
      | zero =>
          have width := Char.utf8Size_pos char
          have sizes := congrArg (Except.map Passed.size) done
          simp only [passContent, Except.map, List.flatMap_cons,
            List.length_append, String.length_utf8EncodeChar,
            Except.ok.injEq] at sizes
          omega
      | succ missing =>
          rw [List.flatMap_cons, List.append_assoc, passContent_codepoint,
            List.length_append, ← Nat.add_assoc] at done
          rw [List.length_cons, ih done]

/-- Passing over content that turns out to be a text has passed as many
codepoints as the text has. -/
theorem passContent_length_eq {text : String} {size missing : Nat}
    {rest after : Bytes}
    (done : passContent size missing (Bytes.ofText text ++ rest) =
      .ok ⟨size + (Bytes.ofText text).length, 0, after⟩) :
    text.length = missing := by
  rw [Bytes.ofText_eq_flatMap] at done
  rw [← String.length_toList]
  exact passContent_codepoints done

end TunnelRelay
