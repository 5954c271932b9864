import TunnelRelay.Proofs.Text.Decimal

/-!
The grammar of frames, and the decoder as its recogniser.

An element on the wire is at least one and at most ten digits, a full stop and a text with as many
codepoints as the digits say. A frame is at least one element, with a comma behind each but the
last and a semicolon behind the last. A fresh decoder finds a frame at the front of a buffer
exactly if the buffer begins with one, within the bounds of the decoder.
-/

namespace TunnelRelay

/-! ### The grammar -/

/-- An element on the wire. Its length may have leading zeros. -/
structure WireElement where
  digits : Bytes
  text : String
  digital : ∀ byte ∈ digits, Bytes.IsDigit byte
  nonempty : digits ≠ []
  short : digits.length ≤ maxLengthDigits
  counted : Bytes.numeralValue digits = text.length

namespace WireElement

def bytes (element : WireElement) : Bytes :=
  element.digits ++ 0x2e :: Bytes.ofText element.text

end WireElement

/-- A frame on the wire. -/
structure WireFrame where
  first : WireElement
  others : List WireElement

namespace WireFrame

def tailBytes : (others : List WireElement) → Bytes
  | [] => [0x3b]
  | element :: others => 0x2c :: (element.bytes ++ tailBytes others)

def bytes (wire : WireFrame) : Bytes :=
  wire.first.bytes ++ tailBytes wire.others

def elements (wire : WireFrame) : List WireElement :=
  wire.first :: wire.others

def texts (wire : WireFrame) : List String :=
  wire.elements.map WireElement.text

def instruction (wire : WireFrame) : Instruction :=
  ⟨wire.first.text, wire.others.map WireElement.text⟩

theorem elements_instruction (wire : WireFrame) :
    wire.instruction.elements = wire.texts := rfl

end WireFrame

/-- The bounds allow these texts behind `taken` elements of a frame. -/
def Limits.Admit (limits : Limits) (taken : Nat) (texts : List String) : Prop :=
  (∀ most, limits.elements = some most → taken + texts.length ≤ most) ∧
    ∀ longest, limits.elementLength = some longest →
      ∀ text ∈ texts, text.length ≤ longest

theorem Limits.admit_unbounded (taken : Nat) (texts : List String) :
    Limits.unbounded.Admit taken texts := by
  constructor
  · intro most bound
    cases bound
  · intro longest bound
    cases bound

theorem Limits.Admit.cons {limits : Limits} {taken : Nat} {text : String}
    {texts : List String} (first : limits.Admit taken [text])
    (others : limits.Admit (taken + 1) texts) :
    limits.Admit taken (text :: texts) := by
  constructor
  · intro most bound
    have enough := others.1 most bound
    rw [List.length_cons]
    omega
  · intro longest bound other member
    rcases List.mem_cons.mp member with same | later
    · exact first.2 longest bound other (List.mem_singleton.mpr same)
    · exact others.2 longest bound other later

theorem Limits.Admit.head {limits : Limits} {taken : Nat} {text : String}
    {texts : List String} (admitted : limits.Admit taken (text :: texts)) :
    limits.Admit taken [text] := by
  constructor
  · intro most bound
    have enough := admitted.1 most bound
    rw [List.length_cons] at enough
    rw [List.length_singleton]
    omega
  · intro longest bound other member
    rw [List.mem_singleton.mp member]
    exact admitted.2 longest bound text List.mem_cons_self

theorem Limits.Admit.tail {limits : Limits} {taken : Nat} {text : String}
    {texts : List String} (admitted : limits.Admit taken (text :: texts)) :
    limits.Admit (taken + 1) texts := by
  constructor
  · intro most bound
    have enough := admitted.1 most bound
    rw [List.length_cons] at enough
    omega
  · intro longest bound other member
    exact admitted.2 longest bound other (List.mem_cons_of_mem text member)

theorem Limits.admit_singleton_iff {limits : Limits} {taken : Nat}
    {text : String} :
    limits.Admit taken [text] ↔
      limits.elements.any (· ≤ taken) = false ∧
        limits.elementLength.any (· < text.length) = false := by
  obtain ⟨elements, elementLength⟩ := limits
  have room (most : Nat) : taken + [text].length ≤ most ↔ taken < most :=
    Iff.rfl
  simp only [Limits.Admit, room]
  cases elements <;> cases elementLength <;> simp

/-! ### Reading a length -/

theorem readLength_numeral {digits : Bytes} {value count : Nat}
    (digital : ∀ byte ∈ digits, Bytes.IsDigit byte)
    (nonempty : 0 < count + digits.length)
    (short : count + digits.length ≤ maxLengthDigits) (rest : Bytes) :
    readLength value count (digits ++ 0x2e :: rest) =
      .found (Bytes.numeralFrom value digits) (count + digits.length + 1) := by
  induction digits generalizing value count with
  | nil =>
      rw [List.length_nil, Nat.add_zero] at nonempty
      rw [List.nil_append, readLength, if_neg (by decide), if_pos rfl,
        if_neg (by omega)]
      rfl
  | cons first digits ih =>
      have digit : 0x30 ≤ first ∧ first ≤ 0x39 :=
        digital first List.mem_cons_self
      rw [List.length_cons] at short
      rw [List.cons_append, readLength, if_pos digit, if_pos (by omega),
        ih (fun byte member => digital byte (List.mem_cons_of_mem first member))
          (by omega) (by omega), List.length_cons]
      congr 1
      omega

theorem readLength_found_numeral {value count length size : Nat} {rest : Bytes}
    (few : count ≤ maxLengthDigits)
    (found : readLength value count rest = .found length size) :
    ∃ digits after, rest = digits ++ 0x2e :: after ∧
      (∀ byte ∈ digits, Bytes.IsDigit byte) ∧ 0 < count + digits.length ∧
      count + digits.length ≤ maxLengthDigits ∧
      length = Bytes.numeralFrom value digits ∧
      size = count + digits.length + 1 := by
  induction rest generalizing value count with
  | nil => cases found
  | cons byte rest ih =>
      rw [readLength] at found
      split at found
      · rename_i digit
        split at found
        · rename_i room
          obtain ⟨digits, after, split, digital, some, short, worth, taken⟩ :=
            ih room found
          refine ⟨byte :: digits, after, by rw [split, List.cons_append], ?_,
            by rw [List.length_cons]; omega, by rw [List.length_cons]; omega,
            worth, by rw [List.length_cons]; omega⟩
          intro other member
          rcases List.mem_cons.mp member with same | later
          · rw [same]
            exact digit
          · exact digital other later
        · cases found
      · split at found
        · rename_i stop
          split at found
          · cases found
          · rename_i some
            cases found
            refine ⟨[], rest, by rw [stop, List.nil_append], ?_,
              by rw [List.length_nil]; omega, by rw [List.length_nil]; omega,
              rfl, rfl⟩
            intro other member
            cases member
        · cases found

/-! ### Reading an element -/

namespace WireElement

def behind (element : WireElement) (progress : Progress) : Progress :=
  { position := progress.position + element.bytes.length + 1
    elements := progress.elements ++ [element.text]
    content := none }

end WireElement

/-- An element that the bounds allow is read as a whole; its terminator says
how to go on. -/
theorem nextElement_wire {limits : Limits} {progress : Progress}
    (element : WireElement)
    (admitted : limits.Admit progress.elements.length [element.text])
    (terminator : UInt8) (after : Bytes) :
    nextElement limits progress (element.bytes ++ terminator :: after) =
      if terminator = 0x2c then .comma (element.behind progress) after
      else if terminator = 0x3b then .semicolon (element.behind progress)
      else .malformed .badTerminator := by
  obtain ⟨few, fits⟩ := Limits.admit_singleton_iff.mp admitted
  have reading : readLength 0 0 (element.bytes ++ terminator :: after) =
      .found element.text.length (element.digits.length + 1) := by
    rw [WireElement.bytes, List.append_assoc, List.cons_append,
      readLength_numeral element.digital
        (by rw [Nat.zero_add]; exact List.length_pos_iff.mpr element.nonempty)
        (by rw [Nat.zero_add]; exact element.short), Nat.zero_add]
    rw [← element.counted]
    rfl
  have body : (element.bytes ++ terminator :: after).drop
      (element.digits.length + 1) =
        Bytes.ofText element.text ++ terminator :: after := by
    rw [WireElement.bytes, List.append_assoc, List.cons_append,
      List.drop_append, List.drop_of_length_le (Nat.le_succ _),
      Nat.add_sub_cancel_left]
    rfl
  have extent : element.bytes.length =
      element.digits.length + 1 + (Bytes.ofText element.text).length := by
    rw [WireElement.bytes, List.length_append, List.length_cons]
    omega
  unfold nextElement
  rw [if_neg (by rw [few]; exact Bool.false_ne_true), reading]
  simp only
  rw [if_neg (by rw [fits]; exact Bool.false_ne_true), body, closeElement_eq,
    passContent_ofText]
  simp only [Passed.element, if_true, Nat.zero_add, Nat.add_sub_cancel_left,
    List.take_left, Bytes.toText?_ofText, WireElement.behind, extent,
    ← Nat.add_assoc]

theorem closeElement_shape {progress : Progress} {missing : Nat}
    {body : Bytes}
    (settled : ∀ next, closeElement progress ⟨progress.position, missing⟩
      body body ≠ .incomplete next)
    (sound : ∀ cause, closeElement progress ⟨progress.position, missing⟩
      body body ≠ .malformed cause) :
    ∃ text terminator after, body = Bytes.ofText text ++ terminator :: after ∧
      text.length = missing := by
  rw [closeElement_eq] at settled sound
  cases passing : passContent 0 missing body with
  | error cause =>
      simp only [passing] at sound
      exact absurd rfl (sound cause)
  | ok passed =>
      simp only [passing, Passed.element] at settled sound
      split at settled
      · rename_i complete
        rw [if_pos complete] at sound
        cases left : passed.rest with
        | nil =>
            simp only [left] at settled
            exact absurd rfl (settled _)
        | cons terminator after =>
            simp only [left, Nat.add_sub_cancel_left] at sound
            cases content : Bytes.toText? (body.take passed.size) with
            | none =>
                simp only [content] at sound
                exact absurd rfl (sound _)
            | some text =>
                have passedText := Bytes.toText?_eq_some_iff.mp content
                have behind := (passContent_forward passing).2.2
                rw [Nat.sub_zero, left] at behind
                have whole : body =
                    Bytes.ofText text ++ terminator :: after := by
                  rw [← passedText, behind, List.take_append_drop]
                refine ⟨text, terminator, after, whole, ?_⟩
                have sizes := passContent_sizes passing
                rw [left, whole, List.length_append, Nat.zero_add] at sizes
                have extent : passed.size = (Bytes.ofText text).length := by
                  omega
                have done : passContent 0 missing
                    (Bytes.ofText text ++ terminator :: after) =
                      .ok ⟨0 + (Bytes.ofText text).length, 0, passed.rest⟩ := by
                  rw [← whole, passing, Nat.zero_add, ← extent, ← complete]
                exact passContent_length_eq done
      · exact absurd rfl (settled _)

theorem nextElement_shape {limits : Limits} {progress : Progress}
    {rest : Bytes} {result : ElementResult}
    (step : nextElement limits progress rest = result)
    (settled : ∀ next, result ≠ .incomplete next)
    (sound : ∀ cause, result ≠ .malformed cause) :
    ∃ element : WireElement, ∃ terminator after,
      rest = element.bytes ++ terminator :: after ∧
      limits.Admit progress.elements.length [element.text] := by
  subst step
  unfold nextElement at settled sound
  split at settled
  · rename_i many
    rw [if_pos many] at sound
    exact absurd rfl (sound _)
  · rename_i few
    rw [if_neg few] at sound
    cases reading : readLength 0 0 rest with
    | incomplete =>
        rw [reading] at settled
        exact absurd rfl (settled _)
    | malformed cause =>
        rw [reading] at sound
        exact absurd rfl (sound _)
    | found length size =>
        obtain ⟨digits, after, split, digital, some, short, worth, taken⟩ :=
          readLength_found_numeral (Nat.zero_le _) reading
        rw [reading] at settled sound
        simp only at settled sound
        rw [Nat.zero_add] at some short taken
        have body : rest.drop size = after := by
          rw [split, taken, List.drop_append,
            List.drop_of_length_le (Nat.le_succ _), Nat.add_sub_cancel_left]
          rfl
        rw [body] at settled sound
        split at settled
        · rename_i long
          rw [if_pos long] at sound
          exact absurd rfl (sound _)
        · rename_i fits
          rw [if_neg fits] at sound
          obtain ⟨text, terminator, behind, content, counted⟩ :=
            @closeElement_shape { progress with
              position := progress.position + size } _ _ settled sound
          refine ⟨⟨digits, text, digital, List.length_pos_iff.mp some, short,
            by rw [counted, worth]; rfl⟩, terminator, behind, ?_, ?_⟩
          · rw [split, content, WireElement.bytes, List.append_assoc,
              List.cons_append]
          · apply Limits.admit_singleton_iff.mpr
            rw [counted]
            exact ⟨eq_false_of_ne_true few,
              eq_false_of_ne_true fits⟩

theorem nextElement_comma_shape {limits : Limits} {progress next : Progress}
    {rest after : Bytes}
    (step : nextElement limits progress rest = .comma next after) :
    ∃ element : WireElement, rest = element.bytes ++ 0x2c :: after ∧
      next = element.behind progress ∧
      limits.Admit progress.elements.length [element.text] := by
  obtain ⟨element, terminator, behind, split, admitted⟩ :=
    nextElement_shape step (by simp) (by simp)
  rw [split, nextElement_wire element admitted] at step
  split at step
  · rename_i comma
    cases step
    exact ⟨element, by rw [split, comma], rfl, admitted⟩
  · split at step <;> cases step

theorem nextElement_semicolon_shape {limits : Limits}
    {progress next : Progress} {rest : Bytes}
    (step : nextElement limits progress rest = .semicolon next) :
    ∃ element : WireElement, ∃ after, rest = element.bytes ++ 0x3b :: after ∧
      next = element.behind progress ∧
      limits.Admit progress.elements.length [element.text] := by
  obtain ⟨element, terminator, behind, split, admitted⟩ :=
    nextElement_shape step (by simp) (by simp)
  rw [split, nextElement_wire element admitted] at step
  split at step
  · cases step
  · split at step
    · rename_i semicolon
      cases step
      exact ⟨element, behind, by rw [split, semicolon], rfl, admitted⟩
    · cases step

/-! ### Scanning a frame -/

namespace WireFrame

def behind (wire : WireFrame) (progress : Progress) : Progress :=
  { position := progress.position + wire.bytes.length
    elements := progress.elements ++ wire.texts
    content := none }

theorem behind_cons (element second : WireElement)
    (others : List WireElement) (progress : Progress) :
    WireFrame.behind ⟨second, others⟩ (element.behind progress) =
      WireFrame.behind ⟨element, second :: others⟩ progress := by
  simp only [WireFrame.behind, WireElement.behind, WireFrame.bytes,
    WireFrame.texts, WireFrame.elements, WireFrame.tailBytes,
    List.length_append, List.length_cons, List.map_cons, List.append_assoc,
    List.singleton_append, Progress.mk.injEq, and_true]
  omega

theorem behind_singleton (element : WireElement) (progress : Progress) :
    WireFrame.behind ⟨element, []⟩ progress = element.behind progress := by
  simp only [WireFrame.behind, WireElement.behind, WireFrame.bytes,
    WireFrame.texts, WireFrame.elements, WireFrame.tailBytes,
    List.length_append, List.length_singleton, List.map_cons, List.map_nil,
    Nat.add_assoc]

end WireFrame

theorem advanceElement_closed {limits : Limits} {progress : Progress}
    (closed : progress.content = none) (buffer rest : Bytes) :
    advanceElement limits buffer progress rest =
      nextElement limits progress rest := by
  unfold advanceElement
  rw [closed]

theorem scanFrom_wire {limits : Limits} {progress : Progress}
    (wire : WireFrame) (closed : progress.content = none)
    (admitted : limits.Admit progress.elements.length wire.texts)
    (buffer more : Bytes) :
    scanFrom limits buffer progress (wire.bytes ++ more) =
      .complete (wire.behind progress) := by
  obtain ⟨first, others⟩ := wire
  induction others generalizing first progress with
  | nil =>
      have step := nextElement_wire first admitted.head 0x3b more
      rw [if_neg (by decide), if_pos rfl] at step
      have split : WireFrame.bytes ⟨first, []⟩ ++ more =
          first.bytes ++ 0x3b :: more := by
        simp [WireFrame.bytes, WireFrame.tailBytes]
      rw [split, scanFrom, advanceElement_closed closed, step,
        WireFrame.behind_singleton]
  | cons second others ih =>
      have step := nextElement_wire first admitted.head 0x2c
        (WireFrame.bytes ⟨second, others⟩ ++ more)
      rw [if_pos rfl] at step
      have split : WireFrame.bytes ⟨first, second :: others⟩ ++ more =
          first.bytes ++ 0x2c ::
            (WireFrame.bytes ⟨second, others⟩ ++ more) := by
        simp [WireFrame.bytes, WireFrame.tailBytes]
      have room : limits.Admit (first.behind progress).elements.length
          (WireFrame.texts ⟨second, others⟩) := by
        have later := admitted.tail
        rw [WireElement.behind, List.length_append, List.length_singleton]
        exact later
      rw [split, scanFrom, advanceElement_closed closed, step]
      simp only
      rw [ih rfl second room, WireFrame.behind_cons]

/-- A scan that comes to an end has passed over a frame of the grammar that the
bounds allow. -/
theorem scanFrom_shape {limits : Limits} {buffer rest : Bytes}
    {progress next : Progress} (closed : progress.content = none)
    (done : scanFrom limits buffer progress rest = .complete next) :
    ∃ wire : WireFrame, ∃ more, rest = wire.bytes ++ more ∧
      limits.Admit progress.elements.length wire.texts := by
  fun_induction scanFrom limits buffer progress rest with
  | case1 => cases done
  | case2 => cases done
  | case3 progress rest ended step =>
      rw [advanceElement_closed closed] at step
      obtain ⟨element, after, split, -, admitted⟩ :=
        nextElement_semicolon_shape step
      refine ⟨⟨element, []⟩, after, ?_, admitted⟩
      rw [split]
      simp [WireFrame.bytes, WireFrame.tailBytes]
  | case4 progress rest further tail step ih =>
      rw [advanceElement_closed closed] at step
      obtain ⟨element, split, behind, admitted⟩ :=
        nextElement_comma_shape step
      subst behind
      obtain ⟨wire, more, others, room⟩ := ih rfl done
      rw [WireElement.behind, List.length_append, List.length_singleton]
        at room
      refine ⟨⟨element, wire.elements⟩, more, ?_, admitted.cons room⟩
      rw [split, others]
      simp [WireFrame.bytes, WireFrame.tailBytes, WireFrame.elements]

/-! ### Frames as text -/

namespace Bytes

theorem isText_digits {digits : Bytes}
    (digital : ∀ byte ∈ digits, IsDigit byte) : IsText digits := by
  induction digits with
  | nil => exact isText_nil
  | cons first digits ih =>
      have digit := digital first List.mem_cons_self
      have ascii : first ≤ 0x7f :=
        UInt8.le_trans digit.2 (by decide : (0x39 : UInt8) ≤ 0x7f)
      exact (isText_singleton ascii).append
        (ih fun byte member => digital byte (List.mem_cons_of_mem first member))

theorem IsText.cons {first : UInt8} {rest : Bytes} (text : IsText rest)
    (ascii : first ≤ 0x7f) : IsText (first :: rest) :=
  (isText_singleton ascii).append text

end Bytes

theorem WireElement.isText (element : WireElement) :
    Bytes.IsText element.bytes :=
  (Bytes.isText_digits element.digital).append
    ((Bytes.isText_ofText element.text).cons (by decide))

theorem WireFrame.isText (wire : WireFrame) : Bytes.IsText wire.bytes := by
  apply wire.first.isText.append
  induction wire.others with
  | nil => exact Bytes.isText_singleton (by decide)
  | cons element others ih =>
      exact (element.isText.append ih).cons (by decide)

/-! ### Decoding a frame -/

namespace Decoder

theorem decode_wire {limits : Limits} (wire : WireFrame)
    (admitted : limits.Admit 0 wire.texts) (more : Bytes) :
    ∃ raw, Bytes.ofText raw = wire.bytes ∧
      Decoder.decode { limits } (wire.bytes ++ more) =
        (.frame ⟨wire.instruction, raw⟩ wire.bytes.length, { limits }) := by
  obtain ⟨raw, same⟩ := wire.isText
  refine ⟨raw, same, ?_⟩
  have scanned : scanFrom limits (wire.bytes ++ more) {}
      (wire.bytes ++ more) = .complete (wire.behind {}) :=
    scanFrom_wire wire rfl admitted _ more
  rw [decode_of_fits (Progress.fits_initial _)]
  simp only [List.drop_zero]
  rw [scanned]
  simp only [WireFrame.behind, frameOf, Nat.zero_add, List.nil_append,
    List.take_left]
  rw [← same, Bytes.toText?_ofText]
  rfl

theorem decode_frame_shape {limits : Limits} {next : Decoder} {buffer : Bytes}
    {frame : Frame} {length : Nat}
    (step : Decoder.decode { limits } buffer = (.frame frame length, next)) :
    ∃ wire : WireFrame, ∃ more, buffer = wire.bytes ++ more ∧
      length = wire.bytes.length ∧ frame.instruction = wire.instruction ∧
      Bytes.ofText frame.raw = wire.bytes ∧ limits.Admit 0 wire.texts := by
  have scan := step
  rw [decode_of_fits (Progress.fits_initial _)] at scan
  simp only [List.drop_zero] at scan
  cases scanning : scanFrom limits buffer {} buffer with
  | incomplete progress => simp [scanning] at scan
  | malformed cause => simp [scanning] at scan
  | complete progress =>
      obtain ⟨wire, more, split, admitted⟩ := scanFrom_shape rfl scanning
      obtain ⟨raw, same, found⟩ := decode_wire wire admitted more
      rw [split, found] at step
      cases step
      exact ⟨wire, more, split, rfl, rfl, same, admitted⟩

end Decoder

/-! ### Leading zeros -/

namespace WireElement

/-- The same element, its length without leading zeros. -/
def canonical (element : WireElement) : WireElement where
  digits := Bytes.stripZeros element.digits
  text := element.text
  digital := by
    rw [← Bytes.ofNat_numeralValue element.nonempty element.digital]
    exact (Bytes.ofNat_numeral _).1
  nonempty := by
    rw [← Bytes.ofNat_numeralValue element.nonempty element.digital]
    exact List.length_pos_iff.mp (Bytes.ofNat_length_pos _)
  short := Nat.le_trans (Bytes.stripZeros_length_le _) element.short
  counted := by
    rw [← Bytes.ofNat_numeralValue element.nonempty element.digital,
      (Bytes.ofNat_numeral _).2, element.counted]

theorem canonical_digits (element : WireElement) :
    element.canonical.digits = Bytes.ofNat element.text.length := by
  rw [← element.counted]
  exact (Bytes.ofNat_numeralValue element.nonempty element.digital).symm

end WireElement

/-- The same frame, its lengths without leading zeros. -/
def WireFrame.canonical (wire : WireFrame) : WireFrame :=
  ⟨wire.first.canonical, wire.others.map WireElement.canonical⟩

/-! ### Wire forms of instructions -/

namespace Instruction

theorem ofText_encodeElement (text : String) :
    Bytes.ofText (encodeElement text) =
      Bytes.ofNat text.length ++ 0x2e :: Bytes.ofText text := by
  have stop : Bytes.ofText "." = [0x2e] := rfl
  simp only [encodeElement, Bytes.ofText_append, stop, List.append_assoc,
    Bytes.ofNat, List.singleton_append]

def tailBytes : (args : List String) → Bytes
  | [] => [0x3b]
  | arg :: args => 0x2c :: (Bytes.ofText (encodeElement arg) ++ tailBytes args)

theorem wire_eq (opcode : String) (args : List String) :
    wire ⟨opcode, args⟩ =
      Bytes.ofText (encodeElement opcode) ++ tailBytes args := by
  unfold wire encode elements
  rw [Bytes.ofText_append]
  induction args generalizing opcode with
  | nil =>
      simp only [List.map_cons, List.map_nil, String.intercalate_singleton]
      rfl
  | cons arg args ih =>
      have later := ih arg
      have comma : Bytes.ofText "," = [0x2c] := rfl
      simp only [List.map_cons, String.intercalate_cons_cons,
        Bytes.ofText_append, List.append_assoc, comma] at later ⊢
      rw [later]
      rfl

end Instruction

namespace WireElement

theorem bytes_eq_encodeElement {element : WireElement}
    (printed : element.digits = Bytes.ofNat element.text.length) :
    element.bytes = Bytes.ofText (Instruction.encodeElement element.text) := by
  rw [WireElement.bytes, printed, Instruction.ofText_encodeElement]

end WireElement

theorem WireFrame.wire_instruction {wire : WireFrame}
    (printed : ∀ element ∈ wire.elements,
      element.digits = Bytes.ofNat element.text.length) :
    wire.instruction.wire = wire.bytes := by
  obtain ⟨first, others⟩ := wire
  rw [WireFrame.instruction, Instruction.wire_eq, WireFrame.bytes,
    WireElement.bytes_eq_encodeElement (printed first List.mem_cons_self)]
  congr 1
  induction others with
  | nil => rfl
  | cons element others ih =>
      have earlier : ∀ other ∈ WireFrame.elements ⟨first, others⟩,
          other.digits = Bytes.ofNat other.text.length := by
        intro other member
        apply printed other
        simp only [WireFrame.elements, List.mem_cons] at member ⊢
        exact member.imp_right Or.inr
      have encoded := WireElement.bytes_eq_encodeElement
        (printed element (by simp [WireFrame.elements]))
      simp only [List.map_cons, Instruction.tailBytes, WireFrame.tailBytes]
      rw [encoded, ih earlier]

theorem WireFrame.wire_canonical (wire : WireFrame) :
    wire.instruction.wire = wire.canonical.bytes := by
  have texts : wire.canonical.instruction = wire.instruction := by
    simp [WireFrame.instruction, WireFrame.canonical, WireElement.canonical]
  rw [← texts]
  apply WireFrame.wire_instruction
  intro element member
  have origin : wire.canonical.elements =
      wire.elements.map WireElement.canonical := rfl
  rw [origin] at member
  obtain ⟨source, -, rfl⟩ := List.mem_map.mp member
  exact source.canonical_digits

/-! ### The recogniser -/

namespace Decoder

theorem decode_unbounded_wire {buffer : Bytes} {length : Nat}
    (wire : WireFrame) (inside : length ≤ buffer.length)
    (front : wire.bytes = buffer.take length) :
    ∃ raw, Bytes.ofText raw = buffer.take length ∧
      (unbounded.decode buffer).1 = .frame ⟨wire.instruction, raw⟩ length := by
  obtain ⟨raw, same, found⟩ :=
    decode_wire wire (Limits.admit_unbounded 0 wire.texts) (buffer.drop length)
  rw [front, List.take_append_drop, List.length_take,
    Nat.min_eq_left inside] at found
  exact ⟨raw, same.trans front, congrArg Prod.fst found⟩

/-- The decoder finds a frame at the front of a buffer exactly if the buffer
begins with one of the grammar. Then it begins with no other, the decoder keeps
the bytes of the frame and its texts, and writing the instruction again gives
the frame without leading zeros. -/
theorem decode_frame_iff (buffer : Bytes) (length : Nat) :
    ((∃ frame, (unbounded.decode buffer).1 = .frame frame length) ↔
      length ≤ buffer.length ∧
        ∃ wire : WireFrame, wire.bytes = buffer.take length) ∧
    ∀ frame, (unbounded.decode buffer).1 = .frame frame length →
      (∀ other ≤ buffer.length,
        (∃ wire : WireFrame, wire.bytes = buffer.take other) →
          other = length) ∧
      Bytes.ofText frame.raw = buffer.take length ∧
      ∀ wire : WireFrame, wire.bytes = buffer.take length →
        frame.instruction.elements = wire.texts ∧
          Bytes.ofText frame.instruction.encode = wire.canonical.bytes := by
  have inside : ∀ frame, (unbounded.decode buffer).1 = .frame frame length →
      length ≤ buffer.length := by
    intro frame found
    exact (decode_frame_length (Prod.ext found rfl)).2
  refine ⟨⟨?_, ?_⟩, ?_⟩
  · rintro ⟨frame, found⟩
    obtain ⟨wire, more, split, extent, -, -, -⟩ :=
      decode_frame_shape (Prod.ext found rfl)
    refine ⟨inside frame found, wire, ?_⟩
    rw [split, extent, List.take_left]
  · rintro ⟨within, wire, front⟩
    obtain ⟨raw, -, found⟩ := decode_unbounded_wire wire within front
    exact ⟨_, found⟩
  · intro frame found
    refine ⟨?_, ?_, ?_⟩
    · rintro other within ⟨wire, front⟩
      obtain ⟨raw, -, also⟩ := decode_unbounded_wire wire within front
      rw [found] at also
      exact ((Decoded.frame.inj also).2).symm
    · obtain ⟨wire, more, split, extent, -, raw, -⟩ :=
        decode_frame_shape (Prod.ext found rfl)
      rw [raw, split, extent, List.take_left]
    · intro wire front
      obtain ⟨raw, -, also⟩ :=
        decode_unbounded_wire wire (inside frame found) front
      rw [found] at also
      obtain ⟨rfl, -⟩ := Decoded.frame.inj also
      exact ⟨wire.elements_instruction, wire.wire_canonical⟩

end Decoder

end TunnelRelay
