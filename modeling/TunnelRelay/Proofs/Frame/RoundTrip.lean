import TunnelRelay.Proofs.Frame.Grammar

/-!
Wire forms and the frames taken from them.

A decoder takes exactly the instructions from their wire forms, one frame each, and leaves what
follows them. Wire forms can be told apart without any bound on the elements, because each element
says where it ends.
-/

namespace TunnelRelay

/-! ### Telling wire forms apart -/

namespace Bytes

theorem numeral_append_injective {first second left right : Bytes}
    (firstDigits : ∀ byte ∈ first, IsDigit byte)
    (secondDigits : ∀ byte ∈ second, IsDigit byte)
    (same : first ++ 0x2e :: left = second ++ 0x2e :: right) :
    first = second ∧ left = right := by
  have stop : ¬ IsDigit 0x2e := by
    intro digit
    exact absurd digit.1 (by decide)
  induction first generalizing second with
  | nil =>
      cases second with
      | nil => exact ⟨rfl, (List.cons.inj same).2⟩
      | cons byte second =>
          have digit := secondDigits byte List.mem_cons_self
          rw [← (List.cons.inj same).1] at digit
          exact absurd digit stop
  | cons byte first ih =>
      cases second with
      | nil =>
          have digit := firstDigits byte List.mem_cons_self
          rw [(List.cons.inj same).1] at digit
          exact absurd digit stop
      | cons other second =>
          obtain ⟨head, tail⟩ := List.cons.inj same
          have rest := ih
            (fun byte member => firstDigits byte (List.mem_cons_of_mem _ member))
            (fun byte member => secondDigits byte (List.mem_cons_of_mem _ member))
            tail
          exact ⟨by rw [head, rest.1], rest.2⟩

theorem ofNat_injective {first second : Nat} (same : ofNat first = ofNat second) :
    first = second := by
  rw [← (ofNat_numeral first).2, same, (ofNat_numeral second).2]

theorem ofText_append_injective {first second : String} {left right : Bytes}
    (counted : first.length = second.length)
    (same : ofText first ++ left = ofText second ++ right) :
    first = second ∧ left = right := by
  have passed := passContent_ofText first 0 left
  rw [same, counted, passContent_ofText] at passed
  have behind : right = left := congrArg Passed.rest (Except.ok.inj passed)
  rw [behind] at same
  exact ⟨ofText_injective (List.append_cancel_right same), behind.symm⟩

end Bytes

namespace Instruction

theorem encodeElement_append_injective {first second : String}
    {left right : Bytes}
    (same : Bytes.ofText (encodeElement first) ++ left =
      Bytes.ofText (encodeElement second) ++ right) :
    first = second ∧ left = right := by
  rw [ofText_encodeElement, ofText_encodeElement, List.append_assoc,
    List.append_assoc, List.cons_append, List.cons_append] at same
  obtain ⟨lengths, contents⟩ := Bytes.numeral_append_injective
    (Bytes.ofNat_numeral _).1 (Bytes.ofNat_numeral _).1 same
  exact Bytes.ofText_append_injective (Bytes.ofNat_injective lengths) contents

theorem tailBytes_append_injective {first second : List String}
    {left right : Bytes}
    (same : tailBytes first ++ left = tailBytes second ++ right) :
    first = second ∧ left = right := by
  induction first generalizing second with
  | nil =>
      cases second with
      | nil => exact ⟨rfl, List.append_cancel_left same⟩
      | cons arg args => exact absurd (List.cons.inj same).1 (by decide)
  | cons arg first ih =>
      cases second with
      | nil => exact absurd (List.cons.inj same).1 (by decide)
      | cons other second =>
          simp only [tailBytes, List.cons_append, List.append_assoc] at same
          have behind := (List.cons.inj same).2
          obtain ⟨args, rest⟩ := encodeElement_append_injective behind
          obtain ⟨others, end_⟩ := ih rest
          exact ⟨by rw [args, others], end_⟩

/-- No wire form is the beginning of another. -/
theorem wire_append_injective {first second : Instruction}
    {left right : Bytes} (same : first.wire ++ left = second.wire ++ right) :
    first = second ∧ left = right := by
  obtain ⟨opcode, args⟩ := first
  obtain ⟨other, others⟩ := second
  rw [wire_eq, wire_eq, List.append_assoc, List.append_assoc] at same
  obtain ⟨opcodes, rest⟩ := encodeElement_append_injective same
  obtain ⟨arguments, end_⟩ := tailBytes_append_injective rest
  exact ⟨by rw [opcodes, arguments], end_⟩

theorem wire_ne_nil (instruction : Instruction) : instruction.wire ≠ [] := by
  obtain ⟨opcode, args⟩ := instruction
  rw [wire_eq, ofText_encodeElement]
  simp

theorem flatMap_wire_injective {first second : List Instruction}
    (same : first.flatMap wire = second.flatMap wire) : first = second := by
  induction first generalizing second with
  | nil =>
      cases second with
      | nil => rfl
      | cons instruction others =>
          rw [List.flatMap_nil, List.flatMap_cons] at same
          exact absurd (List.append_eq_nil_iff.mp same.symm).1
            instruction.wire_ne_nil
  | cons instruction first ih =>
      cases second with
      | nil =>
          rw [List.flatMap_nil, List.flatMap_cons] at same
          exact absurd (List.append_eq_nil_iff.mp same).1
            instruction.wire_ne_nil
      | cons other second =>
          rw [List.flatMap_cons, List.flatMap_cons] at same
          obtain ⟨head, tail⟩ := wire_append_injective same
          rw [head, ih tail]

end Instruction

/-! ### Frames with printed lengths -/

/-- The longest element whose length has few enough digits. -/
def maxElementLength : Nat := 9999999999

def WireElement.ofString (text : String)
    (bounded : text.length ≤ maxElementLength) : WireElement where
  digits := Bytes.ofNat text.length
  text := text
  digital := (Bytes.ofNat_numeral _).1
  nonempty := List.length_pos_iff.mp (Bytes.ofNat_length_pos _)
  short := Bytes.ofNat_length_le (by decide)
    (Nat.lt_of_le_of_lt bounded (by decide))
  counted := (Bytes.ofNat_numeral _).2

def WireFrame.ofInstruction (instruction : Instruction)
    (bounded : ∀ text ∈ instruction.elements,
      text.length ≤ maxElementLength) : WireFrame where
  first := .ofString instruction.opcode (bounded _ List.mem_cons_self)
  others := instruction.args.pmap WireElement.ofString
    (fun text member => bounded text (List.mem_cons_of_mem _ member))

theorem WireFrame.instruction_ofInstruction {instruction : Instruction}
    (bounded : ∀ text ∈ instruction.elements,
      text.length ≤ maxElementLength) :
    (WireFrame.ofInstruction instruction bounded).instruction = instruction := by
  simp [WireFrame.instruction, WireFrame.ofInstruction, WireElement.ofString,
    List.map_pmap]

theorem WireFrame.bytes_ofInstruction {instruction : Instruction}
    (bounded : ∀ text ∈ instruction.elements,
      text.length ≤ maxElementLength) :
    (WireFrame.ofInstruction instruction bounded).bytes = instruction.wire := by
  rw [← WireFrame.wire_instruction, instruction_ofInstruction]
  intro element member
  rcases List.mem_cons.mp member with same | later
  · rw [same]
    rfl
  · obtain ⟨text, -, rfl⟩ := List.mem_pmap.mp later
    rfl

/-! ### Taking instructions from their wire forms -/

def Instruction.frame (instruction : Instruction) : Frame :=
  ⟨instruction, instruction.encode⟩

namespace Decoder

theorem drainFrom_incomplete {decoder next : Decoder} {buffer : Bytes}
    (step : decoder.decode buffer = (.incomplete, next))
    (frames : List Frame) :
    decoder.drainFrom buffer frames = (.ok (frames, buffer), next) := by
  rw [drainFrom, step]

theorem drainFrom_frame {decoder next : Decoder} {buffer : Bytes}
    {frame : Frame} {length : Nat}
    (step : decoder.decode buffer = (.frame frame length, next))
    (frames : List Frame) :
    decoder.drainFrom buffer frames =
      next.drainFrom (buffer.drop length) (frames ++ [frame]) := by
  rw [drainFrom, step]

theorem decode_instruction {instruction : Instruction}
    (bounded : ∀ text ∈ instruction.elements,
      text.length ≤ maxElementLength) (more : Bytes) :
    unbounded.decode (instruction.wire ++ more) =
      (.frame instruction.frame instruction.wire.length, unbounded) := by
  obtain ⟨raw, same, found⟩ := decode_wire
    (WireFrame.ofInstruction instruction bounded)
    (Limits.admit_unbounded 0 _) more
  rw [WireFrame.bytes_ofInstruction] at same found
  rw [WireFrame.instruction_ofInstruction, Bytes.ofText_injective same]
    at found
  exact found

theorem drainFrom_wire {instructions : List Instruction} {tail : Bytes}
    {next : Decoder}
    (bounded : ∀ instruction ∈ instructions, ∀ text ∈ instruction.elements,
      text.length ≤ maxElementLength)
    (waiting : unbounded.decode tail = (.incomplete, next))
    (frames : List Frame) :
    unbounded.drainFrom (instructions.flatMap Instruction.wire ++ tail)
        frames =
      (.ok (frames ++ instructions.map Instruction.frame, tail), next) := by
  induction instructions generalizing frames with
  | nil =>
      rw [List.flatMap_nil, List.nil_append, List.map_nil, List.append_nil]
      exact drainFrom_incomplete waiting frames
  | cons instruction instructions ih =>
      have step := decode_instruction
        (bounded instruction List.mem_cons_self)
        (instructions.flatMap Instruction.wire ++ tail)
      rw [List.flatMap_cons, List.append_assoc, drainFrom_frame step,
        List.drop_left,
        ih fun other member =>
          bounded other (List.mem_cons_of_mem instruction member),
        List.map_cons, List.append_assoc, List.singleton_append]

/-- From the wire forms of instructions and an incomplete rest, exactly the
instructions are drained, each with its wire form as text, and the rest is
left. Different instructions have different wire forms, of any length. -/
theorem drain_wire :
    (∀ (instructions : List Instruction) (tail : Bytes),
      (∀ instruction ∈ instructions, ∀ text ∈ instruction.elements,
        text.length ≤ 9999999999) →
      (unbounded.decode tail).1 = .incomplete →
      unbounded.drain (instructions.flatMap Instruction.wire ++ tail) =
        (.ok (instructions.map fun instruction =>
            ⟨instruction, instruction.encode⟩),
          tail, (unbounded.decode tail).2)) ∧
    ∀ first second : List Instruction,
      first.flatMap Instruction.wire = second.flatMap Instruction.wire →
        first = second := by
  constructor
  · intro instructions tail bounded waiting
    have step : unbounded.decode tail =
        (.incomplete, (unbounded.decode tail).2) := Prod.ext waiting rfl
    unfold drain
    rw [drainFrom_wire bounded step, List.nil_append]
    rfl
  · intro first second same
    exact Instruction.flatMap_wire_injective same

/-- Content that looks like framing, an empty element, and a length that has
just begun. -/
theorem drain_wire_framing :
    unbounded.drain
        ([(⟨"4.a,", ["", "1;2."]⟩ : Instruction), ⟨"", ["é"]⟩].flatMap
          Instruction.wire ++ [0x34]) =
      (.ok [⟨⟨"4.a,", ["", "1;2."]⟩, "4.4.a,,0.,4.1;2.;"⟩,
        ⟨⟨"", ["é"]⟩, "0.,1.é;"⟩], [0x34], unbounded) := by
  have scan : scanFrom .unbounded [0x34] {} [0x34] = .incomplete {} := by
    rw [scanFrom]
    rfl
  have waiting : unbounded.decode [0x34] = (.incomplete, unbounded) := by
    simp [decode, unbounded, scan]
  have drained := drain_wire.1
    [(⟨"4.a,", ["", "1;2."]⟩ : Instruction), ⟨"", ["é"]⟩] [0x34]
    (by decide) (by rw [waiting])
  rw [drained, waiting]
  decide

end Decoder

end TunnelRelay
