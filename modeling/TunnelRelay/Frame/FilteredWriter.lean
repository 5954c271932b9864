import TunnelRelay.Filter
import TunnelRelay.Frame.Decoder
import TunnelRelay.Frame.Writer

/-!
Writing through a filter.

Raw data may be cut anywhere; an incomplete frame is held back until the rest of it arrives. The
frames completed by one piece of data pass the filter in order, and what they become is written at
once. An instruction that the filter leaves as it is keeps its bytes.
-/

namespace TunnelRelay

/-- A filter, its memory, and the bytes of the frame that is not complete. -/
structure FilteredWriter (φ : Type) where
  filter : Filter φ
  memory : φ
  decoder : Decoder := .client
  pending : Bytes := []

/-- What one piece of data becomes: the text to be written, and how many instructions it is. -/
structure Forwarded where
  text : String := ""
  count : Nat := 0
  deriving DecidableEq, Repr

namespace FilteredWriter

variable {φ : Type}

/-- The text of a frame behind the filter, or `none` if the filter drops it. -/
def passFrame (filter : Filter φ) (memory : φ) (frame : Frame) :
    Except RelayError (Option String) × φ :=
  match filter memory frame.instruction with
  | (.error error, memory) => (.error error, memory)
  | (.ok none, memory) => (.ok none, memory)
  | (.ok (some instruction), memory) =>
    (.ok (some (if instruction = frame.instruction then frame.raw else instruction.encode)), memory)

/-- Passes frames through the filter in order, up to its first failure. -/
def passFrames (filter : Filter φ) : φ → List Frame → Forwarded → Except RelayError Forwarded × φ
  | memory, [], forwarded => (.ok forwarded, memory)
  | memory, frame :: frames, forwarded =>
    match passFrame filter memory frame with
    | (.error error, memory) => (.error error, memory)
    | (.ok none, memory) => passFrames filter memory frames forwarded
    | (.ok (some text), memory) =>
      passFrames filter memory frames ⟨forwarded.text ++ text, forwarded.count + 1⟩

/-- Takes one more piece of data. Malformed data is the writer's own fault. -/
def accept (writer : FilteredWriter φ) (data : Bytes) :
    Except RelayError Forwarded × FilteredWriter φ :=
  match writer.decoder.drain (writer.pending ++ data) with
  | (.error cause, pending, decoder) =>
    (.error (.badRequest cause.message), { writer with pending, decoder })
  | (.ok frames, pending, decoder) =>
    let (forwarded, memory) := passFrames writer.filter writer.memory frames {}
    (forwarded, { writer with memory, pending, decoder })

/-- Takes one instruction; what passes the filter is to be written in wire form. -/
def acceptInstruction (writer : FilteredWriter φ) (instruction : Instruction) :
    Except RelayError (Option Instruction) × FilteredWriter φ :=
  let (passed, memory) := writer.filter writer.memory instruction
  (passed, { writer with memory })

/-- Ends the data. It may not end inside an instruction. -/
def finish (writer : FilteredWriter φ) : Except RelayError φ :=
  if writer.pending.isEmpty then .ok writer.memory
  else .error (.badRequest "Incomplete instruction.")

/-- The write that forwarded text needs; nothing is written for no text. -/
def sending? (forwarded : Forwarded) : Option Sending :=
  if forwarded.text.isEmpty then none else some (.ofBytes (Bytes.ofText forwarded.text))

/-- Takes one more piece of data and writes what becomes of it, as far as the stream lets it. -/
def write {σ : Type} [ByteSink σ] (writer : FilteredWriter φ) (data : Bytes) (output : σ) :
    (Sent × Nat) × FilteredWriter φ × σ :=
  match writer.accept data with
  | (.error error, writer) => ((.failed error, 0), writer, output)
  | (.ok forwarded, writer) =>
    match sending? forwarded with
    | none => ((.done, forwarded.count), writer, output)
    | some sending =>
      let (sent, output) := sending.poll output
      ((sent, forwarded.count), writer, output)

/-- Takes one instruction and writes what becomes of it, as far as the stream lets it. -/
def writeInstruction {σ : Type} [ByteSink σ] (writer : FilteredWriter φ)
    (instruction : Instruction) (output : σ) : Sent × FilteredWriter φ × σ :=
  match writer.acceptInstruction instruction with
  | (.error error, writer) => (.failed error, writer, output)
  | (.ok none, writer) => (.done, writer, output)
  | (.ok (some instruction), writer) =>
    let (sent, output) := (Sending.ofInstruction instruction).poll output
    (sent, writer, output)

end FilteredWriter

end TunnelRelay
