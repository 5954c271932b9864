import TunnelRelay.Filter
import TunnelRelay.Frame.Reader

/-!
Reading through a filter.

Instructions that the filter drops are passed over. A failure of the filter or of the reader is
given once, and reading goes on behind it.
-/

namespace TunnelRelay

/-- A reader, a filter and what the filter remembers. -/
structure FilteredReader (φ : Type) where
  reader : FrameReader
  filter : Filter φ
  memory : φ

namespace FilteredReader

variable {φ : Type}

def available (filtered : FilteredReader φ) : Bool :=
  filtered.reader.available

/-- Reads the next instruction that the filter lets through; `none` marks the end of the stream. -/
def read {σ : Type} [ByteSource σ] (filtered : FilteredReader φ) (input : σ) :
    Poll (Except RelayError (Option Instruction)) × FilteredReader φ × σ :=
  match _given : filtered.reader.readFrame input with
  | (.parked, reader, input) => (.parked, { filtered with reader }, input)
  | (.ready (.error error), reader, input) => (.ready (.error error), { filtered with reader }, input)
  | (.ready (.ok none), reader, input) => (.ready (.ok none), { filtered with reader }, input)
  | (.ready (.ok (some frame)), reader, input) =>
    match filtered.filter filtered.memory frame.instruction with
    | (.error error, memory) => (.ready (.error error), { filtered with reader, memory }, input)
    | (.ok (some instruction), memory) =>
      (.ready (.ok (some instruction)), { filtered with reader, memory }, input)
    | (.ok none, memory) => read { filtered with reader, memory } input
termination_by (ByteSource.held input, filtered.reader.buffer.length)
decreasing_by
  rcases FrameReader.readFrame_shrinks _given with fewer | ⟨same, shorter⟩
  · exact .left _ _ fewer
  · rw [same]
    exact .right _ shorter

end FilteredReader

end TunnelRelay
