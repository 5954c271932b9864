import TunnelRelay.Frame.Decoder
import TunnelRelay.Stream.Basic

/-!
Reading whole frames from a byte stream.

A `FrameReader` holds the bytes that have arrived and not been given yet, and looks one frame
ahead: `next` is the outcome of decoding the front of the buffer, once there is one. All that is
known about a stream lies in the reader, so a read that is given up loses nothing.
-/

namespace TunnelRelay

/-- The least room that a read offers to the stream. -/
def readChunk : Nat := 8192

/-- The bytes received and not yet given, and what is known about them. -/
structure FrameReader where
  decoder : Decoder
  buffer : Bytes := []
  /-- The outcome of decoding the front of the buffer, once there is one. -/
  next : Option (Except Malformed (Frame × Nat)) := none
  /-- The stream has ended. -/
  ended : Bool := false
  /-- How many bytes the buffer can hold before it has to grow. -/
  capacity : Nat := readChunk
  /-- A frame that was found is not empty and lies within the buffer. -/
  next_within : ∀ frame length, next = some (.ok (frame, length)) →
    0 < length ∧ length ≤ buffer.length := by intro _ _ found; cases found

namespace FrameReader

def ofGuacd : FrameReader := { decoder := .unbounded }

def available (reader : FrameReader) : Bool :=
  reader.ended || reader.next.isSome

def pendingOf : Decoded → Option (Except Malformed (Frame × Nat))
  | .incomplete => none
  | .frame frame length => some (.ok (frame, length))
  | .malformed cause => some (.error cause)

/-- The reader of the bytes `buffer`, which go on where the decoder has got to. -/
def scan (reader : FrameReader) (buffer : Bytes) : FrameReader :=
  match found : reader.decoder.decode buffer with
  | (decoded, decoder) =>
    { decoder, buffer, next := pendingOf decoded, ended := reader.ended
      capacity := reader.capacity
      next_within := by
        intro frame length given
        cases decoded with
        | incomplete => simp [pendingOf] at given
        | malformed cause => simp [pendingOf] at given
        | frame whole size =>
          simp only [pendingOf, Option.some.injEq, Except.ok.injEq, Prod.mk.injEq] at given
          obtain ⟨-, rfl⟩ := given
          exact Decoder.decode_frame_length found }

/-- The reader after the outcome that was found has been given. -/
def forget (reader : FrameReader) : FrameReader :=
  { reader with next := none, next_within := by simp }

/-- Makes room for a read. A buffer that is too small grows to at least twice its size. -/
def reserve (reader : FrameReader) : FrameReader :=
  if reader.capacity < reader.buffer.length + readChunk then
    { reader with capacity := max (2 * reader.capacity) (reader.buffer.length + readChunk) }
  else reader

def room (reader : FrameReader) : Nat :=
  reader.capacity - reader.buffer.length

def atEnd (reader : FrameReader) : Except RelayError (Option Frame) :=
  if reader.buffer.isEmpty then .ok none else .error (.malformed .streamEnded)

/-- Reads the next frame; `none` marks the end of the stream. -/
def readFrame {σ : Type} [ByteSource σ] (reader : FrameReader) (input : σ) :
    Poll (Except RelayError (Option Frame)) × FrameReader × σ :=
  match reader.next with
  | some (.ok (frame, length)) =>
    (.ready (.ok (some frame)), reader.forget.scan (reader.buffer.drop length), input)
  | some (.error cause) => (.ready (.error (.malformed cause)), reader.forget, input)
  | none =>
    if reader.ended then (.ready reader.atEnd, reader, input)
    else
      let reader := reader.reserve
      match _given : ByteSource.read input reader.room with
      | (.parked, input) => (.parked, reader, input)
      | (.ready (.error fault), input) => (.ready (.error (.ofSocket fault)), reader, input)
      -- a read that gives nothing has found the end of the stream
      | (.ready (.ok []), input) =>
        let reader := { reader with ended := true }
        (.ready reader.atEnd, reader, input)
      | (.ready (.ok (byte :: bytes)), input) =>
        (reader.scan (reader.buffer ++ byte :: bytes)).readFrame input
termination_by ByteSource.held input
decreasing_by exact ByteSource.held_read _given (by simp)

theorem scan_buffer (reader : FrameReader) (buffer : Bytes) :
    (reader.scan buffer).buffer = buffer := rfl

/-- A frame that is given comes out of the stream or out of the buffer. -/
theorem readFrame_shrinks {σ : Type} [ByteSource σ] {reader next : FrameReader} {input rest : σ}
    {frame : Frame} (done : reader.readFrame input = (.ready (.ok (some frame)), next, rest)) :
    ByteSource.held rest < ByteSource.held input ∨
      ByteSource.held rest = ByteSource.held input ∧ next.buffer.length < reader.buffer.length := by
  fun_induction readFrame reader input with
  | case1 reader input found length given =>
    simp only [Prod.mk.injEq] at done
    obtain ⟨-, rfl, rfl⟩ := done
    have within := reader.next_within found length given
    refine .inr ⟨rfl, ?_⟩
    rw [scan_buffer, List.length_drop]
    omega
  | case2 => simp at done
  | case3 reader input empty ended =>
    simp only [Prod.mk.injEq, Poll.ready.injEq, atEnd] at done
    split at done <;> simp at done
  | case4 => simp at done
  | case5 => simp at done
  | case6 reader input empty ended ready stream given last =>
    simp only [Prod.mk.injEq, Poll.ready.injEq, atEnd] at done
    split at done <;> simp at done
  | case7 reader input empty ended ready stream byte bytes given ih =>
    have less := ByteSource.held_read given (by simp)
    rcases ih done with fewer | ⟨same, -⟩
    · exact .inl (by omega)
    · exact .inl (by omega)

end FrameReader

end TunnelRelay
