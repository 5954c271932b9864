import TunnelRelay.Backend
import TunnelRelay.Frame.Reader
import TunnelRelay.Frame.Writer

/-!
What reading and writing leave alone.

A value of a connection that every single read, write or flush leaves alone is the same behind all
that the relay does by them. A value of a stream stays one when the stream is wrapped.
-/

namespace TunnelRelay

variable {σ : Type} [Connection σ]

/-- Writing and flushing leave a value of the connection alone. -/
structure Connection.KeepsWriting {α : Type} (value : σ → α) : Prop where
  write : ∀ stream bytes, value (ByteSink.write stream bytes).2 = value stream
  flush : ∀ stream, value (ByteSink.flush stream).2 = value stream

structure Connection.Keeps {α : Type} (value : σ → α) : Prop
    extends Connection.KeepsWriting value where
  read : ∀ stream room, value (ByteSource.read stream room).2 = value stream

theorem Backend.keeps_live :
    Connection.Keeps (Backend.live : Backend σ → Bool) := by
  refine ⟨⟨?_, ?_⟩, ?_⟩
  · intro backend bytes
    change (backend.write bytes).2.live = backend.live
    unfold Backend.write
    split
    · split <;> rfl
    · rfl
  · intro backend
    change backend.flush.2.live = backend.live
    unfold Backend.flush
    split
    · split <;> rfl
    · rfl
  · intro backend room
    change (backend.read room).2.live = backend.live
    unfold Backend.read
    split
    · split <;> rfl
    · rfl

theorem Backend.keepsWriting_stream {α : Type} {value : σ → α}
    (keeps : Connection.KeepsWriting value) :
    Connection.KeepsWriting fun backend : Backend σ =>
      value backend.stream := by
  constructor
  · intro backend bytes
    have kept := keeps.write backend.stream bytes
    change value (backend.write bytes).2.stream = value backend.stream
    unfold Backend.write
    split
    · split
      · rename_i stream writing
        rw [writing] at kept
        exact kept
      · rename_i taken stream writing
        rw [writing] at kept
        exact kept
    · rfl
  · intro backend
    have kept := keeps.flush backend.stream
    change value backend.flush.2.stream = value backend.stream
    unfold Backend.flush
    split
    · split
      · rename_i stream flushing
        rw [flushing] at kept
        exact kept
      · rename_i outcome stream flushing
        rw [flushing] at kept
        exact kept
    · rfl

namespace Connection.KeepsWriting

variable {α : Type} {value : σ → α}

theorem writeAll (keeps : KeepsWriting value) (rest : Bytes) (output : σ) :
    value (TunnelRelay.writeAll rest output).2 = value output := by
  have writes : ∀ {stream next : σ} {bytes : Bytes}
      {taken : Poll (Except IoFault Nat)},
      ByteSink.write stream bytes = (taken, next) →
      value next = value stream := by
    intro stream next bytes taken done
    rw [← keeps.write stream bytes, done]
  fun_induction TunnelRelay.writeAll rest output with
  | case1 output => rfl
  | case2 output byte bytes stream writing
  | case3 output byte bytes fault stream writing
  | case4 output byte bytes stream writing => exact writes writing
  | case5 output byte bytes count stream writing ih =>
      exact ih.trans (writes writing)

theorem flush_sending (keeps : KeepsWriting value) (output : σ) :
    value (Sending.flush output).2 = value output := by
  have kept := keeps.flush output
  unfold Sending.flush
  split
  · rename_i next flushing
    rw [flushing] at kept
    exact kept
  · rename_i next flushing
    rw [flushing] at kept
    exact kept
  · rename_i fault next flushing
    rw [flushing] at kept
    exact kept

theorem poll (keeps : KeepsWriting value) (sending : Sending) (output : σ) :
    value (sending.poll output).2 = value output := by
  cases sending with
  | flushing => exact keeps.flush_sending output
  | writing rest =>
      have kept := keeps.writeAll rest output
      unfold Sending.poll
      simp only
      cases writing : TunnelRelay.writeAll rest output with
      | mk outcome next =>
          rw [writing] at kept
          cases outcome with
          | done => exact (keeps.flush_sending next).trans kept
          | failed fault => exact kept
          | parked more => exact kept

end Connection.KeepsWriting

namespace Connection.Keeps

variable {α : Type} {value : σ → α}

theorem readFrame (keeps : Keeps value) (reader : FrameReader) (input : σ) :
    value (reader.readFrame input).2.2 = value input := by
  have reads : ∀ {stream next : σ} {room : Nat}
      {given : Poll (Except IoFault Bytes)},
      ByteSource.read stream room = (given, next) →
      value next = value stream := by
    intro stream next room given done
    rw [← keeps.read stream room, done]
  fun_induction FrameReader.readFrame reader input with
  | case1 | case2 | case3 => rfl
  | case4 reader input empty open_ ready stream given
  | case5 reader input empty open_ ready fault stream given
  | case6 reader input empty open_ ready stream given last => exact reads given
  | case7 reader input empty open_ ready stream byte bytes given ih =>
      exact ih.trans (reads given)

end Connection.Keeps

end TunnelRelay
