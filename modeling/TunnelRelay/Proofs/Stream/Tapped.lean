import TunnelRelay.Proofs.Frame.Reading
import TunnelRelay.Proofs.Stream.Keeping
import TunnelRelay.Proofs.Stream.Recorded

/-!
Streams that remember what they have given.

A tapped stream behaves as the stream inside it, and keeps the bytes that reads have brought. So what
has arrived over a connection is known, whatever has become of it since.
-/

namespace TunnelRelay

/-- A stream with a record of what was read from it. -/
structure Tapped (σ : Type) where
  stream : σ
  /-- All bytes that reads have given so far. -/
  arrived : Bytes := []

namespace Tapped

variable {σ : Type} [Connection σ]

instance : Connection (Tapped σ) where
  read tapped room :=
    let (outcome, stream) := ByteSource.read tapped.stream room
    (outcome, { stream, arrived := tapped.arrived ++ outcome.given })
  held tapped := ByteSource.held tapped.stream
  held_read := by
    intro tapped next room bytes done some
    simp only [Prod.mk.injEq] at done
    obtain ⟨given, rfl⟩ := done
    exact ByteSource.held_read (Prod.ext given rfl) some
  write tapped bytes :=
    let (taken, stream) := ByteSink.write tapped.stream bytes
    (taken, { tapped with stream })
  flush tapped :=
    let (outcome, stream) := ByteSink.flush tapped.stream
    (outcome, { tapped with stream })
  shutdown tapped :=
    let (outcome, stream) := ByteSink.shutdown tapped.stream
    (outcome, { tapped with stream })
  drop tapped := { tapped with stream := Connection.drop tapped.stream }

def onStream (change : σ → σ) (tapped : Tapped σ) : Tapped σ :=
  { tapped with stream := change tapped.stream }

end Tapped

theorem Recorded.keepsWriting_stream {σ α : Type} [Connection σ]
    {value : σ → α} (keeps : Connection.KeepsWriting value) :
    Connection.KeepsWriting fun recorded : Recorded σ =>
      value recorded.stream := by
  constructor
  · intro recorded bytes
    have kept := keeps.write recorded.stream bytes
    change value (recorded.write bytes).2.stream = value recorded.stream
    unfold Recorded.write
    split
    · rename_i stream writing
      rw [writing] at kept
      exact kept
    · rename_i fault stream writing
      rw [writing] at kept
      exact kept
    · rename_i count stream writing
      rw [writing] at kept
      exact kept
  · intro recorded
    have kept := keeps.flush recorded.stream
    change value recorded.flush.2.stream = value recorded.stream
    unfold Recorded.flush
    split
    · rename_i stream flushing
      rw [flushing] at kept
      exact kept
    · rename_i fault stream flushing
      rw [flushing] at kept
      exact kept
    · rename_i stream flushing
      rw [flushing] at kept
      exact kept

namespace Backend

variable {σ : Type}

def arrived (backend : Backend (Recorded (Tapped σ))) : Bytes :=
  backend.stream.stream.arrived

variable [Connection σ]

theorem read_arrived {backend next : Backend (Recorded (Tapped σ))}
    {room : Nat} {outcome : Poll (Except IoFault Bytes)}
    (done : backend.read room = (outcome, next)) :
    next.arrived = backend.arrived ++ outcome.given := by
  unfold Backend.read at done
  split at done
  · have grown : (ByteSource.read backend.stream room).2.stream.arrived =
        backend.arrived ++ (ByteSource.read backend.stream room).1.given := rfl
    split at done
    · rename_i stream reading
      rw [reading] at grown
      cases done
      exact grown
    · rename_i given stream reading
      rw [reading] at grown
      cases done
      exact grown
  · cases done
    exact (List.append_nil _).symm

theorem keepsWriting_arrived :
    Connection.KeepsWriting (arrived : Backend (Recorded (Tapped σ)) → Bytes) :=
  keepsWriting_stream (Recorded.keepsWriting_stream
    ⟨fun _ _ => rfl, fun _ => rfl⟩)

theorem obtains_arrived {input rest : Backend (Recorded (Tapped σ))}
    {got : Bytes} (obtains : Obtains input got rest) :
    rest.arrived = input.arrived ++ got := by
  induction obtains with
  | nothing input => exact (List.append_nil _).symm
  | read room others ih =>
      rename_i input
      rw [ih, ← List.append_assoc]
      congr 1
      exact read_arrived (Prod.ext rfl rfl)

end Backend

end TunnelRelay
