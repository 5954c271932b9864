import TunnelRelay.Bytes
import TunnelRelay.Error

/-!
Byte streams as values.

An operation on a stream is one attempt: it is done at once, or nothing can be done now. The
stream after the attempt is a new value. `ByteSource.held` counts what a stream can still give
without help from its other end; each read that gives bytes lowers it, so reading on until
nothing comes always ends.
-/

namespace TunnelRelay

inductive Poll (α : Type) where
  | ready (value : α)
  /-- Nothing can be done before somebody else acts. -/
  | parked
  deriving DecidableEq, Repr

class ByteSource (σ : Type) where
  /-- Reads at most `room` bytes; no bytes at all mark the end of the stream. -/
  read : σ → (room : Nat) → Poll (Except IoFault Bytes) × σ
  held : σ → Nat
  held_read : ∀ {stream next : σ} {room : Nat} {bytes : Bytes},
    read stream room = (.ready (.ok bytes), next) → bytes ≠ [] → held next < held stream

class ByteSink (σ : Type) where
  /-- Writes some of the bytes and tells how many. -/
  write : σ → Bytes → Poll (Except IoFault Nat) × σ
  flush : σ → Poll (Except IoFault Unit) × σ
  shutdown : σ → Poll (Except IoFault Unit) × σ

/-- Connections: both directions, and a way to drop them. -/
class Connection (σ : Type) extends ByteSource σ, ByteSink σ where
  /-- Drops this end. What the other end sees of it stays in the value. -/
  drop : σ → σ

end TunnelRelay
