import TunnelRelay.Stream.Basic

/-!
A connection to guacd that can be severed at any time.

The stream is shared by a reading half, a writing half and whoever may release it. A release drops
the stream at once, even while a half is parked in an operation. The halves that are parked are
the ones to be woken: they find the end of the stream, or a broken pipe.
-/

namespace TunnelRelay

/-- The two halves of a connection. -/
inductive Half where
  | reading
  | writing
  deriving DecidableEq, Repr

/-- A stream, whether it is still there, and which halves wait for it. -/
structure Backend (σ : Type) where
  stream : σ
  live : Bool := true
  readingParked : Bool := false
  writingParked : Bool := false

namespace Backend

variable {σ : Type} [Connection σ]

def released : IoFault :=
  ⟨.brokenPipe, some "guacd connection released"⟩

/-- Reads; a released connection is at its end. -/
def read (backend : Backend σ) (room : Nat) : Poll (Except IoFault Bytes) × Backend σ :=
  if backend.live then
    match ByteSource.read backend.stream room with
    | (.parked, stream) => (.parked, { backend with stream, readingParked := true })
    | (.ready given, stream) => (.ready given, { backend with stream })
  else (.ready (.ok []), backend)

/-- Writes; nothing can be written to a released connection. -/
def write (backend : Backend σ) (bytes : Bytes) : Poll (Except IoFault Nat) × Backend σ :=
  if backend.live then
    match ByteSink.write backend.stream bytes with
    | (.parked, stream) => (.parked, { backend with stream, writingParked := true })
    | (.ready count, stream) => (.ready count, { backend with stream })
  else (.ready (.error released), backend)

def flush (backend : Backend σ) : Poll (Except IoFault Unit) × Backend σ :=
  if backend.live then
    match ByteSink.flush backend.stream with
    | (.parked, stream) => (.parked, { backend with stream, writingParked := true })
    | (.ready outcome, stream) => (.ready outcome, { backend with stream })
  else (.ready (.error released), backend)

/-- Shuts the writing side down, which is already done once the connection is released. A half
that has to wait here asks nobody to be woken. -/
def shutdown (backend : Backend σ) : Poll (Except IoFault Unit) × Backend σ :=
  if backend.live then
    let (outcome, stream) := ByteSink.shutdown backend.stream
    (outcome, { backend with stream })
  else (.ready (.ok ()), backend)

/-- Drops the stream, and tells which halves are woken by that. -/
def release (backend : Backend σ) : List Half × Backend σ :=
  ((if backend.readingParked then [.reading] else [])
      ++ (if backend.writingParked then [.writing] else []),
    { stream := if backend.live then Connection.drop backend.stream else backend.stream
      live := false })

theorem held_read {backend next : Backend σ} {room : Nat} {bytes : Bytes}
    (done : backend.read room = (.ready (.ok bytes), next)) (some : bytes ≠ []) :
    (if next.live then ByteSource.held next.stream else 0)
      < if backend.live then ByteSource.held backend.stream else 0 := by
  unfold read at done
  split at done
  next live =>
    split at done
    next => simp at done
    next given stream reading =>
      simp only [Prod.mk.injEq, Poll.ready.injEq] at done
      obtain ⟨rfl, rfl⟩ := done
      simp only [live, if_true]
      exact ByteSource.held_read reading some
  next =>
    simp only [Prod.mk.injEq, Poll.ready.injEq, Except.ok.injEq] at done
    exact absurd done.1.symm some

instance : Connection (Backend σ) where
  read := read
  held backend := if backend.live then ByteSource.held backend.stream else 0
  held_read := held_read
  write := write
  flush := flush
  shutdown := shutdown
  drop backend := backend.release.2

end Backend

end TunnelRelay
