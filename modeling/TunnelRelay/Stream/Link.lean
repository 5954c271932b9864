import TunnelRelay.Stream.Basic

/-!
Bounded pipes, and the link between the relay and guacd.

A `Pipe` carries bytes one way and holds a limited number of them. A `Link` is one pipe for each
direction. As a stream, a link is the relay's end of it; the operations of guacd's end have names
of their own.
-/

namespace TunnelRelay

structure Pipe where
  capacity : Nat
  buffer : Bytes := []
  closed : Bool := false
  deriving DecidableEq, Repr

namespace Pipe

/-- Puts in as much as fits. Nothing can be written once an end is gone. -/
def write (pipe : Pipe) (bytes : Bytes) : Poll (Except IoFault Nat) × Pipe :=
  if pipe.closed then (.ready (.error ⟨.brokenPipe, none⟩), pipe)
  else if pipe.capacity ≤ pipe.buffer.length then (.parked, pipe)
  else
    let part := bytes.take (pipe.capacity - pipe.buffer.length)
    (.ready (.ok part.length), { pipe with buffer := pipe.buffer ++ part })

/-- Takes at most `room` bytes. What was put in before an end went can still be taken. -/
def read (pipe : Pipe) (room : Nat) : Poll (Except IoFault Bytes) × Pipe :=
  if room = 0 then (.ready (.ok []), pipe)
  else if pipe.buffer.isEmpty then
    if pipe.closed then (.ready (.ok []), pipe) else (.parked, pipe)
  else (.ready (.ok (pipe.buffer.take room)), { pipe with buffer := pipe.buffer.drop room })

def close (pipe : Pipe) : Pipe :=
  { pipe with closed := true }

theorem read_shrinks {pipe next : Pipe} {room : Nat} {bytes : Bytes}
    (done : pipe.read room = (.ready (.ok bytes), next)) (some : bytes ≠ []) :
    next.buffer.length < pipe.buffer.length := by
  unfold read at done
  split at done
  next =>
    simp only [Prod.mk.injEq, Poll.ready.injEq, Except.ok.injEq] at done
    exact absurd done.1.symm some
  next positive =>
    split at done
    next =>
      split at done
      next =>
        simp only [Prod.mk.injEq, Poll.ready.injEq, Except.ok.injEq] at done
        exact absurd done.1.symm some
      next => simp at done
    next filled =>
      simp only [Prod.mk.injEq] at done
      obtain ⟨-, rfl⟩ := done
      have nonempty : 0 < pipe.buffer.length := by
        rw [List.length_pos_iff]
        simpa using filled
      simp only [List.length_drop]
      omega

end Pipe

structure Link where
  toGuacd : Pipe
  toRelay : Pipe
  deriving DecidableEq, Repr

namespace Link

/-- A link that holds at most `capacity` bytes in each direction. -/
def ofCapacity (capacity : Nat) : Link :=
  ⟨{ capacity }, { capacity }⟩

instance : Connection Link where
  read link room :=
    let (given, toRelay) := link.toRelay.read room
    (given, { link with toRelay })
  held link := link.toRelay.buffer.length
  held_read := by
    intro link next room bytes done some
    simp only [Prod.mk.injEq] at done
    obtain ⟨given, rfl⟩ := done
    exact Pipe.read_shrinks (Prod.ext given rfl) some
  write link bytes :=
    let (count, toGuacd) := link.toGuacd.write bytes
    (count, { link with toGuacd })
  flush link := (.ready (.ok ()), link)
  shutdown link := (.ready (.ok ()), { link with toGuacd := link.toGuacd.close })
  drop link := ⟨link.toGuacd.close, link.toRelay.close⟩

def guacdWrite (link : Link) (bytes : Bytes) : Poll (Except IoFault Nat) × Link :=
  let (count, toRelay) := link.toRelay.write bytes
  (count, { link with toRelay })

/-- guacd reads everything that is there; the flag tells whether no more can come. -/
def guacdRead (link : Link) : Bytes × Bool × Link :=
  (link.toGuacd.buffer, link.toGuacd.closed, { link with toGuacd := { link.toGuacd with buffer := [] } })

def guacdClose (link : Link) : Link :=
  ⟨link.toGuacd.close, link.toRelay.close⟩

end Link

end TunnelRelay
