import TunnelRelay.Stream.Basic

/-!
Streams that follow a script.

A `Source` gives its chunks one read at a time, failures included, and then the end of the stream.
A `Sink` takes bytes up to a limit and remembers what it took and what was asked of it.
-/

namespace TunnelRelay

structure Source where
  chunks : List (Except IoFault Bytes)

namespace Source

/-- A chunk longer than the room of a read is given in parts. -/
def read (source : Source) (room : Nat) : Poll (Except IoFault Bytes) × Source :=
  match source.chunks with
  | [] => (.ready (.ok []), source)
  | .error fault :: rest => (.ready (.error fault), ⟨rest⟩)
  | .ok chunk :: rest =>
    if chunk.length ≤ room then (.ready (.ok chunk), ⟨rest⟩)
    else (.ready (.ok (chunk.take room)), ⟨.ok (chunk.drop room) :: rest⟩)

/-- One unit per chunk and one per byte. -/
def held (source : Source) : Nat :=
  source.chunks.foldr (fun
    | .error _, rest => 1 + rest
    | .ok chunk, rest => chunk.length + 1 + rest) 0

theorem held_read {source next : Source} {room : Nat} {bytes : Bytes}
    (done : source.read room = (.ready (.ok bytes), next)) (some : bytes ≠ []) :
    next.held < source.held := by
  obtain ⟨chunks⟩ := source
  cases chunks with
  | nil =>
    simp only [read, Prod.mk.injEq, Poll.ready.injEq, Except.ok.injEq] at done
    exact absurd done.1.symm some
  | cons first rest =>
    cases first with
    | error fault => simp [read] at done
    | ok chunk =>
      simp only [read] at done
      split at done
      next =>
        simp only [Prod.mk.injEq] at done
        obtain ⟨-, rfl⟩ := done
        simp [held]
      next long =>
        simp only [Prod.mk.injEq, Poll.ready.injEq, Except.ok.injEq] at done
        obtain ⟨taken, rfl⟩ := done
        have positive : room ≠ 0 := by
          intro zero
          subst zero
          exact some (by simpa using taken.symm)
        simp only [held, List.foldr_cons, List.length_drop]
        omega

instance : ByteSource Source where
  read := read
  held := held
  held_read := held_read

end Source

inductive SinkCall where
  | flush
  | shutdown
  deriving DecidableEq, Repr

/-- A writable stream with a limit. -/
structure Sink where
  /-- How many more bytes it takes; `none` is no limit. -/
  accepts : Option Nat := none
  /-- How a write fails once the limit is reached; `none` takes zero bytes instead. -/
  fault : Option IoFault := none
  /-- How every flush and every shutdown fails. -/
  flushFault : Option IoFault := none
  taken : Bytes := []
  calls : List SinkCall := []

namespace Sink

def write (sink : Sink) (bytes : Bytes) : Poll (Except IoFault Nat) × Sink :=
  match sink.accepts with
  | none => (.ready (.ok bytes.length), { sink with taken := sink.taken ++ bytes })
  | some room =>
    if room = 0 then
      match sink.fault with
      | some fault => (.ready (.error fault), sink)
      | none => (.ready (.ok 0), sink)
    else
      let part := bytes.take room
      (.ready (.ok part.length),
        { sink with accepts := some (room - part.length), taken := sink.taken ++ part })

def settled (sink : Sink) : Except IoFault Unit :=
  match sink.flushFault with
  | some fault => .error fault
  | none => .ok ()

instance : ByteSink Sink where
  write := write
  flush sink := (.ready sink.settled, { sink with calls := sink.calls ++ [.flush] })
  shutdown sink := (.ready sink.settled, { sink with calls := sink.calls ++ [.shutdown] })

end Sink

/-- A connection whose two directions have nothing to do with each other. -/
structure Scripted where
  input : Source
  output : Sink := {}

instance : Connection Scripted where
  read stream room :=
    let (given, input) := stream.input.read room
    (given, { stream with input })
  held stream := stream.input.held
  held_read := by
    intro stream next room bytes done some
    simp only [Prod.mk.injEq] at done
    obtain ⟨given, rfl⟩ := done
    exact Source.held_read (Prod.ext given rfl) some
  write stream bytes :=
    let (count, output) := ByteSink.write stream.output bytes
    (count, { stream with output })
  flush stream :=
    let (outcome, output) := ByteSink.flush stream.output
    (outcome, { stream with output })
  shutdown stream :=
    let (outcome, output) := ByteSink.shutdown stream.output
    (outcome, { stream with output })
  drop stream := stream

end TunnelRelay
