import TunnelRelay.Instruction
import TunnelRelay.Stream.WriteAll

/-!
Writing wire data to a byte stream.

A `Sending` is what is left of one write: the bytes not taken yet, then the flush. `Sending.poll`
goes on as far as the stream lets it.
-/

namespace TunnelRelay

inductive Sending where
  /-- The bytes not taken yet; a flush follows them. -/
  | writing (rest : Bytes)
  | flushing
  deriving DecidableEq, Repr

inductive Sent where
  | done
  | failed (error : RelayError)
  | parked (sending : Sending)

namespace Sending

def backlog : Sending → Nat
  | writing rest => rest.length
  | flushing => 0

def flush {σ : Type} [ByteSink σ] (output : σ) : Sent × σ :=
  match ByteSink.flush output with
  | (.parked, output) => (.parked .flushing, output)
  | (.ready (.ok ()), output) => (.done, output)
  | (.ready (.error fault), output) => (.failed (.ofSocket fault), output)

def poll {σ : Type} [ByteSink σ] (sending : Sending) (output : σ) : Sent × σ :=
  match sending with
  | flushing => flush output
  | writing rest =>
    match writeAll rest output with
    | (.done, output) => flush output
    | (.failed fault, output) => (.failed (.ofSocket fault), output)
    | (.parked rest, output) => (.parked (.writing rest), output)

def ofBytes (data : Bytes) : Sending :=
  writing data

def ofInstruction (instruction : Instruction) : Sending :=
  writing instruction.wire

end Sending

def shutdownStream {σ : Type} [ByteSink σ] (output : σ) : Poll (Except RelayError Unit) × σ :=
  match ByteSink.shutdown output with
  | (.parked, output) => (.parked, output)
  | (.ready (.ok ()), output) => (.ready (.ok ()), output)
  | (.ready (.error fault), output) => (.ready (.error (.ofSocket fault)), output)

end TunnelRelay
