import TunnelRelay.Backend
import TunnelRelay.Guacd.Peer
import TunnelRelay.Stream.WriteAll

/-!
The two halves of a connection at work.

Each half does one thing at a time. What cannot be done at once waits, and goes on when something
has happened to the connection.
-/

namespace TunnelRelay

inductive HalfCall where
  | read (room : Nat)
  /-- The bytes that are not written yet. -/
  | write (rest : Bytes)
  | flush
  | shutdown
  deriving DecidableEq, Repr

inductive HalfReply where
  | received (bytes : Bytes)
  | done
  | failed (fault : IoFault)
  deriving DecidableEq, Repr

namespace HalfCall

def half : HalfCall → Half
  | read _ => .reading
  | write _ | flush | shutdown => .writing

def replyOf : Except IoFault Unit → HalfReply
  | .ok () => .done
  | .error fault => .failed fault

/-- Goes on with a call; on the right is what is left of it. -/
def poll {σ : Type} [Connection σ] (call : HalfCall) (backend : Backend σ) :
    (HalfReply ⊕ HalfCall) × Backend σ :=
  match call with
  | read room =>
    match backend.read room with
    | (.parked, backend) => (.inr call, backend)
    | (.ready (.ok bytes), backend) => (.inl (.received bytes), backend)
    | (.ready (.error fault), backend) => (.inl (.failed fault), backend)
  | write rest =>
    match writeAll rest backend with
    | (.done, backend) => (.inl .done, backend)
    | (.failed fault, backend) => (.inl (.failed fault), backend)
    | (.parked rest, backend) => (.inr (.write rest), backend)
  | flush =>
    match backend.flush with
    | (.parked, backend) => (.inr call, backend)
    | (.ready outcome, backend) => (.inl (replyOf outcome), backend)
  | shutdown =>
    match backend.shutdown with
    | (.parked, backend) => (.inr call, backend)
    | (.ready outcome, backend) => (.inl (replyOf outcome), backend)

end HalfCall

/-- A connection, the calls that wait on it, and the replies given since somebody looked. -/
structure Halves (σ : Type) where
  backend : Backend σ
  waiting : List HalfCall := []
  replies : List (Half × HalfReply) := []

namespace Halves

variable {σ : Type} [Connection σ]

def poll (halves : Halves σ) (call : HalfCall) : Halves σ :=
  match call.poll halves.backend with
  | (.inl reply, backend) =>
    { halves with backend, replies := halves.replies ++ [(call.half, reply)] }
  | (.inr call, backend) => { halves with backend, waiting := halves.waiting ++ [call] }

def settle (halves : Halves σ) : Halves σ :=
  halves.waiting.foldl poll { halves with waiting := [] }

def isBusy (halves : Halves σ) (half : Half) : Bool :=
  halves.waiting.any (·.half == half)

/-- Asks a half to do something, unless it is at work. -/
def start (halves : Halves σ) (call : HalfCall) : Option (Halves σ) :=
  if halves.isBusy call.half then none else some (halves.poll call).settle

def release (halves : Halves σ) : Halves σ :=
  { halves with backend := halves.backend.release.2 }.settle

def backlog (halves : Halves σ) : Nat :=
  halves.waiting.foldl (fun
    | backlog, .write rest => backlog + rest.length
    | backlog, _ => backlog) 0

/-- guacd, at the other end of the connection. -/
def peer : Guacd.Peer (Halves Link) where
  link halves := halves.backend.stream
  put link halves := { halves with backend := { halves.backend with stream := link } }
  settle := settle
  backlog := backlog

end Halves

end TunnelRelay
