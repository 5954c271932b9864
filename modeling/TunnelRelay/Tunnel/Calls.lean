import TunnelRelay.Guacd.Peer
import TunnelRelay.Tunnel

/-!
Tasks that share a tunnel.

Each task has a ticket and does one thing at a time. A task holds the reader or the writer from
the moment it has acquired it until it releases it or is cancelled. What cannot be done at once
waits, and goes on when something has happened to the tunnel.
-/

namespace TunnelRelay

inductive TunnelCall where
  | acquireReader
  | acquireWriter
  | read
  | send (sending : Sending)
  | shutdown
  deriving DecidableEq, Repr

inductive TunnelReply where
  | acquired
  | received (frame : Option Frame)
  | done
  | failed (error : RelayError)
  | cancelled

inductive Refusal where
  | busy
  | notHeld
  deriving DecidableEq, Repr

namespace TunnelCall

variable {σ : Type} [Connection σ]

/-- Goes on with a call; on the right is what is left of it. -/
def poll (call : TunnelCall) (ticket : Ticket) (tunnel : Tunnel σ) :
    (TunnelReply ⊕ TunnelCall) × Tunnel σ :=
  match call with
  | acquireReader =>
    match tunnel.claimReader ticket with
    | (true, tunnel) => (.inl .acquired, tunnel)
    | (false, tunnel) => (.inr call, tunnel)
  | acquireWriter =>
    match tunnel.claimWriter ticket with
    | (.ready (.ok ()), tunnel) => (.inl .acquired, tunnel)
    | (.ready (.error error), tunnel) => (.inl (.failed error), tunnel)
    | (.parked, tunnel) => (.inr call, tunnel)
  | read =>
    match tunnel.readFrame with
    | (.ready (.ok frame), tunnel) => (.inl (.received frame), tunnel)
    | (.ready (.error error), tunnel) => (.inl (.failed error), tunnel)
    | (.parked, tunnel) => (.inr call, tunnel)
  | send sending =>
    match tunnel.send sending with
    | (.done, tunnel) => (.inl .done, tunnel)
    | (.failed error, tunnel) => (.inl (.failed error), tunnel)
    | (.parked sending, tunnel) => (.inr (.send sending), tunnel)
  | shutdown =>
    match tunnel.shutdown with
    | (.ready (.ok ()), tunnel) => (.inl .done, tunnel)
    | (.ready (.error error), tunnel) => (.inl (.failed error), tunnel)
    | (.parked, tunnel) => (.inr call, tunnel)

def backlog : TunnelCall → Nat
  | send sending => sending.backlog
  | _ => 0

end TunnelCall

/-- A tunnel, the calls that wait on it, and the replies given since somebody looked. -/
structure SharedTunnel (σ : Type) where
  tunnel : Tunnel σ
  waiting : List (Ticket × TunnelCall) := []
  replies : List (Ticket × TunnelReply) := []

namespace SharedTunnel

variable {σ : Type} [Connection σ]

def isBusy (shared : SharedTunnel σ) (ticket : Ticket) : Bool :=
  shared.waiting.any (·.1 == ticket)

def holdsReader (shared : SharedTunnel σ) (ticket : Ticket) : Bool :=
  shared.tunnel.readerLock.isHeldBy ticket

def holdsWriter (shared : SharedTunnel σ) (ticket : Ticket) : Bool :=
  shared.tunnel.writerLock.isHeldBy ticket

def reply (shared : SharedTunnel σ) (ticket : Ticket) (reply : TunnelReply) : SharedTunnel σ :=
  { shared with replies := shared.replies ++ [(ticket, reply)] }

def poll (shared : SharedTunnel σ) (entry : Ticket × TunnelCall) : SharedTunnel σ :=
  match entry.2.poll entry.1 shared.tunnel with
  | (.inl reply, tunnel) => { shared with tunnel }.reply entry.1 reply
  | (.inr call, tunnel) => { shared with tunnel, waiting := shared.waiting ++ [(entry.1, call)] }

/-- Goes on with every call that waits, in the order in which they were begun. A call that ends
can let only later ones go on. -/
def settle (shared : SharedTunnel σ) : SharedTunnel σ :=
  shared.waiting.foldl poll { shared with waiting := [] }

/-- The tunnel once a task has joined those who wait for the reader or the writer. -/
def join (shared : SharedTunnel σ) (ticket : Ticket) :
    TunnelCall → Except RelayError (Tunnel σ)
  | .acquireReader => .ok (shared.tunnel.requestReader ticket)
  | .acquireWriter => shared.tunnel.requestWriter ticket
  | _ => .ok shared.tunnel

def permits (shared : SharedTunnel σ) (ticket : Ticket) : TunnelCall → Bool
  | .acquireReader | .acquireWriter => true
  | .read => shared.holdsReader ticket
  | .send _ | .shutdown => shared.holdsWriter ticket

def start (shared : SharedTunnel σ) (ticket : Ticket) (call : TunnelCall) :
    Except Refusal (SharedTunnel σ) :=
  if shared.isBusy ticket then .error .busy
  else if !shared.permits ticket call then .error .notHeld
  else match shared.join ticket call with
    | .error error => .ok (shared.reply ticket (.failed error))
    | .ok tunnel => .ok ({ shared with tunnel }.poll (ticket, call)).settle

/-- Whether a read will be done at once, for the task that holds the reader. -/
def available (shared : SharedTunnel σ) (ticket : Ticket) : Except Refusal Bool :=
  if shared.isBusy ticket then .error .busy
  else if !shared.holdsReader ticket then .error .notHeld
  else .ok shared.tunnel.available

/-- Gives back whatever the task holds; the flag tells whether it held anything. -/
def letGo (shared : SharedTunnel σ) (ticket : Ticket) : Bool × SharedTunnel σ :=
  if shared.holdsReader ticket then
    (true, { shared with tunnel := shared.tunnel.releaseReader ticket }.settle)
  else if shared.holdsWriter ticket then
    (true, { shared with tunnel := shared.tunnel.releaseWriter ticket }.settle)
  else (false, shared)

def release (shared : SharedTunnel σ) (ticket : Ticket) :
    Except Refusal (Bool × SharedTunnel σ) :=
  if shared.isBusy ticket then .error .busy else .ok (shared.letGo ticket)

/-- Gives up the call that a task waits for, and what the task holds; `none` if it does not
wait. -/
def cancel (shared : SharedTunnel σ) (ticket : Ticket) : Option (SharedTunnel σ) :=
  match shared.waiting.find? (·.1 == ticket) with
  | none => none
  | some (_, call) =>
    let shared := { shared with waiting := shared.waiting.filter (·.1 != ticket) }
    let shared := match call with
      | .acquireReader => { shared with tunnel := shared.tunnel.abandonReader ticket }.settle
      | .acquireWriter => { shared with tunnel := shared.tunnel.releaseWriter ticket }.settle
      | _ => (shared.letGo ticket).2
    some (shared.reply ticket .cancelled)

def close (shared : SharedTunnel σ) : SharedTunnel σ :=
  { shared with tunnel := shared.tunnel.close }.settle

def backlog (shared : SharedTunnel σ) : Nat :=
  (shared.waiting.map (·.2.backlog)).foldl (· + ·) 0

/-- guacd, at the other end of the tunnel. -/
def peer : Guacd.Peer (SharedTunnel Link) where
  link shared := shared.tunnel.backend.stream
  put link shared := { shared with tunnel := shared.tunnel.onStream fun _ => link }
  settle := settle
  backlog := backlog

end SharedTunnel

end TunnelRelay
