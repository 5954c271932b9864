import TunnelRelay.Http.Answer
import TunnelRelay.Http.ContentEncoding
import TunnelRelay.Pace
import TunnelRelay.Registry

/-!
Long-poll reads.

A read acquires the reader of its tunnel and waits for the first message. Only then its answer
begins, so that a failure before still has an HTTP status of its own. The answer goes on with
whatever is there at once, and ends with `0.;`. What the relay itself has to say comes before what
guacd has sent. The pieces of an answer are what the browser reads; that they are compressed on the
way, in the encoding that the head names, is left out.
-/

namespace TunnelRelay.LongPoll

open Http

/-- Something for the browser: wire data, and how many instructions it is. -/
structure Message where
  data : String
  count : Nat
  deriving DecidableEq, Repr

def Message.ofInstructions (instructions : List Instruction) : Message :=
  ⟨String.join (instructions.map (·.encode)), instructions.length⟩

/-- One frame of guacd, exactly as received. -/
def Message.ofFrame (frame : Frame) : Message :=
  ⟨frame.raw, 1⟩

inductive ReadStage where
  | acquiring
  | looking
  /-- Waits for guacd, and for the relay to have something to say. -/
  | waiting
  /-- Has a message for the browser, or has reached the end of the stream. -/
  | giving (message : Option Message)
  | finished
  deriving DecidableEq, Repr

structure Read where
  ticket : Ticket
  tunnel : Nat
  encoding : ContentEncoding
  stage : ReadStage := .acquiring
  /-- The answer has begun. -/
  begun : Bool := false
  /-- Wire data that is not in any piece of the answer yet. -/
  unsent : Bytes := []
  deriving DecidableEq, Repr

namespace Read

variable {σ : Type} [Connection σ]

def headers (encoding : ContentEncoding) : Headers :=
  let headers := Headers.setText [] "content-type" "text/plain"
  let headers := match encoding.headerValue? with
    | none => headers
    | some value => headers.setText "content-encoding" value
  headers.noCache

/-- Looks for the next message; `none` where nothing has come yet. -/
inductive Look where
  | found (outcome : Except RelayError (Option Message))
  | again
  | nothing

def lookInside (registered : RegisteredTunnel σ) : Look × RegisteredTunnel σ :=
  let (queued, outbox) := registered.outbox.take
  let registered := { registered with outbox }
  if queued.isEmpty then (.nothing, registered)
  else (.found (.ok (some (Message.ofInstructions queued))), registered)

/-- Waits for a permit to look inside, or for guacd. -/
def await (registered : RegisteredTunnel σ) : Look × RegisteredTunnel σ :=
  match registered.outbox.awaken with
  | (true, outbox) => (.again, { registered with outbox })
  | (false, _) =>
    match registered.tunnel.readFrame with
    | (.parked, tunnel) => (.nothing, { registered with tunnel })
    | (.ready (.ok frame), tunnel) =>
      (.found (.ok (frame.map Message.ofFrame)), { registered with tunnel })
    | (.ready (.error error), tunnel) => (.found (.error error), { registered with tunnel })

def finish (read : Read) (answer : Answer) (registry : Registry σ) :
    Read × Answer × Registry σ :=
  let (_, answer) := answer.give (read.unsent ++ Bytes.ofText endOfInstructions)
  ({ read with stage := .finished, unsent := [] }, answer.finish,
    registry.onTunnel read.tunnel (·.releaseReader read.ticket))

/-- Ends a read that failed after its answer has begun. The browser is told, unless the connection
was only closed. -/
def fail (read : Read) (uuid : Uuid) (error : RelayError) (answer : Answer)
    (registry : Registry σ) : Read × Answer × Registry σ :=
  if error.isConnectionClosed then
    read.finish answer (registry.close uuid .resourceClosed).2
  else
    let notice := Instruction.error (Answer.publicMessage error) error.status
    { read with unsent := read.unsent ++ notice.wire }.finish answer
      (registry.close uuid error.status).2

/-- The first message of an answer. A connection that is closed has just nothing more to say. -/
def firstMessage (outcome : Except RelayError (Option Message)) :
    Except RelayError (Option Message) :=
  match outcome with
  | .ok message => .ok message
  | .error error => if error.isConnectionClosed then .ok none else .error error

/-- The read with the outcome of its wait. An error before the answer has begun becomes the
answer. -/
def receive (read : Read) (uuid : Uuid) (outcome : Except RelayError (Option Message))
    (answer : Answer) (registry : Registry σ) : Pace × Read × Answer × Registry σ :=
  if read.begun then
    match outcome with
    | .ok message => (.goesOn, { read with stage := .giving message }, answer, registry)
    | .error error => (.ended, read.fail uuid error answer registry)
  else
    match firstMessage outcome with
    | .ok message =>
      (.yields, { read with stage := .giving message, begun := true },
        answer.start .success (headers read.encoding), registry)
    | .error error =>
      -- nothing is given yet, so the failure has an HTTP status of its own
      let registry := (registry.close uuid error.status).2
      (.ended, { read with stage := .finished }, answer.failure error,
        registry.onTunnel read.tunnel (·.releaseReader read.ticket))

/-- Puts a message into the answer. The pieces given so far are flushed if nothing more is there
at once, and then the answer ends; it also ends if somebody else wants to read. -/
def give (read : Read) (registered : RegisteredTunnel σ) (message : Message) (answer : Answer)
    (registry : Registry σ) : Pace × Read × Answer × Registry σ :=
  let tunnel := registered.tunnel
  let data := Bytes.ofText message.data
  let registry := registry.count fun metrics =>
    metrics.sentToClient (UInt64.ofNat message.count) (UInt64.ofNat data.length)
  let read := { read with unsent := read.unsent ++ data }
  if tunnel.available then
    -- what is there is left to the next read, if one waits
    if tunnel.hasQueuedReaders || !tunnel.isOpen then (.ended, read.finish answer registry)
    else (.goesOn, { read with stage := .looking }, answer, registry)
  else
    match answer.give read.unsent with
    | (true, answer) => (.ended, { read with unsent := [] }.finish answer registry)
    | (false, answer) =>
      (.ended, { read with unsent := [] }.fail tunnel.uuid browserGone answer registry)
where
  browserGone : RelayError := .connectionClosed "Browser went away during read."

def step (read : Read) (answer : Answer) (registry : Registry σ) :
    Pace × Read × Answer × Registry σ :=
  match registry.tunnel? read.tunnel with
  | none => (.ended, read, answer, registry)
  | some registered =>
    let uuid := registered.tunnel.uuid
    let store (registered : RegisteredTunnel σ) := registry.update read.tunnel fun _ => registered
    match read.stage with
    | .acquiring =>
      match registered.tunnel.claimReader read.ticket with
      | (false, _) => (.parked, read, answer, registry)
      | (true, tunnel) =>
        (.goesOn, { read with stage := .looking }, answer, store { registered with tunnel })
    | .looking =>
      match lookInside registered with
      | (.found outcome, registered) => read.receive uuid outcome answer (store registered)
      | (_, registered) => (.goesOn, { read with stage := .waiting }, answer, store registered)
    | .waiting =>
      match await registered with
      | (.found outcome, registered) => read.receive uuid outcome answer (store registered)
      | (.again, registered) =>
        (.goesOn, { read with stage := .looking }, answer, store registered)
      | (.nothing, registered) => (.parked, read, answer, store registered)
    -- the end of the stream: only now the tunnel is closed
    | .giving none => (.ended, read.finish answer (registry.close uuid .success).2)
    | .giving (some message) => read.give registered message answer registry
    | .finished => (.ended, read, answer, registry)

def start (ticket : Ticket) (tunnel : Nat) (encoding : ContentEncoding) (registry : Registry σ) :
    Read × Registry σ :=
  ({ ticket, tunnel, encoding }, registry.onTunnel tunnel (·.requestReader ticket))

/-- Ends a read whose answer has not begun. -/
def abandon (read : Read) (registry : Registry σ) : Registry σ :=
  registry.onTunnel read.tunnel fun tunnel =>
    match read.stage with
    | .acquiring => tunnel.abandonReader read.ticket
    | _ => tunnel.releaseReader read.ticket

end Read

end TunnelRelay.LongPoll
