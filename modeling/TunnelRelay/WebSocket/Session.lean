import TunnelRelay.Frame.FilteredWriter
import TunnelRelay.Metrics
import TunnelRelay.Pace
import TunnelRelay.Tunnel

/-!
One tunnel over one WebSocket.

The first message tells the browser the UUID of its tunnel; from then on every text message carries
whole instructions. Two tasks share a session: the pump takes data from guacd to the browser, the
handler takes messages from the browser to guacd. Either of them can close the socket, but only
once, and nothing follows the close message. While it listens, the handler waits for a message and
for the end of the pump; where it finds both, either can come first.
-/

namespace TunnelRelay.WebSocket

inductive Incoming where
  | text (data : String)
  | binary
  | ping (data : Bytes)
  | pong (data : Bytes)
  /-- The browser closes the socket. Nothing gets through to it from then on. -/
  | close
  /-- Nothing more can be received. Sending may still be possible: a message that is too long or
  is no text ends up here as well as a connection that breaks. -/
  | lost
  deriving DecidableEq, Repr

structure CloseFrame where
  code : Nat
  reason : String
  deriving DecidableEq, Repr

def CloseFrame.ofStatus (status : Status) : CloseFrame :=
  ⟨status.websocketCode, toString status.guacamoleCode⟩

inductive Outgoing where
  | text (data : String)
  | pong (data : Bytes)
  | close (frame : CloseFrame)
  deriving DecidableEq, Repr

structure Outbound where
  sent : List Outgoing := []
  closed : Bool := false
  /-- Nothing gets through any more. -/
  broken : Bool := false
  deriving DecidableEq, Repr

namespace Outbound

def isOpen (outbound : Outbound) : Bool :=
  !outbound.closed && !outbound.broken

def sendText (outbound : Outbound) (text : String) : Except RelayError Unit × Outbound :=
  if outbound.closed then (.error (.connectionClosed "WebSocket is closed."), outbound)
  else if outbound.broken then (.error (.connectionClosed "WebSocket send failed."), outbound)
  else (.ok (), { outbound with sent := outbound.sent ++ [.text text] })

/-- Answers a ping of the browser, if that still gets through. -/
def sendPong (outbound : Outbound) (data : Bytes) : Outbound :=
  if outbound.isOpen then { outbound with sent := outbound.sent ++ [.pong data] } else outbound

/-- Closes the socket. Only the first call sends anything. -/
def close (outbound : Outbound) (status : Status) : Outbound :=
  if outbound.closed then outbound
  else if outbound.broken then { outbound with closed := true }
  else { outbound with closed := true, sent := outbound.sent ++ [.close (.ofStatus status)] }

end Outbound

inductive PumpStage where
  | acquiring
  | reading
  | closing (status : Status)
  /-- Has closed the socket with a status, or has found it gone. -/
  | finished (status : Option Status)
  deriving DecidableEq, Repr

structure Pump where
  stage : PumpStage := .acquiring
  /-- Whole frames that are not sent yet, and how many. -/
  batch : String := ""
  pending : Nat := 0
  deriving DecidableEq, Repr

inductive HandlerStage where
  | listening
  | acquiring (text : String)
  /-- Sends what became of a text message: how many instructions. -/
  | sending (filtered : FilteredWriter (List Instruction)) (sending : Sending)
      (forwarded size : Nat)
  | replying (replies : List Instruction)
  | leaving (status : Option Status)
  | waiting (status : Option Status)
  | finished

/-- A session, from the moment its connection to guacd has been asked for. -/
structure Session (σ : Type) where
  /-- The tunnel, unless the connection was refused. -/
  tunnel : Option (Tunnel σ) := none
  /-- How many bytes a message may have before another frame joins it. -/
  bufferSize : Nat
  outbound : Outbound := {}
  inbound : List Incoming := []
  pump : Pump := {}
  handler : HandlerStage := .listening

namespace Session

variable {σ : Type} [Connection σ]

/-- The pump is the only task that reads. -/
def pumpTicket : Ticket := 0

/-- The handler is the only task that writes. -/
def handlerTicket : Ticket := 1

def announcement (uuid : Uuid) : String :=
  (Instruction.internal [uuid.text]).encode

def start (connected : Except RelayError (Tunnel σ)) (bufferSize : Nat) (outbound : Outbound)
    (metrics : Metrics) : Session σ × Metrics :=
  match connected with
  | .error error =>
    ({ bufferSize, outbound := outbound.close error.status, handler := .finished,
       pump := { stage := .finished none } }, metrics)
  | .ok tunnel =>
    let metrics := metrics.tunnelOpened
    match outbound.sendText (announcement tunnel.uuid) with
    | (.ok (), outbound) =>
      ({ tunnel := some (tunnel.requestReader pumpTicket), bufferSize, outbound }, metrics)
    -- the browser is gone already, and never hears of its tunnel
    | (.error _, outbound) =>
      ({ tunnel := some tunnel.close, bufferSize, outbound, handler := .finished,
         pump := { stage := .finished none } }, metrics.tunnelClosed .resourceClosed)

def stopPump (session : Session σ) (tunnel : Tunnel σ) (status : Option Status) : Session σ :=
  { session with
    tunnel := some (tunnel.releaseReader pumpTicket)
    pump := { session.pump with stage := .finished status } }

def sendBatch (session : Session σ) (metrics : Metrics) :
    Except RelayError Unit × Session σ × Metrics :=
  let pump := session.pump
  let metrics := metrics.sentToClient (UInt64.ofNat pump.pending)
    (UInt64.ofNat pump.batch.utf8ByteSize)
  let (outcome, outbound) := session.outbound.sendText pump.batch
  (outcome, { session with outbound, pump := { pump with batch := "", pending := 0 } }, metrics)

/-- The status with which the pump closes the socket after an error. -/
def closingStatus (error : RelayError) : Status :=
  if error.isConnectionClosed then .success else error.status

/-- The pump has read all that it can; what it still has is sent. -/
def drainPump (session : Session σ) (status : Status) (metrics : Metrics) :
    Pace × Session σ × Metrics :=
  let (session, metrics) :=
    if session.pump.batch.isEmpty then (session, metrics)
    else let (_, session, metrics) := session.sendBatch metrics; (session, metrics)
  (.goesOn, { session with pump := { session.pump with stage := .closing status } }, metrics)

def stepPump (session : Session σ) (metrics : Metrics) : Pace × Session σ × Metrics :=
  match session.tunnel with
  | none => (.ended, session, metrics)
  | some tunnel =>
    match session.pump.stage with
    | .acquiring =>
      match tunnel.claimReader pumpTicket with
      | (false, _) => (.parked, session, metrics)
      | (true, tunnel) =>
        (.goesOn, { session with
          tunnel := some tunnel
          pump := { session.pump with stage := .reading } }, metrics)
    | .reading =>
      match tunnel.readFrame with
      | (.parked, tunnel) => (.parked, { session with tunnel := some tunnel }, metrics)
      | (.ready (.error error), tunnel) =>
        { session with tunnel := some tunnel }.drainPump (closingStatus error) metrics
      | (.ready (.ok none), tunnel) =>
        { session with tunnel := some tunnel }.drainPump .success metrics
      | (.ready (.ok (some frame)), tunnel) =>
        let batch := session.pump.batch ++ frame.raw
        let session := { session with
          tunnel := some tunnel
          pump := { session.pump with batch, pending := session.pump.pending + 1 } }
        -- the frame waits for the next one only if that is there already
        if tunnel.available && batch.utf8ByteSize < session.bufferSize then
          (.goesOn, session, metrics)
        else
          match session.sendBatch metrics with
          | (.ok (), session, metrics) => (.goesOn, session, metrics)
          | (.error _, session, metrics) => (.ended, session.stopPump tunnel none, metrics)
    | .closing status =>
      let session := { session with outbound := session.outbound.close status }
      (.ended, session.stopPump tunnel (some status), metrics)
    | .finished _ => (.ended, session, metrics)

/-- The handler stops listening. A status of its own closes the socket. -/
def leave (session : Session σ) (status : Option Status) (metrics : Metrics) :
    Pace × Session σ × Metrics :=
  let outbound := match status with
    | none => session.outbound
    | some status => session.outbound.close status
  (.goesOn, { session with outbound, handler := .leaving status }, metrics)

/-- The handler stops because a message could not be forwarded. -/
def leaveFailed (session : Session σ) (error : RelayError) (metrics : Metrics) :
    Pace × Session σ × Metrics :=
  session.leave (some (closingStatus error)) metrics

def releaseWriter (session : Session σ) (tunnel : Tunnel σ) : Session σ :=
  { session with tunnel := some (tunnel.releaseWriter handlerTicket) }

/-- A text message has been forwarded; it may not end inside an instruction. The replies that the
filter owes go to the browser. -/
def forwarded (session : Session σ) (tunnel : Tunnel σ)
    (filtered : FilteredWriter (List Instruction)) (count size : Nat) (metrics : Metrics) :
    Pace × Session σ × Metrics :=
  let session := session.releaseWriter tunnel
  match filtered.finish with
  | .error error => session.leaveFailed error metrics
  | .ok replies =>
    let metrics := metrics.sentToServer (UInt64.ofNat count) (UInt64.ofNat size)
    (.goesOn, { session with handler := .replying replies },
      metrics.pingsAnswered (UInt64.ofNat replies.length))

def forward (session : Session σ) (tunnel : Tunnel σ) (text : String) (metrics : Metrics) :
    Pace × Session σ × Metrics :=
  let data := Bytes.ofText text
  let writer : FilteredWriter (List Instruction) := { filter := internalFilter, memory := [] }
  match writer.accept data with
  | (.error error, _) => (session.releaseWriter tunnel).leaveFailed error metrics
  | (.ok passed, filtered) =>
    match FilteredWriter.sending? passed with
    | none => session.forwarded tunnel filtered passed.count data.length metrics
    | some sending =>
      (.goesOn, { session with
        tunnel := some tunnel
        handler := .sending filtered sending passed.count data.length }, metrics)

/-- Takes one message of the browser. -/
def hear (session : Session σ) (tunnel : Tunnel σ) (message : Incoming) (metrics : Metrics) :
    Pace × Session σ × Metrics :=
  match message with
  | .text text =>
    match tunnel.requestWriter handlerTicket with
    | .error error => session.leaveFailed error metrics
    | .ok tunnel =>
      (.goesOn, { session with tunnel := some tunnel, handler := .acquiring text }, metrics)
  | .binary => session.leave (some .unsupported) metrics
  | .ping data => (.goesOn, { session with outbound := session.outbound.sendPong data }, metrics)
  | .pong _ => (.goesOn, session, metrics)
  | .close =>
    { session with outbound := { session.outbound with broken := true } }.leave none metrics
  | .lost => session.leave none metrics

def isPumpDone (session : Session σ) : Bool :=
  match session.pump.stage with
  | .finished _ => true
  | _ => false

/-- Takes notice of the pump or of a message. `heeds` decides between them if the pump is done
and a message is there. -/
def listen (session : Session σ) (tunnel : Tunnel σ) (heeds : Bool) (metrics : Metrics) :
    Pace × Session σ × Metrics :=
  match session.isPumpDone && (heeds || session.inbound.isEmpty), session.inbound with
  | true, _ => session.leave none metrics
  | false, [] => (.parked, session, metrics)
  | false, message :: inbound => { session with inbound }.hear tunnel message metrics

def stepHandler (session : Session σ) (heeds : Bool) (metrics : Metrics) :
    Pace × Session σ × Metrics :=
  match session.tunnel with
  | none => (.ended, session, metrics)
  | some tunnel =>
    match session.handler with
    | .listening => session.listen tunnel heeds metrics
    | .acquiring text =>
      match tunnel.claimWriter handlerTicket with
      | (.parked, _) => (.parked, session, metrics)
      | (.ready (.error error), tunnel) =>
        { session with tunnel := some tunnel }.leaveFailed error metrics
      | (.ready (.ok ()), tunnel) => session.forward tunnel text metrics
    | .sending filtered sending count size =>
      match tunnel.send sending with
      | (.done, tunnel) => session.forwarded tunnel filtered count size metrics
      | (.failed error, tunnel) => (session.releaseWriter tunnel).leaveFailed error metrics
      | (.parked sending, tunnel) =>
        (.parked, { session with
          tunnel := some tunnel
          handler := .sending filtered sending count size }, metrics)
    | .replying [] => (.goesOn, { session with handler := .listening }, metrics)
    | .replying (reply :: replies) =>
      match session.outbound.sendText reply.encode with
      | (.ok (), outbound) =>
        (.goesOn, { session with outbound, handler := .replying replies }, metrics)
      | (.error error, outbound) => { session with outbound }.leaveFailed error metrics
    | .leaving status =>
      (.goesOn, { session with tunnel := some tunnel.close, handler := .waiting status }, metrics)
    | .waiting status =>
      match session.pump.stage with
      | .finished pumped =>
        -- the status of the handler counts before that of the pump, whichever closed the socket
        (.ended, { session with handler := .finished },
          metrics.tunnelClosed ((status <|> pumped).getD .success))
      | _ => (.parked, session, metrics)
    | .finished => (.ended, session, metrics)

def isOver (session : Session σ) : Bool :=
  match session.handler with
  | .finished => true
  | _ => false

def deliver (session : Session σ) (messages : List Incoming) : Session σ :=
  { session with inbound := session.inbound ++ messages }

/-- The connection breaks, in both directions. -/
def lose (session : Session σ) : Session σ :=
  { session with outbound := { session.outbound with broken := true } }.deliver [.lost]

def backlog (session : Session σ) : Nat :=
  let current := match session.handler with
    | .acquiring text => text.utf8ByteSize
    | .sending _ sending _ _ => sending.backlog
    | _ => 0
  session.inbound.foldl (fun
    | backlog, .text data => backlog + data.utf8ByteSize
    | backlog, _ => backlog) current

end Session

end TunnelRelay.WebSocket
