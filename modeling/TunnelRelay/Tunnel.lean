import TunnelRelay.Backend
import TunnelRelay.Frame.Reader
import TunnelRelay.Frame.Writer
import TunnelRelay.Lock
import TunnelRelay.Text.Quoted
import TunnelRelay.Uuid

/-!
A tunnel between one browser and one connection to guacd.

Reading and writing go through a lock each. Who holds the reader's lock pumps data toward the
browser; who holds the writer's lock forwards one batch of data to guacd. A tunnel can be closed
at any time, also while others hold or wait for its locks: reads then end, and writes fail.
-/

namespace TunnelRelay

structure Tunnel (σ : Type) where
  uuid : Uuid
  connectionId : Option String
  backend : Backend σ
  /-- May already hold data that came in behind the handshake. -/
  reader : FrameReader := .ofGuacd
  readerLock : Lock := {}
  writerLock : Lock := {}
  /-- How many tasks wait for the reader. -/
  queuedReaders : Nat := 0
  isOpen : Bool := true
  /-- Tells those who read that the tunnel is closed. -/
  closeSignal : Bool := false

namespace Tunnel

variable {σ : Type} [Connection σ]

def ofStream (uuid : Uuid) (connectionId : Option String) (stream : σ) : Tunnel σ :=
  { uuid, connectionId, backend := { stream } }

/-- Closes the tunnel and drops the connection; only the first call does anything. -/
def close (tunnel : Tunnel σ) : Tunnel σ :=
  if tunnel.isOpen then
    { tunnel with isOpen := false, closeSignal := true, backend := tunnel.backend.release.2 }
  else tunnel

def hasQueuedReaders (tunnel : Tunnel σ) : Bool :=
  0 < tunnel.queuedReaders

def closedError (tunnel : Tunnel σ) : RelayError :=
  .connectionClosed ("Tunnel " ++ tunnel.uuid.text ++ " is closed.")

def describe (tunnel : Tunnel σ) : String :=
  let connectionId := match tunnel.connectionId with
    | none => "None"
    | some id => "Some(" ++ Text.quoted id ++ ")"
  "Tunnel \x7b uuid: " ++ tunnel.uuid.text ++ ", connection_id: " ++ connectionId
    ++ ", open: " ++ (if tunnel.isOpen then "true" else "false") ++ " \x7d"

def requestReader (tunnel : Tunnel σ) (ticket : Ticket) : Tunnel σ :=
  { tunnel with
    queuedReaders := tunnel.queuedReaders + 1
    readerLock := tunnel.readerLock.request ticket }

def claimReader (tunnel : Tunnel σ) (ticket : Ticket) : Bool × Tunnel σ :=
  if tunnel.readerLock.isHeldBy ticket then
    (true, { tunnel with queuedReaders := tunnel.queuedReaders - 1 })
  else (false, tunnel)

def abandonReader (tunnel : Tunnel σ) (ticket : Ticket) : Tunnel σ :=
  { tunnel with
    queuedReaders := tunnel.queuedReaders - 1
    readerLock := tunnel.readerLock.withdraw ticket }

def releaseReader (tunnel : Tunnel σ) (ticket : Ticket) : Tunnel σ :=
  { tunnel with readerLock := tunnel.readerLock.withdraw ticket }

/-- Joins those who wait for the writer; a closed tunnel refuses. -/
def requestWriter (tunnel : Tunnel σ) (ticket : Ticket) : Except RelayError (Tunnel σ) :=
  if tunnel.isOpen then .ok { tunnel with writerLock := tunnel.writerLock.request ticket }
  else .error tunnel.closedError

/-- Gives the writer back, or gives up waiting for it. -/
def releaseWriter (tunnel : Tunnel σ) (ticket : Ticket) : Tunnel σ :=
  { tunnel with writerLock := tunnel.writerLock.withdraw ticket }

/-- Ends the wait for the writer if it is this ticket's turn. The tunnel may have been closed
meanwhile. -/
def claimWriter (tunnel : Tunnel σ) (ticket : Ticket) : Poll (Except RelayError Unit) × Tunnel σ :=
  if tunnel.writerLock.isHeldBy ticket then
    if tunnel.isOpen then (.ready (.ok ()), tunnel)
    else (.ready (.error tunnel.closedError), tunnel.releaseWriter ticket)
  else (.parked, tunnel)

def available (tunnel : Tunnel σ) : Bool :=
  tunnel.reader.available

/-- Reads the next frame, for the holder of the reader; `none` once guacd has ended the stream or
the tunnel is closed. -/
def readFrame (tunnel : Tunnel σ) : Poll (Except RelayError (Option Frame)) × Tunnel σ :=
  if tunnel.closeSignal then (.ready (.ok none), tunnel)
  else
    let (read, reader, backend) := tunnel.reader.readFrame tunnel.backend
    (read, { tunnel with reader, backend })

/-- Goes on with a write, for the holder of the writer. -/
def send (tunnel : Tunnel σ) (sending : Sending) : Sent × Tunnel σ :=
  let (sent, backend) := sending.poll tunnel.backend
  (sent, { tunnel with backend })

def shutdown (tunnel : Tunnel σ) : Poll (Except RelayError Unit) × Tunnel σ :=
  let (outcome, backend) := shutdownStream tunnel.backend
  (outcome, { tunnel with backend })

/-- The stream itself, also behind a release, for what happens at its other end. -/
def onStream (tunnel : Tunnel σ) (change : σ → σ) : Tunnel σ :=
  { tunnel with backend := { tunnel.backend with stream := change tunnel.backend.stream } }

end Tunnel

end TunnelRelay
