import TunnelRelay.Guacd.Peer
import TunnelRelay.LongPoll.Exchange
import TunnelRelay.TunnelRequest
import TunnelRelay.WebSocket.Session
import TunnelRelay.WebSocket.Upgrade

/-!
The relay as a whole.

Its state are the registered tunnels, the HTTP requests and the WebSocket sessions. What comes
from outside — connections to guacd, and random values — is an `Environment`. Everything that is
under way is a `Task`; `Relay.step` lets one task take one step, in any order of tasks, and
`Relay.settle` goes on until every task waits for something.

Left out are the log, which decides nothing, and the timer that has idle tunnels closed from time
to time: what it does then is `Registry.closeIdle`.
-/

namespace TunnelRelay

open Http LongPoll

structure Environment (σ : Type) where
  /-- Connects to guacd for a request; the number counts the requests before. -/
  connect : (attempt : Nat) → TunnelRequest → Except RelayError (Tunnel σ)
  /-- The token of each registered tunnel, by number. -/
  token : Nat → String
  /-- The size beyond which a WebSocket message is not made larger. -/
  bufferSize : Nat := 8192

/-- An environment in which connecting goes by a script: it fails where the script holds an error,
and otherwise gives a fresh stream, in a tunnel whose identifier goes by the number of those
before. -/
def Environment.scripted {σ : Type} (script : List (Option RelayError))
    (uuid : (number : Nat) → Uuid) (connectionId : Option String) (stream : σ)
    (token : Nat → String) (bufferSize : Nat) : Environment σ where
  connect attempt _ :=
    match script.getD attempt none with
    | some error => .error error
    | none =>
      let number := attempt - (script.take attempt).countP Option.isSome
      .ok (Tunnel.ofStream (uuid number) connectionId stream)
  token
  bufferSize

inductive Task where
  | exchange (number : Nat)
  | pump (session : Nat)
  /-- `heeds` as for `WebSocket.Session.listen`. -/
  | handler (session : Nat) (heeds : Bool)
  deriving DecidableEq, Repr

structure Relay (σ : Type) where
  registry : Registry σ
  /-- What connections were asked for, in order. -/
  requests : List TunnelRequest := []
  exchanges : List Exchange := []
  sessions : List (WebSocket.Session σ) := []

namespace Relay

variable {σ : Type} [Connection σ]

def metrics (relay : Relay σ) : Metrics :=
  relay.registry.metrics

def connect (environment : Environment σ) (parameters : List (String × String))
    (relay : Relay σ) : Except RelayError (Tunnel σ) × Relay σ :=
  let request : TunnelRequest := ⟨parameters⟩
  (environment.connect relay.requests.length request,
    { relay with requests := relay.requests ++ [request] })

def setExchange (relay : Relay σ) (number : Nat) (exchange : Exchange)
    (registry : Registry σ) : Relay σ :=
  { relay with registry, exchanges := relay.exchanges.set number exchange }

def connectExchange (environment : Environment σ) (number : Nat) (exchange : Exchange)
    (parameters : List (String × String)) (relay : Relay σ) : Relay σ :=
  match relay.connect environment parameters with
  | (.error error, relay) => relay.setExchange number (exchange.refuse error) relay.registry
  | (.ok tunnel, relay) =>
    let token := environment.token relay.registry.tunnels.length
    let (exchange, registry) :=
      exchange.enter tunnel token (relay.registry.count (·.tunnelOpened))
    relay.setExchange number exchange registry

def stepExchange (environment : Environment σ) (number : Nat) (relay : Relay σ) :
    Pace × Relay σ :=
  match relay.exchanges[number]? with
  | none => (.ended, relay)
  | some exchange =>
    match exchange.activity with
    | .connecting parameters =>
      (.ended, relay.connectExchange environment number exchange parameters)
    | _ =>
      let (pace, exchange, registry) := exchange.step relay.registry
      (pace, relay.setExchange number exchange registry)

def stepSession (number : Nat)
    (step : WebSocket.Session σ → Metrics → Pace × WebSocket.Session σ × Metrics)
    (relay : Relay σ) : Pace × Relay σ :=
  match relay.sessions[number]? with
  | none => (.ended, relay)
  | some session =>
    let (pace, session, metrics) := step session relay.metrics
    (pace, { relay with
      registry := { relay.registry with metrics }
      sessions := relay.sessions.set number session })

def step (environment : Environment σ) (task : Task) (relay : Relay σ) : Pace × Relay σ :=
  match task with
  | .exchange number => relay.stepExchange environment number
  | .pump number => relay.stepSession number (·.stepPump)
  | .handler number heeds => relay.stepSession number (·.stepHandler heeds)

/-- The exchanges that satisfy a condition and are not answered. -/
def openExchanges (relay : Relay σ) (condition : Exchange → Bool) : List Task :=
  (relay.exchanges.zipIdx.filter fun entry =>
    !entry.1.isAnswered && condition entry.1).map fun entry => .exchange entry.2

/-- The sessions in which a task is not done, as that task. -/
def openSessions (relay : Relay σ) (task : Nat → Task) (isDone : WebSocket.Session σ → Bool) :
    List Task :=
  (relay.sessions.zipIdx.filter fun entry => !isDone entry.1).map fun entry => task entry.2

/-- Everything that is under way; what takes data from guacd comes first. -/
def tasks (relay : Relay σ) : List Task :=
  relay.openExchanges (·.isRead) ++ relay.openSessions .pump (·.isPumpDone)
    ++ relay.openExchanges (!·.isRead) ++ relay.openSessions (.handler · true) (·.isOver)

/-- Lets one task go on until it waits or gives way to others; the flag tells whether it did
anything. -/
def run (environment : Environment σ) (task : Task) : (limit : Nat) → Relay σ → Bool × Relay σ
  | 0, relay => (false, relay)
  | limit + 1, relay =>
    match relay.step environment task with
    | (.parked, relay) => (false, relay)
    | (.yields, relay) | (.ended, relay) => (true, relay)
    | (.goesOn, relay) => (true, (relay.run environment task limit).2)

def round (environment : Environment σ) (limit : Nat) (relay : Relay σ) : Bool × Relay σ :=
  relay.tasks.foldl (fun (moved, relay) task =>
    let (ran, relay) := relay.run environment task limit
    (moved || ran, relay)) (false, relay)

/-- Gives turns until nobody can go on, at most `limit` times. -/
def rounds (environment : Environment σ) (limit : Nat) : (left : Nat) → Relay σ → Relay σ
  | 0, relay => relay
  | left + 1, relay =>
    match relay.round environment limit with
    | (true, relay) => relay.rounds environment limit left
    | (false, relay) => relay

/-- What one tunnel can give to its browser without further help. -/
def supply (tunnel : Tunnel σ) : Nat :=
  ByteSource.held tunnel.backend + tunnel.reader.buffer.length

/-- More than the number of steps that all tasks together can take without further help. -/
def bound (relay : Relay σ) : Nat :=
  let registered := relay.registry.tunnels.map fun registered =>
    supply registered.tunnel + registered.outbox.queue.length + 1
  let exchanges := relay.exchanges.map fun exchange => exchange.body.length + exchange.backlog + 8
  let sessions := relay.sessions.map fun session =>
    session.tunnel.elim 0 supply + session.inbound.length + session.backlog + 16
  4 * (registered ++ exchanges ++ sessions).foldl (· + ·) 0 + 16

/-- Lets everything go on until every task waits for something. -/
def settle (environment : Environment σ) (relay : Relay σ) : Relay σ :=
  relay.rounds environment relay.bound relay.bound

def backlog (relay : Relay σ) : Nat :=
  let exchanges := relay.exchanges.map (·.backlog)
  let sessions := relay.sessions.map (·.backlog)
  (exchanges ++ sessions).foldl (· + ·) 0

inductive Resource where
  | tunnel
  | webSocket
  | health
  | metrics
  deriving DecidableEq, Repr

/-- The resource of a path, and the methods that it allows. -/
def resource? (path : String) : Option (Resource × List String) :=
  match path with
  | "/tunnel" => some (.tunnel, ["GET", "HEAD", "POST"])
  | "/websocket-tunnel" => some (.webSocket, ["GET", "HEAD"])
  | "/health" => some (.health, ["GET", "HEAD"])
  | "/metrics" => some (.metrics, ["GET", "HEAD"])
  | _ => none

/-- Begins to answer a request; without `wanted`, nobody takes the body of the answer. -/
def startExchange (request : Request) (wanted : Bool) (relay : Relay σ) :
    Exchange × Registry σ :=
  let exchange : Exchange :=
    { activity := .answered, answer := { wanted := wanted && request.method != "HEAD" } }
  let answer := exchange.answer
  match resource? request.path with
  | none => (exchange.answerWith (answer.whole 404 [] []), relay.registry)
  | some (resource, methods) =>
    if methods.contains request.method then
      match resource with
      | .tunnel => exchange.start relay.exchanges.length request relay.registry
      | .webSocket =>
        (exchange.answerWith (answer.plain 400 [] "Connection header did not include 'upgrade'"),
          relay.registry)
      | .health => (exchange.answerWith (answer.plain 200 [] "OK"), relay.registry)
      | .metrics =>
        let headers := Headers.setText [] "content-type" "text/plain; version=0.0.4"
        let text := Bytes.ofText relay.metrics.prometheus
        (exchange.answerWith (answer.whole 200 headers text), relay.registry)
    else
      let headers := Headers.setText [] "allow" (",".intercalate methods)
      (exchange.answerWith (answer.whole 405 headers []), relay.registry)

/-- An HTTP request arrives, with what is there of its body. It gets the number of exchanges
before it. -/
def receive (environment : Environment σ) (request : Request) (body : List BodyEvent)
    (wanted : Bool) (relay : Relay σ) : Relay σ :=
  let (exchange, registry) := relay.startExchange request wanted
  { relay with registry, exchanges := relay.exchanges ++ [{ exchange with body }] }.settle
    environment

def deliver (environment : Environment σ) (number : Nat) (body : List BodyEvent)
    (relay : Relay σ) : Relay σ :=
  { relay with exchanges := relay.exchanges.modify number fun exchange =>
      { exchange with body := exchange.body ++ body } }.settle environment

def abandon (environment : Environment σ) (number : Nat) (relay : Relay σ) : Relay σ :=
  match relay.exchanges[number]? with
  | none => relay
  | some exchange =>
    let (exchange, registry) := exchange.abandon relay.registry
    (relay.setExchange number exchange registry).settle environment

/-- Tunnels that have been idle for too long are closed, and counted, all in one step. -/
def closeIdle (environment : Environment σ) (relay : Relay σ) : Nat × Relay σ :=
  let (closed, registry) := relay.registry.closeIdle
  (closed, { relay with registry }.settle environment)

def openSession (environment : Environment σ) (query : String) (relay : Relay σ) : Relay σ :=
  let (connected, relay) := relay.connect environment (Form.pairs (Bytes.ofText query))
  let (session, metrics) :=
    WebSocket.Session.start connected environment.bufferSize {} relay.metrics
  { relay with
    registry := { relay.registry with metrics }
    sessions := relay.sessions ++ [session] }.settle environment

def onSession (environment : Environment σ) (number : Nat)
    (change : WebSocket.Session σ → WebSocket.Session σ) (relay : Relay σ) : Relay σ :=
  { relay with sessions := relay.sessions.modify number change }.settle environment

def tunnelPeer (environment : Environment Link) (number : Nat) : Guacd.Peer (Relay Link) where
  link relay :=
    (relay.registry.tunnel? number).elim (.ofCapacity 0) (·.tunnel.backend.stream)
  put link relay :=
    { relay with registry := relay.registry.onTunnel number (·.onStream fun _ => link) }
  settle := settle environment
  backlog := backlog

def sessionPeer (environment : Environment Link) (number : Nat) : Guacd.Peer (Relay Link) where
  link relay :=
    (relay.sessions[number]?.bind (·.tunnel)).elim (.ofCapacity 0) (·.backend.stream)
  put link relay :=
    { relay with sessions := relay.sessions.modify number fun session =>
        { session with tunnel := session.tunnel.map (·.onStream fun _ => link) } }
  settle := settle environment
  backlog := backlog

end Relay

end TunnelRelay
