import TunnelRelay.Proofs.Stream.Recorded
import TunnelRelay.Relay

/-!
Everything that can happen to the relay, one move at a time.

A move is a step of one task, or something that comes from a browser or from guacd, in any order.
A history is a relay that was reached by moves, with a record of what guacd was sent over each
connection and of what the browsers have sent. The operations of the relay that let everything go
on afterwards are sequences of moves.
-/

namespace TunnelRelay

open Http LongPoll

/-- Something that happens to the relay. -/
inductive Move (σ : Type) where
  | task (task : Task)
  /-- A request arrives, with what is there of its body. -/
  | receive (request : Request) (body : List BodyEvent) (wanted : Bool)
  | deliver (number : Nat) (body : List BodyEvent)
  /-- The browser of a request goes away. -/
  | abandon (number : Nat)
  /-- The tunnels that have been idle for too long are closed. This is taken as one step: nothing
  happens between settling which ones they are and closing the last of them. -/
  | closeIdle
  | advance (duration : Nat)
  | openSession (query : String)
  /-- Messages arrive over a WebSocket. -/
  | say (session : Nat) (messages : List WebSocket.Incoming)
  /-- The connection of a WebSocket breaks. -/
  | lose (session : Nat)
  /-- guacd does something to the connection of a tunnel. -/
  | guacd (tunnel : Nat) (change : σ → σ)
  | guacdSession (session : Nat) (change : σ → σ)

structure Post where
  request : Request
  body : List BodyEvent

/-- A relay whose connections keep records, and what its browsers have sent: the
requests in the order of their arrival, and the messages of each session. -/
structure History (σ : Type) where
  relay : Relay (Recorded σ)
  posts : List Post := []
  heard : List (List WebSocket.Incoming) := []

variable {σ : Type} [Connection σ]

def Tunnel.recorded (tunnel : Tunnel σ) : Tunnel (Recorded σ) :=
  { tunnel with
    backend := { tunnel.backend with
      stream := { stream := tunnel.backend.stream } } }

def Environment.recorded (environment : Environment σ) :
    Environment (Recorded σ) where
  connect attempt request :=
    (environment.connect attempt request).map Tunnel.recorded
  token := environment.token
  bufferSize := environment.bufferSize

omit [Connection σ] in
theorem Environment.recorded_ok {environment : Environment σ} {attempt : Nat}
    {request : TunnelRequest} {recorded : Tunnel (Recorded σ)}
    (connected : environment.recorded.connect attempt request = .ok recorded) :
    ∃ tunnel, environment.connect attempt request = .ok tunnel ∧
      tunnel.recorded = recorded := by
  simp only [Environment.recorded] at connected
  cases outcome : environment.connect attempt request with
  | error error =>
      rw [outcome] at connected
      cases connected
  | ok tunnel =>
      rw [outcome] at connected
      cases connected
      exact ⟨tunnel, rfl, rfl⟩

namespace Relay

/-- A request arrives; nothing goes on yet. -/
def arrive (request : Request) (body : List BodyEvent) (wanted : Bool)
    (relay : Relay (Recorded σ)) : Relay (Recorded σ) :=
  let (exchange, registry) := relay.startExchange request wanted
  { relay with
    registry, exchanges := relay.exchanges ++ [{ exchange with body }] }

def withdraw (number : Nat) (relay : Relay (Recorded σ)) :
    Relay (Recorded σ) :=
  match relay.exchanges[number]? with
  | none => relay
  | some exchange =>
      let (exchange, registry) := exchange.abandon relay.registry
      relay.setExchange number exchange registry

def join (environment : Environment σ) (query : String)
    (relay : Relay (Recorded σ)) : Relay (Recorded σ) :=
  let (connected, relay) :=
    relay.connect environment.recorded (Form.pairs (Bytes.ofText query))
  let (session, metrics) :=
    WebSocket.Session.start connected environment.bufferSize {} relay.metrics
  { relay with
    registry := { relay.registry with metrics }
    sessions := relay.sessions ++ [session] }

def modifySession (number : Nat)
    (change : WebSocket.Session (Recorded σ) → WebSocket.Session (Recorded σ))
    (relay : Relay (Recorded σ)) : Relay (Recorded σ) :=
  { relay with sessions := relay.sessions.modify number change }

def perform (environment : Environment σ) (move : Move σ)
    (relay : Relay (Recorded σ)) : Relay (Recorded σ) :=
  match move with
  | .task task => (relay.step environment.recorded task).2
  | .receive request body wanted => relay.arrive request body wanted
  | .deliver number body =>
      { relay with exchanges := relay.exchanges.modify number fun exchange =>
          { exchange with body := exchange.body ++ body } }
  | .abandon number => relay.withdraw number
  | .closeIdle => { relay with registry := relay.registry.closeIdle.2 }
  | .advance duration =>
      { relay with registry := relay.registry.advance duration }
  | .openSession query => relay.join environment query
  | .say session messages => relay.modifySession session (·.deliver messages)
  | .lose session => relay.modifySession session (·.lose)
  | .guacd tunnel change =>
      { relay with
        registry := relay.registry.onTunnel tunnel
          (·.onStream (Recorded.onStream change)) }
  | .guacdSession session change =>
      relay.modifySession session fun session =>
        { session with tunnel :=
            session.tunnel.map (·.onStream (Recorded.onStream change)) }

end Relay

namespace History

def perform (environment : Environment σ) (history : History σ)
    (move : Move σ) : History σ where
  relay := history.relay.perform environment move
  posts :=
    match move with
    | .receive request body _ => history.posts ++ [⟨request, body⟩]
    | .deliver number body => history.posts.modify number fun post =>
        { post with body := post.body ++ body }
    | _ => history.posts
  heard :=
    match move with
    | .openSession _ => history.heard ++ [[]]
    | .say session messages => history.heard.modify session (· ++ messages)
    | .lose session => history.heard.modify session (· ++ [.lost])
    | _ => history.heard

def initial (idleTimeout : Nat) : History σ where
  relay := { registry := { idleTimeout } }

/-- What moves lead to, one after another. -/
def run (environment : Environment σ) (idleTimeout : Nat)
    (moves : List (Move σ)) : History σ :=
  moves.foldl (perform environment) (initial idleTimeout)

theorem run_append (environment : Environment σ) (idleTimeout : Nat)
    (moves more : List (Move σ)) :
    run environment idleTimeout (moves ++ more) =
      more.foldl (perform environment) (run environment idleTimeout moves) :=
  List.foldl_append

theorem run_snoc (environment : Environment σ) (idleTimeout : Nat)
    (moves : List (Move σ)) (move : Move σ) :
    run environment idleTimeout (moves ++ [move]) =
      (run environment idleTimeout moves).perform environment move :=
  run_append environment idleTimeout moves [move]

theorem abandon_relay (environment : Environment σ) {history : History σ}
    {index : Nat} {exchange : Exchange}
    (found : history.relay.exchanges[index]? = some exchange) :
    (history.perform environment (.abandon index)).relay =
      history.relay.setExchange index
        (exchange.abandon history.relay.registry).1
        (exchange.abandon history.relay.registry).2 := by
  simp only [perform, Relay.perform, Relay.withdraw, found]

theorem abandon_none (environment : Environment σ) {history : History σ}
    {index : Nat} (absent : history.relay.exchanges[index]? = none) :
    (history.perform environment (.abandon index)).relay = history.relay := by
  simp only [perform, Relay.perform, Relay.withdraw, absent]

omit [Connection σ] in
theorem each_of_snoc {moves : List (Move σ)} {last : Move σ}
    {holds : List (Move σ) → Move σ → Prop}
    (each : ∀ earlier move later, moves ++ [last] = earlier ++ move :: later →
      holds earlier move) :
    ∀ earlier move later, moves = earlier ++ move :: later →
      holds earlier move := by
  rintro earlier move later rfl
  apply each earlier move (later ++ [last])
  rw [List.append_assoc]
  rfl

end History

/-! ### Letting everything go on -/

namespace Relay

def steps (environment : Environment σ) (tasks : List Task)
    (relay : Relay (Recorded σ)) : Relay (Recorded σ) :=
  tasks.foldl (fun relay task => relay.perform environment (.task task)) relay

theorem steps_append (environment : Environment σ) (first second : List Task)
    (relay : Relay (Recorded σ)) :
    relay.steps environment (first ++ second) =
      (relay.steps environment first).steps environment second :=
  List.foldl_append

theorem run_eq_steps (environment : Environment σ) (task : Task)
    (limit : Nat) (relay : Relay (Recorded σ)) :
    ∃ tasks, (relay.run environment.recorded task limit).2 =
      relay.steps environment tasks := by
  induction limit generalizing relay with
  | zero => exact ⟨[], rfl⟩
  | succ limit ih =>
      have once : relay.steps environment [task] =
          (relay.step environment.recorded task).2 := rfl
      unfold Relay.run
      split
      · rename_i next step
        exact ⟨[task], by rw [once, step]⟩
      · rename_i next step
        exact ⟨[task], by rw [once, step]⟩
      · rename_i next step
        exact ⟨[task], by rw [once, step]⟩
      · rename_i next step
        obtain ⟨tasks, later⟩ := ih next
        refine ⟨task :: tasks, ?_⟩
        have first := steps_append environment [task] tasks relay
        rw [once, step] at first
        exact later.trans first.symm

theorem round_eq_steps (environment : Environment σ) (limit : Nat)
    (relay : Relay (Recorded σ)) :
    ∃ tasks, (relay.round environment.recorded limit).2 =
      relay.steps environment tasks := by
  unfold Relay.round
  generalize relay.tasks = turns
  generalize false = moved
  induction turns generalizing moved relay with
  | nil => exact ⟨[], rfl⟩
  | cons task turns ih =>
      obtain ⟨early, first⟩ := run_eq_steps environment task limit relay
      obtain ⟨late, rest⟩ := ih
        (relay.run environment.recorded task limit).2
        (moved || (relay.run environment.recorded task limit).1)
      refine ⟨early ++ late, ?_⟩
      rw [steps_append, ← first]
      exact rest

theorem settle_eq_steps (environment : Environment σ)
    (relay : Relay (Recorded σ)) :
    ∃ tasks, relay.settle environment.recorded =
      relay.steps environment tasks := by
  unfold Relay.settle
  generalize relay.bound = limit
  have rounds : ∀ left (relay : Relay (Recorded σ)), ∃ tasks,
      relay.rounds environment.recorded limit left =
        relay.steps environment tasks := by
    intro left
    induction left with
    | zero => exact fun relay => ⟨[], rfl⟩
    | succ left ih =>
        intro relay
        obtain ⟨early, first⟩ := round_eq_steps environment limit relay
        unfold Relay.rounds
        split
        · rename_i next round
          rw [round] at first
          obtain ⟨late, rest⟩ := ih next
          refine ⟨early ++ late, ?_⟩
          rw [steps_append, ← first]
          exact rest
        · rename_i next round
          rw [round] at first
          exact ⟨early, first⟩
  exact rounds limit relay

/-- Each operation of the relay is one move, and then steps of tasks. -/
theorem operations_eq_moves (environment : Environment σ)
    (relay : Relay (Recorded σ)) :
    (∀ request body wanted,
      relay.receive environment.recorded request body wanted =
        (relay.perform environment (.receive request body wanted)).settle
          environment.recorded) ∧
    (∀ number body,
      relay.deliver environment.recorded number body =
        (relay.perform environment (.deliver number body)).settle
          environment.recorded) ∧
    (∀ number exchange, relay.exchanges[number]? = some exchange →
      relay.abandon environment.recorded number =
        (relay.perform environment (.abandon number)).settle
          environment.recorded) ∧
    (relay.closeIdle environment.recorded).2 =
      (relay.perform environment .closeIdle).settle environment.recorded ∧
    (∀ query,
      relay.openSession environment.recorded query =
        (relay.perform environment (.openSession query)).settle
          environment.recorded) ∧
    (∀ session messages,
      relay.onSession environment.recorded session (·.deliver messages) =
        (relay.perform environment (.say session messages)).settle
          environment.recorded) ∧
    ∀ session,
      relay.onSession environment.recorded session (·.lose) =
        (relay.perform environment (.lose session)).settle
          environment.recorded := by
  refine ⟨fun _ _ _ => rfl, fun _ _ => rfl, ?_, rfl, fun _ => rfl,
    fun _ _ => rfl, fun _ => rfl⟩
  intro number exchange found
  simp only [Relay.abandon, Relay.perform, Relay.withdraw, found]

end Relay

end TunnelRelay
