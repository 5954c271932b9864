import TunnelRelay.Proofs.Guise.Requests
import TunnelRelay.Proofs.Relay.Moves
import TunnelRelay.Proofs.Relay.Opening

/-!
Relays that are the same in another guise.

The exchanges of one relay are among those of the other, under other numbers. What happens to both
alike, the numbers of the exchanges apart, keeps them the same.
-/

namespace TunnelRelay

open Http LongPoll

variable {σ τ : Type}

def Environment.ConnectsUnasked (environment : Environment τ) : Prop :=
  ∀ attempt request tunnel,
    environment.connect attempt request = .ok tunnel → tunnel.Unasked

theorem Environment.connectsUnasked_recorded {environment : Environment σ}
    (connects : environment.Connects) (unread : environment.ConnectsUnread) :
    environment.recorded.ConnectsUnasked := by
  intro attempt request recorded connected
  obtain ⟨tunnel, outcome, rfl⟩ := Environment.recorded_ok connected
  exact ⟨(unread attempt request tunnel outcome).lock,
    (connects attempt request tunnel outcome).lock⟩

def Task.under (guise : Guise) : Task → Task
  | .exchange number => .exchange (guise.ticket number)
  | .pump session => .pump session
  | .handler session heeds => .handler session heeds

def Move.under (guise : Guise) : Move σ → Move σ
  | .task turn => .task (turn.under guise)
  | .deliver number body => .deliver (guise.ticket number) body
  | .abandon number => .abandon (guise.ticket number)
  | .receive request body wanted => .receive request body wanted
  | .closeIdle => .closeIdle
  | .advance duration => .advance duration
  | .openSession query => .openSession query
  | .say session messages => .say session messages
  | .lose session => .lose session
  | .guacd tunnel change => .guacd tunnel change
  | .guacdSession session change => .guacdSession session change

namespace Relay

/-- One relay in the guise of another. Exchanges whose number no exchange of the
first has do not matter. -/
structure Twins (guise : Guise) (relay twin : Relay τ) : Prop where
  registry : twin.registry = relay.registry.under guise
  requests : twin.requests = relay.requests
  sessions : twin.sessions = relay.sessions
  exchanges : ∀ number, twin.exchanges[guise.ticket number]? =
    relay.exchanges[number]?.map (·.under guise)

namespace Twins

variable {guise : Guise} {relay twin : Relay τ}

theorem outside (twins : Twins guise relay twin) (number : Nat) :
    twin.exchanges.length ≤ guise.ticket number ↔
      relay.exchanges.length ≤ number := by
  rw [← List.getElem?_eq_none_iff, ← List.getElem?_eq_none_iff,
    twins.exchanges, Option.map_eq_none_iff]

theorem setExchange (twins : Twins guise relay twin) (number : Nat)
    (exchange : Exchange) (registry : Registry τ) :
    Twins guise (relay.setExchange number exchange registry)
      (twin.setExchange (guise.ticket number) (exchange.under guise)
        (registry.under guise)) where
  registry := rfl
  requests := twins.requests
  sessions := twins.sessions
  exchanges other := by
    have there := twins.exchanges other
    have same : guise.ticket number = guise.ticket other ↔ number = other :=
      guise.injective.eq_iff
    simp only [Relay.setExchange, List.getElem?_set, same]
    split
    · rename_i is
      subst is
      have within : guise.ticket number < twin.exchanges.length ↔
          number < relay.exchanges.length := by
        rw [← Nat.not_le, ← Nat.not_le, twins.outside]
      simp only [within]
      split <;> rfl
    · exact there

theorem metrics (twins : Twins guise relay twin) :
    twin.metrics = relay.metrics := by
  rw [Relay.metrics, twins.registry]
  rfl

variable [Connection τ]

theorem connectExchange (twins : Twins guise relay twin)
    {environment : Environment τ} (unasked : environment.ConnectsUnasked)
    (fresh : guise.access relay.registry.tunnels.length = 0) (number : Nat)
    (exchange : Exchange) (parameters : List (String × String)) :
    Twins guise
      (relay.connectExchange environment number exchange parameters)
      (twin.connectExchange environment (guise.ticket number)
        (exchange.under guise) parameters) := by
  simp only [Relay.connectExchange, Relay.connect]
  rw [twins.requests]
  have asked : Twins guise
      { relay with requests := relay.requests ++ [⟨parameters⟩] }
      { twin with requests := relay.requests ++ [⟨parameters⟩] } :=
    ⟨twins.registry, rfl, twins.sessions, twins.exchanges⟩
  cases connected : environment.connect relay.requests.length ⟨parameters⟩ with
  | error error =>
      have refused := asked.setExchange number (exchange.refuse error)
        relay.registry
      rw [← twins.registry] at refused
      exact refused
  | ok tunnel =>
      dsimp only
      rw [twins.registry, Registry.length_under, Registry.count_under,
        exchange.enter_under guise (relay.registry.count (·.tunnelOpened))
          (unasked _ _ _ connected) _ fresh]
      exact asked.setExchange number _ _

theorem stepExchange (twins : Twins guise relay twin)
    {environment : Environment τ} (unasked : environment.ConnectsUnasked)
    (fresh : guise.access relay.registry.tunnels.length = 0) (number : Nat) :
    Twins guise (relay.stepExchange environment number).2
      (twin.stepExchange environment (guise.ticket number)).2 := by
  unfold Relay.stepExchange
  rw [twins.exchanges number]
  cases relay.exchanges[number]? with
  | none => exact twins
  | some exchange =>
      have own : (exchange.under guise).activity =
          exchange.activity.under guise := rfl
      simp only [Option.map_some, twins.registry, exchange.step_under, own]
      cases exchange.activity with
      | connecting parameters =>
          exact twins.connectExchange unasked fresh number exchange parameters
      | collecting | reading | writing | answered =>
          exact twins.setExchange number _ _

omit [Connection τ] in
theorem stepSession (twins : Twins guise relay twin) (number : Nat)
    (step : WebSocket.Session τ → Metrics →
      Pace × WebSocket.Session τ × Metrics) :
    Twins guise (relay.stepSession number step).2
      (twin.stepSession number step).2 := by
  unfold Relay.stepSession
  rw [twins.sessions, twins.metrics, twins.registry]
  cases relay.sessions[number]? with
  | none => exact twins
  | some session => exact ⟨rfl, twins.requests, rfl, twins.exchanges⟩

theorem step (twins : Twins guise relay twin) {environment : Environment τ}
    (unasked : environment.ConnectsUnasked)
    (fresh : guise.access relay.registry.tunnels.length = 0) (task : Task) :
    Twins guise (relay.step environment task).2
      (twin.step environment (task.under guise)).2 := by
  cases task with
  | exchange number => exact twins.stepExchange unasked fresh number
  | pump session => exact twins.stepSession session (·.stepPump)
  | handler session heeds =>
      exact twins.stepSession session (·.stepHandler heeds)

end Twins

/-! ### Moves -/

namespace Twins

variable {guise : Guise} {relay twin : Relay (Recorded σ)}

theorem startExchange [Connection σ] (twins : Twins guise relay twin)
    (aligned : twin.exchanges.length = guise.ticket relay.exchanges.length)
    (request : Request) (wanted : Bool) :
    twin.startExchange request wanted =
      Prod.map (Exchange.under guise) (·.under guise)
        (relay.startExchange request wanted) := by
  unfold Relay.startExchange
  rw [twins.metrics, aligned, twins.registry]
  cases resource? request.path with
  | none => rfl
  | some entry =>
      dsimp only
      split
      · cases entry.1 with
        | tunnel =>
            exact Exchange.start_under guise relay.registry
              { activity := .answered
                answer := { wanted := wanted && request.method != "HEAD" } }
              relay.exchanges.length request
        | webSocket | health | metrics => rfl
      · rfl

theorem append (twins : Twins guise relay twin)
    (aligned : twin.exchanges.length = guise.ticket relay.exchanges.length)
    (exchange : Exchange) (registry : Registry (Recorded σ)) :
    Twins guise
      { relay with registry, exchanges := relay.exchanges ++ [exchange] }
      { twin with
        registry := registry.under guise
        exchanges := twin.exchanges ++ [exchange.under guise] } where
  registry := rfl
  requests := twins.requests
  sessions := twins.sessions
  exchanges number := by
    have outside := twins.outside number
    rcases Nat.lt_trichotomy number relay.exchanges.length with
      within | rfl | behind
    · rw [List.getElem?_append_left within,
        List.getElem?_append_left (by omega)]
      exact twins.exchanges number
    · rw [← aligned, List.getElem?_concat_length,
        List.getElem?_concat_length]
      rfl
    · have differs : guise.ticket number ≠ twin.exchanges.length := by
        rw [aligned, guise.injective.ne_iff]
        exact Nat.ne_of_gt behind
      have after : twin.exchanges.length < guise.ticket number :=
        Nat.lt_of_le_of_ne (outside.mpr (Nat.le_of_lt behind)) differs.symm
      rw [List.getElem?_eq_none, List.getElem?_eq_none]
      · rfl
      all_goals
        rw [List.length_append, List.length_singleton]
        assumption

theorem deliver (twins : Twins guise relay twin) (number : Nat)
    (body : List BodyEvent) :
    Twins guise
      { relay with exchanges := relay.exchanges.modify number fun exchange =>
          { exchange with body := exchange.body ++ body } }
      { twin with
        exchanges := twin.exchanges.modify (guise.ticket number) fun exchange =>
          { exchange with body := exchange.body ++ body } } where
  registry := twins.registry
  requests := twins.requests
  sessions := twins.sessions
  exchanges other := by
    have same : guise.ticket number = guise.ticket other ↔ number = other :=
      guise.injective.eq_iff
    simp only [List.getElem?_modify, same, twins.exchanges other]
    cases relay.exchanges[other]? with
    | none => rfl
    | some exchange => split <;> rfl

theorem withdraw (twins : Twins guise relay twin) (number : Nat) :
    Twins guise (relay.withdraw number)
      (twin.withdraw (guise.ticket number)) := by
  unfold Relay.withdraw
  rw [twins.exchanges number]
  cases relay.exchanges[number]? with
  | none => exact twins
  | some exchange =>
      simp only [Option.map_some, twins.registry, exchange.abandon_under]
      exact twins.setExchange number _ _

theorem modifySession (twins : Twins guise relay twin) (session : Nat)
    (change : WebSocket.Session (Recorded σ) →
      WebSocket.Session (Recorded σ)) :
    Twins guise (relay.modifySession session change)
      (twin.modifySession session change) :=
  ⟨twins.registry, twins.requests,
    congrArg (List.modify · session change) twins.sessions, twins.exchanges⟩

variable [Connection σ] {environment : Environment σ}

theorem join (twins : Twins guise relay twin) (query : String) :
    Twins guise (relay.join environment query)
      (twin.join environment query) := by
  simp only [Relay.join, Relay.connect, Relay.metrics, twins.registry,
    twins.requests, twins.sessions]
  exact ⟨rfl, rfl, rfl, twins.exchanges⟩

/-- One move keeps twins the same, unless it is of those that a guise shows: the
exchange that arrives, and a look for tunnels that have been idle for too
long. -/
theorem perform (twins : Twins guise relay twin)
    (unasked : environment.recorded.ConnectsUnasked)
    (fresh : guise.access relay.registry.tunnels.length = 0) (move : Move σ)
    (aligned : ∀ request body wanted, move = .receive request body wanted →
      twin.exchanges.length = guise.ticket relay.exchanges.length)
    (spares : move = .closeIdle → ∀ number, relay.registry.Expires number →
      guise.access number = 0) :
    Twins guise (relay.perform environment move)
      (twin.perform environment (move.under guise)) := by
  cases move with
  | task task => exact twins.step unasked fresh task
  | receive request body wanted =>
      have here := aligned request body wanted rfl
      have started := twins.startExchange here request wanted
      simp only [Relay.perform, Move.under, Relay.arrive, started]
      exact twins.append here _ _
  | deliver number body => exact twins.deliver number body
  | abandon number => exact twins.withdraw number
  | closeIdle =>
      have closes := relay.registry.closeIdle_under guise (spares rfl)
      refine ⟨?_, twins.requests, twins.sessions, twins.exchanges⟩
      simp only [Relay.perform, Move.under, twins.registry, closes]
      rfl
  | advance duration =>
      refine ⟨?_, twins.requests, twins.sessions, twins.exchanges⟩
      simp only [Relay.perform, Move.under, twins.registry]
      exact relay.registry.advance_under guise duration
  | openSession query => exact twins.join query
  | say session messages => exact twins.modifySession session _
  | lose session => exact twins.modifySession session _
  | guacd number change =>
      refine ⟨?_, twins.requests, twins.sessions, twins.exchanges⟩
      simp only [Relay.perform, Move.under, twins.registry]
      exact relay.registry.onTunnel_under number fun tunnel =>
        tunnel.onStream_under guise _
  | guacdSession session change => exact twins.modifySession session _

end Twins

end Relay

end TunnelRelay
