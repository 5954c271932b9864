import TunnelRelay.Proofs.Relay.Delivery
import TunnelRelay.Proofs.Relay.Farewells
import TunnelRelay.Proofs.Relay.Marks

/-!
Runs of the relay with all that they mark.

A course is a relay that was reached by moves, and the marks that were left on the way. Besides the
moves there is one thing more that can happen to a WebSocket: it is lost before its tunnel is
announced. Whatever happens, the roll of the relay follows from the marks.
-/

namespace TunnelRelay

open Http LongPoll WebSocket

variable {σ : Type}

/-- Something that happens to the relay, one thing at a time. -/
inductive Happening (σ : Type) where
  | move (move : Move σ)
  /-- A WebSocket is lost before its tunnel is announced. -/
  | lost (query : String)

variable [Connection σ]

namespace Relay

/-- A WebSocket is opened, whose socket may be broken already. -/
def joinOver (environment : Environment σ) (outbound : Outbound)
    (query : String) (relay : Relay (Recorded σ)) : Relay (Recorded σ) :=
  let (connected, relay) :=
    relay.connect environment.recorded (Form.pairs (Bytes.ofText query))
  let (session, metrics) :=
    Session.start connected environment.bufferSize outbound relay.metrics
  { relay with
    registry := { relay.registry with metrics }
    sessions := relay.sessions ++ [session] }

def undergo (environment : Environment σ) (happening : Happening σ)
    (relay : Relay (Recorded σ)) : Relay (Recorded σ) :=
  match happening with
  | .move move => relay.perform environment move
  | .lost query => relay.joinOver environment { broken := true } query

/-! ### What is marked -/

def connectMarks (environment : Environment σ) (relay : Relay (Recorded σ))
    (parameters : List (String × String)) : Marks :=
  match environment.connect relay.requests.length ⟨parameters⟩ with
  | .error _ => []
  | .ok tunnel =>
      Mark.entering tunnel.uuid
        (environment.token relay.registry.tunnels.length)

def exchangeMarks (environment : Environment σ) (relay : Relay (Recorded σ))
    (exchange : Exchange) : Marks :=
  match exchange.activity with
  | .connecting parameters => relay.connectMarks environment parameters
  | _ => exchange.marks relay.registry

/-- What a WebSocket marks when it is opened. When it is lost before that, its
tunnel is closed at once. -/
def joinMarks (environment : Environment σ) (relay : Relay (Recorded σ))
    (query : String) (lost : Bool) : Marks :=
  match environment.connect relay.requests.length
      ⟨Form.pairs (Bytes.ofText query)⟩ with
  | .error _ => []
  | .ok _ =>
      let session := Passage.session relay.sessions.length
      if lost then [.opens session, .closes session .resourceClosed]
      else [.opens session]

def marks (environment : Environment σ) (happening : Happening σ)
    (relay : Relay (Recorded σ)) : Marks :=
  match happening with
  | .move (.task (.exchange number)) =>
      relay.exchanges[number]?.elim [] (relay.exchangeMarks environment)
  | .move (.task (.pump number)) =>
      relay.sessions[number]?.elim [] (·.pumpMarks number)
  | .move (.task (.handler number heeds)) =>
      relay.sessions[number]?.elim [] fun session =>
        session.handlerMarks number
          (session.stepHandler heeds relay.metrics).2.1.handler
  | .move .closeIdle =>
      relay.registry.idle.map fun uuid =>
        .closes (.registered uuid) .sessionTimeout
  | .move (.openSession query) => relay.joinMarks environment query false
  | .lost query => relay.joinMarks environment query true
  | .move _ => []

/-! ### The roll -/

variable (environment : Environment σ) (relay : Relay (Recorded σ))

theorem roll_exchange (number : Nat) :
    (relay.undergo environment (.move (.task (.exchange number)))).registry.roll =
      relay.registry.roll.markAll
        (relay.marks environment (.move (.task (.exchange number)))) := by
  simp only [undergo, perform, marks, Relay.step, stepExchange]
  cases relay.exchanges[number]? with
  | none => rfl
  | some exchange =>
      simp only [Option.elim_some, exchangeMarks]
      cases exchange.activity with
      | connecting parameters =>
          simp only [connectExchange, Relay.connect, connectMarks,
            Environment.recorded]
          cases environment.connect relay.requests.length ⟨parameters⟩ with
          | error error => rfl
          | ok tunnel =>
              exact exchange.roll_enter tunnel.recorded _ relay.registry
      | collecting | reading | writing | answered =>
          exact exchange.roll_step relay.registry

omit [Connection σ] in
theorem roll_stepSession (number : Nat)
    (step : Session (Recorded σ) → Metrics →
      Pace × Session (Recorded σ) × Metrics)
    (marks : Session (Recorded σ) → Marks)
    (counted : ∀ session entries,
      Roll.mk entries (step session relay.metrics).2.2.ofTunnels =
        (Roll.mk entries relay.metrics.ofTunnels).markAll (marks session)) :
    (relay.stepSession number step).2.registry.roll =
      relay.registry.roll.markAll
        (relay.sessions[number]?.elim [] marks) := by
  unfold stepSession
  cases relay.sessions[number]? with
  | none => rfl
  | some session => exact counted session _

theorem roll_joinOver (query : String) (lost : Bool) :
    (relay.joinOver environment { broken := lost } query).registry.roll =
      relay.registry.roll.markAll (relay.joinMarks environment query lost) := by
  simp only [joinOver, Relay.connect, joinMarks, Environment.recorded]
  cases environment.connect relay.requests.length
      ⟨Form.pairs (Bytes.ofText query)⟩ with
  | error error => rfl
  | ok tunnel =>
      cases lost with
      | false => rfl
      | true => rfl

theorem arrive_keeps (request : Request) (body : List BodyEvent)
    (wanted : Bool) :
    (relay.arrive request body wanted).registry.roll = relay.registry.roll ∧
      (relay.arrive request body wanted).metrics = relay.metrics := by
  change (relay.startExchange request wanted).2.roll = _ ∧
    (relay.startExchange request wanted).2.metrics = relay.registry.metrics
  rcases relay.startExchange_spec request wanted with
    ⟨-, same⟩ | ⟨exchange, starts⟩
  · rw [same]
    exact ⟨rfl, rfl⟩
  · rw [starts]
    exact exchange.start_keeps _ request relay.registry

theorem roll_undergo (happening : Happening σ) :
    (relay.undergo environment happening).registry.roll =
      relay.registry.roll.markAll (relay.marks environment happening) := by
  cases happening with
  | lost query => exact relay.roll_joinOver environment query true
  | move move =>
      cases move with
      | task task =>
          cases task with
          | exchange number => exact relay.roll_exchange environment number
          | pump number =>
              apply relay.roll_stepSession number (·.stepPump)
              intro session entries
              cases there : session.tunnel with
              | none => simp [Session.stepPump, Session.pumpMarks, there,
                  Roll.markAll]
              | some tunnel =>
                  exact (Session.stepPump_strides number there _).counted entries
          | handler number heeds =>
              apply relay.roll_stepSession number (·.stepHandler heeds)
              intro session entries
              cases there : session.tunnel with
              | none => simp [Session.stepHandler, Session.handlerMarks, there,
                  Roll.markAll]
              | some tunnel =>
                  exact (Session.stepHandler_strides number there heeds
                    _).counted entries
      | receive request body wanted =>
          exact (relay.arrive_keeps request body wanted).1
      | abandon number =>
          simp only [undergo, perform, withdraw, marks]
          cases relay.exchanges[number]? with
          | none => rfl
          | some exchange => exact exchange.roll_abandon relay.registry
      | closeIdle => exact relay.registry.roll_closeIdle
      | openSession query => exact relay.roll_joinOver environment query false
      | guacd number change =>
          exact relay.registry.roll_onTunnel number _ fun _ => rfl
      | deliver | advance | say | lose | guacdSession => rfl

end Relay

/-! ### Sessions -/

def Mark.IsAbout (number : Nat) : Mark → Prop
  | .opens (.session other) | .closes (.session other) _ | .shuts other _ _ =>
      other = number
  | .opens (.registered _) | .closes (.registered _) _ => False

def Marks.Spares (number : Nat) (marks : Marks) : Prop :=
  ∀ mark ∈ marks, ¬ mark.IsAbout number

omit [Connection σ] in
theorem Marks.spares_nil (number : Nat) : Marks.Spares number [] :=
  List.forall_mem_nil _

omit [Connection σ] in
theorem Marks.Spares.silent {number : Nat} {marks : Marks}
    (spares : marks.Spares number) :
    marks.shuts number = [] ∧ marks.fate (.session number) = none := by
  constructor
  · unfold Marks.shuts
    rw [List.filterMap_eq_nil_iff]
    intro mark member
    cases mark with
    | opens passage => rfl
    | closes passage status => rfl
    | shuts other part status => exact if_neg (spares _ member)
  · rw [Marks.fate_eq_none]
    intro status member
    exact spares _ member rfl

/-- What becomes of a session, while something is marked. -/
structure WebSocket.Session.Follows (number : Nat) (marks : Marks)
    (before after : Session σ) : Prop where
  tunnel : after.tunnel.isSome = before.tunnel.isSome
  refused : before.tunnel = none → after.handler.going = before.handler.going
  accords : before.tunnel.isSome = true → ∀ shuts fate,
    Session.Accords shuts fate before →
    Session.Accords (shuts ++ marks.shuts number)
      (fate.or (marks.fate (.session number))) after

namespace WebSocket.Session

omit [Connection σ] in
theorem follows_rests {number : Nat} {marks : Marks} {before after : Session σ}
    (spares : marks.Spares number)
    (tunnel : after.tunnel.isSome = before.tunnel.isSome)
    (outbound : before.outbound.Stays after.outbound)
    (pump : after.pump = before.pump) (handler : after.handler = before.handler) :
    before.Follows number marks after where
  tunnel := tunnel
  refused _ := congrArg HandlerStage.going handler
  accords _ shuts fate accords := by
    obtain ⟨nothing, open_⟩ := spares.silent
    rw [nothing, open_, List.append_nil, Option.or_none]
    apply accords.stays outbound
    · rw [pump]
    · rw [pump]
      exact id
    · rw [handler]

omit [Connection σ] in
theorem follows_strides {number : Nat} {marks : Marks} {metrics : Metrics}
    {session : Session σ} {result : Pace × Session σ × Metrics}
    (there : session.tunnel.isSome = true)
    (strides : Strides number session metrics result marks) :
    session.Follows number marks result.2.1 where
  tunnel := strides.tunnel.trans there.symm
  refused none := by
    rw [none] at there
    cases there
  accords _ _ _ accords := accords.stride strides.stride

theorem follows_pump (session : Session σ) (number : Nat) (metrics : Metrics) :
    session.Follows number (session.pumpMarks number)
      (session.stepPump metrics).2.1 := by
  cases there : session.tunnel with
  | none =>
      have still : (session.stepPump metrics).2.1 = session := by
        rw [stepPump, there]
      have nothing : session.pumpMarks number = [] := by
        rw [pumpMarks, there]
      rw [still, nothing]
      exact follows_rests nofun rfl (.refl _) rfl rfl
  | some tunnel =>
      exact follows_strides (by rw [there]; rfl)
        (stepPump_strides number there metrics)

theorem follows_handler (session : Session σ) (number : Nat) (heeds : Bool)
    (metrics : Metrics) :
    session.Follows number
      (session.handlerMarks number
        (session.stepHandler heeds metrics).2.1.handler)
      (session.stepHandler heeds metrics).2.1 := by
  cases there : session.tunnel with
  | none =>
      have still : (session.stepHandler heeds metrics).2.1 = session := by
        rw [stepHandler, there]
      have nothing : session.handlerMarks number session.handler = [] := by
        rw [handlerMarks, there]
      rw [still, nothing]
      exact follows_rests (Marks.spares_nil number) rfl (.refl _) rfl rfl
  | some tunnel =>
      exact follows_strides (by rw [there]; rfl)
        (stepHandler_strides number there heeds metrics)

end WebSocket.Session

namespace Relay

variable (environment : Environment σ) (relay : Relay (Recorded σ))

def IsClosing (mark : Mark) : Prop :=
  ∃ uuid status, mark = .closes (.registered uuid) status ∧
    uuid ∈ relay.registry.uuids

omit [Connection σ] in
theorem IsClosing.spares {marks : Marks}
    (closing : ∀ mark ∈ marks, relay.IsClosing mark) (number : Nat) :
    marks.Spares number := by
  intro mark member
  obtain ⟨uuid, status, rfl, -⟩ := closing mark member
  exact id

omit [Connection σ] in
theorem mem_uuids {registry : Registry (Recorded σ)} {number : Nat}
    {registered : RegisteredTunnel (Recorded σ)}
    (found : registry.tunnel? number = some registered) :
    registered.tunnel.uuid ∈ registry.uuids :=
  List.mem_map_of_mem (List.mem_of_getElem? found)

theorem closing_marks (exchange : Exchange) :
    ∀ mark ∈ exchange.marks relay.registry, relay.IsClosing mark := by
  have closes : ∀ (number : Nat) (status : RegisteredTunnel (Recorded σ) →
      Option Status), ∀ mark ∈ (relay.registry.tunnel? number).elim []
        fun registered =>
          Mark.closing registered.tunnel.uuid (status registered),
      relay.IsClosing mark := by
    intro number status mark member
    cases found : relay.registry.tunnel? number with
    | none =>
        rw [found] at member
        cases member
    | some registered =>
        simp only [found, Option.elim_some, Mark.closing, List.mem_map] at member
        obtain ⟨status, -, rfl⟩ := member
        exact ⟨_, _, rfl, mem_uuids found⟩
  unfold Exchange.marks
  cases exchange.activity with
  | reading read => exact closes _ _
  | writing write => exact closes _ _
  | collecting | connecting | answered => simp

theorem exchange_spares (exchange : Exchange) (number : Nat) :
    (relay.exchangeMarks environment exchange).Spares number := by
  have spares :=
    IsClosing.spares relay (relay.closing_marks exchange) number
  unfold exchangeMarks
  cases exchange.activity with
  | collecting | reading | writing | answered => exact spares
  | connecting parameters =>
      unfold connectMarks
      simp only
      split
      · exact nofun
      · unfold Mark.entering Mark.closing
        split <;> simp [Marks.Spares, Mark.IsAbout]

theorem idle_closing :
    ∀ mark ∈ relay.marks environment (.move .closeIdle),
      relay.IsClosing mark := by
  intro mark member
  simp only [marks, Registry.idle, List.mem_map, List.mem_filter] at member
  obtain ⟨uuid, ⟨registered, ⟨there, -⟩, rfl⟩, rfl⟩ := member
  exact ⟨_, _, rfl, List.mem_map_of_mem there⟩

omit [Connection σ] in
theorem join_spares (query : String) (lost : Bool) {number : Nat}
    (other : relay.sessions.length ≠ number) :
    (relay.joinMarks environment query lost).Spares number := by
  unfold joinMarks
  split
  · exact nofun
  · cases lost with
    | false =>
        intro mark member
        cases List.mem_singleton.mp member
        exact other
    | true =>
        intro mark member
        rcases List.mem_cons.mp member with rfl | last
        · exact other
        · cases List.mem_singleton.mp last
          exact other

section Sessions

variable {number : Nat} {session : Session (Recorded σ)}

omit [Connection σ] in
theorem stepSession_follows
    (there : relay.sessions[number]? = some session) (other : Nat)
    (step : Session (Recorded σ) → Metrics →
      Pace × Session (Recorded σ) × Metrics)
    (marks : Nat → Session (Recorded σ) → Marks)
    (follows : session.Follows number (marks number session)
      (step session relay.metrics).2.1)
    (spares : ∀ acting, number ≠ other →
      (marks other acting).Spares number) :
    ∃ later,
      (relay.stepSession other step).2.sessions[number]? = some later ∧
      session.Follows number (relay.sessions[other]?.elim [] (marks other))
        later := by
  obtain ⟨within, -⟩ := List.getElem?_eq_some_iff.mp there
  unfold stepSession
  by_cases own : other = number
  · subst own
    rw [there]
    exact ⟨_, List.getElem?_set_self within, follows⟩
  · cases relay.sessions[other]? with
    | none =>
        exact ⟨session, there,
          Session.follows_rests nofun rfl (.refl _) rfl rfl⟩
    | some acting =>
        refine ⟨session, ?_, Session.follows_rests
          (spares acting (Ne.symm own)) rfl (.refl _) rfl rfl⟩
        rw [List.getElem?_set_ne own]
        exact there

omit [Connection σ] in
theorem modifySession_follows
    (there : relay.sessions[number]? = some session) (other : Nat)
    {change : Session (Recorded σ) → Session (Recorded σ)}
    (follows : session.Follows number [] (change session)) :
    ∃ later, (relay.modifySession other change).sessions[number]? =
        some later ∧ session.Follows number [] later := by
  unfold modifySession
  by_cases own : other = number
  · subst own
    refine ⟨change session, ?_, follows⟩
    rw [List.getElem?_modify_eq, there]
    rfl
  · refine ⟨session, ?_, Session.follows_rests nofun rfl (.refl _) rfl rfl⟩
    simp [own, there]

omit [Connection σ] in
theorem pump_spares (acting : Session (Recorded σ)) {other : Nat}
    (differs : number ≠ other) : (acting.pumpMarks other).Spares number := by
  unfold Session.pumpMarks
  split
  · intro mark member
    cases List.mem_singleton.mp member
    exact Ne.symm differs
  · exact nofun

omit [Connection σ] in
theorem handler_spares (acting : Session (Recorded σ)) (later : HandlerStage)
    {other : Nat} (differs : number ≠ other) :
    (acting.handlerMarks other later).Spares number := by
  have departs : (Session.departure other later).Spares number := by
    unfold Session.departure
    split
    · intro mark member
      cases List.mem_singleton.mp member
      exact Ne.symm differs
    · exact nofun
  unfold Session.handlerMarks
  split
  · exact nofun
  · exact nofun
  · exact nofun
  · split
    · intro mark member
      cases List.mem_singleton.mp member
      exact Ne.symm differs
    all_goals exact nofun
  all_goals exact departs

/-- What becomes of a session, whatever happens. -/
theorem undergo_follows (happening : Happening σ)
    (there : relay.sessions[number]? = some session) :
    ∃ later, (relay.undergo environment happening).sessions[number]? =
        some later ∧
      session.Follows number (relay.marks environment happening) later := by
  have rests : ∀ {marks : Marks}, marks.Spares number →
      session.Follows number marks session :=
    fun spares => Session.follows_rests spares rfl (.refl _) rfl rfl
  obtain ⟨within, -⟩ := List.getElem?_eq_some_iff.mp there
  -- a session that is opened stands behind all others
  have joined : ∀ query lost, ∃ later,
      (relay.joinOver environment { broken := lost } query).sessions[number]? =
        some later ∧
      session.Follows number (relay.joinMarks environment query lost) later := by
    intro query lost
    refine ⟨session, ?_, rests (relay.join_spares environment query lost
      (Nat.ne_of_gt within))⟩
    simp only [joinOver, Relay.connect]
    rw [List.getElem?_append_left within]
    exact there
  cases happening with
  | lost query => exact joined query true
  | move move =>
      cases move with
      | task task =>
          cases task with
          | exchange other =>
              refine ⟨session, ?_, ?_⟩
              · have kept := History.sessions_exchange environment.recorded other
                  relay
                exact (congrArg (·[number]?) kept).trans there
              · apply rests
                simp only [marks]
                cases relay.exchanges[other]? with
                | none => exact Marks.spares_nil number
                | some exchange =>
                    exact relay.exchange_spares environment exchange number
          | pump other =>
              exact relay.stepSession_follows there other (·.stepPump)
                (fun number session => session.pumpMarks number)
                (session.follows_pump number relay.metrics)
                fun acting differs => pump_spares acting differs
          | handler other heeds =>
              exact relay.stepSession_follows there other (·.stepHandler heeds)
                (fun number session => session.handlerMarks number
                  (session.stepHandler heeds relay.metrics).2.1.handler)
                (session.follows_handler number heeds relay.metrics)
                fun acting differs => handler_spares acting _ differs
      | openSession query => exact joined query false
      | closeIdle =>
          exact ⟨session, there, rests (IsClosing.spares relay
            (relay.idle_closing environment) number)⟩
      | abandon other =>
          refine ⟨session, ?_, rests (Marks.spares_nil number)⟩
          simp only [undergo, perform, withdraw]
          split
          · exact there
          · exact there
      | say other messages =>
          exact relay.modifySession_follows there other
            (Session.follows_rests (Marks.spares_nil number) rfl (.refl _) rfl rfl)
      | lose other =>
          exact relay.modifySession_follows there other
            (Session.follows_rests (Marks.spares_nil number) rfl ⟨rfl, rfl⟩ rfl rfl)
      | guacdSession other change =>
          exact relay.modifySession_follows there other
            (Session.follows_rests (Marks.spares_nil number) (by simp) (.refl _) rfl
              rfl)
      | receive | deliver | advance | guacd =>
          exact ⟨session, there, rests (Marks.spares_nil number)⟩

end Sessions

end Relay

end TunnelRelay
