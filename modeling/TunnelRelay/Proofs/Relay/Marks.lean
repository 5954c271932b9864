import TunnelRelay.Proofs.Relay.Roll
import TunnelRelay.Proofs.Relay.Writes

/-!
What requests mark on the roll.

A read closes its tunnel when guacd ends the stream, when an error of guacd ends the answer, and
when its browser is gone. A write closes its tunnel when it fails and this is not the browser's own
mistake. Whether the next step does so can be told from the request, its tunnel and what has
arrived; nothing else about a step concerns the roll.
-/

namespace TunnelRelay

open Http LongPoll

variable {σ : Type}

def Mark.closing (uuid : Uuid) (status : Option Status) : List Mark :=
  status.toList.map (.closes (.registered uuid))

/-- The marks of a connect request that has got its tunnel. If the token cannot be told, the tunnel
is closed at once. -/
def Mark.entering (uuid : Uuid) (token : String) : List Mark :=
  .opens (.registered uuid) :: Mark.closing uuid
    (if Headers.isValue (Bytes.ofText token) then none else some .serverError)

/-! ### Reads -/

namespace LongPoll.Read

theorem roll_finish (read : Read) (answer : Answer) (registry : Registry σ) :
    (read.finish answer registry).2.2.roll = registry.roll :=
  registry.roll_onTunnel read.tunnel _ fun _ => rfl

theorem lookInside_entry (registered : RegisteredTunnel σ) :
    (lookInside registered).2.entry = registered.entry := by
  unfold lookInside
  simp only
  split <;> rfl

theorem claimReader_uuid (tunnel : Tunnel σ) (ticket : Ticket) :
    (tunnel.claimReader ticket).2.uuid = tunnel.uuid := by
  unfold Tunnel.claimReader
  split <;> rfl

/-- The status with which a read closes its tunnel when its wait is over. When
the connection is closed before the answer has begun, that is left for later. -/
def closesAfter? (read : Read) (outcome : Except RelayError (Option Message)) :
    Option Status :=
  match outcome with
  | .ok _ => none
  | .error error =>
      if read.begun || !error.isConnectionClosed then some error.status
      else none

variable [Connection σ]

def closes? (read : Read) (answer : Answer)
    (registered : RegisteredTunnel σ) : Option Status :=
  match read.stage with
  | .waiting =>
      match (await registered).1 with
      | .found outcome => read.closesAfter? outcome
      | .again | .nothing => none
  | .giving none => some .success
  | .giving (some _) =>
      if registered.tunnel.available || answer.wanted then none
      else some .resourceClosed
  | .acquiring | .looking | .finished => none

theorem await_entry (registered : RegisteredTunnel σ) :
    (await registered).2.entry = registered.entry := by
  have reads : registered.tunnel.readFrame.2.uuid = registered.tunnel.uuid := by
    unfold Tunnel.readFrame
    split <;> rfl
  unfold await
  split
  · rfl
  · split
    all_goals
      rename_i reading
      rw [reading] at reads
      exact Prod.ext reads rfl

theorem roll_fail (read : Read) (uuid : Uuid) (error : RelayError)
    (answer : Answer) (registry : Registry σ) :
    (read.fail uuid error answer registry).2.2.roll =
      registry.roll.strike uuid error.status := by
  unfold fail
  split
  · rename_i closed
    have status : error.status = .resourceClosed := by
      cases error <;> first | rfl | cases closed
    rw [roll_finish, Registry.roll_close, status]
  · rw [roll_finish, Registry.roll_close]

theorem roll_receive (read : Read) (uuid : Uuid)
    (outcome : Except RelayError (Option Message)) (answer : Answer)
    (registry : Registry σ) :
    (read.receive uuid outcome answer registry).2.2.2.roll =
      registry.roll.markAll
        (Mark.closing uuid (read.closesAfter? outcome)) := by
  unfold receive
  cases outcome with
  | ok message =>
      simp only [firstMessage]
      split <;> rfl
  | error error =>
      unfold closesAfter? firstMessage
      cases begun : read.begun with
      | true => exact read.roll_fail uuid error answer registry
      | false =>
          cases closed : error.isConnectionClosed with
          | true => simp [closed, Mark.closing, Roll.markAll]
          | false =>
              simp only [closed, Bool.false_eq_true, if_false]
              have released := (registry.close uuid error.status).2.roll_onTunnel
                read.tunnel (·.releaseReader read.ticket) fun _ => rfl
              rw [released, Registry.roll_close]
              rfl

theorem roll_give (read : Read) (registered : RegisteredTunnel σ)
    (message : Message) (answer : Answer) (registry : Registry σ) :
    (read.give registered message answer registry).2.2.2.roll =
      registry.roll.markAll (Mark.closing registered.tunnel.uuid
        (if registered.tunnel.available || answer.wanted then none
          else some .resourceClosed)) := by
  have counted : ∀ instructions bytes,
      (registry.count (·.sentToClient instructions bytes)).roll =
        registry.roll :=
    fun _ _ => registry.roll_count _ fun _ => rfl
  unfold give
  simp only
  cases registered.tunnel.available with
  | true =>
      simp only [if_true]
      split
      · rw [roll_finish]
        exact counted _ _
      · exact counted _ _
  | false =>
      unfold Answer.give
      cases answer.wanted with
      | true =>
          simp only [if_true, Bool.false_eq_true, if_false]
          rw [roll_finish]
          exact counted _ _
      | false =>
          simp only [Bool.false_eq_true, if_false]
          rw [roll_fail, counted]
          rfl

theorem roll_step (read : Read) (answer : Answer) (registry : Registry σ)
    {registered : RegisteredTunnel σ}
    (found : registry.tunnel? read.tunnel = some registered) :
    (read.step answer registry).2.2.2.roll = registry.roll.markAll
      (Mark.closing registered.tunnel.uuid
        (read.closes? answer registered)) := by
  have store : ∀ later : RegisteredTunnel σ, later.entry = registered.entry →
      (registry.update read.tunnel fun _ => later).roll = registry.roll := by
    intro later same
    apply registry.roll_update
    intro other there
    rw [found] at there
    cases there
    exact same
  unfold step closes?
  rw [found]
  simp only
  cases read.stage with
  | acquiring =>
      have same := claimReader_uuid registered.tunnel read.ticket
      simp only
      split
      · rfl
      · rename_i tunnel claimed
        rw [claimed] at same
        exact store _ (Prod.ext same rfl)
  | looking =>
      have same := lookInside_entry registered
      simp only
      split
      · rename_i outcome later looked
        rw [looked] at same
        rw [roll_receive, store later same]
        -- what is found inside is never an error
        unfold lookInside at looked
        simp only at looked
        split at looked
        · cases looked
        · cases looked
          rfl
      · rename_i look later _ looked
        rw [looked] at same
        exact store _ same
  | waiting =>
      have same := await_entry registered
      simp only
      split
      all_goals
        rename_i later awaited
        rw [awaited] at same ⊢
      · rw [roll_receive, store later same]
      · exact store later same
      · exact store later same
  | giving message =>
      cases message with
      | none =>
          simp only
          rw [roll_finish, Registry.roll_close]
          rfl
      | some message => exact read.roll_give registered message answer registry
  | finished => rfl

end LongPoll.Read

/-! ### Writes -/

namespace LongPoll.Write

def refusal? {α : Type} : Except RelayError α → Option RelayError
  | .ok _ => none
  | .error error => some error

/-- The status with which a failure closes the tunnel. The browser's own
mistakes leave it open. -/
def closesAfter? (error : RelayError) : Option Status :=
  if error.isClientError then none else some error.status

/-- What the next step of a write does, when it fails with `failure` or does
not fail. -/
structure Comes (uuid : Uuid) (failure : Option RelayError) (answer : Answer)
    (roll : Roll) (result : Pace × Write × Answer × Registry σ) : Prop where
  roll : result.2.2.2.roll =
    roll.markAll (Mark.closing uuid (failure.bind closesAfter?))
  failed : ∀ error, failure = some error →
    result.1 = .ended ∧ result.2.2.1 = answer.failure error
  done : failure = none → result.1 = .ended →
    result.2.2.1 = answer.whole Status.success.httpCode headers []
  goes : result.1 ≠ .ended → result.2.1.stage ≠ .finished

theorem claimWriter_uuid (tunnel : Tunnel σ) (ticket : Ticket) :
    (tunnel.claimWriter ticket).2.uuid = tunnel.uuid := by
  unfold Tunnel.claimWriter
  split
  · split <;> rfl
  · rfl

theorem comes_on {later : Write} {uuid : Uuid} {answer given : Answer}
    {roll : Roll} {registry : Registry σ} {pace : Pace}
    (goesOn : pace ≠ .ended) (goes : later.stage ≠ .finished)
    (same : registry.roll = roll) :
    Comes uuid none answer roll (pace, later, given, registry) where
  roll := same
  failed _ impossible := by cases impossible
  done _ ended := absurd ended goesOn
  goes _ := goes

theorem forwarded_comes (write : Write) (uuid : Uuid) (count size : Nat)
    (answer : Answer) (registry : Registry σ) :
    Comes uuid none answer registry.roll
      (write.forwarded count size answer registry) := by
  have pings := registry.roll_count
    (·.pingsAnswered (UInt64.ofNat write.filtered.memory.length)) fun _ => rfl
  unfold forwarded
  simp only
  split
  · exact comes_on (by decide) (by simp) rfl
  · exact comes_on (by decide) (by simp)
      ((Registry.roll_onOutbox _ write.tunnel _).trans pings)

variable [Connection σ]

def failure? (write : Write) (body : List BodyEvent) (tunnel : Tunnel σ) :
    Option RelayError :=
  match write.stage with
  | .acquiring =>
      match (tunnel.claimWriter write.ticket).1 with
      | .ready outcome => refusal? outcome
      | .parked => none
  | .receiving =>
      match body with
      | [] => none
      | .failed reason :: _ => some (unreadableBody reason)
      | .finished :: _ => refusal? write.filtered.finish
      | .chunk data :: _ =>
          if tunnel.isOpen then refusal? (write.filtered.accept data).1
          else refusal? write.filtered.finish
  | .sending sending _ _ =>
      match (tunnel.send sending).1 with
      | .failed error => some error
      | .done | .parked _ => none
  | .finished => none

theorem fail_comes (write : Write) (uuid : Uuid) (error : RelayError)
    (answer : Answer) (registry : Registry σ) :
    Comes uuid (some error) answer registry.roll
      (write.fail uuid error answer registry) where
  roll := by
    have released := registry.roll_onTunnel write.tunnel
      (·.releaseWriter write.ticket) fun _ => rfl
    unfold fail
    simp only [Option.bind_some, closesAfter?]
    split
    · exact released
    · rw [Registry.roll_close, released]
      rfl
  failed _ same := by
    cases same
    exact ⟨rfl, rfl⟩
  done impossible := by cases impossible
  goes more := absurd rfl more

theorem finish_comes (write : Write) (uuid : Uuid) (answer : Answer)
    (registry : Registry σ) :
    Comes uuid (refusal? write.filtered.finish) answer registry.roll
      (write.finish uuid answer registry) := by
  unfold finish
  cases write.filtered.finish with
  | error error => exact write.fail_comes uuid error answer registry
  | ok memory =>
      have counted := registry.roll_count
        (·.sentToServer (UInt64.ofNat write.instructions)
          (UInt64.ofNat write.bytes)) fun _ => rfl
      have released := Registry.roll_onTunnel (registry.count
        (·.sentToServer (UInt64.ofNat write.instructions)
          (UInt64.ofNat write.bytes))) write.tunnel
        (·.releaseWriter write.ticket) fun _ => rfl
      constructor
      · exact released.trans counted
      · exact fun error impossible => by cases impossible
      · exact fun _ _ => rfl
      · exact fun more => absurd rfl more

theorem accept_comes (write : Write) (uuid : Uuid) (data : Bytes)
    (answer : Answer) (registry : Registry σ) :
    Comes uuid (refusal? (write.filtered.accept data).1) answer
      registry.roll (write.accept uuid data answer registry) := by
  unfold accept
  cases write.filtered.accept data with
  | mk outcome filtered =>
      cases outcome with
      | error error =>
          exact fail_comes { write with filtered } uuid error answer registry
      | ok passed =>
          simp only
          cases FilteredWriter.sending? passed with
          | none =>
              exact forwarded_comes { write with filtered } uuid passed.count
                data.length answer registry
          | some sending => exact comes_on (by decide) (by simp) rfl

theorem step_comes (write : Write) (body : List BodyEvent) (answer : Answer)
    (registry : Registry σ) {registered : RegisteredTunnel σ}
    (found : registry.tunnel? write.tunnel = some registered)
    (goes : write.stage ≠ .finished) :
    Comes registered.tunnel.uuid
      (write.failure? body registered.tunnel) answer registry.roll
      (write.step body answer registry).1 := by
  have store : ∀ tunnel : Tunnel σ, tunnel.uuid = registered.tunnel.uuid →
      (registry.onTunnel write.tunnel fun _ => tunnel).roll =
        registry.roll := by
    intro tunnel same
    apply registry.roll_update
    intro other there
    rw [found] at there
    cases there
    exact Prod.ext same rfl
  have fails : ∀ (tunnel : Tunnel σ) error,
      tunnel.uuid = registered.tunnel.uuid →
      Comes registered.tunnel.uuid (some error) answer registry.roll
        (write.fail registered.tunnel.uuid error answer
          (registry.onTunnel write.tunnel fun _ => tunnel)) := by
    intro tunnel error same
    rw [← store tunnel same]
    exact write.fail_comes registered.tunnel.uuid error answer _
  unfold step failure?
  rw [found]
  simp only
  cases stage : write.stage with
  | acquiring =>
      have same := claimWriter_uuid registered.tunnel write.ticket
      cases claimed : registered.tunnel.claimWriter write.ticket with
      | mk outcome tunnel =>
          rw [claimed] at same
          cases outcome with
          | parked => exact comes_on (by decide) goes rfl
          | ready outcome =>
              cases outcome with
              | error error => exact fails tunnel error same
              | ok held => exact comes_on (by decide) (by simp) (store tunnel same)
  | receiving =>
      cases body with
      | nil => exact comes_on (by decide) goes rfl
      | cons event rest =>
          cases event with
          | failed reason => exact write.fail_comes _ _ answer registry
          | finished => exact write.finish_comes _ answer registry
          | chunk data =>
              simp only
              split
              · exact write.accept_comes _ data answer registry
              · exact write.finish_comes _ answer registry
  | sending sending count size =>
      cases sent : registered.tunnel.send sending with
      | mk outcome tunnel =>
          have same : tunnel.uuid = registered.tunnel.uuid := by
            unfold Tunnel.send at sent
            cases sent
            rfl
          simp only [sent]
          cases outcome with
          | done =>
              have forwards := write.forwarded_comes registered.tunnel.uuid
                count size answer (registry.onTunnel write.tunnel fun _ => tunnel)
              rw [store tunnel same] at forwards
              exact forwards
          | failed error => exact fails tunnel error same
          | parked sending =>
              exact comes_on (by decide) (by simp) (store tunnel same)
  | finished => exact absurd stage goes

end LongPoll.Write

/-! ### Requests -/

namespace LongPoll.Exchange

variable [Connection σ]

def marks (exchange : Exchange) (registry : Registry σ) : List Mark :=
  match exchange.activity with
  | .reading read =>
      (registry.tunnel? read.tunnel).elim [] fun registered =>
        Mark.closing registered.tunnel.uuid
          (read.closes? exchange.answer registered)
  | .writing write =>
      (registry.tunnel? write.tunnel).elim [] fun registered =>
        Mark.closing registered.tunnel.uuid
          ((write.failure? exchange.body registered.tunnel).bind
            Write.closesAfter?)
  | .collecting _ | .connecting _ | .answered => []

theorem roll_step (exchange : Exchange) (registry : Registry σ) :
    (exchange.step registry).2.2.roll =
      registry.roll.markAll (exchange.marks registry) := by
  unfold step marks
  cases exchange.activity with
  | collecting | connecting | answered => rfl
  | reading read =>
      have stepped : (read.step exchange.answer registry).2.2.2.roll =
          registry.roll.markAll
            ((registry.tunnel? read.tunnel).elim [] fun registered =>
              Mark.closing registered.tunnel.uuid
                (read.closes? exchange.answer registered)) := by
        cases found : registry.tunnel? read.tunnel with
        | none =>
            unfold Read.step
            rw [found]
            rfl
        | some registered => exact read.roll_step exchange.answer registry found
      simp only
      split
      all_goals
        rename_i same
        rw [same] at stepped
        exact stepped
  | writing write =>
      have stepped :
          (write.step exchange.body exchange.answer registry).1.2.2.2.roll =
          registry.roll.markAll
            ((registry.tunnel? write.tunnel).elim [] fun registered =>
              Mark.closing registered.tunnel.uuid
                ((write.failure? exchange.body registered.tunnel).bind
                  Write.closesAfter?)) := by
        cases found : registry.tunnel? write.tunnel with
        | none =>
            unfold Write.step
            rw [found]
            rfl
        | some registered =>
            by_cases goes : write.stage = .finished
            · unfold Write.step Write.failure?
              simp only [found, goes]
              rfl
            · exact (write.step_comes exchange.body exchange.answer registry
                found goes).roll
      simp only
      split
      all_goals
        rename_i same
        rw [same] at stepped
        exact stepped

theorem roll_enter (exchange : Exchange) (tunnel : Tunnel σ) (token : String)
    (registry : Registry σ) :
    (exchange.enter tunnel token (registry.count (·.tunnelOpened))).2.roll =
      registry.roll.markAll (Mark.entering tunnel.uuid token) := by
  have opened := registry.roll_open tunnel token
  unfold enter Mark.entering
  simp only
  split
  · exact opened
  · exact (Registry.roll_close _ _ _).trans
      (congrArg (·.strike tunnel.uuid .serverError) opened)

omit [Connection σ] in
theorem roll_abandon (exchange : Exchange) (registry : Registry σ) :
    (exchange.abandon registry).2.roll = registry.roll := by
  unfold abandon
  cases exchange.activity with
  | collecting | connecting | answered => rfl
  | reading read =>
      simp only
      split
      · rfl
      · apply registry.roll_onTunnel
        intro tunnel
        split <;> rfl
  | writing write => exact registry.roll_onTunnel write.tunnel _ fun _ => rfl

theorem lookUp_keeps (registry : Registry σ) (uuid : Uuid)
    (token : Option String) :
    (lookUp registry uuid token).2.roll = registry.roll ∧
      (lookUp registry uuid token).2.metrics = registry.metrics := by
  constructor
  · exact registry.roll_get uuid
  · unfold lookUp Registry.get
    cases registry.find? uuid <;> rfl

/-- A request that arrives closes nothing and counts nothing: a write that is
let in finds its tunnel open. -/
theorem start_keeps (exchange : Exchange) (ticket : Ticket) (request : Request)
    (registry : Registry (Recorded σ)) :
    (exchange.start ticket request registry).2.roll = registry.roll ∧
      (exchange.start ticket request registry).2.metrics =
        registry.metrics := by
  unfold start
  cases Command.parse request.query with
  | error error => exact ⟨rfl, rfl⟩
  | ok command =>
      cases command with
      | connect => exact ⟨rfl, rfl⟩
      | read uuid =>
          have same := lookUp_keeps registry uuid
            (request.headerText? "guacamole-tunnel-token")
          simp only
          split
          · rename_i found
            rw [found] at same
            exact same
          · rename_i number next found
            rw [found] at same
            have joined := next.roll_onTunnel number (·.requestReader ticket)
              fun _ => rfl
            exact ⟨joined.trans same.1, same.2⟩
      | write uuid =>
          have same := lookUp_keeps registry uuid
            (request.headerText? "guacamole-tunnel-token")
          simp only
          split
          · rename_i found
            rw [found] at same
            exact same
          · rename_i number next found
            rw [found] at same
            obtain ⟨registered, there, isOpen, -, -⟩ := lookUp_ok found
            rw [Write.start_open ticket there isOpen, ← same.1]
            refine ⟨?_, same.2⟩
            apply next.roll_update
            intro other here
            rw [there] at here
            cases here
            rfl

end LongPoll.Exchange

end TunnelRelay
