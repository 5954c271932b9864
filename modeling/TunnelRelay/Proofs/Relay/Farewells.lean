import TunnelRelay.Proofs.Relay.Fates
import TunnelRelay.WebSocket.Session

/-!
How WebSocket sessions end.

Either task of a session can close its socket, and only the first to do so says farewell to the
browser. When both tasks are done the tunnel is counted as closed: with the status that the handler
has closed the socket with, else with that of the pump, else with success.
-/

namespace TunnelRelay.WebSocket

variable {σ : Type}

/-! ### The socket -/

namespace Outbound

def farewells (outbound : Outbound) : List CloseFrame :=
  outbound.sent.filterMap fun
    | .close frame => some frame
    | .text _ | .pong _ => none

structure Stays (before after : Outbound) : Prop where
  closed : after.closed = before.closed
  farewells : after.farewells = before.farewells

variable {first second third : Outbound}

theorem Stays.refl (outbound : Outbound) : outbound.Stays outbound :=
  ⟨rfl, rfl⟩

theorem Stays.trans (before : first.Stays second) (after : second.Stays third) :
    first.Stays third :=
  ⟨after.closed.trans before.closed, after.farewells.trans before.farewells⟩

theorem stays_sendText (outbound : Outbound) (text : String) :
    outbound.Stays (outbound.sendText text).2 := by
  unfold sendText
  split
  · exact .refl outbound
  · split
    · exact .refl outbound
    · exact ⟨rfl, by simp [farewells]⟩

theorem stays_sendPong (outbound : Outbound) (data : Bytes) :
    outbound.Stays (outbound.sendPong data) := by
  unfold sendPong
  split
  · exact ⟨rfl, by simp [farewells]⟩
  · exact .refl outbound

/-- The socket is closed with a status. The browser is told only if it was
open. -/
structure Shuts (status : Status) (before after : Outbound) : Prop where
  closed : after.closed = true
  farewells : after.farewells = before.farewells ∨
    before.closed = false ∧
      after.farewells = before.farewells ++ [.ofStatus status]

theorem shuts_close (outbound : Outbound) (status : Status) :
    outbound.Shuts status (outbound.close status) := by
  unfold close
  split
  · rename_i closed
    exact ⟨closed, Or.inl rfl⟩
  · rename_i open_
    split
    · exact ⟨rfl, Or.inl rfl⟩
    · exact ⟨rfl, Or.inr ⟨eq_false_of_ne_true open_, by simp [farewells]⟩⟩

theorem Stays.shuts {status : Status} (before : first.Stays second)
    (after : second.Shuts status third) : first.Shuts status third where
  closed := after.closed
  farewells := by
    rcases after.farewells with same | ⟨open_, told⟩
    · exact Or.inl (same.trans before.farewells)
    · refine Or.inr ⟨before.closed.symm.trans open_, ?_⟩
      rw [told, before.farewells]

end Outbound

/-! ### Progress of a session -/

inductive Going where
  | serves
  | left (status : Option Status)
  | finished

def HandlerStage.going : HandlerStage → Going
  | .listening | .acquiring _ | .sending _ _ _ _ | .replying _ => .serves
  | .leaving status | .waiting status => .left status
  | .finished => .finished

def PumpStage.done? : PumpStage → Option (Option Status)
  | .acquiring | .reading | .closing _ => none
  | .finished status => some status

/-- What a step can do to the end of a session, and what it marks. -/
inductive Stride (number : Nat) (before after : Session σ) : Marks → Prop
  | goesOn (outbound : before.outbound.Stays after.outbound)
      (pump : after.pump.stage.done? = before.pump.stage.done?)
      (handler : after.handler.going = before.handler.going) :
      Stride number before after []
  /-- The pump finds the socket gone. -/
  | gone (outbound : before.outbound.Stays after.outbound)
      (running : before.pump.stage.done? = none)
      (pump : after.pump.stage.done? = some none)
      (handler : after.handler.going = before.handler.going) :
      Stride number before after []
  | pumpShuts {status : Status}
      (outbound : before.outbound.Shuts status after.outbound)
      (running : before.pump.stage.done? = none)
      (pump : after.pump.stage.done? = some (some status))
      (handler : after.handler.going = before.handler.going) :
      Stride number before after [.shuts number .pump status]
  /-- The handler leaves because the other end or the pump is done. -/
  | leaves (outbound : before.outbound.Stays after.outbound)
      (pump : after.pump.stage.done? = before.pump.stage.done?)
      (serving : before.handler.going = .serves)
      (handler : after.handler.going = .left none) :
      Stride number before after []
  | handlerShuts {status : Status}
      (outbound : before.outbound.Shuts status after.outbound)
      (pump : after.pump.stage.done? = before.pump.stage.done?)
      (serving : before.handler.going = .serves)
      (handler : after.handler.going = .left (some status)) :
      Stride number before after [.shuts number .handler status]
  | ends {own pumped : Option Status}
      (outbound : before.outbound.Stays after.outbound)
      (done : before.pump.stage.done? = some pumped)
      (pump : after.pump.stage.done? = some pumped)
      (left : before.handler.going = .left own)
      (handler : after.handler.going = .finished) :
      Stride number before after
        [.closes (.session number) ((own <|> pumped).getD .success)]

namespace Session

def pumpMarks (session : Session σ) (number : Nat) : Marks :=
  match session.tunnel, session.pump.stage with
  | some _, .closing status => [.shuts number .pump status]
  | _, _ => []

/-- What it marks that a handler is in another stage now. -/
def departure (number : Nat) : (later : HandlerStage) → Marks
  | .leaving (some status) => [.shuts number .handler status]
  | _ => []

/-- What the next step of the handler marks, when it leaves the handler in the
stage `later`. -/
def handlerMarks (session : Session σ) (number : Nat) (later : HandlerStage) :
    Marks :=
  match session.tunnel, session.handler with
  | none, _ | some _, .leaving _ | some _, .finished => []
  | some _, .waiting own =>
      match session.pump.stage with
      | .finished pumped =>
          [.closes (.session number) ((own <|> pumped).getD .success)]
      | .acquiring | .reading | .closing _ => []
  | some _, .listening | some _, .acquiring _ | some _, .sending _ _ _ _
  | some _, .replying _ => departure number later

structure Strides (number : Nat) (before : Session σ) (metrics : Metrics)
    (result : Pace × Session σ × Metrics) (marks : Marks) : Prop where
  tunnel : result.2.1.tunnel.isSome = true
  stride : Stride number before result.2.1 marks
  counted : ∀ entries, Roll.mk entries result.2.2.ofTunnels =
    (Roll.mk entries metrics.ofTunnels).markAll marks

/-! ### All closings of a socket -/

/-- The status with which a task has closed the socket. -/
def shutBy (shuts : List (Part × Status)) (part : Part) : Option Status :=
  (shuts.find? (·.1 == part)).map (·.2)

/-- The status that tells how a session has ended. -/
def verdict (shuts : List (Part × Status)) : Status :=
  ((shutBy shuts .handler).or (shutBy shuts .pump)).getD .success

theorem shutBy_append (shuts more : List (Part × Status)) (part : Part) :
    shutBy (shuts ++ more) part = (shutBy shuts part).or (shutBy more part) := by
  unfold shutBy
  rw [List.find?_append]
  cases shuts.find? (·.1 == part) <;> rfl

theorem shutBy_eq_none {shuts : List (Part × Status)} {part : Part} :
    shutBy shuts part = none ↔ part ∉ shuts.map (·.1) := by
  rw [shutBy, Option.map_eq_none_iff, List.find?_eq_none, List.mem_map]
  constructor
  · rintro never ⟨entry, member, same⟩
    exact never entry member (beq_iff_eq.mpr same)
  · intro never entry member same
    exact never ⟨entry, member, beq_iff_eq.mp same⟩

/-- A session for which the socket was closed as in `shuts`, and which was
counted with the status `fate`. -/
structure Accords (shuts : List (Part × Status)) (fate : Option Status)
    (session : Session σ) : Prop where
  once : (shuts.map (·.1)).Nodup
  closed : session.outbound.closed = !shuts.isEmpty
  /-- Only the first closing is told to the browser. -/
  told : ∀ frame ∈ session.outbound.farewells,
    shuts.head?.map (fun first => CloseFrame.ofStatus first.2) = some frame
  pump : shutBy shuts .pump = session.pump.stage.done?.join
  serving : session.handler.going = .serves → shutBy shuts .handler = none
  left : ∀ own, session.handler.going = .left own →
    shutBy shuts .handler = own
  finished : session.handler.going = .finished → session.pump.stage.done? ≠ none
  ended : fate.isSome = true ↔ session.handler.going = .finished
  counted : ∀ status, fate = some status →
    ClosedAs.ofStatus status = ClosedAs.ofStatus (verdict shuts)

section Accords

variable {shuts : List (Part × Status)} {fate : Option Status}
  {before after : Session σ}

theorem Accords.begins (open_ : after.outbound.closed = false)
    (silent : after.outbound.farewells = [])
    (running : after.pump.stage.done? = none)
    (serving : after.handler.going = .serves) : Accords [] none after where
  once := List.nodup_nil
  closed := open_
  told := by
    rw [silent]
    exact List.forall_mem_nil _
  pump := by
    rw [running]
    rfl
  serving _ := rfl
  left := by
    rw [serving]
    rintro _ ⟨⟩
  finished := by
    rw [serving]
    rintro ⟨⟩
  ended := by
    rw [serving]
    exact ⟨by rintro ⟨⟩, by rintro ⟨⟩⟩
  counted := by rintro _ ⟨⟩

theorem Accords.stays (accords : Accords shuts fate before)
    (outbound : before.outbound.Stays after.outbound)
    (pump : after.pump.stage.done?.join = before.pump.stage.done?.join)
    (done : before.pump.stage.done? ≠ none → after.pump.stage.done? ≠ none)
    (handler : after.handler.going = before.handler.going) :
    Accords shuts fate after where
  once := accords.once
  closed := outbound.closed.trans accords.closed
  told frame member := accords.told frame (outbound.farewells ▸ member)
  pump := accords.pump.trans pump.symm
  serving serves := accords.serving (handler.symm.trans serves)
  left own is := accords.left own (handler.symm.trans is)
  finished finished := done (accords.finished (handler.symm.trans finished))
  ended := by rw [handler]; exact accords.ended
  counted := accords.counted

theorem Accords.shut (accords : Accords shuts fate before) {part : Part}
    {status : Status} (new : shutBy shuts part = none)
    (outbound : before.outbound.Shuts status after.outbound) :
    ((shuts ++ [(part, status)]).map (·.1)).Nodup ∧
      after.outbound.closed = !(shuts ++ [(part, status)]).isEmpty ∧
      ∀ frame ∈ after.outbound.farewells,
        (shuts ++ [(part, status)]).head?.map
          (fun first => CloseFrame.ofStatus first.2) = some frame := by
  refine ⟨?_, ?_, ?_⟩
  · rw [List.map_append, List.nodup_append]
    refine ⟨accords.once, List.nodup_singleton part, ?_⟩
    rintro one member other last rfl
    cases List.mem_singleton.mp last
    exact shutBy_eq_none.mp new member
  · rw [outbound.closed]
    simp
  · intro frame member
    rcases outbound.farewells with same | ⟨open_, told⟩
    · have first := accords.told frame (same ▸ member)
      rw [List.head?_append]
      cases head : shuts.head? with
      | none =>
          rw [head] at first
          cases first
      | some entry =>
          rw [head] at first
          exact first
    · have nothing : shuts = [] := by
        rw [accords.closed] at open_
        simpa using open_
      subst nothing
      have silent : before.outbound.farewells = [] := by
        rw [List.eq_nil_iff_forall_not_mem]
        intro other there
        cases accords.told other there
      rw [told, silent] at member
      cases List.mem_singleton.mp member
      rfl

theorem Accords.pumpShuts (accords : Accords shuts fate before)
    {status : Status} (outbound : before.outbound.Shuts status after.outbound)
    (running : before.pump.stage.done? = none)
    (pump : after.pump.stage.done? = some (some status))
    (handler : after.handler.going = before.handler.going) :
    Accords (shuts ++ [(.pump, status)]) fate after := by
  have new : shutBy shuts .pump = none := by rw [accords.pump, running]; rfl
  obtain ⟨once, closed, told⟩ := accords.shut new outbound
  exact {
    once, closed, told
    pump := by
      rw [shutBy_append, new, pump]
      rfl
    serving := by
      intro serves
      rw [shutBy_append, accords.serving (handler.symm.trans serves)]
      rfl
    left := by
      intro own left
      rw [shutBy_append, accords.left own (handler.symm.trans left)]
      cases own <;> rfl
    finished := by
      intro _
      rw [pump]
      exact nofun
    ended := by
      rw [handler]
      exact accords.ended
    counted := by
      intro status ended
      -- a session is not over as long as its pump is running
      have finished := accords.ended.mp (by rw [ended]; rfl)
      exact absurd running (accords.finished finished) }

theorem Accords.leaves (accords : Accords shuts fate before)
    (outbound : before.outbound.Stays after.outbound)
    (pump : after.pump.stage.done? = before.pump.stage.done?)
    (serving : before.handler.going = .serves)
    (handler : after.handler.going = .left none) :
    Accords shuts fate after where
  once := accords.once
  closed := outbound.closed.trans accords.closed
  told frame member := accords.told frame (outbound.farewells ▸ member)
  pump := by rw [pump]; exact accords.pump
  serving := by rw [handler]; exact nofun
  left := by
    rintro own left
    rw [handler] at left
    cases left
    exact accords.serving serving
  finished := by rw [handler]; exact nofun
  ended := by
    rw [accords.ended, serving, handler]
    exact ⟨nofun, nofun⟩
  counted := accords.counted

theorem Accords.handlerShuts (accords : Accords shuts fate before)
    {status : Status} (outbound : before.outbound.Shuts status after.outbound)
    (pump : after.pump.stage.done? = before.pump.stage.done?)
    (serving : before.handler.going = .serves)
    (handler : after.handler.going = .left (some status)) :
    Accords (shuts ++ [(.handler, status)]) fate after := by
  have new := accords.serving serving
  obtain ⟨once, closed, told⟩ := accords.shut new outbound
  exact {
    once, closed, told
    pump := by
      rw [shutBy_append, pump, ← accords.pump]
      exact Option.or_none
    serving := by
      rw [handler]
      exact nofun
    left := by
      rintro own left
      rw [handler] at left
      cases left
      rw [shutBy_append, new]
      rfl
    finished := by
      rw [handler]
      exact nofun
    ended := by
      rw [accords.ended, serving, handler]
      exact ⟨nofun, nofun⟩
    counted := by
      intro status ended
      have finished := accords.ended.mp (by rw [ended]; rfl)
      rw [serving] at finished
      cases finished }

theorem Accords.ends (accords : Accords shuts fate before)
    {own pumped : Option Status}
    (outbound : before.outbound.Stays after.outbound)
    (done : before.pump.stage.done? = some pumped)
    (pump : after.pump.stage.done? = some pumped)
    (left : before.handler.going = .left own)
    (handler : after.handler.going = .finished) :
    Accords shuts (fate.or (some ((own <|> pumped).getD .success))) after := by
  have going : fate = none := by
    cases ended : fate with
    | none => rfl
    | some status =>
        have finished := accords.ended.mp (by rw [ended]; rfl)
        rw [left] at finished
        cases finished
  have counted : (own <|> pumped).getD .success = verdict shuts := by
    rw [verdict, accords.left own left, accords.pump, done]
    cases own <;> rfl
  rw [going, counted]
  exact {
    once := accords.once
    closed := outbound.closed.trans accords.closed
    told := fun frame member =>
      accords.told frame (outbound.farewells ▸ member)
    pump := by
      rw [pump, ← done]
      exact accords.pump
    serving := by
      rw [handler]
      exact nofun
    left := by
      rw [handler]
      exact nofun
    finished := by
      rw [pump]
      exact fun _ => nofun
    ended := by
      rw [handler]
      exact ⟨fun _ => rfl, fun _ => rfl⟩
    counted := by
      rintro status same
      cases same
      rfl }

/-- Every step keeps a session in accord with what was marked. -/
theorem Accords.stride {number : Nat} {marks : Marks}
    (accords : Accords shuts fate before)
    (stride : Stride number before after marks) :
    Accords (shuts ++ marks.shuts number)
      (fate.or (marks.fate (.session number))) after := by
  have quiet : Accords shuts fate after →
      Accords (shuts ++ Marks.shuts [] number)
        (fate.or (Marks.fate [] (.session number))) after := by
    intro accords
    change Accords (shuts ++ []) (fate.or none) after
    rw [List.append_nil, Option.or_none]
    exact accords
  have loud : ∀ part status, Accords (shuts ++ [(part, status)]) fate after →
      Accords (shuts ++ Marks.shuts [.shuts number part status] number)
        (fate.or (Marks.fate [.shuts number part status] (.session number)))
        after := by
    intro part status accords
    change Accords _ (fate.or none) after
    simp only [Marks.shuts, Mark.shutting?, List.filterMap_cons,
      List.filterMap_nil, if_true, Option.or_none]
    exact accords
  cases stride with
  | goesOn outbound pump handler =>
      apply quiet
      exact accords.stays outbound (congrArg Option.join pump)
        (fun done => pump ▸ done) handler
  | gone outbound running pump handler =>
      apply quiet
      apply accords.stays outbound _ (fun _ => by simp [pump]) handler
      rw [pump, running]
      rfl
  | pumpShuts outbound running pump handler =>
      exact loud _ _ (accords.pumpShuts outbound running pump handler)
  | leaves outbound pump serving handler =>
      exact quiet (accords.leaves outbound pump serving handler)
  | handlerShuts outbound pump serving handler =>
      exact loud _ _ (accords.handlerShuts outbound pump serving handler)
  | ends outbound done pump left handler =>
      have ended := accords.ends outbound done pump left handler
      change Accords (shuts ++ []) (fate.or _) after
      rw [List.append_nil]
      simp only [Marks.fate, Mark.closing?, List.findSome?_cons, if_true]
      exact ended

end Accords

variable {session : Session σ} {tunnel : Tunnel σ} {metrics : Metrics}

/-! ### The pump -/

theorem drainPump_strides {before : Session σ} (number : Nat)
    (there : session.tunnel.isSome = true)
    (outbound : session.outbound = before.outbound)
    (running : before.pump.stage.done? = none)
    (handler : session.handler = before.handler) (status : Status) :
    Strides number before metrics (session.drainPump status metrics) [] := by
  have stays := session.outbound.stays_sendText session.pump.batch
  have going := congrArg HandlerStage.going handler
  unfold drainPump
  cases session.pump.batch.isEmpty with
  | true =>
      refine ⟨there, .goesOn ?_ running.symm going, fun _ => rfl⟩
      rw [← outbound]
      exact .refl session.outbound
  | false =>
      refine ⟨there, .goesOn ?_ running.symm going, fun _ => rfl⟩
      rw [← outbound]
      exact stays

theorem sendBatch_strides {before : Session σ} (number : Nat)
    (outbound : session.outbound = before.outbound)
    (pump : session.pump.stage = before.pump.stage)
    (running : before.pump.stage.done? = none)
    (handler : session.handler = before.handler)
    (there : session.tunnel = some tunnel) :
    Strides number before metrics
      (match session.sendBatch metrics with
        | (.ok (), session, metrics) => (.goesOn, session, metrics)
        | (.error _, session, metrics) =>
          (.ended, session.stopPump tunnel none, metrics)) [] := by
  have has : session.tunnel.isSome = true := by rw [there]; rfl
  have stays := session.outbound.stays_sendText session.pump.batch
  have going := congrArg HandlerStage.going handler
  rw [outbound] at stays
  unfold sendBatch
  rw [outbound]
  cases sent : before.outbound.sendText session.pump.batch with
  | mk outcome after =>
      rw [sent] at stays
      simp only [sent]
      cases outcome with
      | ok done =>
          cases done
          exact ⟨has, .goesOn stays (congrArg PumpStage.done? pump) going,
            fun _ => rfl⟩
      | error error =>
          exact ⟨rfl, .gone stays running rfl going, fun _ => rfl⟩

variable [Connection σ]

theorem stepPump_strides (number : Nat)
    (there : session.tunnel = some tunnel) (metrics : Metrics) :
    Strides number session metrics (session.stepPump metrics)
      (session.pumpMarks number) := by
  have has : session.tunnel.isSome = true := by rw [there]; rfl
  unfold stepPump pumpMarks
  rw [there]
  simp only
  cases stage : session.pump.stage with
  | acquiring =>
      have running : session.pump.stage.done? = none := by rw [stage]; rfl
      simp only
      split
      · exact ⟨has, .goesOn (.refl _) rfl rfl, fun _ => rfl⟩
      · exact ⟨rfl, .goesOn (.refl _) running.symm rfl, fun _ => rfl⟩
  | reading =>
      have running : session.pump.stage.done? = none := by rw [stage]; rfl
      simp only
      split
      · exact ⟨rfl, .goesOn (.refl _) rfl rfl, fun _ => rfl⟩
      · refine drainPump_strides number ?_ ?_ running ?_ _ <;> rfl
      · refine drainPump_strides number ?_ ?_ running ?_ _ <;> rfl
      · split
        · refine ⟨rfl, .goesOn (.refl _) ?_ rfl, fun _ => rfl⟩
          rw [stage]
        · refine sendBatch_strides number ?_ ?_ running ?_ ?_
          · rfl
          · exact stage.symm
          · rfl
          · rfl
  | closing status =>
      have running : session.pump.stage.done? = none := by rw [stage]; rfl
      exact ⟨rfl, .pumpShuts (session.outbound.shuts_close status) running rfl
        rfl, fun _ => rfl⟩
  | finished status => exact ⟨has, .goesOn (.refl _) rfl rfl, fun _ => rfl⟩

/-! ### The handler -/

section Handler

variable {before : Session σ}

structure Keeps (before session : Session σ) (metrics later : Metrics) :
    Prop where
  there : session.tunnel.isSome = true
  outbound : before.outbound.Stays session.outbound
  pump : session.pump.stage = before.pump.stage
  serves : before.handler.going = .serves
  counters : later.ofTunnels = metrics.ofTunnels

omit [Connection σ] in
theorem Keeps.goesOn {later : Metrics} (keeps : Keeps before session metrics later)
    (handler : session.handler.going = .serves) (pace : Pace) (number : Nat) :
    Strides number before metrics (pace, session, later)
      (departure number session.handler) := by
  have silent : departure number session.handler = [] := by
    unfold departure
    split
    · rename_i stage
      rw [stage] at handler
      cases handler
    · rfl
  rw [silent]
  refine ⟨keeps.there, ?_, fun entries => congrArg _ keeps.counters⟩
  exact .goesOn keeps.outbound (congrArg PumpStage.done? keeps.pump)
    (handler.trans keeps.serves.symm)

omit [Connection σ] in
theorem Keeps.leave {later : Metrics} (keeps : Keeps before session metrics later)
    (status : Option Status) (number : Nat) :
    Strides number before metrics (session.leave status later)
      (departure number (session.leave status later).2.1.handler) := by
  have pump := congrArg PumpStage.done? keeps.pump
  have counted : ∀ entries, Roll.mk entries later.ofTunnels =
      Roll.mk entries metrics.ofTunnels :=
    fun entries => congrArg _ keeps.counters
  cases status with
  | none =>
      exact ⟨keeps.there, .leaves keeps.outbound pump keeps.serves rfl, counted⟩
  | some status =>
      have shuts := keeps.outbound.shuts (session.outbound.shuts_close status)
      exact ⟨keeps.there, .handlerShuts shuts pump keeps.serves rfl, counted⟩

omit [Connection σ] in
theorem Keeps.forwarded (keeps : Keeps before session metrics metrics)
    (tunnel : Tunnel σ) (filtered : FilteredWriter (List Instruction))
    (count size number : Nat) :
    Strides number before metrics
      (session.forwarded tunnel filtered count size metrics)
      (departure number
        (session.forwarded tunnel filtered count size metrics).2.1.handler) := by
  have released : Keeps before (session.releaseWriter tunnel) metrics metrics :=
    ⟨rfl, keeps.outbound, keeps.pump, keeps.serves, rfl⟩
  unfold Session.forwarded
  cases filtered.finish with
  | error error => exact released.leave _ number
  | ok replies =>
      refine Keeps.goesOn ?_ ?_ .goesOn number
      · exact ⟨rfl, keeps.outbound, keeps.pump, keeps.serves, rfl⟩
      · rfl

omit [Connection σ] in
theorem Keeps.forward (keeps : Keeps before session metrics metrics)
    (tunnel : Tunnel σ) (text : String) (number : Nat) :
    Strides number before metrics (session.forward tunnel text metrics)
      (departure number (session.forward tunnel text metrics).2.1.handler) := by
  have released : Keeps before (session.releaseWriter tunnel) metrics metrics :=
    ⟨rfl, keeps.outbound, keeps.pump, keeps.serves, rfl⟩
  unfold Session.forward
  simp only
  split
  · exact released.leave _ number
  · rename_i passed filtered accepted
    cases FilteredWriter.sending? passed with
    | none => exact keeps.forwarded tunnel filtered _ _ number
    | some sending =>
        refine Keeps.goesOn ?_ ?_ .goesOn number
        · exact ⟨rfl, keeps.outbound, keeps.pump, keeps.serves, rfl⟩
        · rfl

omit [Connection σ] in
theorem Keeps.hear (keeps : Keeps before session metrics metrics)
    (serves : session.handler.going = .serves) (tunnel : Tunnel σ)
    (message : Incoming) (number : Nat) :
    Strides number before metrics (session.hear tunnel message metrics)
      (departure number (session.hear tunnel message metrics).2.1.handler) := by
  have broken : Keeps before
      { session with outbound := { session.outbound with broken := true } }
      metrics metrics :=
    ⟨keeps.there, keeps.outbound.trans ⟨rfl, rfl⟩, keeps.pump, keeps.serves,
      rfl⟩
  unfold Session.hear
  cases message with
  | text text =>
      simp only
      split
      · exact keeps.leave _ number
      · refine Keeps.goesOn ?_ ?_ .goesOn number
        · exact ⟨rfl, keeps.outbound, keeps.pump, keeps.serves, rfl⟩
        · rfl
  | binary => exact keeps.leave _ number
  | ping data =>
      have pongs := session.outbound.stays_sendPong data
      refine Keeps.goesOn ?_ ?_ .goesOn number
      · exact ⟨keeps.there, keeps.outbound.trans pongs, keeps.pump, keeps.serves, rfl⟩
      · exact serves
  | pong data => exact keeps.goesOn serves .goesOn number
  | close => exact broken.leave none number
  | lost => exact keeps.leave none number

theorem stepHandler_strides (number : Nat)
    (there : session.tunnel = some tunnel) (heeds : Bool) (metrics : Metrics) :
    Strides number session metrics (session.stepHandler heeds metrics)
      (session.handlerMarks number
        (session.stepHandler heeds metrics).2.1.handler) := by
  have has : session.tunnel.isSome = true := by rw [there]; rfl
  have keeps : session.handler.going = .serves →
      Keeps session session metrics metrics :=
    fun serves => ⟨has, .refl _, rfl, serves, rfl⟩
  unfold stepHandler handlerMarks
  rw [there]
  simp only
  cases stage : session.handler with
  | listening =>
      have serves : session.handler.going = .serves := by rw [stage]; rfl
      simp only
      unfold listen
      split
      · exact (keeps serves).leave none number
      · exact (keeps serves).goesOn serves .parked number
      · refine Keeps.hear ?_ ?_ tunnel _ number
        · exact ⟨has, .refl _, rfl, serves, rfl⟩
        · exact serves
  | acquiring text =>
      have serves : session.handler.going = .serves := by rw [stage]; rfl
      simp only
      split
      · exact (keeps serves).goesOn serves .parked number
      · refine Keeps.leave ?_ _ number
        exact ⟨rfl, .refl _, rfl, serves, rfl⟩
      · exact (keeps serves).forward _ text number
  | sending filtered sending count size =>
      have serves : session.handler.going = .serves := by rw [stage]; rfl
      simp only
      split
      · exact (keeps serves).forwarded _ filtered count size number
      · refine Keeps.leave ?_ _ number
        exact ⟨rfl, .refl _, rfl, serves, rfl⟩
      · refine Keeps.goesOn ?_ ?_ .parked number
        · exact ⟨rfl, .refl _, rfl, serves, rfl⟩
        · rfl
  | replying replies =>
      have serves : session.handler.going = .serves := by rw [stage]; rfl
      cases replies with
      | nil =>
          refine Keeps.goesOn ?_ ?_ .goesOn number
          · exact ⟨rfl, .refl _, rfl, serves, rfl⟩
          · rfl
      | cons reply replies =>
          have stays := session.outbound.stays_sendText reply.encode
          simp only
          split
          all_goals
            rename_i sent
            rw [sent] at stays
          · refine Keeps.goesOn ?_ ?_ .goesOn number
            · exact ⟨rfl, stays, rfl, serves, rfl⟩
            · rfl
          · refine Keeps.leave ?_ _ number
            exact ⟨rfl, stays, rfl, serves, rfl⟩
  | leaving status =>
      refine ⟨rfl, .goesOn (.refl _) rfl ?_, fun _ => rfl⟩
      rw [stage]
      rfl
  | waiting own =>
      cases pump : session.pump.stage with
      | acquiring | reading | closing =>
          exact ⟨has, .goesOn (.refl _) rfl rfl, fun _ => rfl⟩
      | finished pumped =>
          -- both tasks are over, so the tunnel is counted as closed
          refine ⟨rfl, .ends (.refl _) (congrArg PumpStage.done? pump)
            (congrArg PumpStage.done? pump) ?_ rfl, ?_⟩
          · rw [stage]
            rfl
          · intro entries
            simp only [Roll.markAll, List.foldl_cons, List.foldl_nil, Roll.mark]
            congr 1
            unfold Metrics.tunnelClosed Metrics.ofTunnels
            simp only
            split <;> rfl
  | finished => exact ⟨has, .goesOn (.refl _) rfl rfl, fun _ => rfl⟩

end Handler

end Session

end TunnelRelay.WebSocket
