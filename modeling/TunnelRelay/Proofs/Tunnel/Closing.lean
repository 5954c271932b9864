import TunnelRelay.Proofs.Relay.Tunnels
import TunnelRelay.Proofs.Tunnel.Tasks

/-!
Closing a tunnel is final.

That a tunnel is closed is kept in three places: it is not open, it signals so to those who read,
and its connection is gone. All three come with the first close and stay. From then on every way to
the tunnel finds one of them, whatever guards there are and whatever the reader holds.
-/

namespace TunnelRelay

variable {σ : Type} [Connection σ]

/-! ### Calls on a closed tunnel -/

namespace Tunnel

variable {tunnel : Tunnel (Recorded σ)}

/-- The tunnel is closed, wherever one looks. -/
structure Shut (tunnel : Tunnel (Recorded σ)) : Prop where
  isOpen : tunnel.isOpen = false
  signals : tunnel.closeSignal = true
  severed : tunnel.backend.live = false

def Agrees (tunnel : Tunnel (Recorded σ)) : Prop :=
  tunnel.isOpen = false → tunnel.Shut

theorem close_shut (agrees : tunnel.Agrees) : tunnel.close.Shut := by
  unfold close
  split
  · exact ⟨rfl, rfl, rfl⟩
  · rename_i shut
    exact agrees (eq_false_of_ne_true shut)

theorem Shut.close (shut : tunnel.Shut) : tunnel.close = tunnel := by
  unfold Tunnel.close
  rw [if_neg (by rw [shut.isOpen]; exact Bool.false_ne_true)]

theorem Shut.readFrame (shut : tunnel.Shut) :
    tunnel.readFrame = (.ready (.ok none), tunnel) := by
  unfold Tunnel.readFrame
  rw [if_pos shut.signals]

end Tunnel

/-- Nothing can be written to a connection that is gone, not even nothing. -/
theorem Sending.poll_severed {backend : Backend (Recorded σ)}
    (severed : backend.live = false) (sending : Sending) :
    sending.poll backend =
      (.failed (.ofSocket Backend.released), backend) := by
  have flushing : ByteSink.flush backend =
      (.ready (.error Backend.released), backend) := by
    change backend.flush = _
    unfold Backend.flush
    rw [if_neg (by rw [severed]; exact Bool.false_ne_true)]
  have writing (bytes : Bytes) : ByteSink.write backend bytes =
      (.ready (.error Backend.released), backend) := by
    change backend.write bytes = _
    unfold Backend.write
    rw [if_neg (by rw [severed]; exact Bool.false_ne_true)]
  have flushed : Sending.flush backend =
      (.failed (.ofSocket Backend.released), backend) := by
    unfold Sending.flush
    rw [flushing]
  cases sending with
  | flushing => exact flushed
  | writing rest =>
      cases rest with
      | nil =>
          simp only [Sending.poll, writeAll]
          exact flushed
      | cons byte bytes =>
          simp only [Sending.poll, writeAll, writing]

theorem shutdownStream_severed {backend : Backend (Recorded σ)}
    (severed : backend.live = false) :
    shutdownStream backend = (.ready (.ok ()), backend) := by
  have shut : ByteSink.shutdown backend = (.ready (.ok ()), backend) := by
    change backend.shutdown = _
    unfold Backend.shutdown
    rw [if_neg (by rw [severed]; exact Bool.false_ne_true)]
  unfold shutdownStream
  rw [shut]

namespace TunnelCall

variable {tunnel : Tunnel (Recorded σ)}

theorem read_shut (shut : tunnel.Shut) (ticket : Ticket) :
    read.poll ticket tunnel = (.inl (.received none), tunnel) := by
  simp only [poll, shut.readFrame]

theorem send_shut (shut : tunnel.Shut) (sending : Sending) (ticket : Ticket) :
    (send sending).poll ticket tunnel =
      (.inl (.failed (.ofSocket Backend.released)), tunnel) := by
  simp only [poll, Tunnel.send, Sending.poll_severed shut.severed]

theorem shutdown_shut (shut : tunnel.Shut) (ticket : Ticket) :
    shutdown.poll ticket tunnel = (.inl .done, tunnel) := by
  simp only [poll, Tunnel.shutdown, shutdownStream_severed shut.severed]

theorem acquireWriter_shut (shut : tunnel.Shut) (ticket : Ticket) :
    acquireWriter.poll ticket tunnel =
      if tunnel.writerLock.isHeldBy ticket then
        (.inl (.failed tunnel.closedError), tunnel.releaseWriter ticket)
      else (.inr .acquireWriter, tunnel) := by
  simp only [poll, Tunnel.claimWriter, shut.isOpen, Bool.false_eq_true, if_false]
  cases tunnel.writerLock.isHeldBy ticket <;> rfl

/-- The answers of a closed tunnel. Who waits for the reader still gets it, and
finds the end of the stream. -/
inductive Final : TunnelCall → TunnelReply → Prop
  | acquireReader : Final .acquireReader .acquired
  | acquireWriter (reason : String) :
      Final .acquireWriter (.failed (.connectionClosed reason))
  | read : Final .read (.received none)
  | send (sending : Sending) (reason : String) :
      Final (.send sending) (.failed (.connectionClosed reason))
  | shutdown : Final .shutdown .done

theorem poll_shut (shut : tunnel.Shut) (call : TunnelCall) (ticket : Ticket) :
    (call.poll ticket tunnel).2.Shut ∧
      (call.poll ticket tunnel).2.backend = tunnel.backend ∧
      ∀ reply, (call.poll ticket tunnel).1 = .inl reply → call.Final reply := by
  cases call with
  | acquireReader =>
      simp only [poll, Tunnel.claimReader]
      split
      · rename_i claimed
        split at claimed
        · cases claimed
          refine ⟨⟨shut.isOpen, shut.signals, shut.severed⟩, rfl, ?_⟩
          rintro reply ⟨⟩
          exact .acquireReader
        · cases claimed
      · rename_i claimed
        split at claimed
        · cases claimed
        · cases claimed
          exact ⟨shut, rfl, by simp⟩
  | acquireWriter =>
      rw [acquireWriter_shut shut]
      split
      · refine ⟨⟨shut.isOpen, shut.signals, shut.severed⟩, rfl, ?_⟩
        rintro reply ⟨⟩
        exact .acquireWriter _
      · exact ⟨shut, rfl, by simp⟩
  | read =>
      rw [read_shut shut]
      refine ⟨shut, rfl, ?_⟩
      rintro reply ⟨⟩
      exact .read
  | send sending =>
      rw [send_shut shut]
      refine ⟨shut, rfl, ?_⟩
      rintro reply ⟨⟩
      exact .send sending _
  | shutdown =>
      rw [shutdown_shut shut]
      refine ⟨shut, rfl, ?_⟩
      rintro reply ⟨⟩
      exact .shutdown

theorem poll_isOpen (call : TunnelCall) (ticket : Ticket)
    (tunnel : Tunnel (Recorded σ)) :
    (call.poll ticket tunnel).2.isOpen = tunnel.isOpen := by
  have goes := call.goes ticket tunnel
  rcases polled : call.poll ticket tunnel with ⟨outcome, next⟩
  rw [polled] at goes
  cases goes <;> rfl

end TunnelCall

/-! ### Tasks behind a close -/

def TunnelEvent.Final : TunnelEvent → Prop
  | .answered _ call reply => call.Final reply
  | _ => True

namespace Tasks

section

omit [Connection σ]

variable {before middle after tasks : Tasks σ}

/-- From one moment to a later one the tunnel is closed: nothing is sent, and the
answers are those of a closed tunnel. -/
structure StaysShut (before after : Tasks σ) : Prop where
  shut : after.tunnel.Shut
  taken : after.taken = before.taken
  events : ∃ later, after.events = before.events ++ later ∧
    ∀ event ∈ later, event.Final

theorem StaysShut.refl (shut : tasks.tunnel.Shut) : tasks.StaysShut tasks :=
  ⟨shut, rfl, [], (List.append_nil _).symm, nofun⟩

theorem StaysShut.trans (early : before.StaysShut middle)
    (late : middle.StaysShut after) : before.StaysShut after := by
  obtain ⟨first, added, final⟩ := early.events
  obtain ⟨second, more, last⟩ := late.events
  refine ⟨late.shut, late.taken.trans early.taken, first ++ second, ?_, ?_⟩
  · rw [more, added, List.append_assoc]
  · intro event member
    exact (List.mem_append.mp member).elim (final event) (last event)

theorem join_shut (shut : tasks.tunnel.Shut) (ticket : Ticket) :
    tasks.shared.join ticket .acquireWriter = .error tasks.tunnel.closedError := by
  have closed : ¬ tasks.shared.tunnel.isOpen = true := by
    rw [show tasks.shared.tunnel.isOpen = false from shut.isOpen]
    exact Bool.false_ne_true
  exact if_neg closed

theorem StaysShut.call (shut : tasks.tunnel.Shut) (ticket : Ticket)
    (call : TunnelCall) : tasks.StaysShut (tasks.call ticket call) := by
  unfold Tasks.call
  split
  · cases call with
    | acquireReader =>
        exact ⟨⟨shut.isOpen, shut.signals, shut.severed⟩, rfl, _, rfl,
          by simp [TunnelEvent.Final]⟩
    | acquireWriter =>
        simp only [join_shut shut]
        refine ⟨shut, rfl, _, rfl, ?_⟩
        simp only [List.mem_cons, List.not_mem_nil, or_false, forall_eq_or_imp,
          forall_eq, TunnelEvent.Final, true_and]
        exact .acquireWriter _
    | read | send sending | shutdown =>
        exact ⟨shut, rfl, _, rfl, by simp [TunnelEvent.Final]⟩
  · exact .refl shut

theorem call_isOpen (ticket : Ticket) (call : TunnelCall) :
    (tasks.call ticket call).tunnel.isOpen = tasks.tunnel.isOpen := by
  unfold Tasks.call
  split
  · cases call with
    | acquireWriter =>
        simp only [SharedTunnel.join, Tunnel.requestWriter]
        split
        · rename_i refused
          split at refused <;> rfl
        · rename_i joined
          split at joined
          · cases joined
            rfl
          · cases joined
    | _ => rfl
  · rfl

end

variable {tasks : Tasks σ}

theorem close_again (shut : tasks.tunnel.Shut) :
    tasks.step .close = tasks := by
  change tasks.undergo Tunnel.close = tasks
  unfold Tasks.undergo
  rw [shut.close]
  rfl

theorem turn_tunnel {ticket : Ticket} {call : TunnelCall}
    (waits : tasks.shared.callOf ticket = some call) :
    (tasks.turn ticket).tunnel = (call.poll ticket tasks.tunnel).2 := by
  simp only [turn, waits, tunnel, SharedTunnel.poll]
  split
  · rename_i polled
    exact (congrArg Prod.snd polled).symm
  · rename_i polled
    exact (congrArg Prod.snd polled).symm

theorem StaysShut.turn (shut : tasks.tunnel.Shut) (ticket : Ticket) :
    tasks.StaysShut (tasks.turn ticket) := by
  cases waits : tasks.shared.callOf ticket with
  | none =>
      unfold Tasks.turn
      rw [waits]
      exact .refl shut
  | some call =>
      obtain ⟨stays, kept, final⟩ := call.poll_shut shut ticket
      refine ⟨?_, ?_, ?_⟩
      · rw [turn_tunnel waits]
        exact stays
      · unfold Tasks.taken
        rw [turn_tunnel waits, kept]
      · simp only [Tasks.turn, waits]
        refine ⟨_, rfl, ?_⟩
        cases polled : (call.poll ticket tasks.tunnel).1 with
        | inr left => nofun
        | inl reply =>
            simp only [List.mem_singleton, forall_eq]
            exact final reply polled

theorem StaysShut.step (shut : tasks.tunnel.Shut) (step : TunnelStep σ) :
    tasks.StaysShut (tasks.step step) := by
  cases step with
  | call ticket call => exact .call shut ticket call
  | turn ticket => exact .turn shut ticket
  | giveUp ticket =>
      change tasks.StaysShut (tasks.giveUp ticket)
      unfold Tasks.giveUp
      split
      · exact .refl shut
      · rename_i call waits
        refine ⟨?_, ?_, _, rfl, by simp [TunnelEvent.Final]⟩
        · cases call <;> exact ⟨shut.isOpen, shut.signals, shut.severed⟩
        · cases call <;> rfl
  | drop ticket half =>
      change tasks.StaysShut (tasks.drop ticket half)
      unfold Tasks.drop
      split
      · refine ⟨?_, ?_, _, rfl, by simp [TunnelEvent.Final]⟩
        · cases half <;> exact ⟨shut.isOpen, shut.signals, shut.severed⟩
        · cases half <;> rfl
      · exact .refl shut
  | close =>
      rw [close_again shut]
      exact .refl shut
  | guacd change =>
      exact ⟨⟨shut.isOpen, shut.signals, shut.severed⟩, rfl, [],
        (List.append_nil _).symm, nofun⟩

theorem StaysShut.run (shut : tasks.tunnel.Shut) (steps : List (TunnelStep σ)) :
    tasks.StaysShut (tasks.run steps) := by
  induction steps generalizing tasks with
  | nil => exact .refl shut
  | cons step steps ih =>
      have first := StaysShut.step shut step
      exact first.trans (ih first.shut)

theorem step_isOpen (step : TunnelStep σ) (other : step ≠ .close) :
    (tasks.step step).tunnel.isOpen = tasks.tunnel.isOpen := by
  cases step with
  | call ticket call => exact call_isOpen ticket call
  | turn ticket =>
      change (tasks.turn ticket).tunnel.isOpen = _
      cases waits : tasks.shared.callOf ticket with
      | none =>
          unfold Tasks.turn
          rw [waits]
      | some call =>
          rw [turn_tunnel waits]
          exact call.poll_isOpen ticket tasks.tunnel
  | giveUp ticket =>
      change (tasks.giveUp ticket).tunnel.isOpen = _
      unfold Tasks.giveUp
      split
      · rfl
      · rename_i call waits
        cases call <;> rfl
  | drop ticket half =>
      change (tasks.drop ticket half).tunnel.isOpen = _
      unfold Tasks.drop
      split
      · cases half <;> rfl
      · rfl
  | close => exact absurd rfl other
  | guacd change => rfl

theorem step_agrees (agrees : tasks.tunnel.Agrees) (step : TunnelStep σ) :
    (tasks.step step).tunnel.Agrees := by
  intro closed
  cases before : tasks.tunnel.isOpen with
  | false => exact (StaysShut.step (agrees before) step).shut
  | true =>
      by_cases closes : step = .close
      · subst closes
        exact Tunnel.close_shut agrees
      · rw [step_isOpen step closes, before] at closed
        cases closed

theorem run_agrees (agrees : tasks.tunnel.Agrees) (steps : List (TunnelStep σ)) :
    (tasks.run steps).tunnel.Agrees := by
  induction steps generalizing tasks with
  | nil => exact agrees
  | cons step steps ih => exact ih (step_agrees agrees step)

/-- Whatever tasks have done with a tunnel, a close is final. From then on the
tunnel is not open; every read finds the end of the stream, whatever the reader
holds; whoever asks for the writer fails, and who has waited for it fails when its
turn comes; every write fails, also a flush and a write of nothing; guacd is sent
nothing; every answer that is given is one of a closed tunnel; and another close
changes nothing. -/
theorem close_final (uuid : Uuid) (connectionId : Option String) (stream : σ)
    (reader : FrameReader) (early late : List (TunnelStep σ)) :
    let used := (fresh uuid connectionId stream reader).run early
    let closed := used.step .close
    let later := closed.run late
    later.tunnel.isOpen = false ∧
      later.taken = used.taken ∧
      (∀ ticket, TunnelCall.read.poll ticket later.tunnel =
        (.inl (.received none), later.tunnel)) ∧
      (∀ ticket sending, ∃ reason, (TunnelCall.send sending).poll ticket later.tunnel =
        (.inl (.failed (.connectionClosed reason)), later.tunnel)) ∧
      (∀ ticket, ∃ reason, later.shared.join ticket .acquireWriter =
          .error (.connectionClosed reason) ∧
        TunnelCall.acquireWriter.poll ticket later.tunnel =
          if later.tunnel.writerLock.isHeldBy ticket then
            (.inl (.failed (.connectionClosed reason)),
              later.tunnel.releaseWriter ticket)
          else (.inr .acquireWriter, later.tunnel)) ∧
      (∃ events, later.events = closed.events ++ events ∧
        ∀ event ∈ events, event.Final) ∧
      later.step .close = later := by
  intro used closed later
  -- before the close nobody has been told that the tunnel is closed
  have agrees : used.tunnel.Agrees := run_agrees (by intro shut; cases shut) early
  have shut : closed.tunnel.Shut := Tunnel.close_shut agrees
  have kept : closed.taken = used.taken := (Tunnel.close_closes used.tunnel).taken
  have stays := StaysShut.run shut late
  refine ⟨stays.shut.isOpen, stays.taken.trans kept,
    TunnelCall.read_shut stays.shut, ?_, ?_, stays.events, ?_⟩
  · intro ticket sending
    exact ⟨_, TunnelCall.send_shut stays.shut sending ticket⟩
  · intro ticket
    refine ⟨_, ?_, TunnelCall.acquireWriter_shut stays.shut ticket⟩
    exact join_shut stays.shut ticket
  · exact close_again stays.shut

end Tasks

end TunnelRelay
