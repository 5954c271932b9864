import TunnelRelay.Proofs.Relay.Tunnels
import TunnelRelay.Proofs.Stream.Tapped
import TunnelRelay.LongPoll.Write

/-!
What a tunnel has for its browser.

An inlet is the part of a registered tunnel that reads work on: the reader, the outbox, and the lock
of the reader, with all that has arrived from guacd. Only reads change readers and their locks.
Writes change nothing but an outbox, which they push replies into; closing a tunnel changes no
inlet at all.
-/

namespace TunnelRelay

open LongPoll

variable {σ : Type}

structure Inlet where
  reader : FrameReader
  /-- All bytes that have come from guacd. -/
  arrived : Bytes
  outbox : Outbox
  /-- Who may use the reader, and who wants to. -/
  lock : Lock

namespace Inlet

def push (inlet : Inlet) (replies : List Instruction) : Inlet :=
  { inlet with outbox := inlet.outbox.push replies }

def request (inlet : Inlet) (ticket : Ticket) : Inlet :=
  { inlet with lock := inlet.lock.request ticket }

def withdraw (inlet : Inlet) (ticket : Ticket) : Inlet :=
  { inlet with lock := inlet.lock.withdraw ticket }

def queue (inlet : Inlet) : List Instruction :=
  inlet.outbox.queue

@[simp] theorem push_nil (inlet : Inlet) : inlet.push [] = inlet := rfl

theorem push_queue (inlet : Inlet) (replies : List Instruction) :
    (inlet.push replies).queue = inlet.queue ++ replies := by
  cases replies with
  | nil => exact (List.append_nil _).symm
  | cons reply replies => rfl

end Inlet

def RegisteredTunnel.inlet (registered : RegisteredTunnel (Recorded (Tapped σ))) :
    Inlet where
  reader := registered.tunnel.reader
  arrived := registered.tunnel.backend.arrived
  outbox := registered.outbox
  lock := registered.tunnel.readerLock

namespace Registry

/-- The inlets of all tunnels, by number. -/
def inlets (registry : Registry (Recorded (Tapped σ))) : List Inlet :=
  registry.tunnels.map (·.inlet)

theorem inlets_getElem? (registry : Registry (Recorded (Tapped σ)))
    (number : Nat) :
    registry.inlets[number]? = (registry.tunnel? number).map (·.inlet) :=
  List.getElem?_map

variable {registry : Registry (Recorded (Tapped σ))} {number : Nat}

theorem inlets_update {act : Inlet → Inlet}
    {change : RegisteredTunnel (Recorded (Tapped σ)) →
      RegisteredTunnel (Recorded (Tapped σ))}
    (acts : ∀ registered, registry.tunnel? number = some registered →
      (change registered).inlet = act registered.inlet) :
    (registry.update number change).inlets =
      registry.inlets.modify number act :=
  registry.map_update number acts

theorem inlets_rest
    {change : RegisteredTunnel (Recorded (Tapped σ)) →
      RegisteredTunnel (Recorded (Tapped σ))}
    (rests : ∀ registered, registry.tunnel? number = some registered →
      (change registered).inlet = registered.inlet) :
    (registry.update number change).inlets = registry.inlets :=
  registry.map_update_rest number rests

theorem inlets_put (tunnel : Tunnel (Recorded (Tapped σ))) (token : String) :
    (registry.put tunnel token).inlets = registry.inlets ++
      [{ reader := tunnel.reader
         arrived := tunnel.backend.arrived
         outbox := {}
         lock := tunnel.readerLock }] := by
  unfold inlets put
  rw [List.map_append, List.map_map]
  congr 1
  apply List.map_congr_left
  intro registered _
  simp only [Function.comp]
  split <;> rfl

theorem inlets_guacd (change : σ → σ) :
    (registry.onTunnel number
      (·.onStream (Recorded.onStream (Tapped.onStream change)))).inlets =
        registry.inlets :=
  inlets_rest fun _ _ => rfl

theorem inlets_get (uuid : Uuid) :
    (registry.get uuid).2.inlets = registry.inlets := by
  unfold get
  split
  · rfl
  · exact inlets_rest fun _ _ => rfl

theorem inlets_lookUp (uuid : Uuid) (token : Option String) [Connection σ] :
    (lookUp registry uuid token).2.inlets = registry.inlets :=
  inlets_get uuid

variable [Connection σ]

theorem inlet_closed (registered : RegisteredTunnel (Recorded (Tapped σ))) :
    (closed registered).inlet = registered.inlet := by
  unfold closed RegisteredTunnel.inlet Tunnel.close
  simp only
  split
  · unfold Backend.release Backend.arrived
    simp only
    split <;> rfl
  · rfl

theorem inlets_close (uuid : Uuid) (status : Status) :
    (registry.close uuid status).2.inlets = registry.inlets := by
  unfold close
  split
  · rfl
  · exact inlets_rest fun registered _ => inlet_closed registered

theorem inlets_closeIdle : registry.closeIdle.2.inlets = registry.inlets :=
  closeIdle_induction (·.inlets = registry.inlets)
    (fun _ uuid same => (inlets_close uuid .sessionTimeout).trans same)
    registry rfl

/-- Replies join the outbox of one tunnel, if any do. -/
def Queues (number : Nat) (before after : Registry (Recorded (Tapped σ))) :
    Prop :=
  ∃ replies, after.inlets = before.inlets.modify number (·.push replies)

omit [Connection σ] in
theorem queues_of_same {before after : Registry (Recorded (Tapped σ))}
    (same : after.inlets = before.inlets) : Queues number before after := by
  refine ⟨[], ?_⟩
  change after.inlets = before.inlets.modify number id
  rw [same, List.modify_id]

omit [Connection σ] in
theorem Queues.behind {first second third : Registry (Recorded (Tapped σ))}
    (same : second.inlets = first.inlets)
    (queues : Queues number second third) : Queues number first third := by
  obtain ⟨replies, pushed⟩ := queues
  rw [same] at pushed
  exact ⟨replies, pushed⟩

end Registry

/-! ### Writes -/

namespace LongPoll.Write

variable [Connection σ] {registry : Registry (Recorded (Tapped σ))}

theorem inlets_fail (write : Write) (uuid : Uuid) (error : RelayError)
    (answer : Http.Answer) :
    (write.fail uuid error answer registry).2.2.2.inlets = registry.inlets := by
  have released : (registry.onTunnel write.tunnel
      (·.releaseWriter write.ticket)).inlets = registry.inlets :=
    Registry.inlets_rest fun _ _ => rfl
  unfold Write.fail
  simp only
  split
  · exact released
  · exact (Registry.inlets_close uuid error.status).trans released

theorem inlets_finish (write : Write) (uuid : Uuid) (answer : Http.Answer) :
    (write.finish uuid answer registry).2.2.2.inlets = registry.inlets := by
  unfold Write.finish
  split
  · exact write.inlets_fail uuid _ answer
  · exact Registry.inlets_rest fun _ _ => rfl

omit [Connection σ] in
theorem queues_forwarded (write : Write) (count size : Nat)
    (answer : Http.Answer) :
    Registry.Queues write.tunnel registry
      (write.forwarded count size answer registry).2.2.2 := by
  unfold Write.forwarded
  simp only
  split
  · exact Registry.queues_of_same rfl
  · exact ⟨write.filtered.memory, Registry.inlets_update fun _ _ => rfl⟩

theorem queues_accept (write : Write) (uuid : Uuid) (data : Bytes)
    (answer : Http.Answer) :
    Registry.Queues write.tunnel registry
      (write.accept uuid data answer registry).2.2.2 := by
  unfold Write.accept
  split
  · exact Registry.queues_of_same (inlets_fail _ uuid _ answer)
  · rename_i passed filtered accepted
    simp only
    split
    · exact queues_forwarded { write with filtered } _ _ answer
    · exact Registry.queues_of_same rfl

omit [Connection σ] in
theorem inlet_claim {tunnel next : Tunnel (Recorded (Tapped σ))}
    {outcome : Poll (Except RelayError Unit)} {ticket : Ticket}
    (claim : tunnel.claimWriter ticket = (outcome, next)) :
    next = { tunnel with writerLock := next.writerLock } := by
  unfold Tunnel.claimWriter at claim
  split at claim
  · split at claim <;> cases claim <;> rfl
  · cases claim
    rfl

theorem inlet_send {registered : RegisteredTunnel (Recorded (Tapped σ))}
    {next : Tunnel (Recorded (Tapped σ))} {sending : Sending} {sent : Sent}
    (done : registered.tunnel.send sending = (sent, next)) :
    RegisteredTunnel.inlet { registered with tunnel := next } =
      registered.inlet := by
  unfold Tunnel.send at done
  have kept :=
    Backend.keepsWriting_arrived.poll sending registered.tunnel.backend
  cases polled : sending.poll registered.tunnel.backend with
  | mk outcome backend =>
      rw [polled] at done kept
      cases done
      simp only [RegisteredTunnel.inlet, kept]

/-- A step of a write only pushes replies, if anything. -/
theorem step_queues (write : Write) (body : List BodyEvent)
    (answer : Http.Answer) :
    Registry.Queues write.tunnel registry
      (write.step body answer registry).1.2.2.2 := by
  unfold Write.step
  cases found : registry.tunnel? write.tunnel with
  | none => exact Registry.queues_of_same rfl
  | some registered =>
      have stored : ∀ tunnel : Tunnel (Recorded (Tapped σ)),
          RegisteredTunnel.inlet { registered with tunnel } =
            registered.inlet →
          (registry.onTunnel write.tunnel fun _ => tunnel).inlets =
            registry.inlets := by
        intro tunnel same
        apply Registry.inlets_rest
        intro other there
        rw [found] at there
        cases there
        exact same
      simp only
      split
      · split
        · exact Registry.queues_of_same rfl
        · rename_i error tunnel claim
          apply Registry.queues_of_same
          refine (write.inlets_fail _ error answer).trans (stored tunnel ?_)
          rw [inlet_claim claim]
          rfl
        · rename_i tunnel claim
          apply Registry.queues_of_same
          apply stored tunnel
          rw [inlet_claim claim]
          rfl
      · split
        · exact Registry.queues_of_same rfl
        · exact Registry.queues_of_same (write.inlets_fail _ _ answer)
        · exact Registry.queues_of_same (write.inlets_finish _ answer)
        · split
          · exact write.queues_accept _ _ answer
          · exact Registry.queues_of_same (write.inlets_finish _ answer)
      · split
        · rename_i tunnel sent
          exact (write.queues_forwarded _ _ answer).behind
            (stored tunnel (inlet_send sent))
        · rename_i error tunnel sent
          exact Registry.queues_of_same ((write.inlets_fail _ error answer).trans
            (stored tunnel (inlet_send sent)))
        · rename_i left tunnel sent
          exact Registry.queues_of_same (stored tunnel (inlet_send sent))
      · exact Registry.queues_of_same rfl

omit [Connection σ] in
theorem inlets_start {ticket : Ticket} {number : Nat} {write : Write}
    {next : Registry (Recorded (Tapped σ))}
    (started : Write.start ticket number registry = .ok (write, next)) :
    next.inlets = registry.inlets := by
  unfold Write.start at started
  cases found : registry.tunnel? number with
  | none =>
      simp only [found] at started
      cases started
      rfl
  | some registered =>
      simp only [found, Tunnel.requestWriter] at started
      split at started
      · cases started
        apply Registry.inlets_rest
        intro other there
        rw [found] at there
        cases there
        rfl
      · cases started

omit [Connection σ] in
theorem inlets_abandon (write : Write) :
    (write.abandon registry).inlets = registry.inlets :=
  Registry.inlets_rest fun _ _ => rfl

end LongPoll.Write

end TunnelRelay
