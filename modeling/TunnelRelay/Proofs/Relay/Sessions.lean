import TunnelRelay.Proofs.Frame.Forwarding
import TunnelRelay.Proofs.Relay.Tunnels
import TunnelRelay.WebSocket.Session

/-!
What WebSocket sessions send to guacd.

The handler of a session forwards one text message after another. What it has sent and what it has
still to send of a message are whole frames of the messages it has taken so far. As soon as it stops
to serve, nothing follows.
-/

namespace TunnelRelay.WebSocket

variable {σ : Type}

def texts (messages : List Incoming) : List Bytes :=
  messages.filterMap fun
    | .text data => some (Bytes.ofText data)
    | _ => none

theorem texts_append (messages more : List Incoming) :
    texts (messages ++ more) = texts messages ++ texts more :=
  List.filterMap_append

/-- Bytes that are frames which these messages bring for guacd. -/
def Brings (messages : List Incoming) (bytes : Bytes) : Prop :=
  Delivers (texts messages) bytes

theorem Brings.more {messages : List Incoming} {bytes : Bytes}
    (brings : Brings messages bytes) (more : List Incoming) :
    Brings (messages ++ more) bytes := by
  rw [Brings, texts_append]
  exact Delivers.append brings (texts more)

theorem Brings.front {messages : List Incoming} {bytes : Bytes}
    (brings : Brings messages bytes) :
    ∃ rest, Brings messages (bytes ++ rest) := by
  refine ⟨[], ?_⟩
  rw [List.append_nil]
  exact brings

namespace HandlerStage

/-- The handler still takes messages, or is busy with one. -/
def serves : HandlerStage → Bool
  | .leaving _ | .waiting _ | .finished => false
  | _ => true

def closed : HandlerStage → Bool
  | .waiting _ | .finished => true
  | _ => false

theorem not_closed_of_serves {stage : HandlerStage}
    (serves : stage.serves = true) : stage.closed = false := by
  cases stage with
  | waiting | finished => cases serves
  | listening | acquiring | sending | replying | leaving => rfl

def unsent : HandlerStage → Bytes
  | .sending _ current _ _ => current.unsent
  | _ => []

/-- How the writer's lock, the messages taken and the bytes sent fit to what
the handler does. -/
def Accounts (lock : Lock) (consumed : List Incoming) (taken : Bytes) :
    HandlerStage → Prop
  | .listening | .replying _ => lock = {} ∧ Brings consumed taken
  | .acquiring text => lock = ⟨some Session.handlerTicket, []⟩ ∧
      ∃ earlier, consumed = earlier ++ [.text text] ∧ Brings earlier taken
  | .sending _ current _ _ => lock = ⟨some Session.handlerTicket, []⟩ ∧
      Brings consumed (taken ++ current.unsent)
  | .leaving _ | .waiting _ | .finished =>
      ∃ rest, Brings consumed (taken ++ rest)

theorem Accounts.front {stage : HandlerStage} {lock : Lock}
    {consumed : List Incoming} {taken : Bytes}
    (accounts : stage.Accounts lock consumed taken) :
    ∃ rest, Brings consumed (taken ++ rest) := by
  cases stage with
  | listening => exact accounts.2.front
  | replying replies => exact accounts.2.front
  | acquiring text =>
      obtain ⟨-, earlier, rfl, brings⟩ := accounts
      exact (brings.more _).front
  | sending filtered current count size => exact ⟨_, accounts.2⟩
  | leaving status => exact accounts
  | waiting status => exact accounts
  | finished => exact accounts

theorem Accounts.whole {stage : HandlerStage} {lock : Lock}
    {consumed : List Incoming} {taken : Bytes}
    (accounts : stage.Accounts lock consumed taken)
    (serves : stage.serves = true) (nothing : stage.unsent = []) :
    Brings consumed taken := by
  cases stage with
  | listening => exact accounts.2
  | replying replies => exact accounts.2
  | acquiring text =>
      obtain ⟨-, earlier, rfl, brings⟩ := accounts
      exact brings.more _
  | sending filtered current count size =>
      have brings := accounts.2
      have none : current.unsent = [] := nothing
      rw [none, List.append_nil] at brings
      exact brings
  | leaving | waiting | finished => cases serves

end HandlerStage

namespace Session

/-- What holds of a session with a tunnel, and all messages it was sent. -/
structure Sound (session : Session (Recorded σ)) (tunnel : Tunnel (Recorded σ))
    (heard : List Incoming) : Prop where
  there : session.tunnel = some tunnel
  account : ∃ consumed, heard = consumed ++ session.inbound ∧
    session.handler.Accounts tunnel.writerLock consumed
      tunnel.backend.stream.taken
  serving : session.handler.serves = true →
    tunnel.isOpen = true ∧ tunnel.backend.live = true ∧
      tunnel.backend.stream.failed = false
  closed : session.handler.closed = true → tunnel.isOpen = false
  accepted : tunnel.backend.stream.waited = false →
    tunnel.backend.stream.failed = false →
    Brings heard tunnel.backend.stream.taken

/-- Between two moments a session stays sound. Once it does not serve any more,
nothing is sent, and once its tunnel is closed it stays closed. -/
structure Goes (before : Session (Recorded σ)) (tunnel : Tunnel (Recorded σ))
    (after : Session (Recorded σ)) (heard : List Incoming) : Prop where
  sound : ∃ next, after.Sound next heard ∧
    (before.handler.serves = false → after.handler.serves = false ∧
      next.backend.stream.taken = tunnel.backend.stream.taken) ∧
    (before.handler.closed = true → after.handler.closed = true)

theorem Sound.quiet {before after : Session (Recorded σ)}
    {tunnel next : Tunnel (Recorded σ)} {heard : List Incoming}
    (sound : before.Sound tunnel heard) (there : after.tunnel = some next)
    (handler : after.handler = before.handler)
    (inbound : after.inbound = before.inbound)
    (isOpen : next.isOpen = tunnel.isOpen)
    (lock : next.writerLock = tunnel.writerLock)
    (rests : tunnel.backend.Rests next.backend) :
    before.Goes tunnel after heard := by
  refine ⟨next, ⟨there, ?_, ?_, ?_, ?_⟩, ?_, ?_⟩
  · obtain ⟨consumed, split, account⟩ := sound.account
    refine ⟨consumed, ?_, ?_⟩
    · rw [inbound]
      exact split
    · rw [handler, lock, rests.taken]
      exact account
  · rw [handler, isOpen, rests.live, rests.failed]
    exact sound.serving
  · rw [handler, isOpen]
    exact sound.closed
  · rw [rests.waited, rests.failed, rests.taken]
    exact sound.accepted
  · intro stopped
    rw [handler]
    exact ⟨stopped, rests.taken⟩
  · rw [handler]
    exact id

theorem Sound.deliver {session : Session (Recorded σ)}
    {tunnel : Tunnel (Recorded σ)} {heard : List Incoming}
    (sound : session.Sound tunnel heard) (messages : List Incoming)
    (outbound : Outbound) :
    Goes session tunnel
      ({ session with outbound }.deliver messages) (heard ++ messages) := by
  refine ⟨tunnel, ⟨sound.there, ?_, sound.serving, sound.closed, ?_⟩,
    fun stopped => ⟨stopped, rfl⟩, id⟩
  · obtain ⟨consumed, split, account⟩ := sound.account
    refine ⟨consumed, ?_, account⟩
    rw [split, List.append_assoc]
    rfl
  · intro waited failed
    exact (sound.accepted waited failed).more messages

variable [Connection σ]

/-! ### The pump -/

theorem Sound.stepPump {session : Session (Recorded σ)}
    {tunnel : Tunnel (Recorded σ)} {heard : List Incoming}
    (sound : session.Sound tunnel heard) (metrics : Metrics) :
    Goes session tunnel (session.stepPump metrics).2.1 heard := by
  have same := Backend.Rests.refl tunnel.backend
  unfold Session.stepPump
  rw [sound.there]
  simp only
  cases session.pump.stage with
  | acquiring =>
      simp only [Tunnel.claimReader]
      split
      · exact sound.quiet sound.there rfl rfl rfl rfl same
      · rename_i claimed
        split at claimed
        · cases claimed
          exact sound.quiet rfl rfl rfl rfl rfl same
        · cases claimed
  | closing status => exact sound.quiet rfl rfl rfl rfl rfl same
  | finished status => exact sound.quiet sound.there rfl rfl rfl rfl same
  | reading =>
      obtain ⟨-, isOpen, lock, rests⟩ := tunnel.readFrame_rests
      cases reading : tunnel.readFrame with
      | mk outcome next =>
          rw [reading] at isOpen lock rests
          have drained : ∀ status, Goes session tunnel
              (({ session with tunnel := some next }.drainPump status
                metrics).2.1) heard := by
            intro status
            unfold Session.drainPump
            simp only
            split <;> exact sound.quiet rfl rfl rfl isOpen lock rests
          cases outcome with
          | parked => exact sound.quiet rfl rfl rfl isOpen lock rests
          | ready outcome =>
              cases outcome with
              | error error => exact drained _
              | ok frame =>
                  cases frame with
                  | none => exact drained _
                  | some frame =>
                      simp only [sendBatch]
                      split
                      · exact sound.quiet rfl rfl rfl isOpen lock rests
                      · split
                        · rename_i sent
                          simp only [Prod.mk.injEq] at sent
                          obtain ⟨-, rfl, rfl⟩ := sent
                          exact sound.quiet rfl rfl rfl isOpen lock rests
                        · rename_i sent
                          simp only [Prod.mk.injEq] at sent
                          obtain ⟨-, rfl, rfl⟩ := sent
                          exact sound.quiet rfl rfl rfl isOpen lock rests

/-! ### The handler -/

omit [Connection σ] in
theorem Goes.of_serving {before after : Session (Recorded σ)}
    {tunnel next : Tunnel (Recorded σ)} {heard : List Incoming}
    (serves : before.handler.serves = true) (sound : after.Sound next heard) :
    Goes before tunnel after heard := by
  refine ⟨next, sound, ?_, ?_⟩
  · intro stopped
    rw [serves] at stopped
    cases stopped
  · intro closed
    rw [HandlerStage.not_closed_of_serves serves] at closed
    cases closed

omit [Connection σ] in
theorem Sound.leaves {session : Session (Recorded σ)}
    {tunnel : Tunnel (Recorded σ)} {heard consumed : List Incoming}
    {status : Option Status} (there : session.tunnel = some tunnel)
    (stage : session.handler = .leaving status)
    (split : heard = consumed ++ session.inbound)
    (front : ∃ rest, Brings consumed (tunnel.backend.stream.taken ++ rest))
    (accepted : tunnel.backend.stream.waited = false →
      tunnel.backend.stream.failed = false →
      Brings heard tunnel.backend.stream.taken) :
    session.Sound tunnel heard := by
  refine ⟨there, ⟨consumed, split, ?_⟩, ?_, ?_, accepted⟩
  · rw [stage]
    exact front
  · intro serves
    rw [stage] at serves
    cases serves
  · intro closed
    rw [stage] at closed
    cases closed

/-- What holds of a tunnel while the handler serves, together with the messages
that it has taken. -/
structure Serving (session : Session (Recorded σ))
    (tunnel : Tunnel (Recorded σ)) (heard consumed : List Incoming) :
    Prop where
  split : heard = consumed ++ session.inbound
  isOpen : tunnel.isOpen = true
  live : tunnel.backend.live = true
  failed : tunnel.backend.stream.failed = false
  accepted : tunnel.backend.stream.waited = false →
    tunnel.backend.stream.failed = false →
    Brings heard tunnel.backend.stream.taken

omit [Connection σ] in
theorem Serving.sound {session after : Session (Recorded σ)}
    {tunnel : Tunnel (Recorded σ)} {heard consumed : List Incoming}
    (serving : Serving session tunnel heard consumed)
    (there : after.tunnel = some tunnel)
    (inbound : after.inbound = session.inbound)
    (account : after.handler.Accounts tunnel.writerLock consumed
      tunnel.backend.stream.taken)
    (serves : after.handler.serves = true) : after.Sound tunnel heard := by
  refine ⟨there, ⟨consumed, ?_, account⟩,
    fun _ => ⟨serving.isOpen, serving.live, serving.failed⟩, ?_,
    serving.accepted⟩
  · rw [inbound]
    exact serving.split
  · intro closed
    rw [HandlerStage.not_closed_of_serves serves] at closed
    cases closed

omit [Connection σ] in
theorem Serving.forwarded {session : Session (Recorded σ)}
    {tunnel : Tunnel (Recorded σ)} {heard consumed : List Incoming}
    (serving : Serving session tunnel heard consumed)
    (lock : tunnel.writerLock = ⟨some handlerTicket, []⟩)
    (brings : Brings consumed tunnel.backend.stream.taken)
    (filtered : FilteredWriter (List Instruction)) (count size : Nat)
    (metrics : Metrics) :
    ∃ next, (session.forwarded tunnel filtered count size metrics).2.1.Sound
      next heard := by
  have released : (tunnel.releaseWriter handlerTicket).writerLock = {} := by
    rw [Tunnel.releaseWriter, lock]
    rfl
  have again : Serving session (tunnel.releaseWriter handlerTicket) heard
      consumed :=
    ⟨serving.split, serving.isOpen, serving.live, serving.failed,
      serving.accepted⟩
  refine ⟨tunnel.releaseWriter handlerTicket, ?_⟩
  unfold Session.forwarded
  simp only
  split
  · exact Sound.leaves rfl rfl serving.split brings.front serving.accepted
  · exact again.sound rfl rfl ⟨released, brings⟩ rfl

omit [Connection σ] in
theorem Serving.forward {session : Session (Recorded σ)}
    {tunnel : Tunnel (Recorded σ)} {heard earlier : List Incoming}
    {text : String}
    (serving : Serving session tunnel heard (earlier ++ [.text text]))
    (lock : tunnel.writerLock = ⟨some handlerTicket, []⟩)
    (brings : Brings earlier tunnel.backend.stream.taken)
    (metrics : Metrics) :
    ∃ next, (session.forward tunnel text metrics).2.1.Sound next heard := by
  have seen := FilteredWriter.hasSeen_nil.accept (Bytes.ofText text)
  unfold Session.forward
  simp only
  split
  · exact ⟨tunnel.releaseWriter handlerTicket, Sound.leaves rfl rfl
      serving.split (brings.more _).front serving.accepted⟩
  · rename_i passed filtered accepting
    rw [accepting] at seen
    rcases seen with ⟨error, impossible, -⟩ | ⟨again, new, given, -, more, text_⟩
    · cases impossible
    · cases given
      rw [List.nil_append, forwardable_nil, List.nil_append] at more
      have whole : Brings (earlier ++ [.text text])
          (tunnel.backend.stream.taken ++ Bytes.ofText passed.text) := by
        obtain ⟨frames, conveyed, -, same⟩ := brings
        have further : Conveys (texts (earlier ++ [.text text]))
            (frames ++ new) := by
          rw [texts_append]
          apply conveyed.append
          apply Conveys.single
          simp only [more, List.prefix_rfl]
        apply further.delivers
        rw [Frame.received_append, same, text_]
      split
      · rename_i silent
        rw [FilteredWriter.sending?_none silent, List.append_nil] at whole
        exact serving.forwarded lock whole filtered _ _ metrics
      · rename_i sending starts
        refine ⟨tunnel, serving.sound rfl rfl ⟨lock, ?_⟩ rfl⟩
        rw [FilteredWriter.sending?_some starts]
        exact whole

omit [Connection σ] in
theorem Sound.served {session : Session (Recorded σ)}
    {tunnel : Tunnel (Recorded σ)} {heard : List Incoming}
    (sound : session.Sound tunnel heard)
    (serves : session.handler.serves = true) :
    ∃ consumed, Serving session tunnel heard consumed ∧
      session.handler.Accounts tunnel.writerLock consumed
        tunnel.backend.stream.taken := by
  obtain ⟨consumed, split, account⟩ := sound.account
  obtain ⟨isOpen, live, failed⟩ := sound.serving serves
  exact ⟨consumed, ⟨split, isOpen, live, failed, sound.accepted⟩, account⟩

omit [Connection σ] in
theorem Sound.listen {session : Session (Recorded σ)}
    {tunnel : Tunnel (Recorded σ)} {heard : List Incoming}
    (sound : session.Sound tunnel heard)
    (stage : session.handler = .listening) (heeds : Bool)
    (metrics : Metrics) :
    Goes session tunnel (session.listen tunnel heeds metrics).2.1 heard := by
  have serves : session.handler.serves = true := by
    rw [stage]
    rfl
  obtain ⟨consumed, serving, account⟩ := sound.served serves
  rw [stage] at account
  obtain ⟨lock, brings⟩ := account
  unfold Session.listen
  split
  · exact Goes.of_serving serves (Sound.leaves sound.there rfl serving.split
      brings.front serving.accepted)
  · exact sound.quiet sound.there rfl rfl rfl rfl (Backend.Rests.refl _)
  · rename_i message inbound _ arrived
    have split_ : heard = (consumed ++ [message]) ++ inbound := by
      rw [List.append_assoc, serving.split, arrived]
      rfl
    have goes : Serving { session with inbound } tunnel heard
        (consumed ++ [message]) :=
      ⟨split_, serving.isOpen, serving.live, serving.failed, serving.accepted⟩
    unfold Session.hear
    cases message with
    | text text =>
        -- only the handler ever asks for the writer, so it gets it at once
        have asked : tunnel.requestWriter handlerTicket = .ok { tunnel with
            writerLock := tunnel.writerLock.request handlerTicket } := by
          rw [Tunnel.requestWriter, if_pos serving.isOpen]
        simp only [asked]
        have joined : Serving { session with inbound }
            { tunnel with
              writerLock := tunnel.writerLock.request handlerTicket }
            heard (consumed ++ [.text text]) :=
          ⟨split_, serving.isOpen, serving.live, serving.failed,
            serving.accepted⟩
        have held : tunnel.writerLock.request handlerTicket =
            ⟨some handlerTicket, []⟩ := by
          rw [lock]
          rfl
        exact Goes.of_serving serves
          (joined.sound rfl rfl ⟨held, consumed, rfl, brings⟩ rfl)
    | ping data | pong data =>
        refine Goes.of_serving serves (goes.sound sound.there rfl ?_ serves)
        simp only
        rw [stage]
        exact ⟨lock, brings.more _⟩
    | binary =>
        exact Goes.of_serving serves (Sound.leaves sound.there rfl split_
          (brings.more _).front serving.accepted)
    | close =>
        exact Goes.of_serving serves (Sound.leaves sound.there rfl split_
          (brings.more _).front serving.accepted)
    | lost =>
        exact Goes.of_serving serves (Sound.leaves sound.there rfl split_
          (brings.more _).front serving.accepted)

theorem Sound.send {session : Session (Recorded σ)}
    {tunnel : Tunnel (Recorded σ)} {heard : List Incoming}
    {filtered : FilteredWriter (List Instruction)} {sending : Sending}
    {count size : Nat} (sound : session.Sound tunnel heard)
    (stage : session.handler = .sending filtered sending count size)
    (heeds : Bool)
    (metrics : Metrics) :
    Goes session tunnel (session.stepHandler heeds metrics).2.1 heard := by
  have serves : session.handler.serves = true := by
    rw [stage]
    rfl
  obtain ⟨consumed, serving, account⟩ := sound.served serves
  rw [stage] at account
  obtain ⟨lock, brings⟩ := account
  simp only [Session.stepHandler, sound.there, stage]
  cases sent : tunnel.send sending with
  | mk outcome next =>
      obtain ⟨-, isOpen, locked, gone, left, split, advances, ends_⟩ :=
        Tunnel.send_advances sent
      have total : next.backend.stream.taken ++ left =
          tunnel.backend.stream.taken ++ sending.unsent := by
        rw [advances.taken, split, List.append_assoc]
      have rest : Brings consumed (next.backend.stream.taken ++ left) := by
        rw [total]
        exact brings
      have lock_ : next.writerLock = ⟨some handlerTicket, []⟩ :=
        locked.trans lock
      have open_ : next.isOpen = true := isOpen.trans serving.isOpen
      have live : next.backend.live = true :=
        advances.live.trans serving.live
      cases outcome with
      | done =>
          obtain ⟨rfl, failed⟩ := ends_
          rw [List.append_nil] at rest
          have whole : Brings heard next.backend.stream.taken := by
            rw [serving.split]
            exact rest.more _
          have done : Serving session next heard consumed :=
            ⟨serving.split, open_, live, failed.trans serving.failed,
              fun _ _ => whole⟩
          obtain ⟨later, sound_⟩ :=
            done.forwarded lock_ rest filtered count size metrics
          exact Goes.of_serving serves sound_
      | parked more =>
          obtain ⟨rfl, waited, failed⟩ := ends_
          have parked : Serving session next heard consumed := by
            refine ⟨serving.split, open_, live, failed.trans serving.failed, ?_⟩
            intro never
            rw [waited] at never
            cases never
          exact Goes.of_serving serves
            (parked.sound rfl rfl ⟨lock_, rest⟩ rfl)
      | failed error =>
          obtain ⟨-, cause⟩ := ends_
          -- the connection was not released while the handler served, so the stream has failed
          have failed : next.backend.stream.failed = true := by
            rcases cause with failed | released
            · exact failed
            · rw [serving.live] at released
              cases released
          refine Goes.of_serving serves (Sound.leaves rfl rfl serving.split
            ⟨left, rest⟩ ?_)
          intro _ sound_
          exact absurd (failed.symm.trans sound_) (by decide)

theorem Sound.acquire {session : Session (Recorded σ)}
    {tunnel : Tunnel (Recorded σ)} {heard : List Incoming} {text : String}
    (sound : session.Sound tunnel heard)
    (stage : session.handler = .acquiring text) (heeds : Bool)
    (metrics : Metrics) :
    Goes session tunnel (session.stepHandler heeds metrics).2.1 heard := by
  have serves : session.handler.serves = true := by
    rw [stage]
    rfl
  obtain ⟨consumed, serving, account⟩ := sound.served serves
  rw [stage] at account
  obtain ⟨lock, earlier, rfl, brings⟩ := account
  have held : tunnel.writerLock.isHeldBy handlerTicket = true := by
    rw [lock]
    rfl
  have turn : tunnel.claimWriter handlerTicket = (.ready (.ok ()), tunnel) := by
    rw [Tunnel.claimWriter, if_pos held, if_pos serving.isOpen]
  simp only [Session.stepHandler, sound.there, stage, turn]
  obtain ⟨next, sound_⟩ := serving.forward lock brings metrics
  exact Goes.of_serving serves sound_

theorem Sound.reply {session : Session (Recorded σ)}
    {tunnel : Tunnel (Recorded σ)} {heard : List Incoming}
    {replies : List Instruction} (sound : session.Sound tunnel heard)
    (stage : session.handler = .replying replies) (heeds : Bool)
    (metrics : Metrics) :
    Goes session tunnel (session.stepHandler heeds metrics).2.1 heard := by
  have serves : session.handler.serves = true := by
    rw [stage]
    rfl
  obtain ⟨consumed, serving, account⟩ := sound.served serves
  rw [stage] at account
  simp only [Session.stepHandler, sound.there, stage]
  cases replies with
  | nil => exact Goes.of_serving serves (serving.sound rfl rfl account rfl)
  | cons reply replies =>
      simp only
      split
      · exact Goes.of_serving serves (serving.sound rfl rfl account rfl)
      · exact Goes.of_serving serves (Sound.leaves rfl rfl serving.split
          account.2.front serving.accepted)

theorem Sound.leave {session : Session (Recorded σ)}
    {tunnel : Tunnel (Recorded σ)} {heard : List Incoming}
    {status : Option Status} (sound : session.Sound tunnel heard)
    (stage : session.handler = .leaving status) (heeds : Bool)
    (metrics : Metrics) :
    Goes session tunnel (session.stepHandler heeds metrics).2.1 heard := by
  have closes := tunnel.close_closes
  obtain ⟨consumed, split, account⟩ := sound.account
  rw [stage] at account
  simp only [Session.stepHandler, sound.there, stage]
  refine ⟨tunnel.close, ⟨rfl, ⟨consumed, split, ?_⟩, ?_, fun _ => closes.isOpen,
    ?_⟩, fun _ => ⟨rfl, closes.taken⟩, fun _ => rfl⟩
  · rw [closes.taken]
    exact account
  · intro impossible
    cases impossible
  · rw [closes.waited, closes.failed, closes.taken]
    exact sound.accepted

theorem Sound.wait {session : Session (Recorded σ)}
    {tunnel : Tunnel (Recorded σ)} {heard : List Incoming}
    {status : Option Status} (sound : session.Sound tunnel heard)
    (stage : session.handler = .waiting status) (heeds : Bool)
    (metrics : Metrics) :
    Goes session tunnel (session.stepHandler heeds metrics).2.1 heard := by
  have shut : tunnel.isOpen = false := by
    apply sound.closed
    rw [stage]
    rfl
  obtain ⟨consumed, split, account⟩ := sound.account
  rw [stage] at account
  simp only [Session.stepHandler, sound.there, stage]
  split
  · refine ⟨tunnel, ⟨rfl, ⟨consumed, split, account⟩, ?_, fun _ => shut,
      sound.accepted⟩, fun _ => ⟨rfl, rfl⟩, fun _ => rfl⟩
    intro impossible
    cases impossible
  · exact sound.quiet sound.there rfl rfl rfl rfl (Backend.Rests.refl _)

theorem Sound.stepHandler {session : Session (Recorded σ)}
    {tunnel : Tunnel (Recorded σ)} {heard : List Incoming}
    (sound : session.Sound tunnel heard) (heeds : Bool)
    (metrics : Metrics) :
    Goes session tunnel (session.stepHandler heeds metrics).2.1 heard := by
  cases stage : session.handler with
  | listening =>
      simp only [Session.stepHandler, sound.there, stage]
      exact sound.listen stage heeds metrics
  | acquiring text => exact sound.acquire stage heeds metrics
  | sending filtered sending count size => exact sound.send stage heeds metrics
  | replying replies => exact sound.reply stage heeds metrics
  | leaving status => exact sound.leave stage heeds metrics
  | waiting status => exact sound.wait stage heeds metrics
  | finished =>
      simp only [Session.stepHandler, sound.there, stage]
      exact sound.quiet sound.there rfl rfl rfl rfl (Backend.Rests.refl _)

/-! ### Whatever happens to a session -/

inductive Step : Session (Recorded σ) → List Incoming →
    Session (Recorded σ) → List Incoming → Prop
  | rest (session : Session (Recorded σ)) (heard : List Incoming) :
      Step session heard session heard
  | pump (session : Session (Recorded σ)) (heard : List Incoming)
      (metrics : Metrics) :
      Step session heard (session.stepPump metrics).2.1 heard
  | handler (session : Session (Recorded σ)) (heard : List Incoming)
      (heeds : Bool) (metrics : Metrics) :
      Step session heard (session.stepHandler heeds metrics).2.1 heard
  | deliver (session : Session (Recorded σ)) (heard messages : List Incoming)
      (outbound : Outbound) :
      Step session heard ({ session with outbound }.deliver messages)
        (heard ++ messages)
  /-- guacd does something to the connection. -/
  | guacd (session : Session (Recorded σ)) (heard : List Incoming)
      (tunnel : Option (Tunnel (Recorded σ))) (change : σ → σ)
      (changed : tunnel =
        session.tunnel.map (·.onStream (Recorded.onStream change))) :
      Step session heard { session with tunnel } heard

theorem Sound.step {session later : Session (Recorded σ)}
    {tunnel : Tunnel (Recorded σ)} {heard known : List Incoming}
    (sound : session.Sound tunnel heard)
    (step : Step session heard later known) :
    Goes session tunnel later known := by
  cases step with
  | rest =>
      exact sound.quiet sound.there rfl rfl rfl rfl (Backend.Rests.refl _)
  | pump metrics => exact sound.stepPump metrics
  | handler heeds metrics => exact sound.stepHandler heeds metrics
  | deliver messages outbound => exact sound.deliver messages outbound
  | guacd next change changed =>
      rw [sound.there] at changed
      exact sound.quiet changed rfl rfl rfl rfl ⟨rfl, rfl, rfl, rfl⟩

theorem Step.refused {session later : Session (Recorded σ)}
    {heard known : List Incoming} (step : Step session heard later known)
    (none : session.tunnel = none) : later.tunnel = .none := by
  cases step with
  | rest => exact none
  | pump metrics =>
      unfold Session.stepPump
      rw [none]
      exact none
  | handler heeds metrics =>
      unfold Session.stepHandler
      rw [none]
      exact none
  | deliver messages outbound => exact none
  | guacd next change changed =>
      rw [none] at changed
      exact changed

theorem start_sound {connected : Except RelayError (Tunnel (Recorded σ))}
    (new : ∀ tunnel, connected = .ok tunnel → tunnel.isOpen = true ∧
      tunnel.backend.live = true ∧ tunnel.writerLock = {} ∧
      tunnel.backend.stream.taken = [] ∧
      tunnel.backend.stream.failed = false)
    (bufferSize : Nat) (metrics : Metrics) (tunnel : Tunnel (Recorded σ))
    (there : (Session.start connected bufferSize {} metrics).1.tunnel =
      some tunnel) :
    (Session.start connected bufferSize {} metrics).1.Sound tunnel [] := by
  cases connected with
  | error error => cases there
  | ok opened =>
      obtain ⟨isOpen, live, lock, taken, failed⟩ := new opened rfl
      have nothing : Brings [] opened.backend.stream.taken :=
        (Conveys.silent (texts [])).delivers taken
      cases there
      refine ⟨rfl, ⟨[], rfl, lock, nothing⟩, fun _ => ⟨isOpen, live, failed⟩,
        ?_, fun _ _ => nothing⟩
      intro impossible
      cases impossible

/-! ### What guacd may rely on -/

/-- guacd has been sent the beginning of whole frames that the messages bring
for it. They are whole while the handler serves and is not in the middle of a
message, and also if the connection has taken everything at once. If the
connection has failed, the handler has stopped to serve; then the tunnel is
closed, or this is what the handler does next. -/
structure Faithful (session : Session (Recorded σ)) (tunnel : Tunnel (Recorded σ))
    (heard : List Incoming) : Prop where
  front : ∃ rest, Delivers (texts heard) (tunnel.backend.stream.taken ++ rest)
  whole : session.handler.serves = true → session.handler.unsent = [] →
    Delivers (texts heard) tunnel.backend.stream.taken
  accepted : tunnel.backend.stream.waited = false →
    tunnel.backend.stream.failed = false →
    Delivers (texts heard) tunnel.backend.stream.taken
  failed : tunnel.backend.stream.failed = true →
    session.handler.serves = false
  stopped : session.handler.serves = false →
    tunnel.isOpen = false ∨ ∃ status, session.handler = .leaving status

omit [Connection σ] in
theorem Sound.faithful {session : Session (Recorded σ)}
    {tunnel : Tunnel (Recorded σ)} {heard : List Incoming}
    (sound : session.Sound tunnel heard) : session.Faithful tunnel heard := by
  obtain ⟨consumed, rfl, account⟩ := sound.account
  refine ⟨?_, ?_, sound.accepted, ?_, ?_⟩
  · obtain ⟨rest, brings⟩ := account.front
    exact ⟨rest, brings.more _⟩
  · intro serves nothing
    exact (account.whole serves nothing).more _
  · intro failed
    cases serves : session.handler.serves with
    | false => rfl
    | true =>
        rw [(sound.serving serves).2.2] at failed
        cases failed
  · intro stopped
    cases stage : session.handler with
    | leaving status => exact Or.inr ⟨status, rfl⟩
    | waiting | finished =>
        left
        apply sound.closed
        rw [stage]
        rfl
    | listening | acquiring | sending | replying =>
        rw [stage] at stopped
        cases stopped

end Session

end TunnelRelay.WebSocket
