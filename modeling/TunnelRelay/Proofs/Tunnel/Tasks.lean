import TunnelRelay.Proofs.Lock
import TunnelRelay.Proofs.Stream.Recorded
import TunnelRelay.Tunnel.Calls

/-!
Everything that tasks can do with a tunnel, one step at a time.

A step is a task that begins a call, goes on with it, gives it up or drops a guard, or it is
something that happens to the tunnel, in any order. A ticket stands for one guard of the reader and
one of the writer at a time, from the moment its task asks for it. What the tasks have done and
were answered is kept as a list of events.
-/

namespace TunnelRelay

/-- Something that is done with a tunnel, or that happens to it. -/
inductive TunnelStep (σ : Type) where
  /-- A task begins a call. -/
  | call (ticket : Ticket) (call : TunnelCall)
  /-- The call that a task waits for goes on. -/
  | turn (ticket : Ticket)
  /-- A task gives up the call that it waits for. -/
  | giveUp (ticket : Ticket)
  /-- A task drops its guard of the reader or of the writer. -/
  | drop (ticket : Ticket) (half : Half)
  | close
  /-- guacd does something to the connection. -/
  | guacd (change : σ → σ)

/-- What a task has done, or was answered. -/
inductive TunnelEvent where
  | called (ticket : Ticket) (call : TunnelCall)
  | answered (ticket : Ticket) (call : TunnelCall) (reply : TunnelReply)
  | gaveUp (ticket : Ticket) (call : TunnelCall)
  | dropped (ticket : Ticket) (half : Half)

/-- A tunnel that tasks share, and what they have done with it. -/
structure Tasks (σ : Type) where
  shared : SharedTunnel (Recorded σ)
  events : List TunnelEvent := []

namespace SharedTunnel

variable {σ : Type}

def callOf (shared : SharedTunnel σ) (ticket : Ticket) : Option TunnelCall :=
  shared.waiting.lookup ticket

def holds (shared : SharedTunnel σ) (ticket : Ticket) : Half → Bool
  | .reading => shared.holdsReader ticket
  | .writing => shared.holdsWriter ticket

def hasAlready (shared : SharedTunnel σ) (ticket : Ticket) : TunnelCall → Bool
  | .acquireReader => shared.holds ticket .reading
  | .acquireWriter => shared.holds ticket .writing
  | _ => false

def admits (shared : SharedTunnel σ) (ticket : Ticket) (call : TunnelCall) : Bool :=
  !shared.isBusy ticket && shared.permits ticket call &&
    !shared.hasAlready ticket call

def without (shared : SharedTunnel σ) (ticket : Ticket) : SharedTunnel σ :=
  { shared with waiting := shared.waiting.filter (·.1 != ticket) }

end SharedTunnel

namespace Tasks

variable {σ : Type}

def tunnel (tasks : Tasks σ) : Tunnel (Recorded σ) :=
  tasks.shared.tunnel

def taken (tasks : Tasks σ) : Bytes :=
  tasks.tunnel.backend.stream.taken

/-- The tasks of a tunnel that nobody has used. Its reader may hold data. -/
def fresh (uuid : Uuid) (connectionId : Option String) (stream : σ)
    (reader : FrameReader) : Tasks σ where
  shared.tunnel :=
    { uuid, connectionId, reader, backend.stream.stream := stream }

def call (ticket : Ticket) (call : TunnelCall) (tasks : Tasks σ) : Tasks σ :=
  if tasks.shared.admits ticket call then
    match tasks.shared.join ticket call with
    | .error error =>
        { shared := tasks.shared.reply ticket (.failed error)
          events := tasks.events ++
            [.called ticket call, .answered ticket call (.failed error)] }
    | .ok tunnel =>
        { shared := { tasks.shared with
            tunnel, waiting := tasks.shared.waiting ++ [(ticket, call)] }
          events := tasks.events ++ [.called ticket call] }
  else tasks

variable [Connection σ]

def turn (ticket : Ticket) (tasks : Tasks σ) : Tasks σ :=
  match tasks.shared.callOf ticket with
  | none => tasks
  | some call =>
      { shared := (tasks.shared.without ticket).poll (ticket, call)
        events := tasks.events ++
          match (call.poll ticket tasks.tunnel).1 with
          | .inl reply => [.answered ticket call reply]
          | .inr _ => [] }

def leave (ticket : Ticket) (tunnel : Tunnel (Recorded σ)) :
    TunnelCall → Tunnel (Recorded σ)
  | .acquireReader => tunnel.abandonReader ticket
  | .acquireWriter => tunnel.releaseWriter ticket
  | _ => tunnel

def giveUp (ticket : Ticket) (tasks : Tasks σ) : Tasks σ :=
  match tasks.shared.callOf ticket with
  | none => tasks
  | some call =>
      { shared := { tasks.shared.without ticket with
          tunnel := leave ticket tasks.tunnel call }
        events := tasks.events ++ [.gaveUp ticket call] }

def release (ticket : Ticket) (tunnel : Tunnel (Recorded σ)) :
    Half → Tunnel (Recorded σ)
  | .reading => tunnel.releaseReader ticket
  | .writing => tunnel.releaseWriter ticket

def drop (ticket : Ticket) (half : Half) (tasks : Tasks σ) : Tasks σ :=
  if !tasks.shared.isBusy ticket && tasks.shared.holds ticket half then
    { shared := { tasks.shared with tunnel := release ticket tasks.tunnel half }
      events := tasks.events ++ [.dropped ticket half] }
  else tasks

def undergo (change : Tunnel (Recorded σ) → Tunnel (Recorded σ))
    (tasks : Tasks σ) : Tasks σ :=
  { tasks with shared := { tasks.shared with tunnel := change tasks.tunnel } }

def step (tasks : Tasks σ) : TunnelStep σ → Tasks σ
  | .call ticket call => tasks.call ticket call
  | .turn ticket => tasks.turn ticket
  | .giveUp ticket => tasks.giveUp ticket
  | .drop ticket half => tasks.drop ticket half
  | .close => tasks.undergo Tunnel.close
  | .guacd change => tasks.undergo (·.onStream (Recorded.onStream change))

def run (tasks : Tasks σ) (steps : List (TunnelStep σ)) : Tasks σ :=
  steps.foldl step tasks

end Tasks

/-! ### The calls that wait -/

namespace SharedTunnel

variable {σ : Type} {shared : SharedTunnel σ}

theorem isBusy_iff (ticket : Ticket) :
    shared.isBusy ticket = true ↔ (shared.callOf ticket).isSome = true := by
  unfold isBusy callOf
  rw [List.lookup_isSome_iff, List.any_eq_true]
  simp only [beq_iff_eq, eq_comm (a := ticket)]

theorem callOf_of_idle {ticket : Ticket} (idle : shared.isBusy ticket = false) :
    shared.callOf ticket = none := by
  rw [← Option.not_isSome_iff_eq_none, ← isBusy_iff, idle]
  exact Bool.false_ne_true

theorem lookup_without (ticket other : Ticket)
    (waiting : List (Ticket × TunnelCall)) :
    (waiting.filter (·.1 != ticket)).lookup other =
      if other = ticket then none else waiting.lookup other := by
  induction waiting with
  | nil => simp
  | cons entry waiting ih =>
      obtain ⟨owner, call⟩ := entry
      rw [List.filter_cons]
      by_cases own : owner = ticket
      · subst own
        rw [if_neg (by simp), ih, List.lookup_cons]
        by_cases same : other = owner
        · simp [same]
        · rw [if_neg same, if_neg same, beq_false_of_ne same]
      · rw [if_pos (by simpa using own), List.lookup_cons, List.lookup_cons, ih]
        by_cases same : other = owner
        · subst same
          simp [own]
        · rw [beq_false_of_ne same]

theorem lookup_add {waiting : List (Ticket × TunnelCall)} {ticket : Ticket}
    (idle : waiting.lookup ticket = none) (call : TunnelCall) (other : Ticket) :
    (waiting ++ [(ticket, call)]).lookup other =
      if other = ticket then some call else waiting.lookup other := by
  rw [List.lookup_append, List.lookup_cons]
  by_cases same : other = ticket
  · subst same
    simp [idle]
  · rw [if_neg same, beq_false_of_ne same]
    exact Option.or_none

end SharedTunnel

/-! ### What a turn comes to -/

variable {σ : Type} [Connection σ]

theorem Backend.shutdown_rests {backend next : Backend (Recorded σ)}
    {outcome : Poll (Except RelayError Unit)}
    (done : shutdownStream backend = (outcome, next)) :
    backend.Rests next := by
  have kept : (ByteSink.shutdown backend).2 = next := by
    unfold shutdownStream at done
    split at done <;> · rename_i shut; cases done; rw [shut]
  rw [← kept]
  change backend.Rests backend.shutdown.2
  unfold Backend.shutdown
  split
  · exact ⟨rfl, rfl, rfl, rfl⟩
  · exact Rests.refl backend

namespace TunnelCall

/-- What a turn of a call comes to: an answer, or what is left of the call, and the
tunnel behind it. -/
inductive Goes (ticket : Ticket) (before : Tunnel (Recorded σ)) :
    TunnelCall → TunnelReply ⊕ TunnelCall → Tunnel (Recorded σ) → Prop
  | readerGiven (held : before.readerLock.isHeldBy ticket = true) :
      Goes ticket before .acquireReader (.inl .acquired)
        { before with queuedReaders := before.queuedReaders - 1 }
  | writerGiven (held : before.writerLock.isHeldBy ticket = true)
      (isOpen : before.isOpen = true) :
      Goes ticket before .acquireWriter (.inl .acquired) before
  | writerRefused (held : before.writerLock.isHeldBy ticket = true)
      (shut : before.isOpen = false) :
      Goes ticket before .acquireWriter (.inl (.failed before.closedError))
        (before.releaseWriter ticket)
  /-- A call that writes nothing is answered. -/
  | answered {call : TunnelCall} (silent : call = .read ∨ call = .shutdown)
      (reply : TunnelReply) (reader : FrameReader)
      (backend : Backend (Recorded σ)) (rests : before.backend.Rests backend) :
      Goes ticket before call (.inl reply) { before with reader, backend }
  | waits {call : TunnelCall} (silent : ∀ sending, call ≠ .send sending)
      (reader : FrameReader) (backend : Backend (Recorded σ))
      (rests : before.backend.Rests backend) :
      Goes ticket before call (.inr call) { before with reader, backend }
  | sent (sending : Sending) (backend : Backend (Recorded σ))
      (advances : before.backend.Advances backend sending.unsent) :
      Goes ticket before (.send sending) (.inl .done) { before with backend }
  | broken (sending : Sending) (error : RelayError)
      (backend : Backend (Recorded σ)) (gone left : Bytes)
      (split : sending.unsent = gone ++ left)
      (advances : before.backend.Advances backend gone) :
      Goes ticket before (.send sending) (.inl (.failed error))
        { before with backend }
  | sends (sending more : Sending) (backend : Backend (Recorded σ)) (gone : Bytes)
      (split : sending.unsent = gone ++ more.unsent)
      (advances : before.backend.Advances backend gone) :
      Goes ticket before (.send sending) (.inr (.send more))
        { before with backend }

theorem goes_acquireReader (ticket : Ticket) (tunnel : Tunnel (Recorded σ)) :
    Goes ticket tunnel .acquireReader (acquireReader.poll ticket tunnel).1
      (acquireReader.poll ticket tunnel).2 := by
  simp only [poll, Tunnel.claimReader]
  cases held : tunnel.readerLock.isHeldBy ticket with
  | true => exact .readerGiven held
  | false => exact .waits (by simp) _ _ (Backend.Rests.refl _)

theorem goes_acquireWriter (ticket : Ticket) (tunnel : Tunnel (Recorded σ)) :
    Goes ticket tunnel .acquireWriter (acquireWriter.poll ticket tunnel).1
      (acquireWriter.poll ticket tunnel).2 := by
  simp only [poll, Tunnel.claimWriter]
  cases held : tunnel.writerLock.isHeldBy ticket with
  | true =>
      cases isOpen : tunnel.isOpen with
      | true => exact .writerGiven held isOpen
      | false => exact .writerRefused held isOpen
  | false => exact .waits (by simp) _ _ (Backend.Rests.refl _)

theorem goes_read (ticket : Ticket) (tunnel : Tunnel (Recorded σ)) :
    Goes ticket tunnel .read (read.poll ticket tunnel).1
      (read.poll ticket tunnel).2 := by
  simp only [poll, Tunnel.readFrame]
  by_cases signal : tunnel.closeSignal = true
  · simp only [if_pos signal]
    exact .answered (.inl rfl) _ _ _ (Backend.Rests.refl _)
  · rcases reading : tunnel.reader.readFrame tunnel.backend with
      ⟨outcome, reader, backend⟩
    have rests := FrameReader.readFrame_rests reading
    simp only [if_neg signal]
    cases outcome with
    | parked => exact .waits (by simp) reader backend rests
    | ready result =>
        cases result with
        | ok frame => exact .answered (.inl rfl) _ reader backend rests
        | error error => exact .answered (.inl rfl) _ reader backend rests

theorem goes_shutdown (ticket : Ticket) (tunnel : Tunnel (Recorded σ)) :
    Goes ticket tunnel .shutdown (shutdown.poll ticket tunnel).1
      (shutdown.poll ticket tunnel).2 := by
  simp only [poll, Tunnel.shutdown]
  rcases shut : shutdownStream tunnel.backend with ⟨outcome, backend⟩
  have rests := Backend.shutdown_rests shut
  cases outcome with
  | parked => exact .waits (by simp) tunnel.reader backend rests
  | ready result =>
      cases result with
      | ok value => exact .answered (.inr rfl) _ tunnel.reader backend rests
      | error error => exact .answered (.inr rfl) _ tunnel.reader backend rests

theorem goes_send (ticket : Ticket) (sending : Sending)
    (tunnel : Tunnel (Recorded σ)) :
    Goes ticket tunnel (.send sending) ((send sending).poll ticket tunnel).1
      ((send sending).poll ticket tunnel).2 := by
  simp only [poll, Tunnel.send]
  rcases sent : sending.poll tunnel.backend with ⟨outcome, backend⟩
  obtain ⟨gone, left, split, advances, ends⟩ := Sending.poll_advances sent
  cases outcome with
  | done =>
      rw [ends.1, List.append_nil] at split
      exact .sent sending backend (split ▸ advances)
  | parked more =>
      exact .sends sending more backend gone (ends.1 ▸ split) advances
  | failed error => exact .broken sending error backend gone left split advances

theorem goes (call : TunnelCall) (ticket : Ticket) (tunnel : Tunnel (Recorded σ)) :
    Goes ticket tunnel call (call.poll ticket tunnel).1
      (call.poll ticket tunnel).2 := by
  cases call with
  | acquireReader => exact goes_acquireReader ticket tunnel
  | acquireWriter => exact goes_acquireWriter ticket tunnel
  | read => exact goes_read ticket tunnel
  | send sending => exact goes_send ticket sending tunnel
  | shutdown => exact goes_shutdown ticket tunnel

end TunnelCall

end TunnelRelay
