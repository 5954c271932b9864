import TunnelRelay.LongPoll.Exchange
import TunnelRelay.Proofs.Relay.Lane

/-!
Long-poll writes as steps of their lane.

A write changes one tunnel. When it ends it gives the writer back; when it ends because the
connection has failed, it closes the tunnel as well. Each step of a write is one step of the lane
of its tunnel, and leaves every other lane in peace.
-/

namespace TunnelRelay.LongPoll.Write

variable {σ : Type}

/-- A ticket gives the writer back, and nothing is sent. -/
structure GivesBack (ticket : Ticket)
    (before after : RegisteredTunnel (Recorded σ)) : Prop where
  tracks : before.Tracks after []
  lock : after.tunnel.writerLock = before.tunnel.writerLock.withdraw ticket

theorem gives_back_release (registered : RegisteredTunnel (Recorded σ))
    (ticket : Ticket) : GivesBack ticket registered
      { registered with tunnel := registered.tunnel.releaseWriter ticket } :=
  ⟨RegisteredTunnel.tracks_of_rests rfl rfl rfl rfl (Backend.Rests.refl _),
    rfl⟩

theorem GivesBack.quiet {ticket : Ticket}
    {first second third : RegisteredTunnel (Recorded σ)}
    (given : GivesBack ticket first second) (quiet : second.Quiet third) :
    GivesBack ticket first third :=
  ⟨given.tracks.trans quiet.tracks, quiet.lock.trans given.lock⟩

section Registry

variable {registry : Registry (Recorded σ)} {number : Nat}
  {registered : RegisteredTunnel (Recorded σ)}

theorem onTunnel_own (found : registry.tunnel? number = some registered)
    (change : Tunnel (Recorded σ) → Tunnel (Recorded σ)) :
    (registry.onTunnel number change).tunnel? number =
      some { registered with tunnel := change registered.tunnel } := by
  rw [Registry.onTunnel, Registry.tunnel?_update_self, found]
  rfl

theorem beside_onTunnel
    (found : registry.tunnel? number = some registered)
    (change : Tunnel (Recorded σ) → Tunnel (Recorded σ))
    (uuid : (change registered.tunnel).uuid = registered.tunnel.uuid) :
    registry.Beside number (registry.onTunnel number change) := by
  apply Registry.beside_update
  intro other there
  rw [found] at there
  cases there
  exact uuid

end Registry

variable [Connection σ]

/-! ### Ends -/

section Ends

variable {registry : Registry (Recorded σ)} (write : Write) (uuid : Uuid)
  (answer : Http.Answer) {registered : RegisteredTunnel (Recorded σ)}

theorem fail_beside (error : RelayError)
    (found : registry.tunnel? write.tunnel = some registered) :
    registry.Beside write.tunnel
      (write.fail uuid error answer registry).2.2.2 := by
  have back := beside_onTunnel found (·.releaseWriter write.ticket) rfl
  unfold fail
  simp only
  split
  · exact back
  · exact back.trans ((Registry.quiet_close _ _ _).beside _)

theorem fail_own (error : RelayError)
    (found : registry.tunnel? write.tunnel = some registered) :
    ∃ later, (write.fail uuid error answer registry).2.2.2.tunnel?
        write.tunnel = some later ∧
      GivesBack write.ticket registered later := by
  have back := gives_back_release registered write.ticket
  have there := onTunnel_own found (·.releaseWriter write.ticket)
  unfold fail
  simp only
  split
  · exact ⟨_, there, back⟩
  · obtain ⟨later, here, quiet⟩ :=
      (Registry.quiet_close _ uuid error.status).each _ _ there
    exact ⟨later, here, back.quiet quiet⟩

theorem fail_closes {later : RegisteredTunnel (Recorded σ)}
    {error : RelayError}
    (found : registry.tunnel? write.tunnel = some registered)
    (distinct : registry.uuids.Nodup) (sane : registered.Sane)
    (own : uuid = registered.tunnel.uuid)
    (serious : error.isClientError = false)
    (after : (write.fail uuid error answer registry).2.2.2.tunnel?
      write.tunnel = some later) : later.tunnel.isOpen = false := by
  subst own
  have there := onTunnel_own found (·.releaseWriter write.ticket)
  have same :=
    (beside_onTunnel found (·.releaseWriter write.ticket) rfl).uuids
  unfold fail at after
  simp only [serious, Bool.false_eq_true, if_false] at after
  refine Registry.close_own ?_ ?_ there after
  · rw [same]
    exact distinct
  · exact (gives_back_release registered write.ticket).tracks.sane sane

theorem finish_spec
    (found : registry.tunnel? write.tunnel = some registered) :
    (write.finish uuid answer registry).1 = .ended ∧
      registry.Beside write.tunnel
        (write.finish uuid answer registry).2.2.2 ∧
      ∃ later, (write.finish uuid answer registry).2.2.2.tunnel?
          write.tunnel = some later ∧
        GivesBack write.ticket registered later := by
  unfold finish
  split
  · exact ⟨rfl, fail_beside write uuid answer _ found,
      fail_own write uuid answer _ found⟩
  · have counted : ∀ change, registry.Quiet (registry.count change) :=
      fun change => Registry.quiet_of_same rfl
    have there : ∀ change, (registry.count change).tunnel? write.tunnel =
        some registered := fun change => found
    simp only
    refine ⟨trivial, ?_, _, onTunnel_own (there _) _,
      gives_back_release registered write.ticket⟩
    exact ((counted _).beside _).trans (beside_onTunnel (there _) _ rfl)

end Ends

/-! ### Sending -/

theorem send_spec {registered : RegisteredTunnel (Recorded σ)}
    {sending : Sending} {sent : Sent} {tunnel : Tunnel (Recorded σ)}
    (done : registered.tunnel.send sending = (sent, tunnel)) :
    tunnel.uuid = registered.tunnel.uuid ∧
      tunnel.writerLock = registered.tunnel.writerLock ∧
      ∃ gone left, sending.unsent = gone ++ left ∧
        registered.Follows { registered with tunnel } gone ∧
        sent.Ends registered.tunnel.backend tunnel.backend left := by
  obtain ⟨uuid, isOpen, lock, gone, left, split, advances, ends_⟩ :=
    Tunnel.send_advances done
  exact ⟨uuid, lock, gone, left, split,
    RegisteredTunnel.follows_of_advances uuid rfl rfl isOpen advances, ends_⟩

omit [Connection σ] in
theorem forwarded_quiet (write : Write) (count size : Nat)
    (answer : Http.Answer) (registry : Registry (Recorded σ)) :
    registry.Quiet
      (write.forwarded count size answer registry).2.2.2 := by
  unfold forwarded
  simp only
  split
  · exact Registry.Quiet.refl registry
  · have counted : registry.Quiet (registry.count
        (·.pingsAnswered (UInt64.ofNat write.filtered.memory.length))) :=
      Registry.quiet_of_same rfl
    apply counted.trans
    apply Registry.quiet_update
    intro registered _
    exact RegisteredTunnel.quiet_of_rests rfl rfl rfl rfl rfl
      (Backend.Rests.refl _)

omit [Connection σ] in
theorem claim_refused {tunnel later : Tunnel (Recorded σ)} {ticket : Ticket}
    {error : RelayError}
    (claimed : tunnel.claimWriter ticket = (.ready (.error error), later)) :
    later = tunnel.releaseWriter ticket := by
  unfold Tunnel.claimWriter at claimed
  split at claimed
  · split at claimed
    · cases claimed
    · cases claimed
      rfl
  · cases claimed

omit [Connection σ] in
theorem claim_granted {tunnel later : Tunnel (Recorded σ)} {ticket : Ticket}
    (claimed : tunnel.claimWriter ticket = (.ready (.ok ()), later)) :
    later = tunnel ∧ tunnel.writerLock.isHeldBy ticket = true := by
  unfold Tunnel.claimWriter at claimed
  split at claimed
  · rename_i turn
    split at claimed
    · cases claimed
      exact ⟨rfl, turn⟩
    · cases claimed
  · cases claimed

/-! ### One step of a write, one step of its lane -/

/-- A write of the lane `before` takes a step, and the lane is `after`. -/
structure Leads (number : Nat) (write later : Write)
    (body rest : List BodyEvent) (pace : Pace)
    (registry next : Registry (Recorded σ)) (before after : Lane σ) :
    Prop where
  found : registry.tunnel? write.tunnel = some before.tunnel
  was : before.writes number = some (write, body)
  there : next.tunnel? write.tunnel = some after.tunnel
  ended : pace = .ended → after.writes number = none
  goes : pace ≠ .ended → after.writes number = some (later, rest)
  others : Lane.Elsewhere number before after
  posts : after.posts = before.posts

namespace Leads

variable {registry next : Registry (Recorded σ)} {number : Nat}
  {write later : Write} {body rest : List BodyEvent}
  {answer given : Http.Answer} {pace : Pace} {before after : Lane σ}

omit [Connection σ] in
theorem leave
    (leads : Leads number write later body rest .ended registry next before
      after) (nothing : write.unsent = [])
    (back : GivesBack write.ticket before.tunnel after.tunnel) :
    before.Step after :=
  Lane.Step.leave leads.was nothing back.tracks (Or.inl back.lock)
    (leads.ended rfl) leads.others leads.posts

omit [Connection σ] in
theorem rests
    (leads : Leads number write write body body pace registry registry before
      after) (goesOn : pace ≠ .ended) : before.Step after := by
  have same : before.tunnel = after.tunnel :=
    Option.some.inj (leads.found.symm.trans leads.there)
  have quiet : before.tunnel.Quiet after.tunnel :=
    same ▸ RegisteredTunnel.Quiet.refl before.tunnel
  refine Lane.Step.quiet quiet ?_ leads.posts
  intro other
  by_cases equal : other = number
  · subst equal
    exact (leads.goes goesOn).trans leads.was.symm
  · exact leads.others other equal

theorem finish
    (leads : Leads number write later body rest pace registry next before
      after) (nothing : write.unsent = [])
    (finished : write.finish before.tunnel.tunnel.uuid answer registry =
      (pace, later, given, next)) : before.Step after := by
  obtain ⟨ended, -, final, here, back⟩ :=
    finish_spec write before.tunnel.tunnel.uuid answer leads.found
  rw [finished] at ended here
  cases ended
  rw [leads.there] at here
  cases here
  exact leads.leave nothing back

theorem fail {error : RelayError} {filtered : FilteredWriter (List Instruction)}
    (leads : Leads number write later body rest pace registry next before
      after) (nothing : write.unsent = [])
    (failed : Write.fail { write with filtered } before.tunnel.tunnel.uuid
      error answer registry = (pace, later, given, next)) :
    before.Step after := by
  obtain ⟨final, here, back⟩ := fail_own { write with filtered }
    before.tunnel.tunnel.uuid answer error leads.found
  rw [failed] at here
  have ended : .ended = pace := congrArg Prod.fst failed
  cases ended
  rw [leads.there] at here
  cases here
  exact leads.leave nothing back

theorem acquire
    (leads : Leads number write later body rest pace registry next before
      after) (waits : write.stage = .acquiring)
    (stepped : write.step body answer registry =
      ((pace, later, given, next), rest)) : before.Step after := by
  simp only [step, leads.found, waits] at stepped
  split at stepped
  · -- the writer is not free
    cases stepped
    exact leads.rests (by decide)
  · -- the tunnel was closed meanwhile
    rename_i error tunnel claimed
    cases claim_refused claimed
    have stored := onTunnel_own leads.found
      fun _ => before.tunnel.tunnel.releaseWriter write.ticket
    obtain ⟨final, here, back⟩ :=
      fail_own write before.tunnel.tunnel.uuid answer error stored
    rw [Write.fail] at stepped here
    cases stepped
    rw [leads.there] at here
    cases here
    have first := gives_back_release before.tunnel write.ticket
    refine Lane.Step.leave leads.was (unsent_of_acquiring waits)
      (first.tracks.trans back.tracks) (Or.inr ?_) (leads.ended rfl)
      leads.others leads.posts
    exact back.lock.trans (congrArg (·.withdraw write.ticket) first.lock)
  · -- the writer is acquired
    rename_i tunnel claimed
    obtain ⟨rfl, turn⟩ := claim_granted claimed
    cases stepped
    have there := leads.there
    rw [onTunnel_own leads.found] at there
    have quiet : before.tunnel.Quiet after.tunnel :=
      Option.some.inj there ▸ RegisteredTunnel.Quiet.refl _
    exact Lane.Step.acquire leads.was turn quiet waits (leads.goes (by decide))
      rfl rfl rfl leads.others leads.posts

theorem accept {data : Bytes}
    (leads : Leads number write later (.chunk data :: rest) rest pace registry
      next before after) (receives : write.stage = .receiving)
    (accepted : write.accept before.tunnel.tunnel.uuid data answer registry =
      (pace, later, given, next)) : before.Step after := by
  have nothing : write.unsent = [] := by
    rw [unsent, receives]
  unfold Write.accept at accepted
  split at accepted
  · exact leads.fail nothing accepted
  · rename_i passed filtered accepting
    have taken : (write.filtered.accept data).1 = .ok passed := by
      rw [accepting]
    simp only at accepted
    split at accepted
    · rename_i silent
      have quiet := forwarded_quiet { write with filtered } passed.count
        data.length answer registry
      rw [accepted] at quiet
      obtain ⟨final, here, same⟩ := quiet.each _ _ leads.found
      rw [leads.there] at here
      cases here
      unfold forwarded at accepted
      cases accepted
      have forgets : ({ filtered with memory := [] } :
          FilteredWriter (List Instruction)) =
          { (write.filtered.accept data).2 with memory := [] } := by
        rw [accepting]
      exact Lane.Step.accept leads.was receives same (leads.goes (by decide))
        rfl ⟨by simp, by simp⟩ taken forgets
        (FilteredWriter.sending?_none silent).symm leads.others leads.posts
    · rename_i sending starts
      cases accepted
      have same : before.tunnel = after.tunnel :=
        Option.some.inj (leads.found.symm.trans leads.there)
      have quiet : before.tunnel.Quiet after.tunnel :=
        same ▸ RegisteredTunnel.Quiet.refl before.tunnel
      have keeps : filtered = { (write.filtered.accept data).2 with
          memory := filtered.memory } := by
        rw [accepting]
      exact Lane.Step.accept leads.was receives quiet (leads.goes (by decide))
        rfl ⟨by simp, by simp⟩ taken keeps
        (FilteredWriter.sending?_some starts) leads.others leads.posts

theorem receive
    (leads : Leads number write later body rest pace registry next before
      after) (receives : write.stage = .receiving)
    (stepped : write.step body answer registry =
      ((pace, later, given, next), rest)) : before.Step after := by
  have nothing : write.unsent = [] := by
    rw [unsent, receives]
  simp only [step, leads.found, receives] at stepped
  cases body with
  | nil =>
      cases stepped
      exact leads.rests (by decide)
  | cons event remaining =>
      cases event with
      | failed reason =>
          obtain ⟨failed, -⟩ := Prod.mk.inj stepped
          exact leads.fail nothing failed
      | finished =>
          obtain ⟨finished, -⟩ := Prod.mk.inj stepped
          exact leads.finish nothing finished
      | chunk data =>
          simp only at stepped
          split at stepped
          · obtain ⟨accepted, rfl⟩ := Prod.mk.inj stepped
            exact leads.accept receives accepted
          · obtain ⟨finished, -⟩ := Prod.mk.inj stepped
            exact leads.finish nothing finished

theorem sendFails {tunnel : Tunnel (Recorded σ)} {error : RelayError}
    {gone left : Bytes}
    (leads : Leads number write later body rest pace registry next before
      after) (orderly : before.Orderly) (distinct : registry.uuids.Nodup)
    (held : write.Holds) (uuid : tunnel.uuid = before.tunnel.tunnel.uuid)
    (lock : tunnel.writerLock = before.tunnel.tunnel.writerLock)
    (split : write.unsent = gone ++ left)
    (follows : before.tunnel.Follows { before.tunnel with tunnel } gone)
    (serious : error.isClientError = false)
    (cause : tunnel.backend.stream.failed = true ∨
      before.tunnel.tunnel.backend.live = false)
    (failed : write.fail before.tunnel.tunnel.uuid error answer
      (registry.onTunnel write.tunnel fun _ => tunnel) =
        (pace, later, given, next)) : before.Step after := by
  have stored := onTunnel_own leads.found fun _ => tunnel
  obtain ⟨final, here, back⟩ :=
    fail_own write before.tunnel.tunnel.uuid answer error stored
  have distinct_ : (registry.onTunnel write.tunnel
      fun _ => tunnel).uuids.Nodup := by
    rw [(beside_onTunnel leads.found (fun _ => tunnel) uuid).uuids]
    exact distinct
  have shut : after.isOpen = false := by
    refine fail_closes write before.tunnel.tunnel.uuid answer stored distinct_
      (follows.sane orderly.sane) uuid.symm serious ?_
    rw [failed]
    exact leads.there
  rw [failed, leads.there] at here
  cases here
  have tracks : before.tunnel.Tracks after.tunnel gone := by
    have total := follows.trans back.tracks.toFollows
    rw [List.append_nil] at total
    exact ⟨total, fun _ => Or.inr shut⟩
  have ended : .ended = pace := congrArg Prod.fst failed
  refine Lane.Step.fail leads.was held split tracks ?_ shut (Or.inl ?_)
    (leads.ended ended.symm) leads.others leads.posts
  · exact cause.imp_left back.tracks.failed
  · exact back.lock.trans (congrArg (·.withdraw write.ticket) lock)

theorem send {sending : Sending} {count size : Nat}
    (leads : Leads number write later body rest pace registry next before
      after) (orderly : before.Orderly) (distinct : registry.uuids.Nodup)
    (sends : write.stage = .sending sending count size)
    (stepped : write.step body answer registry =
      ((pace, later, given, next), rest)) : before.Step after := by
  have bytes : write.unsent = sending.unsent := by
    rw [unsent, sends]
  have held : write.Holds := ⟨by rw [sends]; simp, by rw [sends]; simp⟩
  simp only [step, leads.found, sends] at stepped
  cases sent : before.tunnel.tunnel.send sending with
  | mk outcome tunnel =>
      obtain ⟨uuid, lock, gone, left, split, follows, ended⟩ := send_spec sent
      have stored := onTunnel_own leads.found fun _ => tunnel
      rw [sent] at stepped
      rw [← bytes] at split
      cases outcome with
      | done =>
          obtain ⟨rfl, failed⟩ := ended
          have quiet := forwarded_quiet write count size answer
            (registry.onTunnel write.tunnel fun _ => tunnel)
          obtain ⟨forwards, rfl⟩ := Prod.mk.inj stepped
          rw [forwards] at quiet
          obtain ⟨final, here, same⟩ := quiet.each _ _ stored
          rw [leads.there] at here
          cases here
          have tracks : before.tunnel.Tracks
              { before.tunnel with tunnel } gone :=
            ⟨follows, fun fault => Or.inl (failed.symm.trans fault)⟩
          have total := tracks.trans same.tracks
          rw [List.append_nil] at total
          unfold forwarded at forwards
          cases forwards
          have forgets : ({ write.filtered with memory := [] } :
              FilteredWriter (List Instruction)) =
              { write.filtered with memory := [] } := rfl
          exact Lane.Step.send leads.was held split total
            (same.lock.trans lock) (leads.goes (by decide)) rfl
            ⟨by simp, by simp⟩ forgets rfl (fun more => absurd rfl more)
            leads.others leads.posts
      | parked more =>
          obtain ⟨remains, waited, failed⟩ := ended
          cases stepped
          have there := leads.there
          rw [stored] at there
          have is : { before.tunnel with tunnel } = after.tunnel :=
            Option.some.inj there
          have tracks : before.tunnel.Tracks after.tunnel gone := by
            rw [← is]
            exact ⟨follows, fun fault => Or.inl (failed.symm.trans fault)⟩
          have keeps : write.filtered =
              { write.filtered with memory := write.filtered.memory } := rfl
          refine Lane.Step.send leads.was held split tracks ?_
            (leads.goes (by decide)) rfl ⟨by simp, by simp⟩ keeps remains
            (fun _ => ?_) leads.others leads.posts
          · rw [Lane.lock, ← is]
            exact lock
          · rw [← is]
            exact waited
      | failed error =>
          obtain ⟨serious, cause⟩ := ended
          obtain ⟨failed, -⟩ := Prod.mk.inj stepped
          exact leads.sendFails orderly distinct held uuid lock split follows
            serious cause failed

theorem step
    (leads : Leads number write later body rest pace registry next before
      after) (orderly : before.Orderly) (distinct : registry.uuids.Nodup)
    (stepped : write.step body answer registry =
      ((pace, later, given, next), rest)) : before.Step after := by
  cases stage : write.stage with
  | acquiring => exact leads.acquire stage stepped
  | receiving => exact leads.receive stage stepped
  | sending sending count size =>
      exact leads.send orderly distinct stage stepped
  | finished =>
      -- no write of a lane has finished
      rcases (orderly.written number write body leads.was).place with
        waits | held
      · rw [stage] at waits
        cases waits
      · exact absurd stage held.1.2

end Leads

/-! ### Everything else stays in peace -/

theorem accept_beside (write : Write) (uuid : Uuid) (data : Bytes)
    (answer : Http.Answer) {registry : Registry (Recorded σ)}
    {registered : RegisteredTunnel (Recorded σ)}
    (found : registry.tunnel? write.tunnel = some registered) :
    registry.Beside write.tunnel
      (write.accept uuid data answer registry).2.2.2 := by
  unfold accept
  split
  · rename_i error filtered _
    exact fail_beside { write with filtered } uuid answer error found
  · rename_i passed filtered _
    simp only
    split
    · exact (forwarded_quiet { write with filtered } _ _ answer registry).beside
        write.tunnel
    · exact (Registry.Quiet.refl registry).beside write.tunnel

theorem step_beside (write : Write) (body : List BodyEvent)
    (answer : Http.Answer) (registry : Registry (Recorded σ)) :
    registry.Beside write.tunnel
      (write.step body answer registry).1.2.2.2 := by
  have same := (Registry.Quiet.refl registry).beside write.tunnel
  unfold step
  cases found : registry.tunnel? write.tunnel with
  | none => exact same
  | some registered =>
      have store : ∀ tunnel : Tunnel (Recorded σ),
          tunnel.uuid = registered.tunnel.uuid →
          registry.Beside write.tunnel
            (registry.onTunnel write.tunnel fun _ => tunnel) :=
        fun tunnel uuid => beside_onTunnel found (fun _ => tunnel) uuid
      have stored : ∀ tunnel : Tunnel (Recorded σ),
          (registry.onTunnel write.tunnel fun _ => tunnel).tunnel?
            write.tunnel = some { registered with tunnel } :=
        fun tunnel => onTunnel_own found fun _ => tunnel
      simp only
      cases write.stage with
      | acquiring =>
          simp only
          split
          · exact same
          · rename_i error tunnel claimed
            have uuid : tunnel.uuid = registered.tunnel.uuid := by
              rw [claim_refused claimed]
              rfl
            exact (store tunnel uuid).trans
              (fail_beside write _ answer error (stored tunnel))
          · rename_i tunnel claimed
            apply store tunnel
            rw [(claim_granted claimed).1]
      | receiving =>
          simp only
          split
          · exact same
          · exact fail_beside write _ answer _ found
          · exact (finish_spec write _ answer found).2.1
          · split
            · exact accept_beside write _ _ answer found
            · exact (finish_spec write _ answer found).2.1
      | sending sending count size =>
          simp only
          cases sent : registered.tunnel.send sending with
          | mk outcome tunnel =>
              have moved := store tunnel (send_spec sent).1
              cases outcome with
              | done =>
                  exact moved.trans ((forwarded_quiet write _ _ _ _).beside _)
              | failed error =>
                  exact moved.trans
                    (fail_beside write _ answer error (stored tunnel))
              | parked more => exact moved
      | finished => exact same

theorem step_tunnel (write : Write) (body : List BodyEvent)
    (answer : Http.Answer) (registry : Registry (Recorded σ)) :
    (write.step body answer registry).1.2.1.tunnel = write.tunnel := by
  have finishes : ∀ uuid, (write.finish uuid answer registry).2.1.tunnel =
      write.tunnel := by
    intro uuid
    unfold finish
    split <;> rfl
  have accepts : ∀ uuid data,
      (write.accept uuid data answer registry).2.1.tunnel = write.tunnel := by
    intro uuid data
    unfold accept
    split
    · rfl
    · simp only
      split <;> rfl
  unfold step
  split
  · rfl
  · simp only
    split
    · split <;> rfl
    · split
      · rfl
      · rfl
      · exact finishes _
      · split
        · exact accepts _ _
        · exact finishes _
    · split <;> rfl
    · rfl

/-! ### Beginnings -/

omit [Connection σ] in
theorem start_open {registry : Registry (Recorded σ)} {number : Nat}
    {registered : RegisteredTunnel (Recorded σ)} (ticket : Ticket)
    (found : registry.tunnel? number = some registered)
    (open_ : registered.tunnel.isOpen = true) :
    Write.start ticket number registry =
      .ok ({ ticket, tunnel := number },
        registry.onTunnel number fun _ =>
          { registered.tunnel with
            writerLock := registered.tunnel.writerLock.request ticket }) := by
  simp only [Write.start, found, Tunnel.requestWriter, open_, if_true]
  rfl

omit [Connection σ] in
theorem joins {registry next : Registry (Recorded σ)} {number : Nat}
    {registered found : RegisteredTunnel (Recorded σ)} (ticket : Ticket)
    (looked : registry.Quiet next)
    (here : next.tunnel? number = some found)
    (quiet : registered.Quiet found) :
    let joined := next.onTunnel number fun _ =>
      { found.tunnel with
        writerLock := found.tunnel.writerLock.request ticket }
    registry.Beside number joined ∧
      ∃ later, joined.tunnel? number = some later ∧
        registered.Tracks later [] ∧
        later.tunnel.writerLock =
          registered.tunnel.writerLock.request ticket := by
  have waits : found.Tracks { found with
      tunnel := { found.tunnel with
        writerLock := found.tunnel.writerLock.request ticket } } [] :=
    RegisteredTunnel.tracks_of_rests rfl rfl rfl rfl (Backend.Rests.refl _)
  refine ⟨?_, _, onTunnel_own here _, quiet.tracks.trans waits, ?_⟩
  · exact (looked.beside number).trans (beside_onTunnel here _ rfl)
  · rw [← quiet.lock]

end TunnelRelay.LongPoll.Write

namespace TunnelRelay.LongPoll.Exchange

open Http

variable {σ : Type}

theorem startConnect_idle (exchange : Exchange) (request : Request)
    (write : Write) :
    (exchange.startConnect request).activity ≠ .writing write := by
  unfold startConnect
  split
  · simp
  · split
    · simp
    · simp [refuse, answerWith]

variable [Connection σ]

/-- What becomes of a request that arrives: it finds a tunnel and joins those
who wait for its writer, or it is no write and all is quiet. -/
theorem start_spec (exchange : Exchange) (ticket : Ticket) (request : Request)
    (registry : Registry (Recorded σ)) :
    (∀ write, (exchange.start ticket request registry).1.activity ≠
        .writing write) ∧
      registry.Quiet (exchange.start ticket request registry).2 ∨
    ∃ uuid number registered later,
      Command.parse request.query = .ok (.write uuid) ∧
      registry.tunnel? number = some registered ∧
      registered.tunnel.uuid = uuid ∧
      (request.headerText? "guacamole-tunnel-token").any
        registered.accepts = true ∧
      (exchange.start ticket request registry).1.activity =
        .writing { ticket, tunnel := number } ∧
      registry.Beside number (exchange.start ticket request registry).2 ∧
      (exchange.start ticket request registry).2.tunnel? number =
        some later ∧
      registered.Tracks later [] ∧
      later.tunnel.writerLock =
        registered.tunnel.writerLock.request ticket := by
  have refused : ∀ error write, (exchange.refuse error).activity ≠
      .writing write := by
    simp [refuse, answerWith]
  unfold Exchange.start
  cases Command.parse request.query with
  | error error =>
      exact Or.inl ⟨refused error, Registry.Quiet.refl registry⟩
  | ok command =>
      cases command with
      | connect =>
          exact Or.inl ⟨exchange.startConnect_idle request,
            Registry.Quiet.refl registry⟩
      | read uuid =>
          left
          have looked := quiet_lookUp registry uuid
            (request.headerText? "guacamole-tunnel-token")
          simp only
          split
          · rename_i error next looking
            rw [looking] at looked
            exact ⟨refused error, looked⟩
          · rename_i number next looking
            rw [looking] at looked
            refine ⟨?_, looked.trans (Read.quiet_start ticket number
              (ContentEncoding.negotiate
                (request.headerText? "accept-encoding")) next)⟩
            intro write impossible
            cases impossible
      | write uuid =>
          have looked := quiet_lookUp registry uuid
            (request.headerText? "guacamole-tunnel-token")
          simp only
          split
          · rename_i error next looking
            rw [looking] at looked
            exact Or.inl ⟨refused error, looked⟩
          · rename_i number next looking
            rw [looking] at looked
            -- the look-up only touches the tunnel, so it was there before with the same token
            obtain ⟨found, here, open_, own, accepted⟩ := lookUp_ok looking
            obtain ⟨registered, there, quiet⟩ := looked.earlier here
            obtain ⟨beside, later, last, tracks, lock⟩ :=
              Write.joins ticket looked here quiet
            have accepts : registered.accepts = found.accepts := by
              funext text
              rw [RegisteredTunnel.accepts, RegisteredTunnel.accepts,
                quiet.tracks.token]
            rw [← accepts] at accepted
            rw [Write.start_open ticket here open_]
            exact Or.inr ⟨uuid, number, registered, later, rfl, there,
              quiet.tracks.uuid.symm.trans own, accepted, rfl, beside, last,
              tracks, lock⟩

end TunnelRelay.LongPoll.Exchange
