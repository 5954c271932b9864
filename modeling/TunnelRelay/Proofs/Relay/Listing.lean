import TunnelRelay.Proofs.Relay.Opening
import TunnelRelay.Proofs.Relay.Moves
import TunnelRelay.Proofs.Relay.Tunnels

/-!
Whoever is found is open.

A tunnel that can be found under its UUID is open: whoever closes a tunnel takes it off the list
first, and no request opens or lists a tunnel again. This holds whatever UUIDs the tunnels have.
-/

namespace TunnelRelay

open Http LongPoll

variable {σ : Type}

namespace Registry

/-- Whoever is listed is open. -/
def Current (registry : Registry σ) : Prop :=
  ∀ number registered, registry.tunnel? number = some registered →
    registered.listed = true → registered.tunnel.isOpen = true

namespace Current

variable {registry : Registry σ} {number : Nat}

theorem count (current : registry.Current) (change : Metrics → Metrics) :
    (registry.count change).Current :=
  current

theorem update (current : registry.Current)
    {change : RegisteredTunnel σ → RegisteredTunnel σ}
    (keeps : ∀ registered, registry.tunnel? number = some registered →
      (change registered).listed = true →
        registered.listed = true ∧
          (change registered).tunnel.isOpen = registered.tunnel.isOpen) :
    (registry.update number change).Current := by
  intro other registered there listed
  rw [Registry.tunnel?, Registry.update, List.getElem?_modify] at there
  split at there
  · rename_i same
    subst same
    obtain ⟨earlier, found, rfl⟩ := Option.map_eq_some_iff.mp there
    obtain ⟨was, isOpen⟩ := keeps earlier found listed
    rw [isOpen]
    exact current number earlier found was
  · rw [Option.map_eq_map, Option.map_id'] at there
    exact current other registered there listed

theorem onTunnel (current : registry.Current) {change : Tunnel σ → Tunnel σ}
    (same : ∀ tunnel, (change tunnel).isOpen = tunnel.isOpen) :
    (registry.onTunnel number change).Current :=
  current.update fun _ _ listed => ⟨listed, same _⟩

theorem onOutbox (current : registry.Current) (change : Outbox → Outbox) :
    (registry.onOutbox number change).Current :=
  current.update fun _ _ listed => ⟨listed, rfl⟩

theorem store (current : registry.Current)
    {registered next : RegisteredTunnel σ}
    (found : registry.tunnel? number = some registered)
    (listed : next.listed = registered.listed)
    (isOpen : next.tunnel.isOpen = registered.tunnel.isOpen) :
    (registry.update number fun _ => next).Current := by
  apply current.update
  intro other there is
  rw [found] at there
  cases there
  exact ⟨listed.symm.trans is, isOpen⟩

theorem replace (current : registry.Current)
    {registered : RegisteredTunnel σ} {tunnel : Tunnel σ}
    (found : registry.tunnel? number = some registered)
    (isOpen : tunnel.isOpen = registered.tunnel.isOpen) :
    (registry.onTunnel number fun _ => tunnel).Current := by
  apply current.update
  intro other there listed
  rw [found] at there
  cases there
  exact ⟨listed, isOpen⟩

theorem put (current : registry.Current) {tunnel : Tunnel σ}
    (isOpen : tunnel.isOpen = true) (token : String) :
    (registry.put tunnel token).Current := by
  intro other registered there listed
  rcases List.mem_append.mp (List.mem_of_getElem? there) with old | new
  · obtain ⟨earlier, known, same⟩ := List.mem_map.mp old
    obtain ⟨index, found⟩ := List.getElem?_of_mem known
    split at same
    · subst same
      cases listed
    · subst same
      exact current index earlier found listed
  · cases List.mem_singleton.mp new
    exact isOpen

theorem get (current : registry.Current) (uuid : Uuid) :
    (registry.get uuid).2.Current := by
  unfold Registry.get
  split
  · exact current
  · exact current.update fun _ _ listed => ⟨listed, rfl⟩

variable [Connection σ]

theorem close (current : registry.Current) (uuid : Uuid) (status : Status) :
    (registry.close uuid status).2.Current := by
  unfold Registry.close
  split
  · exact current
  · exact (current.update fun _ _ listed => Bool.noConfusion listed).count _

theorem closeIdle (current : registry.Current) :
    registry.closeIdle.2.Current :=
  closeIdle_induction Registry.Current
    (fun _ uuid current => current.close uuid .sessionTimeout) registry current

end Current

end Registry

/-! ### Reads -/

namespace LongPoll.Read

variable {registry : Registry σ} (current : registry.Current) (read : Read)
  (answer : Answer)

include current

theorem finish_current : (read.finish answer registry).2.2.Current :=
  current.onTunnel fun _ => rfl

omit current in
theorem lookInside_keeps (registered : RegisteredTunnel σ) :
    (lookInside registered).2.listed = registered.listed ∧
      (lookInside registered).2.tunnel = registered.tunnel := by
  unfold lookInside
  dsimp only
  split <;> exact ⟨rfl, rfl⟩

theorem abandon_current : (read.abandon registry).Current := by
  apply current.onTunnel
  intro tunnel
  cases read.stage <;> rfl

variable [Connection σ]

omit current in
theorem await_keeps (registered : RegisteredTunnel σ) :
    (await registered).2.listed = registered.listed ∧
      (await registered).2.tunnel.isOpen = registered.tunnel.isOpen := by
  have reads : registered.tunnel.readFrame.2.isOpen =
      registered.tunnel.isOpen := by
    unfold Tunnel.readFrame
    split <;> rfl
  unfold await
  split
  · exact ⟨rfl, rfl⟩
  · split
    all_goals
      rename_i reading
      rw [reading] at reads
      exact ⟨rfl, reads⟩

theorem fail_current (uuid : Uuid) (error : RelayError) :
    (read.fail uuid error answer registry).2.2.Current := by
  unfold fail
  split
  · exact finish_current (current.close uuid _) _ answer
  · exact finish_current (current.close uuid _) _ answer

theorem receive_current (uuid : Uuid)
    (outcome : Except RelayError (Option Message)) :
    (read.receive uuid outcome answer registry).2.2.2.Current := by
  unfold receive
  split
  · cases outcome with
    | ok message => exact current
    | error error => exact fail_current current read answer uuid error
  · cases firstMessage outcome with
    | ok message => exact current
    | error error => exact (current.close uuid _).onTunnel fun _ => rfl

theorem give_current (registered : RegisteredTunnel σ) (message : Message) :
    (read.give registered message answer registry).2.2.2.Current := by
  unfold give
  dsimp only
  split
  · split
    · exact finish_current (current.count _) _ answer
    · exact current.count _
  · split
    · exact finish_current (current.count _) _ _
    · exact fail_current (current.count _) _ _ _ _

theorem step_current : (read.step answer registry).2.2.2.Current := by
  unfold step
  cases found : registry.tunnel? read.tunnel with
  | none => exact current
  | some registered =>
      dsimp only
      split
      · have claims : (registered.tunnel.claimReader read.ticket).2.isOpen =
            registered.tunnel.isOpen := by
          unfold Tunnel.claimReader
          split <;> rfl
        split
        · exact current
        · rename_i claimed
          rw [claimed] at claims
          exact current.store found rfl claims
      · obtain ⟨listed, same⟩ := lookInside_keeps registered
        have stored := current.store found listed (congrArg _ same)
        split
        · rename_i looked
          rw [looked] at stored
          exact receive_current stored read answer _ _
        · rename_i looked
          rw [looked] at stored
          exact stored
      · obtain ⟨listed, same⟩ := await_keeps registered
        have stored := current.store found listed same
        split
        · rename_i looked
          rw [looked] at stored
          exact receive_current stored read answer _ _
        all_goals
          rename_i looked
          rw [looked] at stored
          exact stored
      · exact finish_current (current.close _ _) read answer
      · exact give_current current read answer registered _
      · exact current

end LongPoll.Read

/-! ### Writes -/

namespace LongPoll.Write

variable {registry : Registry σ} (current : registry.Current) (write : Write)
  (answer : Answer)

include current

theorem forwarded_current (count size : Nat) :
    (write.forwarded count size answer registry).2.2.2.Current := by
  unfold forwarded
  dsimp only
  split
  · exact current
  · exact (current.count _).onOutbox _

theorem start_current {ticket : Ticket} {number : Nat} {write : Write}
    {next : Registry σ} (starts : start ticket number registry = .ok (write, next)) :
    next.Current := by
  unfold start at starts
  cases found : registry.tunnel? number with
  | none =>
      rw [found] at starts
      cases starts
      exact current
  | some registered =>
      rw [found] at starts
      simp only [Tunnel.requestWriter] at starts
      split at starts
      · cases starts
        exact current.replace found rfl
      · cases starts

theorem abandon_current : (write.abandon registry).Current :=
  current.onTunnel fun _ => rfl

variable [Connection σ]

theorem fail_current (uuid : Uuid) (error : RelayError) :
    (write.fail uuid error answer registry).2.2.2.Current := by
  have back := abandon_current current write
  unfold fail
  dsimp only
  split
  · exact back
  · exact back.close uuid _

theorem finish_current (uuid : Uuid) :
    (write.finish uuid answer registry).2.2.2.Current := by
  unfold finish
  split
  · exact fail_current current write answer uuid _
  · exact abandon_current (current.count _) write

theorem accept_current (uuid : Uuid) (data : Bytes) :
    (write.accept uuid data answer registry).2.2.2.Current := by
  unfold accept
  split
  · exact fail_current current _ answer uuid _
  · dsimp only
    split
    · exact forwarded_current current _ answer _ _
    · exact current

theorem step_current (body : List BodyEvent) :
    (write.step body answer registry).1.2.2.2.Current := by
  unfold step
  cases found : registry.tunnel? write.tunnel with
  | none => exact current
  | some registered =>
      dsimp only
      split
      · have claims : (registered.tunnel.claimWriter write.ticket).2.isOpen =
            registered.tunnel.isOpen := by
          unfold Tunnel.claimWriter
          split
          · split <;> rfl
          · rfl
        split
        · exact current
        all_goals
          rename_i claimed
          rw [claimed] at claims
        · exact fail_current (current.replace found claims) write answer _ _
        · exact current.replace found claims
      · split
        · exact current
        · exact fail_current current write answer _ _
        · exact finish_current current write answer _
        · split
          · exact accept_current current write answer _ _
          · exact finish_current current write answer _
      · rename_i sending count size _
        have sends : (registered.tunnel.send sending).2.isOpen =
          registered.tunnel.isOpen := rfl
        split
        all_goals
          rename_i sent
          rw [sent] at sends
        · exact forwarded_current (current.replace found sends) write answer _ _
        · exact fail_current (current.replace found sends) write answer _ _
        · exact current.replace found sends
      · exact current

end LongPoll.Write

/-! ### Exchanges -/

namespace LongPoll

variable [Connection σ] {registry : Registry σ} (current : registry.Current)

include current

theorem lookUp_current (uuid : Uuid) (token : Option String) :
    (lookUp registry uuid token).2.Current :=
  current.get uuid

namespace Exchange

variable (exchange : Exchange)

theorem start_current (ticket : Ticket) (request : Request) :
    (exchange.start ticket request registry).2.Current := by
  unfold start
  split
  · exact current
  · exact current
  all_goals
    rename_i uuid _
    have looks := lookUp_current current uuid
      (request.headerText? "guacamole-tunnel-token")
    split
    all_goals
      rename_i looked
      rw [looked] at looks
  · exact looks
  · exact looks.onTunnel fun _ => rfl
  · exact looks
  · split
    · rename_i started
      exact Write.start_current looks started
    · exact Write.fail_current looks _ exchange.answer _ _

theorem step_current : (exchange.step registry).2.2.Current := by
  unfold step
  split
  · exact current
  · rename_i read _
    have stepped := Read.step_current current read exchange.answer
    split
    all_goals
      rename_i step
      rw [step] at stepped
      exact stepped
  · rename_i write _
    have stepped := Write.step_current current write exchange.answer exchange.body
    split
    all_goals
      rename_i step
      rw [step] at stepped
      exact stepped
  all_goals exact current

theorem enter_current {tunnel : Tunnel σ}
    (isOpen : tunnel.isOpen = true) (token : String) :
    (exchange.enter tunnel token registry).2.Current := by
  have listed := current.put isOpen token
  unfold enter
  simp only
  split
  · exact listed
  · exact listed.close _ _

omit [Connection σ] in
theorem abandon_current : (exchange.abandon registry).2.Current := by
  unfold abandon
  cases exchange.activity with
  | reading read =>
      simp only
      split
      · exact current
      · exact Read.abandon_current current read
  | writing write => exact Write.abandon_current current write
  | collecting | connecting | answered => exact current

end Exchange

end LongPoll

/-! ### The relay -/

namespace Relay

variable [Connection σ] {relay : Relay (Recorded σ)}
  (current : relay.registry.Current) (environment : Environment σ)

include current

theorem arrive_current (request : Request) (body : List BodyEvent)
    (wanted : Bool) : (relay.arrive request body wanted).registry.Current := by
  unfold arrive startExchange
  cases resource? request.path with
  | none => exact current
  | some entry =>
      dsimp only
      split
      · cases entry.1 with
        | tunnel => exact Exchange.start_current current _ _ _
        | webSocket | health | metrics => exact current
      · exact current

theorem stepExchange_current (connects : environment.Connects) (number : Nat) :
    (relay.stepExchange environment.recorded number).2.registry.Current := by
  unfold stepExchange
  split
  · exact current
  · split
    · simp only [connectExchange, Relay.connect]
      split
      · rename_i refused
        cases (Prod.mk.inj refused).2
        exact current
      · rename_i tunnel _ connected
        obtain ⟨outcome, same⟩ := Prod.mk.inj connected
        obtain ⟨opened, is, rfl⟩ := Environment.recorded_ok outcome
        subst same
        exact Exchange.enter_current (current.count _) _
          (connects _ _ opened is).isOpen _
    · exact Exchange.step_current current _

omit [Connection σ] in
theorem withdraw_current (number : Nat) :
    (relay.withdraw number).registry.Current := by
  unfold withdraw
  split
  · exact current
  · exact Exchange.abandon_current current _

theorem perform_current (connects : environment.Connects) (move : Move σ) :
    (relay.perform environment move).registry.Current := by
  cases move with
  | task task =>
      have session : ∀ index step,
          (relay.stepSession index step).2.registry.Current := by
        intro index step
        unfold stepSession
        split <;> exact current
      cases task with
      | exchange number =>
          exact stepExchange_current current environment connects number
      | pump number => exact session number _
      | handler number heeds => exact session number _
  | receive request body wanted => exact arrive_current current request body wanted
  | abandon number => exact withdraw_current current number
  | closeIdle => exact current.closeIdle
  | guacd number change => exact current.onTunnel fun _ => rfl
  | deliver | advance | openSession | say | lose | guacdSession => exact current

end Relay

theorem History.run_current [Connection σ] {environment : Environment σ}
    (connects : environment.Connects) (idleTimeout : Nat)
    (moves : List (Move σ)) :
    (run environment idleTimeout moves).relay.registry.Current := by
  induction moves using List.reverseRecOn with
  | nil =>
      intro number registered there
      cases (List.getElem?_nil.symm.trans there)
  | append_singleton moves last ih =>
      rw [run_snoc]
      exact Relay.perform_current ih environment connects last

end TunnelRelay
