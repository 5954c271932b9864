import Mathlib.Data.List.Basic
import Mathlib.Logic.Function.Basic
import TunnelRelay.Registry

/-!
The same registry in another guise.

The tickets of requests are numbers, and nothing but their equality matters: under other numbers
everything takes the same course. Nor does it matter that a tunnel was asked for later than it
was, until somebody looks for tunnels that have been idle for too long. A guise is both, other
tickets and later accesses, and every operation on a registry commutes with it.
-/

namespace TunnelRelay

/-- Other tickets, and the time of an access for each tunnel, by number. -/
structure Guise where
  ticket : Ticket → Ticket
  injective : Function.Injective ticket
  access : Nat → Nat

variable (guise : Guise)

/-! ### Locks -/

namespace Lock

def under (lock : Lock) : Lock :=
  ⟨lock.holder.map guise.ticket, lock.waiting.map guise.ticket⟩

theorem free_under : ({} : Lock).under guise = {} :=
  rfl

variable (lock : Lock) (ticket : Ticket)

theorem isHeldBy_under :
    (lock.under guise).isHeldBy (guise.ticket ticket) = lock.isHeldBy ticket := by
  unfold isHeldBy under
  cases lock.holder with
  | none => rfl
  | some holder => simp [guise.injective.eq_iff]

theorem request_under :
    (lock.under guise).request (guise.ticket ticket) =
      (lock.request ticket).under guise := by
  unfold request under
  cases lock.holder with
  | none => rfl
  | some holder => simp

theorem handOver_under :
    (lock.under guise).handOver = lock.handOver.under guise := by
  unfold handOver under
  cases lock.waiting with
  | nil => rfl
  | cons first rest => rfl

theorem withdraw_under :
    (lock.under guise).withdraw (guise.ticket ticket) =
      (lock.withdraw ticket).under guise := by
  unfold withdraw
  rw [isHeldBy_under, handOver_under]
  split
  · rfl
  · simp only [under, List.map_erase guise.injective]

end Lock

/-! ### Tunnels -/

namespace Tunnel

variable {σ : Type}

def under (tunnel : Tunnel σ) : Tunnel σ :=
  { tunnel with
    readerLock := tunnel.readerLock.under guise
    writerLock := tunnel.writerLock.under guise }

def Unasked (tunnel : Tunnel σ) : Prop :=
  tunnel.readerLock = {} ∧ tunnel.writerLock = {}

variable {tunnel : Tunnel σ} (ticket : Ticket)

theorem Unasked.under (unasked : tunnel.Unasked) : tunnel.under guise = tunnel := by
  have reader : tunnel.readerLock.under guise = tunnel.readerLock := by
    rw [unasked.1, Lock.free_under]
  have writer : tunnel.writerLock.under guise = tunnel.writerLock := by
    rw [unasked.2, Lock.free_under]
  rw [Tunnel.under, reader, writer]

variable (tunnel)

@[simp] theorem uuid_under : (tunnel.under guise).uuid = tunnel.uuid :=
  rfl

@[simp] theorem isOpen_under : (tunnel.under guise).isOpen = tunnel.isOpen :=
  rfl

@[simp] theorem available_under :
    (tunnel.under guise).available = tunnel.available :=
  rfl

@[simp] theorem hasQueuedReaders_under :
    (tunnel.under guise).hasQueuedReaders = tunnel.hasQueuedReaders :=
  rfl

@[simp] theorem writerLock_under :
    (tunnel.under guise).writerLock = tunnel.writerLock.under guise :=
  rfl

theorem requestReader_under :
    (tunnel.under guise).requestReader (guise.ticket ticket) =
      (tunnel.requestReader ticket).under guise := by
  simp only [requestReader, under, Lock.request_under]

theorem claimReader_under :
    (tunnel.under guise).claimReader (guise.ticket ticket) =
      ((tunnel.claimReader ticket).1, (tunnel.claimReader ticket).2.under guise) := by
  simp only [claimReader, under, Lock.isHeldBy_under]
  split <;> rfl

theorem abandonReader_under :
    (tunnel.under guise).abandonReader (guise.ticket ticket) =
      (tunnel.abandonReader ticket).under guise := by
  simp only [abandonReader, under, Lock.withdraw_under]

theorem releaseReader_under :
    (tunnel.under guise).releaseReader (guise.ticket ticket) =
      (tunnel.releaseReader ticket).under guise := by
  simp only [releaseReader, under, Lock.withdraw_under]

theorem requestWriter_under :
    (tunnel.under guise).requestWriter (guise.ticket ticket) =
      (tunnel.requestWriter ticket).map (·.under guise) := by
  simp only [requestWriter, under, Lock.request_under]
  split <;> rfl

theorem releaseWriter_under :
    (tunnel.under guise).releaseWriter (guise.ticket ticket) =
      (tunnel.releaseWriter ticket).under guise := by
  simp only [releaseWriter, under, Lock.withdraw_under]

theorem claimWriter_under :
    (tunnel.under guise).claimWriter (guise.ticket ticket) =
      ((tunnel.claimWriter ticket).1, (tunnel.claimWriter ticket).2.under guise) := by
  unfold claimWriter
  rw [releaseWriter_under, writerLock_under, Lock.isHeldBy_under, isOpen_under]
  split
  · split <;> rfl
  · rfl

theorem onStream_under (change : σ → σ) :
    (tunnel.under guise).onStream change = (tunnel.onStream change).under guise :=
  rfl

variable [Connection σ]

theorem close_under : (tunnel.under guise).close = tunnel.close.under guise := by
  unfold close under
  split <;> rfl

theorem readFrame_under :
    (tunnel.under guise).readFrame =
      (tunnel.readFrame.1, tunnel.readFrame.2.under guise) := by
  unfold readFrame under
  split <;> rfl

theorem send_under (sending : Sending) :
    (tunnel.under guise).send sending =
      ((tunnel.send sending).1, (tunnel.send sending).2.under guise) :=
  rfl

end Tunnel

/-! ### Registered tunnels -/

namespace RegisteredTunnel

variable {σ : Type}

def under (number : Nat) (registered : RegisteredTunnel σ) : RegisteredTunnel σ :=
  { registered with
    tunnel := registered.tunnel.under guise
    lastAccess := max registered.lastAccess (guise.access number) }

variable (number : Nat) (registered : RegisteredTunnel σ)

@[simp] theorem tunnel_under :
    (registered.under guise number).tunnel = registered.tunnel.under guise :=
  rfl

@[simp] theorem outbox_under :
    (registered.under guise number).outbox = registered.outbox :=
  rfl

theorem touch_under (now : Nat) :
    (registered.under guise number).touch now = (registered.touch now).under guise number := by
  simp only [touch, under, Nat.max_right_comm]

variable {guise number registered} in
/-- To be asked for is to be in another guise. -/
theorem touch_eq_under {now : Nat}
    (same : registered.tunnel.under guise = registered.tunnel)
    (accessed : guise.access number = now - registered.registeredAt) :
    registered.touch now = registered.under guise number := by
  rw [under, same, accessed]
  rfl

variable {guise number registered} in
theorem under_eq_self
    (same : registered.tunnel.under guise = registered.tunnel)
    (never : guise.access number = 0) :
    registered.under guise number = registered := by
  rw [under, same, never, Nat.max_zero]

theorem isListedAs_under (uuid : Uuid) :
    (registered.under guise number).isListedAs uuid = registered.isListedAs uuid :=
  rfl

theorem idleFor_under (now : Nat) :
    (registered.under guise number).idleFor now ≤ registered.idleFor now := by
  simp only [idleFor, under]
  omega

end RegisteredTunnel

/-! ### The whole registry -/

namespace Registry

variable {σ : Type}

def under (registry : Registry σ) : Registry σ :=
  { registry with
    tunnels := registry.tunnels.mapIdx fun number => (·.under guise number) }

variable (registry : Registry σ) (number : Nat)

theorem length_under :
    (registry.under guise).tunnels.length = registry.tunnels.length :=
  List.length_mapIdx

theorem tunnel?_under :
    (registry.under guise).tunnel? number =
      (registry.tunnel? number).map (·.under guise number) :=
  List.getElem?_mapIdx

theorem count_under (change : Metrics → Metrics) :
    (registry.under guise).count change = (registry.count change).under guise :=
  rfl

theorem advance_under (duration : Nat) :
    (registry.under guise).advance duration = (registry.advance duration).under guise :=
  rfl

variable {guise} in
theorem update_under {change changed : RegisteredTunnel σ → RegisteredTunnel σ}
    (commutes : ∀ registered, registry.tunnel? number = some registered →
      changed (registered.under guise number) = (change registered).under guise number) :
    (registry.under guise).update number changed =
      (registry.update number change).under guise := by
  simp only [update, under]
  congr 1
  apply List.ext_getElem?
  intro other
  rw [List.getElem?_modify, List.getElem?_mapIdx, List.getElem?_mapIdx,
    List.getElem?_modify]
  by_cases same : number = other
  · subst same
    cases found : registry.tunnels[number]? with
    | none => rfl
    | some registered =>
        simp only [if_true, Option.map_eq_map, Option.map_some]
        exact congrArg some (commutes registered found)
  · simp [same]

theorem store_under (registered : RegisteredTunnel σ) :
    ((registry.under guise).update number fun _ => registered.under guise number) =
      (registry.update number fun _ => registered).under guise :=
  registry.update_under number fun _ _ => rfl

variable {guise} in
theorem onTunnel_under {change changed : Tunnel σ → Tunnel σ}
    (commutes : ∀ tunnel, changed (tunnel.under guise) = (change tunnel).under guise) :
    (registry.under guise).onTunnel number changed =
      (registry.onTunnel number change).under guise := by
  apply update_under
  intro registered _
  simp only [RegisteredTunnel.under, commutes]

theorem releaseReader_under (ticket : Ticket) :
    (registry.under guise).onTunnel number
        (·.releaseReader (guise.ticket ticket)) =
      (registry.onTunnel number (·.releaseReader ticket)).under guise :=
  registry.onTunnel_under number fun tunnel =>
    tunnel.releaseReader_under guise ticket

theorem releaseWriter_under (ticket : Ticket) :
    (registry.under guise).onTunnel number
        (·.releaseWriter (guise.ticket ticket)) =
      (registry.onTunnel number (·.releaseWriter ticket)).under guise :=
  registry.onTunnel_under number fun tunnel =>
    tunnel.releaseWriter_under guise ticket

theorem onOutbox_under (change : Outbox → Outbox) :
    (registry.under guise).onOutbox number change =
      (registry.onOutbox number change).under guise :=
  registry.update_under number fun _ _ => rfl

theorem find?_under (uuid : Uuid) :
    (registry.under guise).find? uuid = registry.find? uuid := by
  simp only [find?, under]
  generalize registry.tunnels = tunnels
  generalize guiseFrom : (fun number (registered : RegisteredTunnel σ) =>
    registered.under guise number) = dress
  have listed : ∀ number registered,
      (dress number registered).isListedAs uuid = registered.isListedAs uuid := by
    subst guiseFrom
    exact fun _ _ => rfl
  clear guiseFrom
  induction tunnels generalizing dress with
  | nil => rfl
  | cons first rest ih =>
      rw [List.mapIdx_cons, List.findIdx?_cons, List.findIdx?_cons, listed,
        ih _ fun number => listed (number + 1)]

theorem get_under (uuid : Uuid) :
    (registry.under guise).get uuid =
      ((registry.get uuid).1, (registry.get uuid).2.under guise) := by
  unfold get
  rw [find?_under]
  split
  · rfl
  · rename_i number _
    refine Prod.ext rfl ?_
    exact registry.update_under number fun registered _ =>
      registered.touch_under guise number _

/-- A tunnel that nobody has asked for looks the same under every guise in which
it was not accessed either. -/
theorem put_under {tunnel : Tunnel σ} (unasked : tunnel.Unasked) (token : String)
    (fresh : guise.access registry.tunnels.length = 0) :
    (registry.under guise).put tunnel token = (registry.put tunnel token).under guise := by
  have new : RegisteredTunnel.under guise registry.tunnels.length
      { tunnel, token, registeredAt := registry.now } =
        { tunnel, token, registeredAt := registry.now } := by
    simp only [RegisteredTunnel.under, unasked.under, fresh, Nat.max_self]
  simp only [put, under, List.mapIdx_append, List.length_map, List.mapIdx_cons,
    List.mapIdx_nil, Nat.zero_add, new]
  congr 2
  apply List.ext_getElem?
  intro other
  simp only [List.getElem?_map, List.getElem?_mapIdx]
  cases registry.tunnels[other]? with
  | none => rfl
  | some registered =>
      have same := registered.isListedAs_under guise other tunnel.uuid
      simp only [Option.map_some]
      cases listed : registered.isListedAs tunnel.uuid with
      | true => rw [if_pos (same.trans listed), if_pos rfl]; rfl
      | false =>
          rw [if_neg (Bool.eq_false_iff.mp (same.trans listed)), if_neg nofun]

variable [Connection σ]

theorem close_under (uuid : Uuid) (status : Status) :
    (registry.under guise).close uuid status =
      ((registry.close uuid status).1, (registry.close uuid status).2.under guise) := by
  unfold close
  rw [find?_under]
  split
  · rfl
  · rename_i number _
    simp only [← count_under]
    rw [update_under]
    intro registered _
    simp only [RegisteredTunnel.under, Tunnel.close_under]

def Expires (number : Nat) : Prop :=
  ∃ registered, registry.tunnel? number = some registered ∧
    registered.listed = true ∧
    registry.idleTimeout ≤ registered.idleFor registry.now

omit [Connection σ] in
theorem filter_mapIdx {α β : Type} (list : List α) (change : Nat → α → α)
    (keep : α → Bool) (look : α → β)
    (same : ∀ (index : Nat) (entry : α), list[index]? = some entry →
      keep (change index entry) = keep entry ∧
        look (change index entry) = look entry) :
    ((list.mapIdx change).filter keep).map look =
      (list.filter keep).map look := by
  induction list generalizing change with
  | nil => rfl
  | cons first rest ih =>
      obtain ⟨kept, looks⟩ := same 0 first rfl
      have later := ih (fun index => change (index + 1))
        fun index => same (index + 1)
      rw [List.mapIdx_cons, List.filter_cons, List.filter_cons, kept]
      split
      · rw [List.map_cons, List.map_cons, looks, later]
      · exact later

omit [Connection σ] in
theorem idle_under
    (spares : ∀ number, registry.Expires number → guise.access number = 0) :
    (registry.under guise).idle = registry.idle := by
  apply filter_mapIdx
  intro number registered found
  refine ⟨?_, rfl⟩
  cases listed : registered.listed with
  | false => simp only [RegisteredTunnel.under, listed, Bool.false_and]
  | true =>
      change (registered.listed && decide (registry.idleTimeout ≤
          (registered.under guise number).idleFor registry.now)) =
        (true && decide (registry.idleTimeout ≤
          registered.idleFor registry.now))
      rw [listed]
      congr 2
      have before := registered.idleFor_under guise number registry.now
      by_cases expires : registry.idleTimeout ≤ registered.idleFor registry.now
      · have never := spares number ⟨registered, found, listed, expires⟩
        simp only [RegisteredTunnel.under, RegisteredTunnel.idleFor, never,
          Nat.max_zero]
      · exact propext ⟨fun still => Nat.le_trans still before, fun is => absurd is expires⟩

theorem closeIdle_under
    (spares : ∀ number, registry.Expires number → guise.access number = 0) :
    (registry.under guise).closeIdle =
      Prod.map id (under guise) registry.closeIdle := by
  unfold closeIdle
  rw [registry.idle_under guise spares]
  generalize registry.idle = idle
  generalize 0 = closed
  clear spares
  induction idle generalizing registry closed with
  | nil => rfl
  | cons uuid idle ih =>
      simp only [List.foldl_cons, close_under]
      cases registry.close uuid .sessionTimeout with
      | mk found next =>
          cases found with
          | true => exact ih next (closed + 1)
          | false => exact ih next closed

end Registry

end TunnelRelay
