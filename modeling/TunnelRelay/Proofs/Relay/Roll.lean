import TunnelRelay.Proofs.Relay.Tunnels
import TunnelRelay.Relay

/-!
The roll of the tunnels that were opened.

The roll says of every tunnel that was opened over HTTP whether it is listed, and it has the
counters that tell how many tunnels were opened and how they ended. Only opening and closing a
tunnel changes it. What a step of a request or of a session has to do with it is in its marks, and
these can be read from the request or the session before the step.
-/

namespace TunnelRelay

open Http LongPoll

/-- A tunnel that was opened: over HTTP with a UUID, or for a WebSocket. -/
inductive Passage where
  | registered (uuid : Uuid)
  | session (number : Nat)
  deriving DecidableEq, Repr

inductive Part where
  | pump
  | handler
  deriving DecidableEq, Repr

/-- What becomes of tunnels. -/
inductive Mark where
  | opens (passage : Passage)
  /-- Somebody closes a tunnel, or counts it as closed. An HTTP tunnel may be
  closed already. -/
  | closes (passage : Passage) (status : Status)
  /-- A task of a session closes its socket, which may be closed already. -/
  | shuts (session : Nat) (part : Part) (status : Status)
  deriving DecidableEq, Repr

def Metrics.ofTunnels (metrics : Metrics) : Metrics :=
  { metrics with toServer := {}, toClient := {}, pings := 0 }

/-- The tunnels that were opened over HTTP, with whether they are listed, and
the counters of all tunnels. -/
structure Roll where
  entries : List (Uuid × Bool) := []
  counters : Metrics := {}

namespace Roll

/-- Lists a tunnel, in the place of any other one with its UUID. -/
def enrol (roll : Roll) (uuid : Uuid) : Roll where
  entries :=
    (roll.entries.map fun entry =>
      if entry = (uuid, true) then (uuid, false) else entry) ++ [(uuid, true)]
  counters := roll.counters.tunnelOpened

def strike (roll : Roll) (uuid : Uuid) (status : Status) : Roll :=
  match roll.entries.findIdx? (· == (uuid, true)) with
  | none => roll
  | some number =>
      { entries := roll.entries.modify number fun entry => (entry.1, false)
        counters := roll.counters.tunnelClosed status }

def mark (roll : Roll) : Mark → Roll
  | .opens (.registered uuid) => roll.enrol uuid
  | .opens (.session _) => { roll with counters := roll.counters.tunnelOpened }
  | .closes (.registered uuid) status => roll.strike uuid status
  | .closes (.session _) status =>
      { roll with counters := roll.counters.tunnelClosed status }
  | .shuts _ _ _ => roll

def markAll (roll : Roll) (marks : List Mark) : Roll :=
  marks.foldl mark roll

theorem markAll_append (roll : Roll) (marks more : List Mark) :
    roll.markAll (marks ++ more) = (roll.markAll marks).markAll more :=
  List.foldl_append

def uuids (roll : Roll) : List Uuid :=
  roll.entries.map (·.1)

theorem uuids_enrol (roll : Roll) (uuid : Uuid) :
    (roll.enrol uuid).uuids = roll.uuids ++ [uuid] := by
  simp only [uuids, enrol, List.map_append, List.map_map, List.map_cons,
    List.map_nil]
  congr 1
  apply List.map_congr_left
  intro entry _
  simp only [Function.comp]
  split
  · rename_i same
    rw [same]
  · rfl

theorem uuids_strike (roll : Roll) (uuid : Uuid) (status : Status) :
    (roll.strike uuid status).uuids = roll.uuids := by
  unfold strike
  split
  · rfl
  · apply List.ext_getElem?
    intro number
    simp only [uuids, List.getElem?_map, List.getElem?_modify]
    split
    · rw [Option.map_eq_map, Option.map_map]
      rfl
    · rw [Option.map_eq_map, Option.map_id']

theorem uuids_mark (roll : Roll) (mark : Mark) :
    roll.uuids <+: (roll.mark mark).uuids := by
  cases mark with
  | opens passage =>
      cases passage with
      | registered uuid =>
          rw [Roll.mark, uuids_enrol]
          exact List.prefix_append _ _
      | session number => exact List.prefix_rfl
  | closes passage status =>
      cases passage with
      | registered uuid =>
          exact ⟨[], (List.append_nil _).trans
            (roll.uuids_strike uuid status).symm⟩
      | session number => exact List.prefix_rfl
  | shuts session part status => exact List.prefix_rfl

theorem uuids_markAll (roll : Roll) (marks : List Mark) :
    roll.uuids <+: (roll.markAll marks).uuids := by
  induction marks generalizing roll with
  | nil => exact List.prefix_rfl
  | cons mark marks ih =>
      exact (roll.uuids_mark mark).trans (ih (roll.mark mark))

end Roll

/-! ### The roll of a registry -/

theorem Tunnel.close_uuid {σ : Type} [Connection σ] (tunnel : Tunnel σ) :
    tunnel.close.uuid = tunnel.uuid := by
  unfold close
  split <;> rfl

namespace RegisteredTunnel

def entry {σ : Type} (registered : RegisteredTunnel σ) : Uuid × Bool :=
  (registered.tunnel.uuid, registered.listed)

theorem isListedAs_eq {σ : Type} (registered : RegisteredTunnel σ)
    (uuid : Uuid) :
    registered.isListedAs uuid = (registered.entry == (uuid, true)) := by
  rw [isListedAs, entry, Bool.eq_iff_iff]
  simp [and_comm]

end RegisteredTunnel

namespace Registry

variable {σ : Type}

def roll (registry : Registry σ) : Roll where
  entries := registry.tunnels.map (·.entry)
  counters := registry.metrics.ofTunnels

theorem roll_count (registry : Registry σ) (change : Metrics → Metrics)
    (same : ∀ metrics, (change metrics).ofTunnels = metrics.ofTunnels) :
    (registry.count change).roll = registry.roll :=
  congrArg (Roll.mk _) (same registry.metrics)

theorem roll_update (registry : Registry σ) (number : Nat)
    (change : RegisteredTunnel σ → RegisteredTunnel σ)
    (same : ∀ registered, registry.tunnel? number = some registered →
      (change registered).entry = registered.entry) :
    (registry.update number change).roll = registry.roll := by
  have entries := registry.map_update_rest number same
  exact congrArg (Roll.mk · _) entries

theorem roll_onTunnel (registry : Registry σ) (number : Nat)
    (change : Tunnel σ → Tunnel σ)
    (same : ∀ tunnel, (change tunnel).uuid = tunnel.uuid) :
    (registry.onTunnel number change).roll = registry.roll :=
  registry.roll_update number _ fun _ _ => Prod.ext (same _) rfl

theorem roll_onOutbox (registry : Registry σ) (number : Nat)
    (change : Outbox → Outbox) :
    (registry.onOutbox number change).roll = registry.roll :=
  registry.roll_update number _ fun _ _ => rfl

theorem roll_get (registry : Registry σ) (uuid : Uuid) :
    (registry.get uuid).2.roll = registry.roll := by
  unfold get
  split
  · rfl
  · exact registry.roll_update _ _ fun _ _ => rfl

theorem find?_eq_findIdx? (registry : Registry σ) (uuid : Uuid) :
    registry.find? uuid =
      registry.roll.entries.findIdx? (· == (uuid, true)) := by
  unfold find? roll
  rw [List.findIdx?_map]
  congr 1
  funext registered
  exact registered.isListedAs_eq uuid

theorem roll_open (registry : Registry σ) (tunnel : Tunnel σ)
    (token : String) :
    ((registry.count (·.tunnelOpened)).put tunnel token).roll =
      registry.roll.enrol tunnel.uuid := by
  unfold put roll Roll.enrol
  congr 1
  simp only [count, List.map_append, List.map_map, List.map_cons, List.map_nil]
  congr 1
  apply List.map_congr_left
  intro registered _
  simp only [Function.comp, registered.isListedAs_eq, beq_iff_eq]
  split
  · rename_i same
    exact Prod.ext (Prod.mk.inj same).1 rfl
  · rfl

variable [Connection σ]

theorem roll_close (registry : Registry σ) (uuid : Uuid) (status : Status) :
    (registry.close uuid status).2.roll = registry.roll.strike uuid status := by
  unfold close Roll.strike
  rw [← find?_eq_findIdx?]
  cases registry.find? uuid with
  | none => rfl
  | some number =>
      have strikes : ∀ registered, registry.tunnel? number = some registered →
          RegisteredTunnel.entry { registered with
            listed := false, tunnel := registered.tunnel.close } =
          (registered.entry.1, false) :=
        fun registered _ => Prod.ext registered.tunnel.close_uuid rfl
      have entries : (registry.update number fun registered =>
            { registered with
              listed := false, tunnel := registered.tunnel.close }
          ).tunnels.map (·.entry) =
          (registry.tunnels.map (·.entry)).modify number
            fun entry => (entry.1, false) :=
        registry.map_update number strikes
      unfold roll
      congr 1
      unfold count Metrics.tunnelClosed Metrics.ofTunnels
      simp only
      cases ClosedAs.ofStatus status <;> rfl

theorem roll_closeIdle (registry : Registry σ) :
    registry.closeIdle.2.roll = registry.roll.markAll
      (registry.idle.map fun uuid =>
        .closes (.registered uuid) .sessionTimeout) := by
  unfold closeIdle
  generalize registry.idle = idle
  generalize 0 = count
  induction idle generalizing registry count with
  | nil => rfl
  | cons uuid idle ih =>
      have first := roll_close registry uuid .sessionTimeout
      rw [List.foldl_cons]
      cases closing : registry.close uuid .sessionTimeout with
      | mk found next =>
          rw [closing] at first
          simp only [closing, List.map_cons, Roll.markAll, List.foldl_cons,
            Roll.mark, ← first]
          cases found with
          | true => exact ih next (count + 1)
          | false => exact ih next count

end Registry

end TunnelRelay
