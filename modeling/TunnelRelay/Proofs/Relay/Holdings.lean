import TunnelRelay.Proofs.Relay.Reads
import TunnelRelay.Proofs.Relay.Removals

/-!
What operations say of the tunnels they are about.

A registry is told to put, find and close tunnels and to close those that are idle, and between
this time passes. The operations alone say which tunnels are held: those that were put, and were
neither closed nor found idle since. They also say for how long a tunnel was not used. What is
registered of a tunnel reflects this, and each operation keeps it so.
-/

namespace TunnelRelay

namespace Registry

variable {σ : Type}

/-- What is done with a registry. -/
inductive Operation (σ : Type) where
  /-- Nothing, for some milliseconds. -/
  | wait (duration : Nat)
  | put (tunnel : Tunnel σ) (token : String)
  | get (uuid : Uuid)
  | close (uuid : Uuid) (status : Status)
  | closeIdle
  /-- The queue of a tunnel is changed by somebody who was given the tunnel,
  which may be closed by now. -/
  | queue (number : Nat) (change : Outbox → Outbox)

/-- A tunnel that was put, with what is in its queue by now. -/
structure Deposit (σ : Type) where
  tunnel : Tunnel σ
  token : String
  outbox : Outbox := {}

namespace Deposit

def uuid (deposit : Deposit σ) : Uuid :=
  deposit.tunnel.uuid

def requeue (deposit : Deposit σ) (change : Outbox → Outbox) : Deposit σ :=
  { deposit with outbox := change deposit.outbox }

end Deposit

namespace Operation

def deposit (deposits : List (Deposit σ)) : Operation σ → List (Deposit σ)
  | .put tunnel token => deposits ++ [{ tunnel, token }]
  | .queue number change => deposits.modify number (·.requeue change)
  | .wait _ | .get _ | .close _ _ | .closeIdle => deposits

/-- How long ago a UUID was used, after one more operation. -/
def elapse (uuid : Uuid) (since : Nat) : Operation σ → Nat
  | .wait duration => since + duration
  | .put tunnel _ => if tunnel.uuid = uuid then 0 else since
  | .get asked => if asked = uuid then 0 else since
  | .close _ _ | .closeIdle | .queue _ _ => since

end Operation

def deposits (operations : List (Operation σ)) : List (Deposit σ) :=
  operations.foldl Operation.deposit []

/-- How long ago a tunnel with the UUID was put or asked for last. -/
def sinceUse (uuid : Uuid) (operations : List (Operation σ)) : Nat :=
  operations.foldl (Operation.elapse uuid) 0

/-- No two tunnels that were put share a UUID. -/
def Separate (operations : List (Operation σ)) : Prop :=
  ((deposits operations).map Deposit.uuid).Nodup

namespace Operation

def Puts (uuid : Uuid) : Operation σ → Prop
  | .put tunnel _ => tunnel.uuid = uuid
  | .wait _ | .get _ | .close _ _ | .closeIdle | .queue _ _ => False

/-- The operation closes the tunnel with the UUID, or finds that it has been
idle for too long. -/
def Removes (timeout : Nat) (uuid : Uuid) (earlier : List (Operation σ)) :
    Operation σ → Prop
  | .close closed _ => closed = uuid
  | .closeIdle => timeout ≤ sinceUse uuid earlier
  | .wait _ | .put _ _ | .get _ | .queue _ _ => False

end Operation

/-- A tunnel with the UUID was put, and was not closed and has not expired
since. -/
inductive Holds (timeout : Nat) (uuid : Uuid) : List (Operation σ) → Prop where
  | put {earlier : List (Operation σ)} {operation : Operation σ}
      (puts : operation.Puts uuid) :
      Holds timeout uuid (earlier ++ [operation])
  | keep {earlier : List (Operation σ)} {operation : Operation σ}
      (held : Holds timeout uuid earlier)
      (stays : ¬ operation.Removes timeout uuid earlier) :
      Holds timeout uuid (earlier ++ [operation])

/-! ### One more operation -/

section Steps

variable {timeout : Nat} {uuid : Uuid} {earlier : List (Operation σ)}
  {operation : Operation σ}

theorem deposits_snoc (earlier : List (Operation σ)) (operation : Operation σ) :
    deposits (earlier ++ [operation]) = operation.deposit (deposits earlier) := by
  rw [deposits, List.foldl_append]
  rfl

theorem sinceUse_snoc (uuid : Uuid) (earlier : List (Operation σ))
    (operation : Operation σ) :
    sinceUse uuid (earlier ++ [operation]) =
      operation.elapse uuid (sinceUse uuid earlier) := by
  rw [sinceUse, List.foldl_append]
  rfl

theorem holds_snoc : Holds timeout uuid (earlier ++ [operation]) ↔
    operation.Puts uuid ∨
      Holds timeout uuid earlier ∧ ¬ operation.Removes timeout uuid earlier := by
  constructor
  · intro held
    generalize whole : earlier ++ [operation] = operations at held
    cases held with
    | put puts =>
        obtain ⟨-, last⟩ := List.append_inj' whole rfl
        cases last
        exact Or.inl puts
    | keep held stays =>
        obtain ⟨rfl, last⟩ := List.append_inj' whole rfl
        cases last
        exact Or.inr ⟨held, stays⟩
  · rintro (puts | ⟨held, stays⟩)
    · exact .put puts
    · exact .keep held stays

theorem uuids_isPrefix (earlier : List (Operation σ)) (operation : Operation σ) :
    (deposits earlier).map Deposit.uuid <+:
      (deposits (earlier ++ [operation])).map Deposit.uuid := by
  rw [deposits_snoc]
  cases operation with
  | put tunnel token =>
      rw [Operation.deposit, List.map_append]
      exact List.prefix_append _ _
  | queue number change =>
      have same : ((deposits earlier).modify number (·.requeue change)).map
          Deposit.uuid = (deposits earlier).map Deposit.uuid := by
        apply List.ext_getElem?
        intro other
        simp only [List.getElem?_map, List.getElem?_modify]
        split
        · rw [Option.map_eq_map, Option.map_map]
          rfl
        · rw [Option.map_eq_map, Option.map_id']
      exact ⟨[], (List.append_nil _).trans same.symm⟩
  | wait duration => exact List.prefix_rfl
  | get uuid => exact List.prefix_rfl
  | close uuid status => exact List.prefix_rfl
  | closeIdle => exact List.prefix_rfl

theorem Separate.init (separate : Separate (earlier ++ [operation])) :
    Separate earlier :=
  List.Nodup.sublist (uuids_isPrefix earlier operation).sublist separate

theorem Operation.Puts.uuids (puts : operation.Puts uuid) :
    (deposits (earlier ++ [operation])).map Deposit.uuid =
      (deposits earlier).map Deposit.uuid ++ [uuid] := by
  cases operation with
  | put tunnel token =>
      cases puts
      rw [deposits_snoc, Operation.deposit, List.map_append]
      rfl
  | wait | get | close | closeIdle | queue => cases puts

theorem Operation.Puts.fresh (puts : operation.Puts uuid)
    (separate : Separate (earlier ++ [operation])) :
    uuid ∉ (deposits earlier).map Deposit.uuid := by
  rw [Separate, puts.uuids, List.nodup_append] at separate
  intro member
  exact separate.2.2 uuid member uuid List.mem_cons_self rfl

theorem Holds.mem_uuids {operations : List (Operation σ)}
    (held : Holds timeout uuid operations) :
    uuid ∈ (deposits operations).map Deposit.uuid := by
  induction held with
  | put puts =>
      rw [puts.uuids]
      exact List.mem_append_right _ List.mem_cons_self
  | keep held stays ih => exact (uuids_isPrefix _ _).subset ih

end Steps

end Registry

def RegisteredTunnel.deposit {σ : Type} (registered : RegisteredTunnel σ) :
    Registry.Deposit σ where
  tunnel := registered.tunnel
  token := registered.token
  outbox := registered.outbox

namespace Registry

variable {σ : Type} [Connection σ]

/-! ### What a tunnel that was put has become -/

/-- What is registered of a tunnel that was put agrees with the operations. -/
structure Reflects (timeout now : Nat) (operations : List (Operation σ))
    (deposit : Deposit σ) (registered : RegisteredTunnel σ) : Prop where
  token : registered.token = deposit.token
  outbox : registered.outbox = deposit.outbox
  listed : registered.listed = true ↔ Holds timeout deposit.uuid operations
  tunnel : registered.tunnel =
    if registered.listed then deposit.tunnel else deposit.tunnel.close
  access : registered.listed = true →
    registered.registeredAt + registered.lastAccess +
      sinceUse deposit.uuid operations = now

namespace Reflects

variable {timeout now : Nat} {operations : List (Operation σ)}
  {deposit : Deposit σ} {registered : RegisteredTunnel σ}

theorem begin (tunnel : Tunnel σ) (token : String) :
    Reflects timeout now (operations ++ [.put tunnel token]) { tunnel, token }
      { tunnel, token, registeredAt := now } where
  token := rfl
  outbox := rfl
  listed := iff_of_true rfl (.put rfl)
  tunnel := rfl
  access _ := by
    rw [sinceUse_snoc, Operation.elapse, Deposit.uuid, if_pos rfl]
    rfl

variable (reflects : Reflects timeout now operations deposit registered)

include reflects

theorem uuid : registered.tunnel.uuid = deposit.uuid := by
  rw [reflects.tunnel]
  split
  · rfl
  · exact deposit.tunnel.close_uuid

theorem isListedAs_iff {uuid : Uuid} : registered.isListedAs uuid = true ↔
    deposit.uuid = uuid ∧ Holds timeout deposit.uuid operations := by
  rw [RegisteredTunnel.isListedAs, Bool.and_eq_true, beq_iff_eq, reflects.uuid,
    reflects.listed, and_comm]

theorem isIdle_iff :
    (registered.listed && timeout ≤ registered.idleFor now) = true ↔
      Holds timeout deposit.uuid operations ∧
        timeout ≤ sinceUse deposit.uuid operations := by
  rw [Bool.and_eq_true, decide_eq_true_eq, ← reflects.listed]
  apply and_congr_right
  intro listed
  have access := reflects.access listed
  unfold RegisteredTunnel.idleFor
  omega

theorem deposit_of_held (held : Holds timeout deposit.uuid operations) :
    registered.deposit = deposit := by
  rw [RegisteredTunnel.deposit, reflects.tunnel,
    if_pos (reflects.listed.mpr held), reflects.token, reflects.outbox]

theorem deposit_of_gone (gone : ¬ Holds timeout deposit.uuid operations) :
    registered.deposit = { deposit with tunnel := deposit.tunnel.close } ∧
      registered.tunnel.isOpen = false := by
  have closed : registered.tunnel = deposit.tunnel.close := by
    rw [reflects.tunnel, if_neg (reflects.listed.not.mpr gone)]
  constructor
  · rw [RegisteredTunnel.deposit, closed, reflects.token, reflects.outbox]
  · rw [closed]
    exact deposit.tunnel.close_isOpen

/-! ### Each operation keeps it so -/

theorem stay {later : List (Operation σ)} {moment : Nat}
    (held : Holds timeout deposit.uuid later ↔
      Holds timeout deposit.uuid operations)
    (since : Holds timeout deposit.uuid operations →
      sinceUse deposit.uuid later + now =
        sinceUse deposit.uuid operations + moment) :
    Reflects timeout moment later deposit registered where
  token := reflects.token
  outbox := reflects.outbox
  listed := reflects.listed.trans held.symm
  tunnel := reflects.tunnel
  access listed := by
    have access := reflects.access listed
    have since := since (reflects.listed.mp listed)
    omega

theorem remove {later : List (Operation σ)}
    (held : Holds timeout deposit.uuid operations)
    (gone : ¬ Holds timeout deposit.uuid later) :
    Reflects timeout now later deposit registered.removed where
  token := reflects.token
  outbox := reflects.outbox
  listed := iff_of_false (nomatch ·) gone
  tunnel := by
    rw [RegisteredTunnel.removed, reflects.tunnel, reflects.listed.mpr held]
    rfl
  access impossible := nomatch impossible

theorem wait (duration : Nat) :
    Reflects timeout (now + duration) (operations ++ [.wait duration]) deposit
      registered := by
  apply reflects.stay
  · simp [holds_snoc, Operation.Puts, Operation.Removes]
  · intro _
    rw [sinceUse_snoc, Operation.elapse]
    omega

theorem put {tunnel : Tunnel σ} (token : String)
    (other : tunnel.uuid ≠ deposit.uuid) :
    Reflects timeout now (operations ++ [.put tunnel token]) deposit
      registered := by
  apply reflects.stay
  · simp [holds_snoc, Operation.Puts, Operation.Removes, other]
  · intro _
    rw [sinceUse_snoc, Operation.elapse, if_neg other]

theorem get (asked : Uuid) :
    Reflects timeout now (operations ++ [.get asked]) deposit
      (if registered.isListedAs asked then registered.touch now
        else registered) := by
  have held : Holds timeout deposit.uuid (operations ++ [.get asked]) ↔
      Holds timeout deposit.uuid operations := by
    simp [holds_snoc, Operation.Puts, Operation.Removes]
  split
  · rename_i found
    obtain ⟨same, -⟩ := reflects.isListedAs_iff.mp found
    refine ⟨reflects.token, reflects.outbox, reflects.listed.trans held.symm,
      reflects.tunnel, ?_⟩
    intro listed
    -- The access counts from the registration, which is not after now.
    have access := reflects.access listed
    rw [sinceUse_snoc, Operation.elapse, if_pos same.symm]
    simp only [RegisteredTunnel.touch]
    omega
  · rename_i missing
    apply reflects.stay held
    intro kept
    have other : asked ≠ deposit.uuid :=
      fun same => missing (reflects.isListedAs_iff.mpr ⟨same.symm, kept⟩)
    rw [sinceUse_snoc, Operation.elapse, if_neg other]

theorem close (closed : Uuid) (status : Status) :
    Reflects timeout now (operations ++ [.close closed status]) deposit
      (if registered.isListedAs closed then registered.removed
        else registered) := by
  have held : Holds timeout deposit.uuid (operations ++ [.close closed status]) ↔
      Holds timeout deposit.uuid operations ∧ closed ≠ deposit.uuid := by
    simp [holds_snoc, Operation.Puts, Operation.Removes]
  split
  · rename_i found
    obtain ⟨same, kept⟩ := reflects.isListedAs_iff.mp found
    exact reflects.remove kept fun still => (held.mp still).2 same.symm
  · rename_i missing
    apply reflects.stay
    · rw [held, and_iff_left_iff_imp]
      exact fun kept same => missing (reflects.isListedAs_iff.mpr ⟨same.symm, kept⟩)
    · intro _
      rw [sinceUse_snoc, Operation.elapse]

theorem closeIdle :
    Reflects timeout now (operations ++ [.closeIdle]) deposit
      (if registered.listed && timeout ≤ registered.idleFor now then
          registered.removed
        else registered) := by
  have held : Holds timeout deposit.uuid (operations ++ [.closeIdle]) ↔
      Holds timeout deposit.uuid operations ∧
        ¬ timeout ≤ sinceUse deposit.uuid operations := by
    simp only [holds_snoc, Operation.Puts, Operation.Removes, false_or]
  split
  · rename_i due
    obtain ⟨kept, due⟩ := reflects.isIdle_iff.mp due
    exact reflects.remove kept fun still => (held.mp still).2 due
  · rename_i early
    rw [reflects.isIdle_iff] at early
    apply reflects.stay
    · rw [held, and_iff_left_iff_imp]
      exact fun kept due => early ⟨kept, due⟩
    · intro _
      rw [sinceUse_snoc, Operation.elapse]

theorem queue (number : Nat) (change : Outbox → Outbox) :
    Reflects timeout now (operations ++ [.queue number change]) deposit
      registered := by
  apply reflects.stay
  · simp [holds_snoc, Operation.Puts, Operation.Removes]
  · intro _
    rw [sinceUse_snoc, Operation.elapse]

theorem requeue (change : Outbox → Outbox) :
    Reflects timeout now operations (deposit.requeue change)
      { registered with outbox := change registered.outbox } where
  token := reflects.token
  outbox := congrArg change reflects.outbox
  listed := reflects.listed
  tunnel := reflects.tunnel
  access := reflects.access

end Reflects

end Registry

end TunnelRelay
