import Mathlib.Data.List.Forall2
import TunnelRelay.Proofs.Relay.Holdings
import TunnelRelay.Stream.Script

/-!
The registry as a map with expiry.

As long as no two tunnels share a UUID, a registry mirrors what was done with it: it has the tunnels
that were put, and finds those of them that are held. So it answers as the operations say, whenever
they are made, and every tunnel that was put is held or was taken out, and counted, once.
-/

namespace TunnelRelay.Registry

variable {σ : Type} [Connection σ]

/-! ### The run -/

inductive Reply where
  | silent
  | found (number : Option Nat)
  | closed (first : Bool)
  | expired (count : Nat)
  deriving DecidableEq, Repr

def operate (registry : Registry σ) : Operation σ → Reply × Registry σ
  | .wait duration => (.silent, registry.advance duration)
  | .put tunnel token => (.silent, registry.put tunnel token)
  | .get uuid =>
      let (number, next) := registry.get uuid
      (.found number, next)
  | .close uuid status =>
      let (first, next) := registry.close uuid status
      (.closed first, next)
  | .closeIdle =>
      let (count, next) := registry.closeIdle
      (.expired count, next)
  | .queue number change => (.silent, registry.onOutbox number change)

def Reply.removed : Reply → Nat
  | .silent | .found _ => 0
  | .closed first => first.toNat
  | .expired count => count

def Reply.closes (uuid : Uuid) : Operation σ × Reply → Bool
  | (.close other _, .closed first) => first && other == uuid
  | _ => false

/-- A registry, with what was done with it and what it has replied. -/
structure Journal (σ : Type) where
  registry : Registry σ
  entries : List (Operation σ × Reply) := []

namespace Journal

def operate (journal : Journal σ) (operation : Operation σ) : Journal σ where
  registry := (journal.registry.operate operation).2
  entries := journal.entries ++ [(operation, (journal.registry.operate operation).1)]

def operateAll (journal : Journal σ) (operations : List (Operation σ)) : Journal σ :=
  operations.foldl operate journal

def closings (journal : Journal σ) (uuid : Uuid) : Nat :=
  journal.entries.countP (Reply.closes uuid)

def removed (journal : Journal σ) : Nat :=
  (journal.entries.map (·.2.removed)).sum

theorem operateAll_snoc (journal : Journal σ) (earlier : List (Operation σ))
    (operation : Operation σ) :
    journal.operateAll (earlier ++ [operation]) =
      (journal.operateAll earlier).operate operation := by
  rw [operateAll, List.foldl_append]
  rfl

theorem closings_operate (journal : Journal σ) (operation : Operation σ)
    (uuid : Uuid) :
    (journal.operate operation).closings uuid = journal.closings uuid +
      (Reply.closes uuid
        (operation, (journal.registry.operate operation).1)).toNat := by
  rw [closings, operate, List.countP_append, List.countP_singleton]
  cases Reply.closes uuid (operation, (journal.registry.operate operation).1) <;> rfl

theorem removed_operate (journal : Journal σ) (operation : Operation σ) :
    (journal.operate operation).removed = journal.removed +
      (journal.registry.operate operation).1.removed := by
  simp [removed, operate]

end Journal

/-! ### What has become of the tunnels -/

omit [Connection σ] in
theorem forall₂_getElem? {First Second : Type} {related : First → Second → Prop}
    {firsts : List First} {seconds : List Second}
    (each : List.Forall₂ related firsts seconds) (number : Nat) :
    Option.Rel related firsts[number]? seconds[number]? := by
  induction each generalizing number with
  | nil => exact .none
  | cons relates rest ih =>
      cases number with
      | zero => exact .some relates
      | succ number => exact ih number

omit [Connection σ] in
theorem forall₂_modify {First Second : Type} {related : First → Second → Prop}
    {firsts : List First} {seconds : List Second} {first : First → First}
    {second : Second → Second} (each : List.Forall₂ related firsts seconds)
    (keeps : ∀ one two, related one two → related (first one) (second two))
    (number : Nat) :
    List.Forall₂ related (firsts.modify number first)
      (seconds.modify number second) := by
  induction each generalizing number with
  | nil => cases number <;> exact .nil
  | cons relates rest ih =>
      cases number with
      | zero => exact .cons (keeps _ _ relates) rest
      | succ number => exact .cons relates (ih number)

/-- The registry has the tunnels that were put, in order, and nothing else. -/
structure Mirrors (timeout : Nat) (operations : List (Operation σ))
    (registry : Registry σ) : Prop where
  idleTimeout : registry.idleTimeout = timeout
  each : List.Forall₂ (Reflects timeout registry.now operations)
    (deposits operations) registry.tunnels

namespace Mirrors

variable {timeout : Nat} {operations : List (Operation σ)}
  {registry : Registry σ} (mirrors : Mirrors timeout operations registry)

include mirrors

theorem uuids : registry.tunnels.map (·.tunnel.uuid) =
    (deposits operations).map Deposit.uuid := by
  have each := mirrors.each
  generalize deposits operations = deposits at each ⊢
  generalize registry.tunnels = tunnels at each ⊢
  induction each with
  | nil => rfl
  | cons reflects _ ih => rw [List.map_cons, List.map_cons, reflects.uuid, ih]

theorem distinct (separate : Separate operations) : registry.Distinct := by
  rw [Distinct, mirrors.uuids]
  exact separate

theorem of_tunnel? {number : Nat} {registered : RegisteredTunnel σ}
    (there : registry.tunnel? number = some registered) :
    ∃ deposit, (deposits operations)[number]? = some deposit ∧
      Reflects timeout registry.now operations deposit registered := by
  have related := forall₂_getElem? mirrors.each number
  rw [tunnel?] at there
  rw [there] at related
  generalize (deposits operations)[number]? = put at related
  cases related with
  | some reflects => exact ⟨_, rfl, reflects⟩

theorem of_held {uuid : Uuid} (held : Holds timeout uuid operations) :
    ∃ number deposit registered, deposit.uuid = uuid ∧
      registry.tunnel? number = some registered ∧
      Reflects timeout registry.now operations deposit registered := by
  obtain ⟨deposit, member, same⟩ := List.mem_map.mp held.mem_uuids
  obtain ⟨number, there⟩ := List.getElem?_of_mem member
  have related := forall₂_getElem? mirrors.each number
  rw [there] at related
  refine ⟨number, deposit, ?_⟩
  rw [tunnel?]
  generalize registry.tunnels[number]? = known at related
  cases related with
  | some reflects => exact ⟨_, same, rfl, reflects⟩

/-! ### One more operation -/

theorem map {operation : Operation σ} {next : Registry σ} {moment : Nat}
    {change : RegisteredTunnel σ → RegisteredTunnel σ}
    (same : operation.deposit (deposits operations) = deposits operations)
    (idleTimeout : next.idleTimeout = registry.idleTimeout)
    (now : next.now = moment)
    (tunnels : next.tunnels = registry.tunnels.map change)
    (keeps : ∀ deposit registered,
      Reflects timeout registry.now operations deposit registered →
        Reflects timeout moment (operations ++ [operation]) deposit
          (change registered)) :
    Mirrors timeout (operations ++ [operation]) next where
  idleTimeout := idleTimeout.trans mirrors.idleTimeout
  each := by
    rw [deposits_snoc, same, tunnels, now, List.forall₂_map_right_iff]
    exact mirrors.each.imp keeps

theorem put {tunnel : Tunnel σ} (token : String)
    (fresh : tunnel.uuid ∉ (deposits operations).map Deposit.uuid) :
    Mirrors timeout (operations ++ [.put tunnel token])
      (registry.put tunnel token) where
  idleTimeout := mirrors.idleTimeout
  each := by
    have others : ∀ deposit ∈ deposits operations, tunnel.uuid ≠ deposit.uuid :=
      fun deposit member same =>
        fresh (List.mem_map.mpr ⟨deposit, member, same.symm⟩)
    rw [← mirrors.uuids] at fresh
    rw [deposits_snoc, Operation.deposit, put_tunnels fresh]
    apply List.rel_append
    · apply ((List.forall₂_and_left _ _).mpr ⟨others, mirrors.each⟩).imp
      rintro deposit registered ⟨other, reflects⟩
      exact reflects.put token other
    · exact .cons (Reflects.begin tunnel token) .nil

theorem queue (number : Nat) (change : Outbox → Outbox) :
    Mirrors timeout (operations ++ [.queue number change])
      (registry.onOutbox number change) where
  idleTimeout := mirrors.idleTimeout
  each := by
    have each := mirrors.each.imp fun _ _ reflects => reflects.queue number change
    rw [deposits_snoc]
    exact forall₂_modify each (fun _ _ reflects => reflects.requeue change) number

theorem operate (operation : Operation σ)
    (separate : Separate (operations ++ [operation])) :
    Mirrors timeout (operations ++ [operation]) (registry.operate operation).2 := by
  have distinct := mirrors.distinct separate.init
  cases operation with
  | wait duration =>
      exact mirrors.map rfl rfl rfl (List.map_id _).symm
        fun _ _ reflects => reflects.wait duration
  | put tunnel token =>
      have puts : (Operation.put tunnel token).Puts tunnel.uuid := rfl
      exact mirrors.put token (puts.fresh separate)
  | get uuid =>
      exact mirrors.map rfl (registry.get_idleTimeout uuid)
        (registry.get_now uuid) (distinct.get_tunnels uuid)
        fun _ _ reflects => reflects.get uuid
  | close uuid status =>
      exact mirrors.map rfl (registry.close_idleTimeout uuid status)
        (registry.close_now uuid status) (distinct.close_tunnels uuid status)
        fun _ _ reflects => reflects.close uuid status
  | closeIdle =>
      have tunnels := distinct.closeIdle_tunnels
      unfold isIdle at tunnels
      rw [mirrors.idleTimeout] at tunnels
      exact mirrors.map rfl registry.closeIdle_idleTimeout registry.closeIdle_now
        tunnels fun _ _ reflects => reflects.closeIdle
  | queue number change => exact mirrors.queue number change

theorem size_operate (operation : Operation σ)
    (separate : Separate (operations ++ [operation])) :
    (registry.operate operation).2.size +
        (registry.operate operation).1.removed + (deposits operations).length =
      registry.size + (deposits (operations ++ [operation])).length := by
  rw [deposits_snoc]
  cases operation with
  | wait duration => rfl
  | put tunnel token =>
      have puts : (Operation.put tunnel token).Puts tunnel.uuid := rfl
      have fresh := puts.fresh separate
      rw [← mirrors.uuids] at fresh
      have size := size_put fresh token
      change (registry.put tunnel token).size + 0 + _ = _
      rw [Operation.deposit, List.length_append, List.length_singleton]
      omega
  | get uuid => exact congrArg (· + _) (registry.size_get uuid)
  | close uuid status =>
      exact congrArg (· + _) (registry.size_close uuid status)
  | closeIdle => exact congrArg (· + _) registry.size_closeIdle
  | queue number change =>
      rw [Operation.deposit, List.length_modify]
      exact congrArg (· + _) (registry.size_onOutbox number change)

/-! ### What the registry answers -/

theorem find?_isSome (separate : Separate operations) (uuid : Uuid) :
    (registry.find? uuid).isSome = true ↔ Holds timeout uuid operations := by
  have distinct := mirrors.distinct separate
  rw [Option.isSome_iff_exists]
  constructor
  · rintro ⟨number, found⟩
    obtain ⟨registered, here, listed⟩ := distinct.find?_iff.mp found
    obtain ⟨deposit, -, reflects⟩ := mirrors.of_tunnel? here
    obtain ⟨rfl, held⟩ := reflects.isListedAs_iff.mp listed
    exact held
  · intro held
    obtain ⟨number, deposit, registered, rfl, here, reflects⟩ :=
      mirrors.of_held held
    have listed := reflects.isListedAs_iff.mpr ⟨rfl, held⟩
    exact ⟨number, distinct.find?_iff.mpr ⟨registered, here, listed⟩⟩

theorem mem_idle_iff {uuid : Uuid} : uuid ∈ registry.idle ↔
    Holds timeout uuid operations ∧ timeout ≤ sinceUse uuid operations := by
  simp only [mem_idle, isIdle, mirrors.idleTimeout]
  constructor
  · rintro ⟨registered, member, idle, rfl⟩
    obtain ⟨number, here⟩ := List.getElem?_of_mem member
    obtain ⟨deposit, -, reflects⟩ := mirrors.of_tunnel? here
    rw [reflects.uuid]
    exact reflects.isIdle_iff.mp idle
  · rintro ⟨held, due⟩
    obtain ⟨number, deposit, registered, rfl, here, reflects⟩ :=
      mirrors.of_held held
    exact ⟨registered, List.mem_of_getElem? here,
      reflects.isIdle_iff.mpr ⟨held, due⟩, reflects.uuid⟩

theorem closes_iff (separate : Separate operations) (operation : Operation σ)
    (uuid : Uuid) :
    Reply.closes uuid (operation, (registry.operate operation).1) = true ↔
      (∃ status, operation = .close uuid status) ∧
        Holds timeout uuid operations := by
  cases operation with
  | close closed status =>
      change ((registry.close closed status).1 && closed == uuid) = true ↔ _
      rw [Bool.and_eq_true, beq_iff_eq, close_fst, mirrors.find?_isSome separate]
      constructor
      · rintro ⟨held, rfl⟩
        exact ⟨⟨status, rfl⟩, held⟩
      · rintro ⟨⟨_, same⟩, held⟩
        cases same
        exact ⟨held, rfl⟩
  | wait | put | get | closeIdle | queue => simp [Reply.closes]

end Mirrors

/-- What a registry has, and what it would answer, is what the operations
say. -/
structure KeepsTo (timeout : Nat) (operations : List (Operation σ))
    (registry : Registry σ) : Prop where
  finds : ∀ uuid,
    (registry.get uuid).1.isSome = true ↔ Holds timeout uuid operations
  /-- What is found is what was put, with its token and with what is in its
  queue by now. -/
  gives : ∀ uuid number, (registry.get uuid).1 = some number →
    ∃ registered, (registry.get uuid).2.tunnel? number = some registered ∧
      registered.tunnel.uuid = uuid ∧
      (deposits operations)[number]? = some registered.deposit
  closes : ∀ uuid status,
    (registry.close uuid status).1 = true ↔ Holds timeout uuid operations
  /-- To close what is not held changes nothing. -/
  spares : ∀ uuid status, ¬ Holds timeout uuid operations →
    (registry.close uuid status).2 = registry
  idle : ∀ uuid, uuid ∈ registry.idle ↔
    Holds timeout uuid operations ∧ timeout ≤ sinceUse uuid operations
  /-- What is idle is counted and taken out, and the others are left alone. -/
  expires : registry.idle.Nodup ∧
    registry.closeIdle.1 = registry.idle.length ∧
    registry.closeIdle.2.tunnels = registry.tunnels.map fun registered =>
      if registered.tunnel.uuid ∈ registry.idle then registered.removed
      else registered
  /-- A tunnel that is held is as it was put, and any other is closed. -/
  each : List.Forall₂ (fun deposit registered =>
      (Holds timeout deposit.uuid operations → registered.deposit = deposit) ∧
      (¬ Holds timeout deposit.uuid operations →
        registered.deposit = { deposit with tunnel := deposit.tunnel.close } ∧
          registered.tunnel.isOpen = false))
    (deposits operations) registry.tunnels

theorem Mirrors.keepsTo {timeout : Nat} {operations : List (Operation σ)}
    {registry : Registry σ} (mirrors : Mirrors timeout operations registry)
    (separate : Separate operations) : registry.KeepsTo timeout operations where
  finds uuid := by
    rw [get_fst]
    exact mirrors.find?_isSome separate uuid
  gives uuid number found := by
    rw [get_fst] at found
    obtain ⟨registered, here, listed⟩ :=
      (mirrors.distinct separate).find?_iff.mp found
    obtain ⟨deposit, there, reflects⟩ := mirrors.of_tunnel? here
    obtain ⟨rfl, held⟩ := reflects.isListedAs_iff.mp listed
    refine ⟨registered.touch registry.now, ?_, reflects.uuid, ?_⟩
    · rw [get, found, tunnel?_update_self, here]
      rfl
    · exact there.trans (congrArg some (reflects.deposit_of_held held).symm)
  closes uuid status := by
    rw [close_fst]
    exact mirrors.find?_isSome separate uuid
  spares uuid status gone := by
    rw [← mirrors.find?_isSome separate uuid, Option.not_isSome_iff_eq_none] at gone
    rw [close, gone]
  idle uuid := mirrors.mem_idle_iff
  expires := by
    have distinct := mirrors.distinct separate
    refine ⟨distinct.nodup_idle, distinct.closeIdle_count, ?_⟩
    rw [distinct.closeIdle_tunnels]
    apply List.map_congr_left
    intro registered member
    simp only [distinct.isIdle_iff member]
  each := mirrors.each.imp fun _ _ reflects =>
    ⟨reflects.deposit_of_held, reflects.deposit_of_gone⟩

/-! ### The journal -/

/-- What a journal says of the tunnels that were taken out. -/
structure Journal.Accounts (timeout : Nat) (operations : List (Operation σ))
    (journal : Journal σ) : Prop where
  mirrors : Mirrors timeout operations journal.registry
  size : journal.registry.size + journal.removed = (deposits operations).length
  once : ∀ uuid, journal.closings uuid = 0 ∨
    journal.closings uuid = 1 ∧ ¬ Holds timeout uuid operations ∧
      uuid ∈ (deposits operations).map Deposit.uuid
  closed : ∀ uuid, 0 < journal.closings uuid ↔
    ∃ earlier status, earlier ++ [.close uuid status] <+: operations ∧
      Holds timeout uuid earlier

namespace Journal.Accounts

variable {timeout : Nat} {earlier : List (Operation σ)} {journal : Journal σ}
  {operation : Operation σ} (accounts : journal.Accounts timeout earlier)
  (separate : Separate (earlier ++ [operation]))

include accounts separate

/-- Who closes a tunnel finds it, so nobody has closed it before. And a tunnel
that was closed is not found any more, as it is not put again. -/
theorem once_operate (uuid : Uuid) :
    (journal.operate operation).closings uuid = 0 ∨
      (journal.operate operation).closings uuid = 1 ∧
        ¬ Holds timeout uuid (earlier ++ [operation]) ∧
        uuid ∈ (deposits (earlier ++ [operation])).map Deposit.uuid := by
  have longer := (uuids_isPrefix earlier operation).subset
  rw [closings_operate, holds_snoc]
  by_cases closes : Reply.closes uuid
      (operation, (journal.registry.operate operation).1) = true
  · rw [closes]
    obtain ⟨⟨status, rfl⟩, held⟩ :=
      (accounts.mirrors.closes_iff separate.init operation uuid).mp closes
    rcases accounts.once uuid with never | ⟨-, gone, -⟩
    · refine Or.inr ⟨by rw [never]; rfl, ?_, longer held.mem_uuids⟩
      rintro (puts | ⟨-, stays⟩)
      · cases puts
      · exact stays rfl
    · exact absurd held gone
  · rw [eq_false_of_ne_true closes]
    rcases accounts.once uuid with never | ⟨one, gone, member⟩
    · exact Or.inl never
    · refine Or.inr ⟨one, ?_, longer member⟩
      rintro (puts | ⟨held, -⟩)
      · exact puts.fresh separate member
      · exact gone held

theorem closed_operate (uuid : Uuid) :
    0 < (journal.operate operation).closings uuid ↔
      ∃ before status, before ++ [.close uuid status] <+: earlier ++ [operation] ∧
        Holds timeout uuid before := by
  have either : ∀ (count : Nat) (closes : Bool),
      0 < count + closes.toNat ↔ 0 < count ∨ closes = true := by
    intro count closes
    cases closes <;> simp
  rw [closings_operate, either, accounts.closed,
    accounts.mirrors.closes_iff separate.init]
  constructor
  · rintro (⟨before, status, within, held⟩ | ⟨⟨status, rfl⟩, held⟩)
    · exact ⟨before, status, within.trans (List.prefix_append _ _), held⟩
    · exact ⟨earlier, status, List.prefix_rfl, held⟩
  · rintro ⟨before, status, within, held⟩
    rcases List.prefix_concat_iff.mp within with whole | within
    · obtain ⟨rfl, last⟩ := List.append_inj' whole rfl
      cases last
      exact Or.inr ⟨⟨status, rfl⟩, held⟩
    · exact Or.inl ⟨before, status, within, held⟩

theorem operate :
    (journal.operate operation).Accounts timeout (earlier ++ [operation]) where
  mirrors := accounts.mirrors.operate operation separate
  size := by
    have size := accounts.mirrors.size_operate operation separate
    have before := accounts.size
    rw [removed_operate]
    change (journal.registry.operate operation).2.size + _ = _
    omega
  once := accounts.once_operate separate
  closed := accounts.closed_operate separate

omit accounts separate in
theorem operateAll {timeout start : Nat} {metrics : Metrics}
    (operations : List (Operation σ)) (separate : Separate operations) :
    (Journal.operateAll
      { registry := { idleTimeout := timeout, now := start, metrics } }
      operations).Accounts timeout operations := by
  induction operations using List.reverseRecOn with
  | nil =>
      refine ⟨⟨rfl, .nil⟩, rfl, fun uuid => Or.inl rfl, fun uuid => ?_⟩
      refine iff_of_false (Nat.lt_irrefl 0) ?_
      rintro ⟨before, status, within, -⟩
      simpa using List.prefix_nil.mp within
  | append_singleton earlier operation ih =>
      rw [operateAll_snoc]
      exact (ih separate.init).operate separate

end Journal.Accounts

/-- Whatever is done with a registry, as long as no two tunnels share a UUID: it
has and it answers what the operations say, whenever they are made. A tunnel is
closed by a call at most once, and by one that was made while the tunnel was held.
Every tunnel that was put is counted by the size of the registry or, once, by a
reply. -/
theorem maps_with_expiry (timeout start : Nat) (metrics : Metrics)
    (operations : List (Operation σ)) (separate : Separate operations) :
    let journal := Journal.operateAll
      { registry := { idleTimeout := timeout, now := start, metrics } } operations
    journal.registry.KeepsTo timeout operations ∧
      (∀ uuid, journal.closings uuid ≤ 1 ∧
        (journal.closings uuid = 1 ↔
          ∃ earlier status, earlier ++ [.close uuid status] <+: operations ∧
            Holds timeout uuid earlier)) ∧
      journal.registry.size + journal.removed = (deposits operations).length := by
  intro journal
  have accounts : journal.Accounts timeout operations :=
    Journal.Accounts.operateAll operations separate
  refine ⟨accounts.mirrors.keepsTo separate, ?_, accounts.size⟩
  intro uuid
  rw [← accounts.closed uuid]
  rcases accounts.once uuid with never | ⟨one, -⟩
  · rw [never]
    omega
  · rw [one]
    omega

/-- Of three tunnels one is closed, twice, one is asked for in time and one is
not. -/
theorem maps_with_expiry_stale :
    let tunnel (uuid : BitVec 128) : Tunnel Scripted :=
      .ofStream ⟨uuid⟩ none { input := ⟨[]⟩ }
    let operations : List (Operation Scripted) :=
      [.put (tunnel 1) "stale", .put (tunnel 2) "fresh", .put (tunnel 3) "done",
        .wait 150, .get ⟨2⟩, .close ⟨3⟩ .success, .wait 100, .closeIdle,
        .queue 1 (·.push [⟨"ping", []⟩]), .close ⟨3⟩ .success]
    let journal := Journal.operateAll { registry := { idleTimeout := 200 } } operations
    Separate operations ∧
      journal.entries.map (·.2) =
        [.silent, .silent, .silent, .silent, .found (some 1), .closed true,
          .silent, .expired 1, .silent, .closed false] ∧
      journal.registry.KeepsTo 200 operations ∧
      Holds 200 ⟨2⟩ operations ∧ ¬ Holds 200 ⟨1⟩ operations ∧
      journal.closings ⟨3⟩ = 1 ∧ journal.registry.size = 1 ∧
      journal.registry.size + journal.removed = 3 := by
  intro tunnel operations journal
  have separate : Separate operations := by
    unfold Separate
    decide
  obtain ⟨keeps, -, size⟩ := maps_with_expiry 200 0 {} operations separate
  exact ⟨separate, by decide +kernel, keeps,
    (keeps.finds ⟨2⟩).mp (by decide +kernel),
    (keeps.finds ⟨1⟩).not.mp (by decide +kernel), by decide +kernel,
    by decide +kernel, size⟩

end TunnelRelay.Registry
