import TunnelRelay.Proofs.Relay.Roll

/-!
Operations on a registry in which no two tunnels share a UUID.

Finding, closing and expiring tunnels each change one registered tunnel after another, wherever they
are in the registry, so what they do is said tunnel by tunnel. Only calls that say so make the
registry smaller, and closing what is idle counts every tunnel it takes out.
-/

namespace TunnelRelay

variable {σ : Type}

def RegisteredTunnel.removed [Connection σ] (registered : RegisteredTunnel σ) :
    RegisteredTunnel σ :=
  { registered with listed := false, tunnel := registered.tunnel.close }

namespace Registry

variable {registry : Registry σ} {uuid : Uuid} {number : Nat}

/-! ### Finding -/

theorem map_of_unlisted (unlisted : ∀ registered ∈ registry.tunnels,
      registered.isListedAs uuid = false)
    (change : RegisteredTunnel σ → RegisteredTunnel σ) :
    (registry.tunnels.map fun registered =>
      if registered.isListedAs uuid then change registered else registered) =
      registry.tunnels := by
  apply (List.map_congr_left fun registered member => ?_).trans (List.map_id _)
  rw [unlisted registered member]
  rfl

/-- To change the tunnel that is found, if there is one, is to change whichever is
listed with the UUID. -/
theorem Distinct.change_found (distinct : registry.Distinct) {next : Registry σ}
    {change : RegisteredTunnel σ → RegisteredTunnel σ}
    (missing : registry.find? uuid = none → next.tunnels = registry.tunnels)
    (found : ∀ number, registry.find? uuid = some number →
      next.tunnels = (registry.update number change).tunnels) :
    next.tunnels = registry.tunnels.map fun registered =>
      if registered.isListedAs uuid then change registered else registered := by
  cases finding : registry.find? uuid with
  | none =>
      rw [missing finding, map_of_unlisted (List.findIdx?_eq_none_iff.mp finding)]
  | some number =>
      obtain ⟨registered, here, listed⟩ := find?_some finding
      rw [found number finding]
      apply List.ext_getElem?
      intro other
      rw [update, List.getElem?_modify, List.getElem?_map]
      split
      · rename_i same
        subst same
        rw [tunnel?] at here
        simp [here, listed]
      · rename_i differs
        cases there : registry.tunnels[other]? with
        | none => rfl
        | some second =>
            have unlisted : ¬ second.isListedAs uuid = true :=
              fun also => differs (distinct.eq_of_listed here there listed also)
            simp [unlisted]

theorem get_fst (registry : Registry σ) (uuid : Uuid) :
    (registry.get uuid).1 = registry.find? uuid := by
  unfold get
  split <;> simp only [*]

theorem get_now (registry : Registry σ) (uuid : Uuid) :
    (registry.get uuid).2.now = registry.now := by
  unfold get
  split <;> rfl

theorem get_idleTimeout (registry : Registry σ) (uuid : Uuid) :
    (registry.get uuid).2.idleTimeout = registry.idleTimeout := by
  unfold get
  split <;> rfl

theorem Distinct.get_tunnels (distinct : registry.Distinct) (uuid : Uuid) :
    (registry.get uuid).2.tunnels =
      registry.tunnels.map fun registered =>
        if registered.isListedAs uuid then registered.touch registry.now
        else registered :=
  distinct.change_found (fun missing => by rw [get, missing])
    (fun number found => by rw [get, found])

theorem size_update (registry : Registry σ) (number : Nat)
    {change : RegisteredTunnel σ → RegisteredTunnel σ}
    (rests : ∀ registered, (change registered).listed = registered.listed) :
    (registry.update number change).size = registry.size := by
  have same : (registry.update number change).tunnels.map (·.listed) =
      registry.tunnels.map (·.listed) :=
    registry.map_update_rest number fun registered _ => rests registered
  have count := congrArg (List.countP id) same
  rw [List.countP_map, List.countP_map] at count
  exact count

theorem size_get (registry : Registry σ) (uuid : Uuid) :
    (registry.get uuid).2.size = registry.size := by
  unfold get
  split
  · rfl
  · exact registry.size_update _ fun _ => rfl

theorem size_onOutbox (registry : Registry σ) (number : Nat)
    (change : Outbox → Outbox) :
    (registry.onOutbox number change).size = registry.size :=
  registry.size_update number fun _ => rfl

/-! ### Putting -/

section Putting

variable {tunnel : Tunnel σ}

theorem put_tunnels (fresh : tunnel.uuid ∉ registry.tunnels.map (·.tunnel.uuid))
    (token : String) :
    (registry.put tunnel token).tunnels =
      registry.tunnels ++ [{ tunnel, token, registeredAt := registry.now }] := by
  have unlisted : ∀ registered ∈ registry.tunnels,
      registered.isListedAs tunnel.uuid = false := by
    intro registered member
    have other : registered.tunnel.uuid ≠ tunnel.uuid :=
      fun same => fresh (List.mem_map.mpr ⟨registered, member, same⟩)
    simp [RegisteredTunnel.isListedAs, other]
  exact congrArg (· ++ _) (map_of_unlisted unlisted _)

theorem size_put (fresh : tunnel.uuid ∉ registry.tunnels.map (·.tunnel.uuid))
    (token : String) :
    (registry.put tunnel token).size = registry.size + 1 := by
  rw [size, put_tunnels fresh, List.countP_append, List.countP_singleton]
  rfl

end Putting

/-! ### What is idle -/

/-- A tunnel is listed and has been idle for too long. -/
def isIdle (registry : Registry σ) (registered : RegisteredTunnel σ) : Bool :=
  registered.listed && registry.idleTimeout ≤ registered.idleFor registry.now

theorem mem_idle : uuid ∈ registry.idle ↔
    ∃ registered ∈ registry.tunnels, registry.isIdle registered = true ∧
      registered.tunnel.uuid = uuid := by
  unfold idle
  simp only [List.mem_map, List.mem_filter, and_assoc]
  rfl

theorem Distinct.nodup_idle (distinct : registry.Distinct) : registry.idle.Nodup :=
  List.Nodup.sublist (List.filter_sublist.map _) distinct

/-- Who shares the UUID of an idle tunnel is idle. -/
theorem Distinct.isIdle_iff (distinct : registry.Distinct)
    {registered : RegisteredTunnel σ} (member : registered ∈ registry.tunnels) :
    registry.isIdle registered = true ↔
      registered.tunnel.uuid ∈ registry.idle := by
  rw [mem_idle]
  constructor
  · exact fun idle => ⟨registered, member, idle, rfl⟩
  · rintro ⟨other, also, idle, same⟩
    cases List.inj_on_of_nodup_map distinct also member same
    exact idle

/-! ### Closing -/

variable [Connection σ]

theorem close_fst (registry : Registry σ) (uuid : Uuid) (status : Status) :
    (registry.close uuid status).1 = (registry.find? uuid).isSome := by
  unfold close
  split <;> simp only [*, Option.isSome_none, Option.isSome_some]

theorem close_now (registry : Registry σ) (uuid : Uuid) (status : Status) :
    (registry.close uuid status).2.now = registry.now := by
  unfold close
  split <;> rfl

theorem close_idleTimeout (registry : Registry σ) (uuid : Uuid)
    (status : Status) :
    (registry.close uuid status).2.idleTimeout = registry.idleTimeout := by
  unfold close
  split <;> rfl

theorem Distinct.close_tunnels (distinct : registry.Distinct) (uuid : Uuid)
    (status : Status) :
    (registry.close uuid status).2.tunnels =
      registry.tunnels.map fun registered =>
        if registered.isListedAs uuid then registered.removed else registered :=
  distinct.change_found (fun missing => by rw [Registry.close, missing])
    (fun number found => by rw [Registry.close, found]; rfl)

theorem Distinct.close (distinct : registry.Distinct) (uuid : Uuid)
    (status : Status) : (registry.close uuid status).2.Distinct := by
  unfold Distinct
  rw [distinct.close_tunnels, List.map_map]
  apply (congrArg List.Nodup (List.map_congr_left fun registered _ => ?_)).mpr
    distinct
  simp only [Function.comp]
  split
  · exact registered.tunnel.close_uuid
  · rfl

theorem size_close (registry : Registry σ) (uuid : Uuid) (status : Status) :
    (registry.close uuid status).2.size +
      (registry.close uuid status).1.toNat = registry.size := by
  unfold close
  split
  · rfl
  · rename_i number found
    obtain ⟨within, listed, -⟩ := List.findIdx?_eq_some_iff_getElem.mp found
    obtain ⟨front, registered, back, whole, rfl, modified⟩ :=
      List.exists_of_modify RegisteredTunnel.removed within
    have was : registered.listed = true := by
      simp only [whole, List.getElem_append_right (Nat.le_refl _),
        Nat.sub_self, List.getElem_cons_zero, RegisteredTunnel.isListedAs,
        Bool.and_eq_true] at listed
      exact listed.1
    change List.countP (·.listed) (List.modify _ _ RegisteredTunnel.removed) + 1 = _
    rw [modified, size, whole, List.countP_append, List.countP_append,
      List.countP_cons_of_pos was, List.countP_cons_of_neg (by
        simp [RegisteredTunnel.removed])]
    rfl

/-! ### Closing what is idle -/

def closeNext : Nat × Registry σ → Uuid → Nat × Registry σ
  | (count, registry), uuid =>
      (count + (registry.close uuid .sessionTimeout).1.toNat,
        (registry.close uuid .sessionTimeout).2)

theorem closeIdle_eq (registry : Registry σ) :
    registry.closeIdle = registry.idle.foldl closeNext (0, registry) := by
  unfold closeIdle
  congr 1
  funext (count, registry) uuid
  rcases closing : registry.close uuid .sessionTimeout with ⟨first, next⟩
  cases first <;> simp only [closeNext, closing] <;> rfl

theorem size_foldl_closeNext (registry : Registry σ) (uuids : List Uuid)
    (count : Nat) :
    (uuids.foldl closeNext (count, registry)).1 +
        (uuids.foldl closeNext (count, registry)).2.size =
      count + registry.size := by
  induction uuids generalizing registry count with
  | nil => rfl
  | cons uuid uuids ih =>
      have first := registry.size_close uuid .sessionTimeout
      rw [List.foldl_cons, closeNext, ih]
      omega

theorem Distinct.foldl_closeNext_tunnels (distinct : registry.Distinct)
    (uuids : List Uuid) (count : Nat) :
    (uuids.foldl closeNext (count, registry)).2.tunnels =
      registry.tunnels.map fun registered =>
        if registered.listed && uuids.contains registered.tunnel.uuid then
          registered.removed
        else registered := by
  induction uuids generalizing registry count with
  | nil => simp
  | cons uuid uuids ih =>
      rw [List.foldl_cons, closeNext, ih (distinct.close uuid .sessionTimeout),
        distinct.close_tunnels, List.map_map]
      apply List.map_congr_left
      intro registered _
      simp only [Function.comp, RegisteredTunnel.isListedAs, List.contains_cons]
      by_cases same : registered.tunnel.uuid = uuid
      · by_cases listed : registered.listed = true
        · simp [same, listed, RegisteredTunnel.removed]
        · simp [same, listed]
      · simp [same]

theorem Distinct.closeIdle_tunnels (distinct : registry.Distinct) :
    registry.closeIdle.2.tunnels = registry.tunnels.map fun registered =>
      if registry.isIdle registered then registered.removed else registered := by
  rw [closeIdle_eq, distinct.foldl_closeNext_tunnels]
  apply List.map_congr_left
  intro registered member
  have idle := distinct.isIdle_iff member
  rw [← List.contains_iff_mem] at idle
  congr 1
  rw [eq_iff_iff, Bool.and_eq_true, ← idle]
  simp [isIdle]

theorem closeIdle_now (registry : Registry σ) :
    registry.closeIdle.2.now = registry.now :=
  closeIdle_induction (·.now = registry.now)
    (fun next uuid same => (next.close_now uuid .sessionTimeout).trans same)
    registry rfl

theorem closeIdle_idleTimeout (registry : Registry σ) :
    registry.closeIdle.2.idleTimeout = registry.idleTimeout :=
  closeIdle_induction (·.idleTimeout = registry.idleTimeout)
    (fun next uuid same =>
      (next.close_idleTimeout uuid .sessionTimeout).trans same)
    registry rfl

theorem size_closeIdle (registry : Registry σ) :
    registry.closeIdle.2.size + registry.closeIdle.1 = registry.size := by
  have counted := registry.size_foldl_closeNext registry.idle 0
  rw [← closeIdle_eq] at counted
  omega

/-- Those that are taken out and those that stay are all that were listed. -/
theorem countP_removed {due : RegisteredTunnel σ → Bool}
    (listed : ∀ registered, due registered = true → registered.listed = true)
    (tunnels : List (RegisteredTunnel σ)) :
    tunnels.countP due +
        (tunnels.map fun registered =>
          if due registered then registered.removed else registered).countP
            (·.listed) =
      tunnels.countP (·.listed) := by
  induction tunnels with
  | nil => rfl
  | cons registered tunnels ih =>
      rw [List.map_cons, List.countP_cons, List.countP_cons, List.countP_cons,
        ← ih]
      by_cases leaves : due registered = true
      · simp only [leaves, listed registered leaves, RegisteredTunnel.removed,
          if_true, Bool.false_eq_true, if_false]
        omega
      · simp only [leaves, Bool.false_eq_true, if_false]
        omega

theorem Distinct.closeIdle_count (distinct : registry.Distinct) :
    registry.closeIdle.1 = registry.idle.length := by
  have listed : ∀ registered, registry.isIdle registered = true →
      registered.listed = true :=
    fun registered idle => (Bool.and_eq_true_iff.mp idle).1
  have parts := countP_removed listed registry.tunnels
  have whole := registry.size_closeIdle
  rw [← distinct.closeIdle_tunnels, List.countP_eq_length_filter] at parts
  rw [size, size] at whole
  rw [idle, List.length_map]
  change _ = (registry.tunnels.filter registry.isIdle).length
  omega

end Registry

end TunnelRelay
