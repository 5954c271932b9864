import Mathlib.Algebra.Ring.Nat
import TunnelRelay.Proofs.Relay.Turns

/-!
What requests and sessions carry.

The freight of a request or of a session is what guacd has taken on its behalf and what it has taken
for its browser. Next to the counters of traffic stand the replies that wait in the outboxes and the
bytes that guacd has taken, so that a step of one request can be weighed: the counters grow as the
freight grows.
-/

namespace TunnelRelay

open LongPoll

/-! ### Frames and their bytes -/

theorem Frame.length_received_filter (frames : List Frame)
    (condition : Frame → Bool) :
    (received frames).length =
      (received (frames.filter condition)).length +
        (received (frames.filter (!condition ·))).length := by
  unfold received
  induction frames with
  | nil => rfl
  | cons frame frames ih =>
      rw [List.flatMap_cons, List.length_append, ih, List.filter_cons,
        List.filter_cons]
      cases condition frame with
      | true =>
          simp only [if_true, Bool.not_true, Bool.false_eq_true, if_false,
            List.flatMap_cons, List.length_append]
          omega
      | false =>
          simp only [Bool.false_eq_true, if_false, Bool.not_false, if_true,
            List.flatMap_cons, List.length_append]
          omega

def dropped (data : Bytes) : List Frame :=
  (Intake.takeFrames .client data []).frames.filter (·.instruction.isInternal)

def IsWhole (data : Bytes) : Prop :=
  (Intake.takeFrames .client data []).left = []

theorem IsWhole.length_eq {data : Bytes} (whole : IsWhole data) :
    data.length = (Frame.received (forwardable data)).length +
      (Frame.received (dropped data)).length := by
  have all : Frame.received (Intake.takeFrames .client data []).frames ++
      (Intake.takeFrames .client data []).left = data :=
    Intake.received_takeFrames .client data
  rw [IsWhole] at whole
  rw [whole, List.append_nil] at all
  have parts := Frame.length_received_filter
    (Intake.takeFrames .client data []).frames (·.instruction.isInternal)
  rw [forwardable, dropped, Nat.add_comm, ← parts]
  exact (congrArg List.length all).symm

/-! ### Freight -/

/-- What a request or a session carries. -/
structure Freight where
  /-- The body of the request, or the messages of the session, that were
  forwarded to their end. -/
  sources : List Bytes := []
  /-- What was accepted of a body or a message that is not forwarded to its
  end. -/
  rest : Bytes := []
  /-- What guacd has taken. -/
  reached : Bytes := []
  /-- What was handed over for the browser. -/
  given : List Item := []
  /-- The replies of the relay that were taken for the browser. -/
  replies : List Instruction := []

namespace Freight

def instructions (freight : Freight) : Nat :=
  (freight.sources.flatMap forwardable).length

def bytes (freight : Freight) : Nat :=
  freight.sources.flatten.length

def withheld (freight : Freight) : Nat :=
  (Frame.received (freight.sources.flatMap dropped)).length

def arrived (freight : Freight) : Nat :=
  freight.reached.length

def due (freight : Freight) : Bytes :=
  Frame.received (freight.sources.flatMap forwardable)

theorem due_snoc (freight : Freight) (source : Bytes) :
    due { freight with sources := freight.sources ++ [source] } =
      freight.due ++ Frame.received (forwardable source) := by
  unfold due
  rw [List.flatMap_append, Frame.received_append, List.flatMap_singleton]

/-- How many bytes guacd has taken of what is not forwarded to its end. -/
def surplus (freight : Freight) : Nat :=
  freight.arrived - freight.due.length

def shown (freight : Freight) : Nat :=
  freight.given.length

def shownBytes (freight : Freight) : Nat :=
  (Item.wire freight.given).length

def replied (freight : Freight) : Nat :=
  freight.replies.length

/-- guacd has taken all that the sources have for it, and then a first part of
what the rest has. -/
structure Forwards (freight : Freight) : Prop where
  whole : ∀ source ∈ freight.sources, IsWhole source
  reached : ∃ part, part <+: Frame.received (forwardable freight.rest) ∧
    freight.reached = freight.due ++ part

theorem forwards_begun {freight : Freight} (none_ : freight.sources = [])
    (front : freight.reached <+: Frame.received (forwardable freight.rest)) :
    freight.Forwards := by
  constructor
  · intro source member
    rw [none_] at member
    cases member
  · refine ⟨freight.reached, front, ?_⟩
    rw [due, none_]
    rfl

/-- What was counted is what guacd has taken, but for what is dropped on the one
side and for what is not forwarded to its end on the other. -/
theorem Forwards.balance {freight : Freight} (forwards : freight.Forwards) :
    freight.bytes + freight.surplus = freight.arrived + freight.withheld := by
  obtain ⟨part, -, reached⟩ := forwards.reached
  have whole := forwards.whole
  have sources : freight.bytes = freight.due.length + freight.withheld := by
    unfold bytes due withheld
    generalize freight.sources = sources at whole
    induction sources with
    | nil => rfl
    | cons source sources ih =>
        have others :=
          ih fun other member => whole other (List.mem_cons_of_mem _ member)
        rw [List.flatten_cons, List.length_append, others,
          (whole source List.mem_cons_self).length_eq, List.flatMap_cons,
          List.flatMap_cons, Frame.received_append, Frame.received_append,
          List.length_append, List.length_append]
        omega
  unfold surplus arrived
  rw [sources, reached, List.length_append]
  omega

end Freight

/-! ### Counters -/

def Counts (before after : UInt64) (old new : Nat) : Prop :=
  ∃ more, after = before + .ofNat more ∧ new = old + more

namespace Counts

variable {first second third : UInt64} {few more many : Nat}

theorem refl (counter : UInt64) (number : Nat) :
    Counts counter counter number number :=
  ⟨0, (UInt64.add_zero counter).symm, rfl⟩

theorem trans (before : Counts first second few more)
    (after : Counts second third more many) : Counts first third few many := by
  obtain ⟨early, rfl, rfl⟩ := before
  obtain ⟨late, rfl, rfl⟩ := after
  refine ⟨early + late, ?_, Nat.add_assoc _ _ _⟩
  rw [UInt64.ofNat_add, UInt64.add_assoc]

theorem total (counts : Counts first second few many) {old new : Nat}
    (fits : first = .ofNat old) (grows : new + few = old + many) :
    second = .ofNat new := by
  obtain ⟨step, rfl, rfl⟩ := counts
  have same : new = old + step := by omega
  rw [fits, same, UInt64.ofNat_add]

end Counts

/-- The counters of what is relayed, and how many replies wait. -/
structure Gauge where
  toServer : Traffic
  toClient : Traffic
  pings : UInt64
  waiting : Nat

/-- Between two moments the counters have grown as the freight has. -/
structure Gauge.Follows (before after : Gauge) (old new : Freight) : Prop where
  instructions : Counts before.toServer.instructions
    after.toServer.instructions old.instructions new.instructions
  bytes : Counts before.toServer.bytes after.toServer.bytes old.bytes new.bytes
  shown : Counts before.toClient.instructions after.toClient.instructions
    old.shown new.shown
  shownBytes : Counts before.toClient.bytes after.toClient.bytes
    old.shownBytes new.shownBytes
  pings : Counts before.pings after.pings (old.replied + before.waiting)
    (new.replied + after.waiting)

namespace Gauge.Follows

theorem refl (gauge : Gauge) (freight : Freight) :
    gauge.Follows gauge freight freight :=
  ⟨.refl _ _, .refl _ _, .refl _ _, .refl _ _, .refl _ _⟩

theorem trans {first second third : Gauge} {old mid new : Freight}
    (before : first.Follows second old mid)
    (after : second.Follows third mid new) : first.Follows third old new :=
  ⟨before.instructions.trans after.instructions,
    before.bytes.trans after.bytes, before.shown.trans after.shown,
    before.shownBytes.trans after.shownBytes, before.pings.trans after.pings⟩

end Gauge.Follows

def Metrics.gauge (metrics : Metrics) (waiting : Nat) : Gauge where
  toServer := metrics.toServer
  toClient := metrics.toClient
  pings := metrics.pings
  waiting := waiting

@[simp] theorem Metrics.gauge_waiting (metrics : Metrics) (waiting : Nat) :
    (metrics.gauge waiting).waiting = waiting :=
  rfl

theorem Metrics.gauge_tunnelClosed (metrics : Metrics) (status : Status)
    (waiting : Nat) :
    (metrics.tunnelClosed status).gauge waiting = metrics.gauge waiting := by
  unfold tunnelClosed gauge
  simp only
  cases ClosedAs.ofStatus status <;> rfl

/-! ### The gauge of a registry -/

theorem sum_map_modify {α : Type} {list : List α} {index : Nat} {old : α}
    (there : list[index]? = some old) (change : α → α) (weight : α → Nat) :
    ((list.modify index change).map weight).sum + weight old =
      (list.map weight).sum + weight (change old) := by
  induction list generalizing index with
  | nil => cases there
  | cons first list ih =>
      cases index with
      | zero =>
          cases there
          rw [List.modify_zero_cons, List.map_cons, List.map_cons,
            List.sum_cons, List.sum_cons]
          omega
      | succ index =>
          have rest := ih there
          rw [List.modify_succ_cons, List.map_cons, List.map_cons,
            List.sum_cons, List.sum_cons]
          omega

namespace Registry

variable {σ : Type}

def waiting (registry : Registry σ) : Nat :=
  (registry.tunnels.map (·.outbox.queue.length)).sum

def taken (registry : Registry (Recorded σ)) : Nat :=
  (registry.tunnels.map (·.record.taken.length)).sum

def gauge (registry : Registry σ) : Gauge :=
  registry.metrics.gauge registry.waiting

theorem waiting_update (registry : Registry σ) (number : Nat)
    (change : RegisteredTunnel σ → RegisteredTunnel σ)
    {registered : RegisteredTunnel σ}
    (found : registry.tunnel? number = some registered) :
    (registry.update number change).waiting +
        registered.outbox.queue.length =
      registry.waiting + (change registered).outbox.queue.length :=
  sum_map_modify found change (·.outbox.queue.length)

theorem gauge_update (registry : Registry σ) (number : Nat)
    (change : RegisteredTunnel σ → RegisteredTunnel σ)
    (same : ∀ registered, registry.tunnel? number = some registered →
      (change registered).outbox.queue = registered.outbox.queue) :
    (registry.update number change).gauge = registry.gauge := by
  have lengths : ∀ registered, registry.tunnel? number = some registered →
      (change registered).outbox.queue.length =
        registered.outbox.queue.length :=
    fun registered found => congrArg List.length (same registered found)
  have waits : (registry.update number change).waiting = registry.waiting :=
    congrArg List.sum (registry.map_update_rest number lengths)
  exact congrArg (Gauge.mk _ _ _) waits

theorem gauge_onTunnel (registry : Registry σ) (number : Nat)
    (change : Tunnel σ → Tunnel σ) :
    (registry.onTunnel number change).gauge = registry.gauge :=
  registry.gauge_update number _ fun _ _ => rfl

theorem gauge_get (registry : Registry σ) (uuid : Uuid) :
    (registry.get uuid).2.gauge = registry.gauge := by
  unfold get
  split
  · rfl
  · exact registry.gauge_update _ _ fun _ _ => rfl

theorem gauge_put (registry : Registry σ) (tunnel : Tunnel σ)
    (token : String) : (registry.put tunnel token).gauge = registry.gauge := by
  have waits : (registry.put tunnel token).waiting = registry.waiting := by
    unfold waiting put
    simp only [List.map_append, List.map_map, List.map_cons, List.map_nil,
      List.sum_append, List.length_nil, List.sum_cons, List.sum_nil,
      Nat.add_zero]
    congr 1
    apply List.map_congr_left
    intro registered _
    simp only [Function.comp]
    split <;> rfl
  exact congrArg (Gauge.mk _ _ _) waits

theorem gauge_close [Connection σ] (registry : Registry σ) (uuid : Uuid)
    (status : Status) :
    (registry.close uuid status).2.gauge = registry.gauge := by
  unfold close
  split
  · rfl
  · exact (Metrics.gauge_tunnelClosed _ status _).trans
      (registry.gauge_update _ _ fun _ _ => rfl)

theorem gauge_closeIdle [Connection σ] (registry : Registry σ) :
    registry.closeIdle.2.gauge = registry.gauge :=
  closeIdle_induction (·.gauge = registry.gauge)
    (fun next uuid same => (next.gauge_close uuid .sessionTimeout).trans same)
    registry rfl

/-! ### What guacd has taken -/

theorem Quiet.taken {before after : Registry (Recorded σ)}
    (quiet : before.Quiet after) : after.taken = before.taken := by
  have records : after.tunnels.map (·.record.taken) =
      before.tunnels.map (·.record.taken) := by
    refine quiet.map ?_
    intro earlier later same
    rw [same.tracks.taken, List.append_nil]
  have lengths := congrArg (List.map List.length) records
  rw [List.map_map, List.map_map] at lengths
  exact congrArg List.sum lengths

theorem taken_put (registry : Registry (Recorded σ))
    (tunnel : Tunnel (Recorded σ)) (token : String) :
    (registry.put tunnel token).taken =
      registry.taken + tunnel.backend.stream.taken.length := by
  unfold taken put
  simp only [List.map_append, List.map_map, List.map_cons, List.map_nil,
    List.sum_append, List.sum_cons, List.sum_nil, Nat.add_zero]
  congr 2
  apply List.map_congr_left
  intro registered _
  simp only [Function.comp]
  split <;> rfl

/-- Between two moments the counters and the records have grown as the freight
of one request has. -/
structure Bears (before after : Registry (Recorded σ)) (old new : Freight) :
    Prop where
  counters : before.gauge.Follows after.gauge old new
  taken : after.taken + old.arrived = before.taken + new.arrived

theorem Bears.refl (registry : Registry (Recorded σ)) (freight : Freight) :
    registry.Bears registry freight freight :=
  ⟨.refl _ _, rfl⟩

theorem Bears.trans {first second third : Registry (Recorded σ)}
    {old mid new : Freight} (before : first.Bears second old mid)
    (after : second.Bears third mid new) : first.Bears third old new := by
  refine ⟨before.counters.trans after.counters, ?_⟩
  have early := before.taken
  have late := after.taken
  omega

theorem taken_update (registry : Registry (Recorded σ)) (number : Nat)
    (change : RegisteredTunnel (Recorded σ) → RegisteredTunnel (Recorded σ))
    {registered : RegisteredTunnel (Recorded σ)}
    (found : registry.tunnel? number = some registered) :
    (registry.update number change).taken + registered.record.taken.length =
      registry.taken + (change registered).record.taken.length :=
  sum_map_modify found change (·.record.taken.length)

theorem bears_update {registry : Registry (Recorded σ)} {number : Nat}
    {registered : RegisteredTunnel (Recorded σ)} {gone : Bytes}
    (change : RegisteredTunnel (Recorded σ) → RegisteredTunnel (Recorded σ))
    (found : registry.tunnel? number = some registered)
    (taken : (change registered).record.taken =
      registered.record.taken ++ gone)
    (queue : (change registered).outbox.queue = registered.outbox.queue)
    (freight : Freight) :
    registry.Bears (registry.update number change) freight
      { freight with reached := freight.reached ++ gone } := by
  constructor
  · rw [registry.gauge_update number change]
    · exact ⟨.refl _ _, .refl _ _, .refl _ _, .refl _ _, .refl _ _⟩
    · intro other there
      rw [found] at there
      cases there
      exact queue
  · have moved := registry.taken_update number change found
    rw [taken, List.length_append] at moved
    simp only [Freight.arrived, List.length_append]
    omega

theorem bears_keep {registry : Registry (Recorded σ)} {number : Nat}
    {registered later : RegisteredTunnel (Recorded σ)}
    (found : registry.tunnel? number = some registered)
    (taken : later.record.taken = registered.record.taken)
    (queue : later.outbox.queue = registered.outbox.queue)
    (freight : Freight) :
    registry.Bears (registry.update number fun _ => later) freight freight := by
  have bears := bears_update (fun _ => later) found
    (taken.trans (List.append_nil _).symm) queue freight
  rw [List.append_nil] at bears
  exact bears

theorem bears_store {registry : Registry (Recorded σ)} {number : Nat}
    {registered : RegisteredTunnel (Recorded σ)} {gone : Bytes}
    {tunnel : Tunnel (Recorded σ)}
    (found : registry.tunnel? number = some registered)
    (taken : tunnel.backend.stream.taken =
      registered.tunnel.backend.stream.taken ++ gone) (freight : Freight) :
    registry.Bears (registry.onTunnel number fun _ => tunnel) freight
      { freight with reached := freight.reached ++ gone } :=
  bears_update (fun registered => { registered with tunnel }) found taken rfl
    freight

theorem bears_stay {registry : Registry (Recorded σ)} {number : Nat}
    {registered : RegisteredTunnel (Recorded σ)} {tunnel : Tunnel (Recorded σ)}
    (found : registry.tunnel? number = some registered)
    (taken : tunnel.backend.stream.taken =
      registered.tunnel.backend.stream.taken) (freight : Freight) :
    registry.Bears (registry.onTunnel number fun _ => tunnel) freight
      freight := by
  have bears := bears_store found (taken.trans (List.append_nil _).symm) freight
  rw [List.append_nil] at bears
  exact bears

/-- The answers to pings are counted, and wait in the outbox of a tunnel. -/
theorem bears_push {registry : Registry (Recorded σ)} {number : Nat}
    {registered : RegisteredTunnel (Recorded σ)}
    (found : registry.tunnel? number = some registered)
    {replies : List Instruction} (some_ : replies ≠ []) (freight : Freight) :
    registry.Bears
      ((registry.count (·.pingsAnswered (.ofNat replies.length))).onOutbox
        number (·.push replies)) freight freight := by
  have pushed := waiting_update
    (registry.count (·.pingsAnswered (.ofNat replies.length))) number
    (fun registered =>
      { registered with outbox := registered.outbox.push replies }) found
  have records := taken_update
    (registry.count (·.pingsAnswered (.ofNat replies.length))) number
    (fun registered =>
      { registered with outbox := registered.outbox.push replies }) found
  have longer : (registered.outbox.push replies).queue.length =
      registered.outbox.queue.length + replies.length := by
    unfold Outbox.push
    rw [if_neg (by simpa using some_)]
    exact List.length_append
  rw [longer] at pushed
  have waits : ((registry.count
        (·.pingsAnswered (.ofNat replies.length))).onOutbox number
          (·.push replies)).waiting = registry.waiting + replies.length := by
    apply Nat.add_right_cancel
    rw [Nat.add_assoc, Nat.add_comm replies.length]
    exact pushed
  refine ⟨⟨.refl _ _, .refl _ _, .refl _ _, .refl _ _, replies.length, rfl, ?_⟩,
    congrArg (· + freight.arrived) (Nat.add_right_cancel records)⟩
  simp only [gauge, Metrics.gauge_waiting, waits]
  omega

theorem bears_onTunnel (registry : Registry (Recorded σ)) (number : Nat)
    (change : Tunnel (Recorded σ) → Tunnel (Recorded σ))
    (same : ∀ tunnel, (change tunnel).backend.stream.taken =
      tunnel.backend.stream.taken) (freight : Freight) :
    registry.Bears (registry.onTunnel number change) freight freight := by
  constructor
  · rw [gauge_onTunnel]
    exact .refl _ _
  · cases found : registry.tunnel? number with
    | none =>
        have absent := List.getElem?_eq_none_iff.mp found
        unfold taken onTunnel update
        rw [List.modify_eq_self absent]
    | some registered =>
        have moved : (registry.onTunnel number change).taken +
              registered.record.taken.length =
            registry.taken +
              (change registered.tunnel).backend.stream.taken.length :=
          registry.taken_update number _ found
        rw [same] at moved
        unfold RegisteredTunnel.record at moved
        omega

/-- Nothing that is relayed is counted, and guacd takes nothing. -/
theorem Quiet.bears {before after : Registry (Recorded σ)}
    (quiet : before.Quiet after) (gauge : after.gauge = before.gauge)
    (freight : Freight) : before.Bears after freight freight := by
  refine ⟨?_, ?_⟩
  · rw [gauge]
    exact .refl _ _
  · rw [quiet.taken]

theorem bears_close [Connection σ] (registry : Registry (Recorded σ))
    (uuid : Uuid) (status : Status) (freight : Freight) :
    registry.Bears (registry.close uuid status).2 freight freight :=
  (registry.quiet_close uuid status).bears (registry.gauge_close uuid status)
    freight

end Registry

end TunnelRelay
