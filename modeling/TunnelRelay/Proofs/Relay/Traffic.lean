import TunnelRelay.Proofs.Relay.Conservation
import TunnelRelay.Proofs.Relay.Sockets

/-!
What the counters of traffic say.

Every request and every session has its freight, and the counters are the totals. Towards guacd this
is not what guacd has taken: the bytes of dropped instructions are counted, and what guacd has taken
of a body or a message that failed is not. Towards browsers it is not only what guacd has said: the
replies that go out in the answers to reads are counted, while those that go over a socket are not,
and frames are counted that a closed socket has refused.
-/

namespace TunnelRelay

open Http LongPoll WebSocket

/-! ### Totals -/

namespace Freight

def total (weight : Freight → Nat) (freights : List Freight) : Nat :=
  (freights.map weight).sum

theorem total_append (weight : Freight → Nat) (first second : List Freight) :
    total weight (first ++ second) =
      total weight first + total weight second := by
  unfold total
  rw [List.map_append, List.sum_append]

theorem total_cons (weight : Freight → Nat) (freight : Freight)
    (freights : List Freight) :
    total weight (freight :: freights) =
      weight freight + total weight freights :=
  List.sum_cons

theorem total_set (weight : Freight → Nat) {freights : List Freight}
    {index : Nat} {old : Freight} (there : freights[index]? = some old)
    (new : Freight) :
    total weight (freights.set index new) + weight old =
      total weight freights + weight new := by
  rw [List.set_eq_modify]
  exact sum_map_modify there (fun _ => new) weight

theorem total_add (first second : Freight → Nat) (freights : List Freight) :
    total (fun freight => first freight + second freight) freights =
      total first freights + total second freights := by
  induction freights with
  | nil => rfl
  | cons freight freights ih =>
      rw [total_cons, total_cons, total_cons, ih]
      omega

theorem total_congr {first second : Freight → Nat} {freights : List Freight}
    (same : ∀ freight ∈ freights, first freight = second freight) :
    total first freights = total second freights :=
  congrArg List.sum (List.map_congr_left same)

theorem total_zero {weight : Freight → Nat} {freights : List Freight}
    (none_ : ∀ freight ∈ freights, weight freight = 0) :
    total weight freights = 0 := by
  induction freights with
  | nil => rfl
  | cons freight freights ih =>
      rw [total_cons, none_ freight List.mem_cons_self,
        ih fun other member => none_ other (List.mem_cons_of_mem _ member)]

/-- How many frames of guacd were handed over. -/
def relayed (freight : Freight) : Nat :=
  (Item.frames freight.given).length

def relayedBytes (freight : Freight) : Nat :=
  (Frame.received (Item.frames freight.given)).length

def answered (freight : Freight) : Nat :=
  (Item.replies freight.given).length

def answeredBytes (freight : Freight) : Nat :=
  ((Item.replies freight.given).flatMap Instruction.wire).length

theorem shown_eq (freight : Freight) :
    freight.shown = freight.relayed + freight.answered := by
  unfold shown relayed answered
  induction freight.given with
  | nil => rfl
  | cons item items ih =>
      cases item with
      | reply instruction =>
          simp only [Item.frames, Item.replies, List.filterMap_cons,
            Item.frame?, Item.reply?, List.length_cons] at ih ⊢
          omega
      | frame received =>
          simp only [Item.frames, Item.replies, List.filterMap_cons,
            Item.frame?, Item.reply?, List.length_cons] at ih ⊢
          omega

theorem shownBytes_eq (freight : Freight) :
    freight.shownBytes = freight.relayedBytes + freight.answeredBytes := by
  unfold shownBytes relayedBytes answeredBytes
  induction freight.given with
  | nil => rfl
  | cons item items ih =>
      cases item with
      | reply instruction =>
          simp only [Item.frames, Item.replies, List.filterMap_cons,
            Item.frame?, Item.reply?, Item.wire, Item.bytes, Frame.received,
            List.flatMap_cons, List.length_append] at ih ⊢
          omega
      | frame received =>
          simp only [Item.frames, Item.replies, List.filterMap_cons,
            Item.frame?, Item.reply?, Item.wire, Item.bytes, Frame.received,
            List.flatMap_cons, List.length_append] at ih ⊢
          omega

end Freight

/-- The counters are the totals of freights. -/
structure Gauge.Fits (gauge : Gauge) (freights : List Freight) : Prop where
  instructions : gauge.toServer.instructions =
    .ofNat (Freight.total Freight.instructions freights)
  bytes : gauge.toServer.bytes = .ofNat (Freight.total Freight.bytes freights)
  shown : gauge.toClient.instructions =
    .ofNat (Freight.total Freight.shown freights)
  shownBytes : gauge.toClient.bytes =
    .ofNat (Freight.total Freight.shownBytes freights)
  pings : gauge.pings =
    .ofNat (Freight.total Freight.replied freights + gauge.waiting)

namespace Gauge.Fits

variable {before after : Gauge} {freights : List Freight}

theorem follows (fits : before.Fits freights) {index : Nat} {old new : Freight}
    (there : freights[index]? = some old)
    (follows : before.Follows after old new) :
    after.Fits (freights.set index new) := by
  have grows := fun weight => Freight.total_set weight there new
  refine ⟨follows.instructions.total fits.instructions (grows _),
    follows.bytes.total fits.bytes (grows _),
    follows.shown.total fits.shown (grows _),
    follows.shownBytes.total fits.shownBytes (grows _),
    follows.pings.total fits.pings ?_⟩
  have replied := grows Freight.replied
  omega

theorem stays (fits : before.Fits freights) {freight : Freight}
    (follows : before.Follows after freight freight) : after.Fits freights := by
  refine ⟨follows.instructions.total fits.instructions rfl,
    follows.bytes.total fits.bytes rfl, follows.shown.total fits.shown rfl,
    follows.shownBytes.total fits.shownBytes rfl,
    follows.pings.total fits.pings ?_⟩
  omega

theorem insert {gauge : Gauge} {first second : List Freight}
    (fits : gauge.Fits (first ++ second)) :
    gauge.Fits (first ++ [({} : Freight)] ++ second) := by
  have same : ∀ weight : Freight → Nat, weight {} = 0 →
      Freight.total weight (first ++ [({} : Freight)] ++ second) =
        Freight.total weight (first ++ second) := by
    intro weight nothing
    rw [Freight.total_append, Freight.total_append, Freight.total_cons, nothing,
      Freight.total_append]
    rfl
  constructor
  · rw [same _ rfl]
    exact fits.instructions
  · rw [same _ rfl]
    exact fits.bytes
  · rw [same _ rfl]
    exact fits.shown
  · rw [same _ rfl]
    exact fits.shownBytes
  · rw [same _ rfl]
    exact fits.pings

end Gauge.Fits

/-! ### Freights of all -/

/-- Every item carries one of the freights, as far as is known of it. -/
inductive Laden {α β : Type} (carries : α → β → Freight → Prop) :
    List α → List β → List Freight → Prop
  | nil : Laden carries [] [] []
  | cons {item : α} {fact : β} {freight : Freight} {items : List α}
      {facts : List β} {freights : List Freight}
      (carried : carries item fact freight)
      (others : Laden carries items facts freights) :
      Laden carries (item :: items) (fact :: facts) (freight :: freights)

namespace Laden

variable {α β : Type} {carries : α → β → Freight → Prop} {items : List α}
  {facts : List β} {freights : List Freight}

theorem find (laden : Laden carries items facts freights) {index : Nat}
    {item : α} (there : items[index]? = some item) :
    ∃ fact freight, facts[index]? = some fact ∧
      freights[index]? = some freight ∧ carries item fact freight := by
  induction laden generalizing index with
  | nil => cases there
  | cons carried others ih =>
      cases index with
      | zero =>
          cases there
          exact ⟨_, _, rfl, rfl, carried⟩
      | succ index => exact ih there

theorem set (laden : Laden carries items facts freights) {index : Nat}
    {fact : β} (known : facts[index]? = some fact) {item : α}
    {freight : Freight} (carried : carries item fact freight) :
    Laden carries (items.set index item) facts
      (freights.set index freight) := by
  induction laden generalizing index with
  | nil => cases known
  | cons first others ih =>
      cases index with
      | zero =>
          cases known
          exact .cons carried others
      | succ index => exact .cons first (ih known)

theorem modify (laden : Laden carries items facts freights) (index : Nat)
    {change : α → α} {learn : β → β}
    (kept : ∀ item fact freight, carries item fact freight →
      carries (change item) (learn fact) freight) :
    Laden carries (items.modify index change) (facts.modify index learn)
      freights := by
  induction laden generalizing index with
  | nil =>
      rw [List.modify_nil, List.modify_nil]
      exact .nil
  | cons carried others ih =>
      cases index with
      | zero => exact .cons (kept _ _ _ carried) others
      | succ index => exact .cons carried (ih index)

theorem change (laden : Laden carries items facts freights) (index : Nat)
    {change : α → α}
    (kept : ∀ item fact freight, carries item fact freight →
      carries (change item) fact freight) :
    Laden carries (items.modify index change) facts freights := by
  have changed := laden.modify index kept
  have same : facts.modify index (fun fact => fact) = facts :=
    List.modify_id index facts
  rw [same] at changed
  exact changed

theorem snoc (laden : Laden carries items facts freights) {item : α} {fact : β}
    {freight : Freight} (carried : carries item fact freight) :
    Laden carries (items ++ [item]) (facts ++ [fact])
      (freights ++ [freight]) := by
  induction laden with
  | nil => exact .cons carried .nil
  | cons first others ih => exact .cons first ih

theorem each (laden : Laden carries items facts freights)
    {holds : Freight → Prop}
    (carried : ∀ item fact freight, carries item fact freight →
      holds freight) : ∀ freight ∈ freights, holds freight := by
  induction laden with
  | nil =>
      intro freight member
      cases member
  | cons first others ih =>
      intro freight member
      rcases List.mem_cons.mp member with rfl | among
      · exact carried _ _ _ first
      · exact ih freight among

end Laden

/-! ### Along a run -/

variable {σ : Type}

namespace History

/-- Every request and every session carries its freight, and the counters and
the records are the totals. -/
structure Audited (history : History σ) (requests sessions : List Freight) :
    Prop where
  exchanges : Laden Exchange.Carries history.relay.exchanges history.posts
    requests
  heard : Laden Session.Loads history.relay.sessions history.heard sessions
  gauge : history.relay.registry.gauge.Fits (requests ++ sessions)
  taken : history.relay.registry.taken =
    Freight.total Freight.arrived requests

variable {history : History σ} {requests sessions : List Freight}

theorem Audited.rests (audited : history.Audited requests sessions)
    {after : History σ} (exchanges : Laden Exchange.Carries
      after.relay.exchanges after.posts requests)
    (others : Laden Session.Loads after.relay.sessions after.heard sessions)
    (gauge : after.relay.registry.gauge = history.relay.registry.gauge)
    (taken : after.relay.registry.taken = history.relay.registry.taken) :
    after.Audited requests sessions := by
  refine ⟨exchanges, others, ?_, taken.trans audited.taken⟩
  rw [gauge]
  exact audited.gauge

theorem Audited.exchange (audited : history.Audited requests sessions)
    {relay : Relay (Recorded σ)} {index : Nat} {exchange : Exchange}
    (there : history.relay.exchanges[index]? = some exchange)
    (goes : ∀ post freight, exchange.Carries post freight → ∃ later new,
      relay.exchanges = history.relay.exchanges.set index later ∧
      relay.sessions = history.relay.sessions ∧ later.Carries post new ∧
      history.relay.registry.Bears relay.registry freight new) :
    ∃ requests, Audited { history with relay } requests sessions := by
  obtain ⟨post, freight, known, weighed, carries⟩ := audited.exchanges.find there
  obtain ⟨later, new, set, others, carried, bears⟩ := goes post freight carries
  have within := (List.getElem?_eq_some_iff.mp weighed).1
  have among : (requests ++ sessions)[index]? = some freight := by
    rw [List.getElem?_append_left within]
    exact weighed
  have fits := audited.gauge.follows among bears.counters
  rw [List.set_append_left _ _ within] at fits
  refine ⟨requests.set index new, ?_, ?_, fits, ?_⟩
  · simp only [set]
    exact audited.exchanges.set known carried
  · simp only [others]
    exact audited.heard
  · have moved := Freight.total_set Freight.arrived weighed new
    have taken := bears.taken
    have before := audited.taken
    simp only
    omega

theorem Audited.session (audited : history.Audited requests sessions)
    (index : Nat)
    (step : Session (Recorded σ) → Metrics →
      Pace × Session (Recorded σ) × Metrics)
    (goes : ∀ session metrics known freight,
      Session.Loads session known freight →
      ∃ new, (step session metrics).2.1.Loads known new ∧
        metrics.Follows (step session metrics).2.2 freight new) :
    ∃ sessions,
      { history with
        relay := (history.relay.stepSession index step).2 }.Audited requests
          sessions := by
  cases there : history.relay.sessions[index]? with
  | none =>
      refine ⟨sessions, ?_⟩
      simp only [Relay.stepSession, there]
      exact audited
  | some session =>
      obtain ⟨known, freight, messages, weighed, loads⟩ :=
        audited.heard.find there
      obtain ⟨new, carried, follows⟩ :=
        goes session history.relay.metrics known freight loads
      have among : (requests ++ sessions)[requests.length + index]? =
          some freight := by
        rw [List.getElem?_append_right (Nat.le_add_right _ _),
          Nat.add_sub_cancel_left]
        exact weighed
      have fits := audited.gauge.follows among
        (follows history.relay.registry.waiting)
      rw [List.set_append_right _ _ (Nat.le_add_right _ _),
        Nat.add_sub_cancel_left] at fits
      refine ⟨sessions.set index new, ?_⟩
      simp only [Relay.stepSession, there]
      exact ⟨audited.exchanges, audited.heard.set messages carried, fits,
        audited.taken⟩

theorem Audited.receive (audited : history.Audited requests sessions)
    {exchange : Exchange} {post : Post} {registry : Registry (Recorded σ)}
    (carries : exchange.Carries post {})
    (bears : history.relay.registry.Bears registry {} {}) :
    Audited
      { history with
        relay := { history.relay with
          registry, exchanges := history.relay.exchanges ++ [exchange] }
        posts := history.posts ++ [post] }
      (requests ++ [({} : Freight)]) sessions := by
  refine ⟨audited.exchanges.snoc carries, audited.heard,
    audited.gauge.insert.stays bears.counters, ?_⟩
  rw [Freight.total_append, ← audited.taken]
  exact bears.taken

theorem Audited.join (audited : history.Audited requests sessions)
    {session : Session (Recorded σ)} {metrics : Metrics}
    {asked : List TunnelRequest} (loads : session.Loads [] {})
    (follows : history.relay.metrics.Follows metrics {} {}) :
    Audited
      { history with
        relay := { history.relay with
          registry := { history.relay.registry with metrics }
          requests := asked
          sessions := history.relay.sessions ++ [session] }
        heard := history.heard ++ [[]] }
      requests (sessions ++ [({} : Freight)]) := by
  have fits := audited.gauge
  rw [← List.append_nil (requests ++ sessions)] at fits
  have longer := fits.insert.stays (follows history.relay.registry.waiting)
  rw [List.append_nil, List.append_assoc] at longer
  exact ⟨audited.exchanges, audited.heard.snoc loads, longer, audited.taken⟩

variable [Connection σ]

omit [Connection σ] in
theorem audited_initial (idleTimeout : Nat) :
    (initial idleTimeout : History σ).Audited [] [] :=
  ⟨.nil, .nil, ⟨rfl, rfl, rfl, rfl, rfl⟩, rfl⟩

theorem Audited.stepExchange (environment : Environment σ)
    (audited : history.Audited requests sessions) (index : Nat) :
    ∃ requests, (history.perform environment
      (.task (.exchange index))).Audited requests sessions := by
  cases there : history.relay.exchanges[index]? with
  | none =>
      refine ⟨requests, ?_⟩
      simp only [History.perform, Relay.perform, Relay.step,
        Relay.stepExchange, there]
      exact audited
  | some exchange =>
      exact audited.exchange there
        fun _ _ => Relay.stepExchange_carries environment there

theorem Audited.abandon (environment : Environment σ)
    (audited : history.Audited requests sessions) (index : Nat) :
    ∃ requests, (history.perform environment (.abandon index)).Audited requests
      sessions := by
  cases there : history.relay.exchanges[index]? with
  | none =>
      refine ⟨requests, ?_⟩
      simp only [History.perform, Relay.perform, Relay.withdraw, there]
      exact audited
  | some exchange =>
      simp only [History.perform, Relay.perform, Relay.withdraw, there]
      apply audited.exchange there
      intro post freight carries
      obtain ⟨bears, carried⟩ := carries.abandon history.relay.registry
      exact ⟨_, freight, rfl, rfl, carried, bears⟩

theorem Audited.perform (environment : Environment σ)
    (audited : history.Audited requests sessions) (move : Move σ) :
    ∃ requests sessions,
      (history.perform environment move).Audited requests sessions := by
  cases move with
  | task task =>
      cases task with
      | exchange index =>
          obtain ⟨requests, later⟩ := audited.stepExchange environment index
          exact ⟨requests, sessions, later⟩
      | pump index =>
          exact ⟨requests, audited.session index _
            fun _ metrics _ _ loads => loads.stepPump metrics⟩
      | handler index heeds =>
          exact ⟨requests, audited.session index _
            fun _ metrics _ _ loads => loads.stepHandler heeds metrics⟩
  | receive request body wanted =>
      obtain ⟨bears, carries⟩ :=
        history.relay.arrive_carries request body wanted
      exact ⟨_, sessions, audited.receive carries bears⟩
  | abandon index =>
      obtain ⟨requests, later⟩ := audited.abandon environment index
      exact ⟨requests, sessions, later⟩
  | deliver index body =>
      exact ⟨requests, sessions, audited.rests (audited.exchanges.modify index
        fun _ _ _ carries => carries.deliver body) audited.heard rfl rfl⟩
  | closeIdle =>
      have quiet := Registry.quiet_closeIdle history.relay.registry
      exact ⟨requests, sessions, audited.rests audited.exchanges
        audited.heard (Registry.gauge_closeIdle _) quiet.taken⟩
  | advance duration =>
      exact ⟨requests, sessions, audited.rests audited.exchanges
        audited.heard rfl rfl⟩
  | openSession query =>
      obtain ⟨loads, follows⟩ := Session.start_loads environment
        history.relay.requests.length ⟨Form.pairs (Bytes.ofText query)⟩
        environment.bufferSize history.relay.metrics
      exact ⟨requests, _, audited.join loads follows⟩
  | say index messages =>
      exact ⟨requests, sessions, audited.rests audited.exchanges
        (audited.heard.modify index fun _ _ _ loads =>
          loads.deliver (.refl _) messages) rfl rfl⟩
  | lose index =>
      exact ⟨requests, sessions, audited.rests audited.exchanges
        (audited.heard.modify index fun _ _ _ loads =>
          loads.deliver (Outbound.keeps_broken _) [.lost]) rfl rfl⟩
  | guacd number change =>
      have kept := history.relay.registry.bears_onTunnel number
        (·.onStream (Recorded.onStream change)) (fun _ => rfl) {}
      exact ⟨requests, sessions, audited.rests audited.exchanges
        audited.heard (Registry.gauge_onTunnel _ _ _) kept.taken⟩
  | guacdSession index change =>
      exact ⟨requests, sessions, audited.rests audited.exchanges
        (audited.heard.change index fun _ _ _ loads => loads.guacd change)
        rfl rfl⟩

theorem run_audited (environment : Environment σ) (idleTimeout : Nat)
    (moves : List (Move σ)) :
    ∃ requests sessions,
      (run environment idleTimeout moves).Audited requests sessions := by
  induction moves using List.reverseRecOn with
  | nil => exact ⟨[], [], audited_initial idleTimeout⟩
  | append_singleton moves last ih =>
      obtain ⟨requests, sessions, audited⟩ := ih
      rw [run_snoc]
      exact audited.perform environment last

/-- What the counters of traffic say of what requests and sessions carry. -/
structure Counted (history : History σ) (requests sessions : List Freight) :
    Prop where
  exchanges : Laden Exchange.Carries history.relay.exchanges history.posts
    requests
  heard : Laden Session.Loads history.relay.sessions history.heard sessions
  /-- What was forwarded to its end is counted: the instructions in it that are
  for guacd, and all its bytes. -/
  toServer : history.relay.metrics.toServer =
    ⟨.ofNat (Freight.total Freight.instructions (requests ++ sessions)),
      .ofNat (Freight.total Freight.bytes (requests ++ sessions))⟩
  /-- guacd has not taken what was dropped of these bytes, but it has taken some
  of what was not forwarded to its end. -/
  balance : Freight.total Freight.bytes (requests ++ sessions) +
      Freight.total Freight.surplus (requests ++ sessions) =
    Freight.total Freight.arrived (requests ++ sessions) +
      Freight.total Freight.withheld (requests ++ sessions)
  taken : history.relay.registry.taken =
    Freight.total Freight.arrived requests
  /-- The frames that were handed over are counted, and of the replies those
  that reads were answered with. -/
  toClient : history.relay.metrics.toClient =
    ⟨.ofNat (Freight.total Freight.relayed (requests ++ sessions) +
        Freight.total Freight.answered requests),
      .ofNat (Freight.total Freight.relayedBytes (requests ++ sessions) +
        Freight.total Freight.answeredBytes requests)⟩
  pings : history.relay.metrics.pings =
    .ofNat (Freight.total Freight.replied (requests ++ sessions) +
      history.relay.registry.waiting)

omit [Connection σ] in
theorem Audited.counted (audited : history.Audited requests sessions) :
    history.Counted requests sessions := by
  have forwards : ∀ freight ∈ requests ++ sessions, freight.Forwards := by
    intro freight member
    rcases List.mem_append.mp member with asked | joined
    · exact audited.exchanges.each (fun _ _ _ carries => carries.forwards)
        freight asked
    · exact audited.heard.each (fun _ _ _ loads => loads.forwards) freight
        joined
  -- no session has given a reply with its frames
  have replies : ∀ weight : Freight → Nat, (∀ freight : Freight,
      Item.replies freight.given = [] → weight freight = 0) →
      Freight.total weight (requests ++ sessions) =
        Freight.total weight requests := by
    intro weight nothing
    have silent : Freight.total weight sessions = 0 :=
      Freight.total_zero (audited.heard.each fun _ _ freight loads =>
        nothing freight loads.silent)
    rw [Freight.total_append, silent, Nat.add_zero]
  have answered := replies Freight.answered fun freight none_ => by
    rw [Freight.answered, none_]
    rfl
  have answeredBytes := replies Freight.answeredBytes fun freight none_ => by
    rw [Freight.answeredBytes, none_]
    rfl
  refine ⟨audited.exchanges, audited.heard, ?_, ?_, audited.taken, ?_,
    audited.gauge.pings⟩
  · rw [← audited.gauge.instructions, ← audited.gauge.bytes]
    rfl
  · rw [← Freight.total_add, ← Freight.total_add]
    exact Freight.total_congr fun freight member =>
      (forwards freight member).balance
  · rw [← answered, ← answeredBytes, ← Freight.total_add, ← Freight.total_add,
      ← funext Freight.shown_eq, ← funext Freight.shownBytes_eq,
      ← audited.gauge.shown, ← audited.gauge.shownBytes]
    rfl

/-- Along every run, all requests and sessions have their freights, and the
counters of traffic are totals of them. -/
theorem traffic_counted (environment : Environment σ) (idleTimeout : Nat)
    (moves : List (Move σ)) :
    ∃ requests sessions,
      (run environment idleTimeout moves).Counted requests sessions := by
  obtain ⟨requests, sessions, audited⟩ :=
    run_audited environment idleTimeout moves
  exact ⟨requests, sessions, audited.counted⟩

/-- A write brings a ping and an instruction, and a read takes the answer to the
ping. -/
def pingedTraffic : List (Move Link) :=
  let turns (exchange count : Nat) : List (Move Link) :=
    List.replicate count (.task (.exchange exchange))
  .receive { target := "/tunnel?connect" } [] true :: turns 0 1 ++
    writing "3.nop;0.,4.ping,1.7;" :: turns 1 5 ++
    guacdSends "4.sync,1.1;" :: reading :: turns 2 4

theorem traffic_counted_ping :
    ∃ requests sessions,
      (run wide 0 pingedTraffic).Counted requests sessions ∧
      (run wide 0 pingedTraffic).relay.metrics.toServer = ⟨1, 20⟩ ∧
      (run wide 0 pingedTraffic).relay.registry.taken = 6 ∧
      (run wide 0 pingedTraffic).relay.metrics.toClient = ⟨1, 14⟩ := by
  obtain ⟨requests, sessions, counted⟩ := traffic_counted wide 0 pingedTraffic
  exact ⟨requests, sessions, counted, by decide +kernel, by decide +kernel,
    by decide +kernel⟩

end History

end TunnelRelay
