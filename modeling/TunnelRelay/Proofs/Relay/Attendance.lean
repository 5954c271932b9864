import TunnelRelay.Proofs.Relay.Entries
import TunnelRelay.Proofs.Relay.Lanes

/-!
What moves are for reads.

For the reads of a relay whose connections keep what arrives, a move is one of a few things: a
request arrives, perhaps to read; a tunnel is opened; a read takes a step, or leaves; or something
else happens, which at most queues replies.
-/

namespace TunnelRelay

open Http LongPoll

variable {σ : Type}

/-! ### A relay whose connections keep what arrives -/

/-- A tunnel whose connection keeps what arrives. What a handshake has left in
the reader has arrived. -/
def Tunnel.tapped (tunnel : Tunnel σ) : Tunnel (Tapped σ) :=
  { tunnel with
    backend := { tunnel.backend with
      stream :=
        { stream := tunnel.backend.stream, arrived := tunnel.reader.buffer } } }

/-- An environment in which every connection keeps what arrives. -/
def Environment.tapped (environment : Environment σ) :
    Environment (Tapped σ) where
  connect attempt request :=
    (environment.connect attempt request).map Tunnel.tapped
  token := environment.token
  bufferSize := environment.bufferSize

def Move.tapped : Move σ → Move (Tapped σ)
  | .task which => .task which
  | .receive request body wanted => .receive request body wanted
  | .deliver number body => .deliver number body
  | .abandon number => .abandon number
  | .closeIdle => .closeIdle
  | .advance duration => .advance duration
  | .openSession query => .openSession query
  | .say session messages => .say session messages
  | .lose session => .lose session
  | .guacd tunnel change => .guacd tunnel (Tapped.onStream change)
  | .guacdSession session change =>
      .guacdSession session (Tapped.onStream change)

def Tunnel.inlet (tunnel : Tunnel σ) : Inlet where
  reader := tunnel.reader
  arrived := tunnel.reader.buffer
  outbox := {}
  lock := tunnel.readerLock

/-- The reads are of tunnels that exist, and whoever asks to read does nothing
else. -/
structure Attendance (uuids : List Uuid) (asks : Nat → Option Uuid)
    (entries : Nat → Entry) : Prop where
  reading : ∀ index read answer, entries index = .reading read answer →
    ∃ uuid, uuids[read.tunnel]? = some uuid ∧ asks index = some uuid
  asked : ∀ index uuid, asks index = some uuid → entries index ≠ .other
  found : ∀ index uuid answer, asks index = some uuid →
    entries index = .answered answer → answer.isOk = true → uuid ∈ uuids

theorem Attendance.update {uuids more : List Uuid}
    {asks later : Nat → Option Uuid} {entries : Nat → Entry} {index : Nat}
    {entry : Entry} (attended : Attendance uuids asks entries)
    (grows : uuids <+: more)
    (others : ∀ other, other ≠ index → later other = asks other)
    (reading : ∀ read answer, entry = .reading read answer →
      ∃ uuid, more[read.tunnel]? = some uuid ∧ later index = some uuid)
    (asked : ∀ uuid, later index = some uuid → entry ≠ .other)
    (found : ∀ uuid answer, later index = some uuid → entry = .answered answer →
      answer.isOk = true → uuid ∈ more) :
    Attendance more later (Function.update entries index entry) := by
  constructor
  case reading =>
    intro other read answer there
    by_cases own : other = index
    · subst own
      rw [Function.update_self] at there
      exact reading read answer there
    · rw [Function.update_of_ne own] at there
      obtain ⟨uuid, on, ask⟩ := attended.reading other read answer there
      obtain ⟨inside, same⟩ := List.getElem?_eq_some_iff.mp on
      refine ⟨uuid, ?_, (others other own).trans ask⟩
      rw [← same]
      exact List.prefix_iff_getElem?.mp grows read.tunnel inside
  case asked =>
    intro other uuid ask
    by_cases own : other = index
    · subst own
      rw [Function.update_self]
      exact asked uuid ask
    · rw [Function.update_of_ne own]
      rw [others other own] at ask
      exact attended.asked other uuid ask
  case found =>
    intro other uuid answer ask there isOk
    by_cases own : other = index
    · subst own
      rw [Function.update_self] at there
      exact found uuid answer ask there isOk
    · rw [Function.update_of_ne own] at there
      rw [others other own] at ask
      exact grows.subset (attended.found other uuid answer ask there isOk)

namespace History

def Attended (history : History (Tapped σ)) : Prop :=
  Attendance history.relay.registry.uuids (asks history.posts)
    (entries history.relay.exchanges)

structure Keeps (before after : History (Tapped σ)) : Prop where
  uuids : after.relay.registry.uuids = before.relay.registry.uuids
  asks : asks after.posts = asks before.posts
  count : after.relay.exchanges.length = before.relay.exchanges.length

/-- What a move does to reads. -/
inductive Attends [Connection σ] (environment : Environment σ) (move : Move σ)
    (before after : History (Tapped σ)) : Prop
  | rests (keeps : before.Keeps after)
      (inlets : after.relay.registry.inlets = before.relay.registry.inlets)
      (same : entries after.relay.exchanges = entries before.relay.exchanges)
  /-- An exchange that does not read goes on, and may queue replies. -/
  | acts {index number : Nat} {replies : List Instruction} {entry : Entry}
      (keeps : before.Keeps after) (unasked : asks before.posts index = none)
      (idle : ∀ read answer, entry ≠ .reading read answer)
      (inlets : after.relay.registry.inlets =
        before.relay.registry.inlets.modify number (·.push replies))
      (changes : entries after.relay.exchanges =
        Function.update (entries before.relay.exchanges) index entry)
  | opens {index attempt : Nat} {request : TunnelRequest} {tunnel : Tunnel σ}
      {entry : Entry} (unasked : asks before.posts index = none)
      (idle : ∀ read answer, entry ≠ .reading read answer)
      (connected : environment.connect attempt request = .ok tunnel)
      (inlets : after.relay.registry.inlets =
        before.relay.registry.inlets ++ [tunnel.inlet])
      (uuids : after.relay.registry.uuids =
        before.relay.registry.uuids ++ [tunnel.uuid])
      (same : asks after.posts = asks before.posts)
      (changes : entries after.relay.exchanges =
        Function.update (entries before.relay.exchanges) index entry)
      (count : after.relay.exchanges.length = before.relay.exchanges.length)
  | arrives {exchange : Exchange} {ask : Option Uuid}
      (unread : exchange.Unread ask)
      (inlets : after.relay.registry.inlets = before.relay.registry.inlets)
      (uuids : after.relay.registry.uuids = before.relay.registry.uuids)
      (asked : asks after.posts =
        Function.update (asks before.posts) before.relay.exchanges.length ask)
      (changes : entries after.relay.exchanges =
        Function.update (entries before.relay.exchanges)
          before.relay.exchanges.length exchange.entry)
      (count : after.relay.exchanges.length =
        before.relay.exchanges.length + 1)
  | enters {number : Nat} {uuid : Uuid} {encoding : ContentEncoding}
      {request : Request} {body : List BodyEvent} {wanted : Bool}
      (received : move = .receive request body wanted)
      (asking : Post.reads? ⟨request, body⟩ = some uuid)
      (own : before.relay.registry.uuids[number]? = some uuid)
      (inlets : after.relay.registry.inlets =
        before.relay.registry.inlets.modify number
          (·.request before.relay.exchanges.length))
      (uuids : after.relay.registry.uuids = before.relay.registry.uuids)
      (asked : asks after.posts = Function.update (asks before.posts)
        before.relay.exchanges.length (some uuid))
      (changes : entries after.relay.exchanges =
        Function.update (entries before.relay.exchanges)
          before.relay.exchanges.length
          (.reading
            { ticket := before.relay.exchanges.length, tunnel := number,
              encoding }
            { wanted := wanted && request.method != "HEAD" }))
      (count : after.relay.exchanges.length =
        before.relay.exchanges.length + 1)
  | turns {index : Nat} {read : Read} {answer : Answer}
      (keeps : before.Keeps after)
      (there : entries before.relay.exchanges index = .reading read answer)
      (registry : after.relay.registry =
        (read.step answer before.relay.registry).2.2.2)
      (changes : entries after.relay.exchanges =
        Function.update (entries before.relay.exchanges) index
          (.ofStep (read.step answer before.relay.registry).1
            (read.step answer before.relay.registry).2.1
            (read.step answer before.relay.registry).2.2.1))
  /-- The browser of a read goes away before its answer has begun. -/
  | leaves {index : Nat} {read : Read} {answer : Answer}
      (keeps : before.Keeps after)
      (there : entries before.relay.exchanges index = .reading read answer)
      (fresh : read.begun = false) (abandoned : move = .abandon index)
      (inlets : after.relay.registry.inlets =
        before.relay.registry.inlets.modify read.tunnel
          (·.withdraw read.ticket))
      (changes : entries after.relay.exchanges =
        Function.update (entries before.relay.exchanges) index (.answered answer))
  /-- The browser of a read goes away in the middle of its answer. -/
  | deserts {index : Nat} {read : Read} {answer : Answer}
      (keeps : before.Keeps after)
      (there : entries before.relay.exchanges index = .reading read answer)
      (begun : read.begun = true) (abandoned : move = .abandon index)
      (inlets : after.relay.registry.inlets = before.relay.registry.inlets)
      (changes : entries after.relay.exchanges =
        Function.update (entries before.relay.exchanges) index
          (.reading read { answer with wanted := false }))

variable [Connection σ] {environment : Environment σ}

/-! ### One move -/

section Moves

variable {history : History (Tapped σ)}

omit [Connection σ] in
theorem unasked_of_busy (attended : history.Attended) {index : Nat}
    (other : entries history.relay.exchanges index = .other) :
    asks history.posts index = none := by
  cases ask : asks history.posts index with
  | none => rfl
  | some uuid => exact absurd other (attended.asked index uuid ask)

theorem attends_set {move : Move σ} {after : History (Tapped σ)}
    {index number : Nat} {exchange new : Exchange}
    (attended : history.Attended)
    (found : history.relay.exchanges[index]? = some exchange)
    (other : exchange.entry = .other)
    (exchanges : after.relay.exchanges = history.relay.exchanges.set index new)
    (posts : after.posts = history.posts)
    (uuids : after.relay.registry.uuids = history.relay.registry.uuids)
    (queues : history.relay.registry.Queues number after.relay.registry)
    (idle : ∀ read answer, new.entry ≠ .reading read answer) :
    Attends environment move history after := by
  obtain ⟨inside, -⟩ := List.getElem?_eq_some_iff.mp found
  obtain ⟨replies, inlets⟩ := queues
  refine .acts ⟨uuids, congrArg asks posts, ?_⟩
    (unasked_of_busy attended ((entries_of_some found).trans other)) idle inlets
    ?_
  · rw [exchanges, List.length_set]
  · rw [exchanges]
    exact entries_set inside new

theorem attends_rests {move : Move σ} {after : History (Tapped σ)}
    (registry : after.relay.registry.tunnels = history.relay.registry.tunnels)
    (exchanges : after.relay.exchanges = history.relay.exchanges)
    (posts : after.posts = history.posts) :
    Attends environment move history after := by
  refine .rests ⟨?_, congrArg asks posts, congrArg List.length exchanges⟩ ?_
    (congrArg entries exchanges)
  · exact congrArg (List.map (·.tunnel.uuid)) registry
  · exact congrArg (List.map (·.inlet)) registry

omit [Connection σ] in
theorem collect_entry (exchange : Exchange) (form : Bytes)
    (collecting : exchange.activity = .collecting form) (read : Read)
    (answer : Answer) :
    (exchange.collect form).2.entry ≠ .reading read answer := by
  unfold Exchange.collect
  split
  · rw [Exchange.entry, collecting]
    intro same
    cases same
  · intro same
    cases same
  · intro same
    cases same
  · split
    · intro same
      cases same
    · intro same
      cases same

theorem entry_step {exchange : Exchange} {read : Read}
    (registry : Registry (Recorded (Tapped σ)))
    (reading : exchange.activity = .reading read) :
    (exchange.step registry).2.1.entry =
        .ofStep (read.step exchange.answer registry).1
          (read.step exchange.answer registry).2.1
          (read.step exchange.answer registry).2.2.1 ∧
      (exchange.step registry).2.2 =
        (read.step exchange.answer registry).2.2.2 := by
  unfold Exchange.step
  simp only [reading]
  cases stepped : read.step exchange.answer registry with
  | mk pace rest =>
      obtain ⟨later, given, next⟩ := rest
      cases pace with
      | ended => exact ⟨rfl, rfl⟩
      | goesOn | yields | parked => exact ⟨rfl, rfl⟩

theorem step_other {exchange : Exchange}
    (registry : Registry (Recorded (Tapped σ)))
    (other : exchange.entry = .other) :
    (∀ read answer, (exchange.step registry).2.1.entry ≠
        .reading read answer) ∧
      (exchange.step registry).2.2.uuids = registry.uuids ∧
      ∃ number, registry.Queues number (exchange.step registry).2.2 := by
  unfold Exchange.entry at other
  unfold Exchange.step
  cases activity : exchange.activity with
  | collecting form =>
      exact ⟨collect_entry exchange form activity, rfl, 0,
        Registry.queues_of_same rfl⟩
  | connecting parameters =>
      refine ⟨?_, rfl, 0, Registry.queues_of_same rfl⟩
      simp [Exchange.entry, activity]
  | reading read | answered =>
      rw [activity] at other
      cases other
  | writing write =>
      have beside := write.step_beside exchange.body exchange.answer registry
      have queues : registry.Queues write.tunnel
          (write.step exchange.body exchange.answer registry).1.2.2.2 :=
        write.step_queues exchange.body exchange.answer
      cases stepped : write.step exchange.body exchange.answer registry with
      | mk result rest =>
          obtain ⟨pace, later, answer, next⟩ := result
          rw [stepped] at beside queues
          simp only [stepped]
          cases pace with
          | ended | goesOn | yields | parked =>
              refine ⟨?_, beside.uuids, write.tunnel, queues⟩
              intro read answer same
              cases same

theorem connect_attends (attended : history.Attended) (move : Move σ)
    {index : Nat} {exchange : Exchange} {parameters : List (String × String)}
    (found : history.relay.exchanges[index]? = some exchange)
    (connecting : exchange.activity = .connecting parameters) :
    Attends environment move history
      (history.perform environment.tapped (.task (.exchange index))) := by
  have other : exchange.entry = .other := by rw [Exchange.entry, connecting]
  obtain ⟨inside, -⟩ := List.getElem?_eq_some_iff.mp found
  cases outcome : environment.connect history.relay.requests.length
      ⟨parameters⟩ with
  | error error =>
      have relay : (history.perform environment.tapped
          (.task (.exchange index))).relay =
          { history.relay with
            requests := history.relay.requests ++ [⟨parameters⟩]
            exchanges :=
              history.relay.exchanges.set index (exchange.refuse error) } := by
        simp only [perform, Relay.perform, Relay.step, Relay.stepExchange,
          found, connecting, Relay.connectExchange, Relay.connect,
          Environment.recorded, Environment.tapped, outcome, Except.map,
          Relay.setExchange]
      have refused : (history.perform environment.tapped
          (.task (.exchange index))).relay.exchanges =
          history.relay.exchanges.set index (exchange.refuse error) := by
        rw [relay]
      have queues : history.relay.registry.Queues 0
          (history.perform environment.tapped
            (.task (.exchange index))).relay.registry := by
        rw [relay]
        exact Registry.queues_of_same rfl
      refine attends_set attended found other refused rfl ?_ queues ?_
      · rw [relay]
      · intro _ _ same
        cases same
  | ok tunnel =>
      let entered := exchange.enter tunnel.tapped.recorded
        (environment.token history.relay.registry.tunnels.length)
        (history.relay.registry.count (·.tunnelOpened))
      have relay : (history.perform environment.tapped
          (.task (.exchange index))).relay =
          { history.relay with
            registry := entered.2
            requests := history.relay.requests ++ [⟨parameters⟩]
            exchanges := history.relay.exchanges.set index entered.1 } := by
        simp only [perform, Relay.perform, Relay.step, Relay.stepExchange,
          found, connecting, Relay.connectExchange, Relay.connect,
          Environment.recorded, Environment.tapped, outcome, Except.map,
          Relay.setExchange, entered]
      have answered : entered.1.activity = .answered :=
        exchange.enter_answered _ _ _
      have idle : ∀ read answer, entered.1.entry ≠ .reading read answer := by
        intro _ _ same
        rw [Exchange.entry, answered] at same
        cases same
      refine .opens
        (unasked_of_busy attended ((entries_of_some found).trans other)) idle
        outcome ?_ ?_ rfl ?_ ?_
      · rw [relay, Exchange.inlets_enter, Registry.inlets_put]
        rfl
      · rw [relay, (exchange.enter_quiet _ _ _).uuids, Registry.uuids_put]
        rfl
      · rw [relay]
        exact entries_set inside _
      · rw [relay, List.length_set]

theorem exchange_attends (attended : history.Attended) (move : Move σ)
    (index : Nat) :
    Attends environment move history
      (history.perform environment.tapped (.task (.exchange index))) := by
  cases found : history.relay.exchanges[index]? with
  | none =>
      have same : (history.perform environment.tapped
          (.task (.exchange index))).relay = history.relay := by
        simp only [perform, Relay.perform, Relay.step, Relay.stepExchange,
          found]
      apply attends_rests
      · rw [same]
      · rw [same]
      · rfl
  | some exchange =>
      have inside := (List.getElem?_eq_some_iff.mp found).1
      have sets := history.exchange_sets environment.tapped found
      have busy : exchange.entry = .other →
          (∀ parameters, exchange.activity ≠ .connecting parameters) →
          Attends environment move history
            (history.perform environment.tapped (.task (.exchange index))) := by
        intro other settled
        have relay := sets settled
        obtain ⟨idle, uuids, number, queues⟩ :=
          step_other history.relay.registry other
        apply attends_set attended found other
        · rw [relay]
          rfl
        · rfl
        · rw [relay]
          exact uuids
        · rw [relay]
          exact queues
        · exact idle
      cases activity : exchange.activity with
      | connecting parameters => exact connect_attends attended move found activity
      | writing write =>
          exact busy (by rw [Exchange.entry, activity]) (by simp [activity])
      | collecting form =>
          exact busy (by rw [Exchange.entry, activity]) (by simp [activity])
      | answered =>
          have relay := sets (by simp [activity])
          have same : exchange.step history.relay.registry =
              (.ended, exchange, history.relay.registry) := by
            unfold Exchange.step
            rw [activity]
          rw [same] at relay
          apply attends_rests
          · rw [relay]
            rfl
          · rw [relay]
            obtain ⟨_, own⟩ := List.getElem?_eq_some_iff.mp found
            simp only [Relay.setExchange, ← own, List.set_getElem_self]
          · rfl
      | reading read =>
          have relay := sets (by simp [activity])
          obtain ⟨stepped, registry⟩ := entry_step history.relay.registry activity
          have there : entries history.relay.exchanges index =
              .reading read exchange.answer := by
            rw [entries_of_some found, Exchange.entry, activity]
          refine .turns ⟨?_, rfl, ?_⟩ there ?_ ?_
          · rw [relay]
            simp only [Relay.setExchange]
            rw [registry]
            exact (read.quiet_step exchange.answer _).uuids
          · rw [relay]
            exact List.length_set
          · rw [relay]
            exact registry
          · rw [relay, ← stepped]
            exact entries_set inside _

omit [Connection σ] in
theorem asks_receive (aligned : history.Aligned) (post : Post) :
    asks (history.posts ++ [post]) =
      Function.update (asks history.posts) history.relay.exchanges.length
        post.reads? := by
  rw [← aligned.posts]
  exact asks_append history.posts post

theorem receive_attends (aligned : history.Aligned) (request : Request)
    (body : List BodyEvent) (wanted : Bool) :
    Attends environment (.receive request body wanted) history
      (history.perform environment.tapped
        (.receive request body wanted)) := by
  have relay : (history.perform environment.tapped
      (.receive request body wanted)).relay = { history.relay with
        registry := (history.relay.startExchange request wanted).2
        exchanges := history.relay.exchanges ++
          [{ (history.relay.startExchange request wanted).1 with body }] } :=
    rfl
  have uuids := history.relay.startExchange_uuids request wanted
  have entry : ({ (history.relay.startExchange request wanted).1 with
      body } : Exchange).entry =
        (history.relay.startExchange request wanted).1.entry := rfl
  have changes : entries (history.perform environment.tapped
      (.receive request body wanted)).relay.exchanges =
        Function.update (entries history.relay.exchanges)
          history.relay.exchanges.length
          (history.relay.startExchange request wanted).1.entry := by
    rw [relay, ← entry]
    exact entries_append _ _
  have count : (history.perform environment.tapped
      (.receive request body wanted)).relay.exchanges.length =
        history.relay.exchanges.length + 1 := by
    rw [relay, List.length_append, List.length_singleton]
  have asked : asks (history.perform environment.tapped
      (.receive request body wanted)).posts =
        Function.update (asks history.posts) history.relay.exchanges.length
          (Post.reads? ⟨request, body⟩) :=
    asks_receive aligned ⟨request, body⟩
  rcases history.relay.startExchange_reads request body wanted with
    ⟨inlets, unread⟩ | ⟨uuid, number, encoding, asking, own, reads, inlets⟩
  · exact .arrives unread inlets uuids asked changes count
  · rw [asking] at asked
    rw [reads] at changes
    exact .enters rfl asking own inlets uuids asked changes count

theorem abandon_other_attends (attended : history.Attended) {index : Nat}
    {exchange : Exchange}
    (found : history.relay.exchanges[index]? = some exchange)
    (other : exchange.entry = .other) :
    Attends environment (.abandon index) history
      (history.perform environment.tapped (.abandon index)) := by
  have relay := abandon_relay environment.tapped found
  obtain ⟨inlets, uuids⟩ :=
    exchange.abandon_keeps other history.relay.registry
  have queues : history.relay.registry.Queues 0
      (history.perform environment.tapped (.abandon index)).relay.registry := by
    rw [relay]
    exact Registry.queues_of_same inlets
  refine attends_set attended found other
    (congrArg Relay.exchanges relay) rfl ?_ queues ?_
  · rw [relay]
    exact uuids
  · intro _ _ same
    rw [Exchange.entry, Exchange.abandon_other other] at same
    cases same

theorem abandon_reading_attends {index : Nat} {exchange : Exchange} {read : Read}
    (found : history.relay.exchanges[index]? = some exchange)
    (reading : exchange.activity = .reading read) :
    Attends environment (.abandon index) history
      (history.perform environment.tapped (.abandon index)) := by
  have inside := (List.getElem?_eq_some_iff.mp found).1
  have relay := abandon_relay environment.tapped found
  have there : entries history.relay.exchanges index =
      .reading read exchange.answer := by
    rw [entries_of_some found, Exchange.entry, reading]
  have count : ∀ later : Exchange,
      (history.relay.exchanges.set index later).length =
        history.relay.exchanges.length := fun _ => List.length_set
  cases begun : read.begun with
  | true =>
      have goes : exchange.abandon history.relay.registry =
          ({ exchange with answer.wanted := false },
            history.relay.registry) := by
        simp only [Exchange.abandon, reading, begun, if_true]
      have entry : ({ exchange with answer.wanted := false } : Exchange).entry =
          .reading read { exchange.answer with wanted := false } := by
        rw [Exchange.entry, reading]
      rw [goes] at relay
      have uuids := congrArg (·.registry.uuids) relay
      have exchanges := congrArg Relay.exchanges relay
      refine .deserts ⟨uuids, rfl, ?_⟩ there begun rfl
        (congrArg (·.registry.inlets) relay) ?_
      · rw [exchanges]
        exact count _
      · rw [exchanges, ← entry]
        exact entries_set inside _
  | false =>
      have goes : exchange.abandon history.relay.registry =
          ({ exchange with activity := .answered },
            read.abandon history.relay.registry) := by
        simp only [Exchange.abandon, reading, begun, Bool.false_eq_true,
          if_false]
      rw [goes] at relay
      have exchanges := congrArg Relay.exchanges relay
      refine .leaves ⟨?_, rfl, ?_⟩ there begun rfl ?_ ?_
      · rw [relay]
        exact (read.quiet_abandon history.relay.registry).uuids
      · rw [exchanges]
        exact count _
      · rw [relay]
        exact read.inlets_abandon _
      · rw [exchanges]
        exact entries_set inside _

theorem abandon_attends (attended : history.Attended) (index : Nat) :
    Attends environment (.abandon index) history
      (history.perform environment.tapped (.abandon index)) := by
  cases found : history.relay.exchanges[index]? with
  | none =>
      have same := abandon_none environment.tapped found
      exact attends_rests (congrArg (·.registry.tunnels) same)
        (congrArg Relay.exchanges same) rfl
  | some exchange =>
      cases activity : exchange.activity with
      | connecting | collecting | writing =>
          apply abandon_other_attends attended found
          rw [Exchange.entry, activity]
      | reading read => exact abandon_reading_attends found activity
      | answered =>
          -- nothing is left to take away
          have same : exchange.abandon history.relay.registry =
              (exchange, history.relay.registry) := by
            simp only [Exchange.abandon, activity]
            rw [← activity]
          have relay := abandon_relay environment.tapped found
          rw [same] at relay
          refine attends_rests (congrArg (·.registry.tunnels) relay) ?_ rfl
          rw [relay]
          obtain ⟨_, own⟩ := List.getElem?_eq_some_iff.mp found
          simp only [Relay.setExchange, ← own, List.set_getElem_self]

/-- Every move is one of a few things for reads. -/
theorem perform_attends (aligned : history.Aligned)
    (attended : history.Attended) (move : Move σ) :
    Attends environment move history
      (history.perform environment.tapped move.tapped) := by
  have session : ∀ index step, Attends environment move history
      { history with relay := (history.relay.stepSession index step).2 } := by
    intro index step
    unfold Relay.stepSession
    split <;> exact attends_rests rfl rfl rfl
  cases move with
  | task task =>
      cases task with
      | exchange index => exact exchange_attends attended _ index
      | pump index => exact session index _
      | handler index heeds => exact session index _
  | receive request body wanted =>
      exact receive_attends aligned request body wanted
  | abandon index => exact abandon_attends attended index
  | deliver index body =>
      refine .rests ⟨rfl, asks_deliver _ index body, ?_⟩ rfl
        (entries_deliver _ index body)
      exact List.length_modify ..
  | closeIdle =>
      refine .rests ⟨?_, rfl, rfl⟩ Registry.inlets_closeIdle rfl
      exact (Registry.quiet_closeIdle history.relay.registry).uuids
  | guacd index change =>
      refine .rests ⟨?_, rfl, rfl⟩ (Registry.inlets_guacd change) rfl
      exact (Registry.quiet_guacd history.relay.registry index _).uuids
  | advance | openSession | say | lose | guacdSession =>
      exact attends_rests rfl rfl rfl

end Moves

end History

end TunnelRelay
