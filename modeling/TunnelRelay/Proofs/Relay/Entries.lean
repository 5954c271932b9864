import TunnelRelay.Proofs.Relay.Exchanges
import TunnelRelay.Proofs.Relay.Feed

/-!
What requests come to, for the reads of a relay.

Each exchange has an entry, which says whether it reads and what its answer is, and each request may
ask to read from a tunnel. A request that arrives joins those who wait for the reader of a tunnel,
or it gets no answer of success. A step of a read leaves the other tunnels alone.
-/

namespace TunnelRelay

open Http LongPoll

/-! ### What requests ask for -/

/-- The UUID of the tunnel that a request asks to read from. -/
def Post.reads? (post : Post) : Option Uuid :=
  if post.request.path = "/tunnel" then
    match Command.parse post.request.query with
    | .ok (.read uuid) => some uuid
    | .ok .connect | .ok (.write _) | .error _ => none
  else none

def LongPoll.Exchange.entry (exchange : Exchange) : Entry :=
  match exchange.activity with
  | .reading read => .reading read exchange.answer
  | .answered => .answered exchange.answer
  | .collecting _ | .connecting _ | .writing _ => .other

def asks (posts : List Post) (index : Nat) : Option Uuid :=
  posts[index]?.bind Post.reads?

def LongPoll.entries (exchanges : List Exchange) (index : Nat) : Entry :=
  (exchanges[index]?.map Exchange.entry).getD .other

/-- The entries of the exchanges that ask to read from one tunnel. -/
def entriesFor (uuid : Uuid) (asks : Nat → Option Uuid)
    (entries : Nat → Entry) (index : Nat) : Entry :=
  if asks index = some uuid then entries index else .other

theorem asks_append (posts : List Post) (post : Post) :
    asks (posts ++ [post]) =
      Function.update (asks posts) posts.length post.reads? := by
  funext index
  by_cases last : index = posts.length
  · subst last
    rw [Function.update_self, asks, List.getElem?_append_right (Nat.le_refl _),
      Nat.sub_self]
    rfl
  · rw [Function.update_of_ne last, asks, asks]
    rcases Nat.lt_or_gt_of_ne last with before | behind
    · rw [List.getElem?_append_left before]
    · rw [List.getElem?_eq_none, List.getElem?_eq_none]
      · exact Nat.le_of_lt behind
      · rw [List.length_append, List.length_singleton]
        exact behind

theorem asks_deliver (posts : List Post) (number : Nat)
    (body : List BodyEvent) :
    asks (posts.modify number fun post =>
      { post with body := post.body ++ body }) = asks posts := by
  funext index
  rw [asks, asks, List.getElem?_modify]
  cases posts[index]? with
  | none => rfl
  | some post =>
      simp only [Option.map_eq_map, Option.map_some, Option.bind_some]
      split <;> rfl

namespace LongPoll

theorem entries_set {exchanges : List Exchange} {index : Nat}
    (within : index < exchanges.length) (new : Exchange) :
    entries (exchanges.set index new) =
      Function.update (entries exchanges) index new.entry := by
  funext other
  by_cases same : other = index
  · subst same
    rw [Function.update_self, entries, List.getElem?_set_self within]
    rfl
  · rw [Function.update_of_ne same, entries, entries,
      List.getElem?_set_ne (Ne.symm same)]

theorem entries_append (exchanges : List Exchange) (new : Exchange) :
    entries (exchanges ++ [new]) =
      Function.update (entries exchanges) exchanges.length new.entry := by
  funext index
  by_cases last : index = exchanges.length
  · subst last
    rw [Function.update_self, entries,
      List.getElem?_append_right (Nat.le_refl _), Nat.sub_self]
    rfl
  · rw [Function.update_of_ne last, entries, entries]
    rcases Nat.lt_or_gt_of_ne last with before | behind
    · rw [List.getElem?_append_left before]
    · rw [List.getElem?_eq_none, List.getElem?_eq_none]
      · exact Nat.le_of_lt behind
      · rw [List.length_append, List.length_singleton]
        exact behind

theorem entries_deliver (exchanges : List Exchange) (number : Nat)
    (body : List BodyEvent) :
    entries (exchanges.modify number fun exchange =>
      { exchange with body := exchange.body ++ body }) = entries exchanges := by
  funext index
  rw [entries, entries, List.getElem?_modify]
  cases exchanges[index]? with
  | none => rfl
  | some exchange =>
      simp only [Option.map_eq_map, Option.map_some, Option.getD_some]
      split <;> rfl

theorem entries_of_some {exchanges : List Exchange} {index : Nat}
    {exchange : Exchange} (found : exchanges[index]? = some exchange) :
    entries exchanges index = exchange.entry := by
  rw [entries, found]
  rfl

theorem entries_outside {exchanges : List Exchange} {index : Nat}
    (outside : exchanges.length ≤ index) : entries exchanges index = .other := by
  rw [entries, List.getElem?_eq_none outside]
  rfl

end LongPoll

theorem entriesFor_update (uuid : Uuid) (asks : Nat → Option Uuid)
    (entries : Nat → Entry) (index : Nat) (entry : Entry) :
    entriesFor uuid asks (Function.update entries index entry) =
      Function.update (entriesFor uuid asks entries) index
        (if asks index = some uuid then entry else .other) := by
  funext other
  by_cases same : other = index
  · subst same
    rw [Function.update_self, entriesFor, Function.update_self]
  · rw [Function.update_of_ne same, entriesFor, entriesFor,
      Function.update_of_ne same]

theorem entriesFor_update_other {uuid : Uuid} {asks : Nat → Option Uuid}
    {index : Nat} (differs : asks index ≠ some uuid) (entries : Nat → Entry)
    (entry : Entry) :
    entriesFor uuid asks (Function.update entries index entry) =
      entriesFor uuid asks entries := by
  rw [entriesFor_update, if_neg differs]
  apply Function.update_eq_self_iff.mpr
  rw [entriesFor, if_neg differs]

theorem entriesFor_append (uuid : Uuid) (asks : Nat → Option Uuid)
    (entries : Nat → Entry) (index : Nat) (ask : Option Uuid) (entry : Entry) :
    entriesFor uuid (Function.update asks index ask)
        (Function.update entries index entry) =
      Function.update (entriesFor uuid asks entries) index
        (if ask = some uuid then entry else .other) := by
  funext other
  by_cases same : other = index
  · subst same
    rw [Function.update_self, entriesFor, Function.update_self,
      Function.update_self]
  · rw [Function.update_of_ne same, entriesFor, entriesFor,
      Function.update_of_ne same, Function.update_of_ne same]

variable {σ : Type}

/-! ### Steps of reads, for the other tunnels -/

namespace Registry

/-- The inlets of all tunnels but one stay as they are. -/
def Spares (number : Nat) (before after : Registry (Recorded (Tapped σ))) :
    Prop :=
  ∀ other, other ≠ number → after.inlets[other]? = before.inlets[other]?

theorem spares_of_same {number : Nat}
    {before after : Registry (Recorded (Tapped σ))}
    (same : after.inlets = before.inlets) : Spares number before after := by
  intro other _
  rw [same]

theorem spares_update (registry : Registry (Recorded (Tapped σ))) (number : Nat)
    (change : RegisteredTunnel (Recorded (Tapped σ)) →
      RegisteredTunnel (Recorded (Tapped σ))) :
    registry.Spares number (registry.update number change) := by
  intro other differs
  rw [inlets_getElem?, inlets_getElem?,
    registry.tunnel?_update_other differs]

theorem Spares.trans {number : Nat}
    {first second third : Registry (Recorded (Tapped σ))}
    (before : first.Spares number second) (after : second.Spares number third) :
    first.Spares number third := by
  intro other differs
  rw [after other differs, before other differs]

end Registry

namespace LongPoll.Read

variable [Connection σ] (registry : Registry (Recorded (Tapped σ)))

omit [Connection σ] in
theorem spares_finish (read : Read) (answer : Answer) :
    registry.Spares read.tunnel (read.finish answer registry).2.2 :=
  registry.spares_update read.tunnel _

theorem spares_fail (read : Read) (uuid : Uuid) (error : RelayError)
    (answer : Answer) :
    registry.Spares read.tunnel (read.fail uuid error answer registry).2.2 := by
  unfold fail
  split
  · exact (Registry.spares_of_same (Registry.inlets_close uuid _)).trans
      (spares_finish _ read answer)
  · exact (Registry.spares_of_same (Registry.inlets_close uuid _)).trans
      (Registry.spares_update _ read.tunnel _)

theorem spares_receive (read : Read) (uuid : Uuid)
    (outcome : Except RelayError (Option Message)) (answer : Answer) :
    registry.Spares read.tunnel
        (read.receive uuid outcome answer registry).2.2.2 ∧
      (read.receive uuid outcome answer registry).2.1.tunnel = read.tunnel := by
  unfold receive
  split
  · split
    · exact ⟨Registry.spares_of_same rfl, rfl⟩
    · refine ⟨spares_fail registry read uuid _ answer, ?_⟩
      unfold fail
      split <;> rfl
  · split
    · exact ⟨Registry.spares_of_same rfl, rfl⟩
    · exact ⟨(Registry.spares_of_same (Registry.inlets_close uuid _)).trans
        (Registry.spares_update _ read.tunnel _), rfl⟩

theorem spares_give (read : Read)
    (registered : RegisteredTunnel (Recorded (Tapped σ))) (message : Message)
    (answer : Answer) :
    registry.Spares read.tunnel
        (read.give registered message answer registry).2.2.2 ∧
      (read.give registered message answer registry).2.1.tunnel =
        read.tunnel := by
  unfold give
  simp only
  split
  · split
    · exact ⟨Registry.spares_update _ read.tunnel _, rfl⟩
    · exact ⟨Registry.spares_of_same rfl, rfl⟩
  · split
    · exact ⟨Registry.spares_update _ read.tunnel _, rfl⟩
    · rename_i given _
      refine ⟨(Registry.spares_of_same rfl).trans
        (spares_fail (registry.count _) { read with unsent := [] } _ _ given),
        ?_⟩
      unfold fail
      split <;> rfl

omit [Connection σ] in
theorem inlets_abandon (read : Read) :
    (read.abandon registry).inlets =
      registry.inlets.modify read.tunnel (·.withdraw read.ticket) := by
  apply Registry.inlets_update
  intro registered _
  simp only
  split <;> rfl

theorem spares_step (read : Read) (answer : Answer) :
    registry.Spares read.tunnel (read.step answer registry).2.2.2 ∧
      (read.step answer registry).2.1.tunnel = read.tunnel := by
  unfold step
  cases registry.tunnel? read.tunnel with
  | none => exact ⟨Registry.spares_of_same rfl, rfl⟩
  | some registered =>
      have store : ∀ later, registry.Spares read.tunnel
          (registry.update read.tunnel fun _ => later) :=
        fun later => registry.spares_update read.tunnel _
      simp only
      cases read.stage with
      | acquiring =>
          simp only
          split
          · exact ⟨Registry.spares_of_same rfl, rfl⟩
          · exact ⟨store _, rfl⟩
      | looking =>
          simp only
          split
          · rename_i outcome later _
            have received := spares_receive
              (registry.update read.tunnel fun _ => later) read
              registered.tunnel.uuid outcome answer
            exact ⟨(store later).trans received.1, received.2⟩
          · exact ⟨store _, rfl⟩
      | waiting =>
          simp only
          split
          · rename_i outcome later _
            have received := spares_receive
              (registry.update read.tunnel fun _ => later) read
              registered.tunnel.uuid outcome answer
            exact ⟨(store later).trans received.1, received.2⟩
          · exact ⟨store _, rfl⟩
          · exact ⟨store _, rfl⟩
      | giving message =>
          cases message with
          | none =>
              exact ⟨(Registry.spares_of_same (Registry.inlets_close _ _)).trans
                (spares_finish _ read answer), rfl⟩
          | some message =>
              exact spares_give registry read registered message answer
      | finished => exact ⟨Registry.spares_of_same rfl, rfl⟩

end LongPoll.Read

/-! ### Requests that arrive -/

namespace LongPoll

variable [Connection σ] {registry : Registry (Recorded (Tapped σ))}

/-- A tunnel that is not found is never told as a success. -/
theorem lookUp_fails {next : Registry (Recorded (Tapped σ))} {uuid : Uuid}
    {token : Option String} {error : RelayError}
    (failed : lookUp registry uuid token = (.error error, next)) :
    error.status.httpCode ≠ Status.success.httpCode := by
  have absent : (noSuchTunnel : RelayError).status.httpCode ≠
      Status.success.httpCode := by decide
  have closed : (tunnelClosed : RelayError).status.httpCode ≠
      Status.success.httpCode := by decide
  have required : (tokenRequired : RelayError).status.httpCode ≠
      Status.success.httpCode := by decide
  have invalid : (invalidToken : RelayError).status.httpCode ≠
      Status.success.httpCode := by decide
  unfold lookUp at failed
  simp only [Prod.mk.injEq] at failed
  obtain ⟨checked, -⟩ := failed
  cases first : (registry.get uuid).1 with
  | none =>
      simp only [first, Option.elim, bind, Except.bind] at checked
      cases checked
      exact absent
  | some number =>
      simp only [first, Option.elim, bind, Except.bind] at checked
      split at checked
      · cases checked
        rename_i there
        split at there <;> cases there
        exact absent
      · split at checked
        · split at checked
          · cases checked
            rename_i there
            split at there <;> cases there
            exact required
          · split at checked
            · cases checked
            · cases checked
              exact invalid
        · cases checked
          exact closed

namespace Exchange

omit [Connection σ] in
theorem startConnect_entry (exchange : Exchange) (request : Request)
    (read : Read) (answer : Answer) :
    (exchange.startConnect request).entry ≠ .reading read answer := by
  unfold startConnect
  split
  · exact nofun
  · split
    · exact nofun
    · exact nofun

omit [Connection σ] in
/-- Without its browser, only a read goes on. -/
theorem abandon_other {exchange : Exchange} (other : exchange.entry = .other)
    (registry : Registry (Recorded (Tapped σ))) :
    (exchange.abandon registry).1.activity = .answered := by
  unfold entry at other
  unfold abandon
  cases activity : exchange.activity with
  | collecting | connecting | writing | answered => rfl
  | reading read =>
      rw [activity] at other
      cases other

omit [Connection σ] in
theorem abandon_keeps {exchange : Exchange} (other : exchange.entry = .other)
    (registry : Registry (Recorded (Tapped σ))) :
    (exchange.abandon registry).2.inlets = registry.inlets ∧
      (exchange.abandon registry).2.uuids = registry.uuids := by
  unfold entry at other
  unfold abandon
  cases activity : exchange.activity with
  | collecting | connecting | answered => exact ⟨rfl, rfl⟩
  | writing write =>
      have beside : registry.Beside write.tunnel (write.abandon registry) :=
        Registry.beside_update fun _ _ => rfl
      exact ⟨write.inlets_abandon, beside.uuids⟩
  | reading read =>
      rw [activity] at other
      cases other

theorem inlets_enter (exchange : Exchange)
    (tunnel : Tunnel (Recorded (Tapped σ))) (token : String)
    (registry : Registry (Recorded (Tapped σ))) :
    (exchange.enter tunnel token registry).2.inlets =
      (registry.put tunnel token).inlets := by
  unfold enter
  simp only
  split
  · rfl
  · exact Registry.inlets_close _ _

/-- What a request comes to that does not get to read. -/
def Unread (exchange : Exchange) (ask : Option Uuid) : Prop :=
  (∀ read answer, exchange.entry ≠ .reading read answer) ∧
    (ask ≠ none → ∃ answer, exchange.entry = .answered answer ∧
      answer.isOk = false)

omit [Connection σ] in
theorem Unread.refused {exchange : Exchange} {ask : Option Uuid} {uuid : Uuid}
    (unread : exchange.Unread ask) (asks : ask = some uuid) :
    ∃ answer, exchange.entry = .answered answer ∧ answer.isOk = false := by
  apply unread.2
  rw [asks]
  exact nofun

/-- A request joins those who wait for the reader of a tunnel, or it does not
read. -/
theorem start_reads (registry : Registry (Recorded (Tapped σ)))
    (exchange : Exchange) (ticket : Ticket) (request : Request)
    (body : List BodyEvent) (path : request.path = "/tunnel") :
    let started := exchange.start ticket request registry
    (started.2.inlets = registry.inlets ∧
      started.1.Unread (Post.reads? ⟨request, body⟩)) ∨
    ∃ uuid number encoding,
      Post.reads? ⟨request, body⟩ = some uuid ∧
      registry.uuids[number]? = some uuid ∧
      started.1 = { exchange with
        activity := .reading { ticket, tunnel := number, encoding } } ∧
      started.2.inlets = registry.inlets.modify number (·.request ticket) := by
  unfold Exchange.start Post.reads?
  simp only [path, if_true]
  cases Command.parse request.query with
  | error error =>
      exact Or.inl ⟨rfl, nofun, fun asked => absurd rfl asked⟩
  | ok command =>
      cases command with
      | connect =>
          exact Or.inl ⟨rfl, startConnect_entry exchange request,
            fun asked => absurd rfl asked⟩
      | write uuid =>
          left
          have kept : (lookUp registry uuid
              (request.headerText? "guacamole-tunnel-token")).2.inlets =
                registry.inlets :=
            Registry.inlets_lookUp uuid _
          simp only
          split
          · rename_i error next looking
            rw [looking] at kept
            exact ⟨kept, nofun, fun asked => absurd rfl asked⟩
          · rename_i number next looking
            rw [looking] at kept
            split
            · rename_i write later started
              exact ⟨(Write.inlets_start started).trans kept, nofun,
                fun asked => absurd rfl asked⟩
            · rename_i error started
              exact ⟨(Write.inlets_fail _ uuid error exchange.answer).trans
                kept, nofun, fun asked => absurd rfl asked⟩
      | read uuid =>
          have kept : (lookUp registry uuid
              (request.headerText? "guacamole-tunnel-token")).2.inlets =
                registry.inlets :=
            Registry.inlets_lookUp uuid _
          have quiet := quiet_lookUp registry uuid
            (request.headerText? "guacamole-tunnel-token")
          simp only
          split
          · rename_i error next looking
            have fails := lookUp_fails looking
            rw [looking] at kept
            exact Or.inl ⟨kept, nofun, fun _ =>
              ⟨_, rfl, exchange.answer.failure_isOk fails⟩⟩
          · rename_i number next looking
            obtain ⟨registered, there, -, own, -⟩ := lookUp_ok looking
            rw [looking] at kept quiet
            refine Or.inr ⟨uuid, number, _, rfl, ?_, rfl, ?_⟩
            · rw [← quiet.uuids, Registry.uuids, List.getElem?_map]
              have here : next.tunnels[number]? = some registered := there
              rw [here]
              exact congrArg some own
            · rw [← kept]
              exact Registry.inlets_update fun _ _ => rfl

end Exchange

end LongPoll

theorem resource?_tunnel {path : String} {methods : List String}
    (found : Relay.resource? path = some (.tunnel, methods)) :
    path = "/tunnel" := by
  unfold Relay.resource? at found
  split at found <;> cases found
  rfl

theorem Post.reads?_elsewhere {request : Request} (body : List BodyEvent)
    (other : request.path ≠ "/tunnel") : Post.reads? ⟨request, body⟩ = none :=
  if_neg other

namespace Relay

variable [Connection σ]

theorem startExchange_reads (relay : Relay (Recorded (Tapped σ)))
    (request : Request) (body : List BodyEvent) (wanted : Bool) :
    let started := relay.startExchange request wanted
    (started.2.inlets = relay.registry.inlets ∧
      started.1.Unread (Post.reads? ⟨request, body⟩)) ∨
    ∃ uuid number encoding,
      Post.reads? ⟨request, body⟩ = some uuid ∧
      relay.registry.uuids[number]? = some uuid ∧
      started.1.entry = .reading
        { ticket := relay.exchanges.length, tunnel := number, encoding }
        { wanted := wanted && request.method != "HEAD" } ∧
      started.2.inlets = relay.registry.inlets.modify number
        (·.request relay.exchanges.length) := by
  have elsewhere : ∀ exchange : Exchange, exchange.activity = .answered →
      request.path ≠ "/tunnel" →
      exchange.Unread (Post.reads? ⟨request, body⟩) := by
    intro exchange answered other
    rw [Post.reads?_elsewhere body other, Exchange.Unread, Exchange.entry,
      answered]
    exact ⟨nofun, fun asked => absurd rfl asked⟩
  unfold startExchange
  simp only
  cases found : resource? request.path with
  | none =>
      refine Or.inl ⟨rfl, elsewhere _ rfl ?_⟩
      intro same
      rw [same] at found
      cases found
  | some target =>
      obtain ⟨resource, methods⟩ := target
      have aside : resource ≠ .tunnel → request.path ≠ "/tunnel" := by
        intro differs same
        rw [same] at found
        cases found
        exact differs rfl
      simp only
      split
      · cases resource with
        | tunnel =>
            rcases Exchange.start_reads relay.registry
                { activity := .answered
                  answer := { wanted := wanted && request.method != "HEAD" } }
                relay.exchanges.length request body (resource?_tunnel found)
              with unread | ⟨uuid, number, encoding, asked, own, entry, inlets⟩
            · exact Or.inl unread
            · refine Or.inr ⟨uuid, number, encoding, asked, own, ?_, inlets⟩
              simp only [entry]
              rfl
        | webSocket => exact Or.inl ⟨rfl, elsewhere _ rfl (aside nofun)⟩
        | health => exact Or.inl ⟨rfl, elsewhere _ rfl (aside nofun)⟩
        | metrics => exact Or.inl ⟨rfl, elsewhere _ rfl (aside nofun)⟩
      · refine Or.inl ⟨rfl, nofun, fun _ => ⟨_, rfl, ?_⟩⟩
        exact Answer.whole_isOk _ 405 _ _

theorem startExchange_uuids (relay : Relay (Recorded (Tapped σ)))
    (request : Request) (wanted : Bool) :
    (relay.startExchange request wanted).2.uuids = relay.registry.uuids := by
  rcases relay.startExchange_spec request wanted with
    ⟨-, same⟩ | ⟨exchange, starts⟩
  · rw [same]
  · rw [starts]
    rcases exchange.start_spec relay.exchanges.length request relay.registry
      with ⟨-, quiet⟩ | ⟨_, _, _, _, -, -, -, -, -, beside, -⟩
    · exact quiet.uuids
    · exact beside.uuids

end Relay

end TunnelRelay
