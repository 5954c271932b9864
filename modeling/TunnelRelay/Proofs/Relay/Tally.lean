import Mathlib.Data.List.Sigma
import TunnelRelay.Proofs.Relay.Closures

/-!
Every tunnel is counted, and counted once.

Along every course, the counters of tunnels follow from what was marked: a tunnel is active until it
is closed for the first time, and then it has ended in the class of a status. For a tunnel that was
opened over HTTP this is the status with which it is closed first, whoever else tries to close it.
For a WebSocket it is the status with which the handler has closed the socket, even where the pump
has closed the socket before and only the status of the pump was told to the browser.
-/

namespace TunnelRelay

open Http LongPoll WebSocket

variable {σ : Type}

/-! ### Tunnels that are running -/

def Passage.running? (fate : Passage → Option Status) : Passage → Option Nat
  | .registered _ => none
  | .session number =>
      if (fate (.session number)).isNone then some number else none

theorem Passage.running?_eq {fate : Passage → Option Status}
    {passage : Passage} {number : Nat}
    (running : number ∈ passage.running? fate) : passage = .session number := by
  cases passage with
  | registered uuid => cases running
  | session other =>
      change (if _ then _ else _) = some number at running
      split at running
      · cases running
        rfl
      · cases running

theorem Fates.balance (fates : Fates) :
    fates.counters.opened =
      fates.counters.active + fates.counters.closedNormal +
        fates.counters.closedClientError + fates.counters.closedError := by
  simp only [counters, fates.length_eq, UInt64.ofNat_add]

theorem Fates.running_eq (passages : List Passage)
    (fate : Passage → Option Status) :
    Fates.running (passages.map fate) =
      (passages.filterMap (Roll.entryOf fate)).countP (·.2) +
        (passages.filterMap (Passage.running? fate)).length := by
  unfold running
  induction passages with
  | nil => rfl
  | cons passage passages ih =>
      rw [List.map_cons, List.countP_cons, ih]
      cases passage with
      | registered uuid =>
          simp only [List.filterMap_cons, Roll.entryOf, Passage.running?,
            List.countP_cons]
          omega
      | session number =>
          simp only [List.filterMap_cons, Roll.entryOf, Passage.running?]
          cases fate (.session number) with
          | none =>
              simp
              omega
          | some status => simp

namespace Relay

def runningSessions (relay : Relay σ) : List Nat :=
  (relay.sessions.zipIdx.filter (!·.1.isOver)).map (·.2)

theorem nodup_runningSessions (relay : Relay σ) :
    relay.runningSessions.Nodup :=
  List.Nodup.sublist (List.filter_sublist.map _)
    (List.nodup_zipIdx_map_snd relay.sessions)

theorem length_runningSessions (relay : Relay σ) :
    relay.runningSessions.length = relay.sessions.countP (!·.isOver) := by
  unfold runningSessions
  rw [List.length_map, ← List.countP_eq_length_filter]
  have firsts := List.countP_map (p := fun session => !session.isOver)
    (f := Prod.fst) (l := relay.sessions.zipIdx)
  rw [List.zipIdx_map_fst] at firsts
  exact firsts.symm

theorem mem_runningSessions {relay : Relay σ} {number : Nat} :
    number ∈ relay.runningSessions ↔
      ∃ session, relay.sessions[number]? = some session ∧
        session.isOver = false := by
  unfold runningSessions
  rw [List.mem_map]
  constructor
  · rintro ⟨entry, member, rfl⟩
    rw [List.mem_filter, List.mem_zipIdx_iff_getElem?] at member
    exact ⟨entry.1, member.1, by simpa using member.2⟩
  · rintro ⟨session, there, running⟩
    refine ⟨(session, number), ?_, rfl⟩
    rw [List.mem_filter, List.mem_zipIdx_iff_getElem?]
    exact ⟨there, by simp [running]⟩

end Relay

/-! ### How sessions have ended -/

namespace WebSocket.Session

theorem isOver_iff {session : Session σ} :
    session.isOver = true ↔ session.handler.going = .finished := by
  unfold isOver HandlerStage.going
  cases session.handler <;> simp

/-- The verdict is the status of the first closing, unless the handler has
closed the socket after the pump. -/
theorem verdict_eq {shuts : List (Part × Status)}
    (once : (shuts.map (·.1)).Nodup) :
    verdict shuts = (shuts.head?.map (·.2)).getD .success ∨
      ∃ pumped, shuts = [(.pump, pumped), (.handler, verdict shuts)] := by
  cases shuts with
  | nil => exact Or.inl rfl
  | cons first rest =>
      obtain ⟨part, status⟩ := first
      cases part with
      | handler => exact Or.inl rfl
      | pump =>
          cases rest with
          | nil => exact Or.inl rfl
          | cons second rest =>
              obtain ⟨part, own⟩ := second
              cases part with
              | pump => simp at once
              | handler =>
                  cases rest with
                  | nil => exact Or.inr ⟨status, rfl⟩
                  | cons third rest =>
                      obtain ⟨part, other⟩ := third
                      cases part <;> simp at once

/-- A session that was counted as `fate` says, after its tasks have closed the
socket as in `shuts`. -/
structure Tallied (shuts : List (Part × Status)) (fate : Option Status)
    (session : Session σ) : Prop where
  ended : session.isOver = fate.isSome
  closed : session.outbound.closed = !shuts.isEmpty
  /-- Only the first closing of the socket takes effect. -/
  told : ∀ frame ∈ session.outbound.farewells,
    shuts.head?.map (fun first => CloseFrame.ofStatus first.2) = some frame
  /-- A session ends in the class of the first closing, except when the
  handler closes a socket that the pump has closed. -/
  counted : ∀ status, fate = some status →
    ClosedAs.ofStatus status =
        ClosedAs.ofStatus ((shuts.head?.map (·.2)).getD .success) ∨
      ∃ pumped own, shuts = [(.pump, pumped), (.handler, own)] ∧
        ClosedAs.ofStatus status = ClosedAs.ofStatus own

theorem Accords.tallied {shuts : List (Part × Status)} {fate : Option Status}
    {session : Session σ} (accords : Accords shuts fate session) :
    Tallied shuts fate session where
  ended := by rw [Bool.eq_iff_iff, isOver_iff, accords.ended]
  closed := accords.closed
  told := accords.told
  counted := by
    intro status ended
    have counted := accords.counted status ended
    rcases verdict_eq accords.once with first | ⟨pumped, twice⟩
    · exact Or.inl (counted.trans (congrArg _ first))
    · exact Or.inr ⟨pumped, _, twice, counted⟩

end WebSocket.Session

/-! ### Tunnels that are not opened -/

variable [Connection σ]

namespace Relay

/-- What happens is part of asking for a tunnel, but opens none: a request
arrives or sends a form, or guacd cannot be reached or refuses. -/
def Refuses (environment : Environment σ) (relay : Relay (Recorded σ)) :
    Happening σ → Prop
  | .move (.receive _ _ _) => True
  | .move (.task (.exchange number)) =>
      ∃ exchange, relay.exchanges[number]? = some exchange ∧
        match exchange.activity with
        | .collecting _ => True
        | .connecting parameters => ∃ error,
            environment.connect relay.requests.length ⟨parameters⟩ =
              .error error
        | .reading _ | .writing _ | .answered => False
  | .move (.openSession query) | .lost query => ∃ error,
      environment.connect relay.requests.length
        ⟨Form.pairs (Bytes.ofText query)⟩ = .error error
  | .move _ => False

theorem Refuses.metrics_eq {environment : Environment σ}
    {relay : Relay (Recorded σ)} {happening : Happening σ}
    (refuses : relay.Refuses environment happening) :
    (relay.undergo environment happening).metrics = relay.metrics := by
  have joins : ∀ query lost, (∃ error,
      environment.connect relay.requests.length
        ⟨Form.pairs (Bytes.ofText query)⟩ = .error error) →
      (relay.joinOver environment { broken := lost } query).metrics =
        relay.metrics := by
    rintro query lost ⟨error, refused⟩
    simp only [joinOver, Relay.connect, Environment.recorded, refused]
    rfl
  cases happening with
  | lost query => exact joins query true refuses
  | move move =>
      cases move with
      | openSession query => exact joins query false refuses
      | receive request body wanted =>
          exact (relay.arrive_keeps request body wanted).2
      | task task =>
          cases task with
          | exchange number =>
              obtain ⟨exchange, there, opening⟩ := refuses
              simp only [undergo, perform, Relay.step, stepExchange, there]
              cases activity : exchange.activity with
              | collecting form =>
                  simp only [Exchange.step, activity]
                  rfl
              | connecting parameters =>
                  rw [activity] at opening
                  obtain ⟨error, refused⟩ := opening
                  simp only [connectExchange, Relay.connect,
                    Environment.recorded, refused]
                  rfl
              | reading | writing | answered =>
                  rw [activity] at opening
                  exact opening.elim
          | pump number | handler number heeds => exact refuses.elim
      | deliver | abandon | closeIdle | advance | say | lose | guacd
      | guacdSession => exact refuses.elim

end Relay

/-! ### Courses -/

namespace Course

/-- The counters of a relay tell which tunnels there are, and how the others
have ended. -/
structure Tallied (environment : Environment σ) (course : Course σ) :
    Prop where
  active : course.relay.metrics.active = .ofNat
    (course.relay.registry.size + course.relay.sessions.countP (!·.isOver))
  opened : course.relay.metrics.opened =
    course.relay.metrics.active + course.relay.metrics.closedNormal +
      course.relay.metrics.closedClientError + course.relay.metrics.closedError
  /-- Each tunnel is opened once, and counted in the class of its fate. -/
  once : course.marks.passages.Nodup
  counters : course.relay.metrics.ofTunnels =
    Fates.counters (course.marks.passages.map course.marks.fate)
  registered : ∀ (number : Nat) (registered : RegisteredTunnel (Recorded σ)),
    course.relay.registry.tunnel? number = some registered →
    .registered registered.tunnel.uuid ∈ course.marks.passages ∧
      registered.listed =
        (course.marks.fate (.registered registered.tunnel.uuid)).isNone
  session : ∀ (number : Nat) (session : Session (Recorded σ)),
    course.relay.sessions[number]? = some session →
    (.session number ∈ course.marks.passages ↔
        session.tunnel.isSome = true) ∧
      (session.tunnel.isSome = true →
        session.Tallied (course.marks.shuts number)
          (course.marks.fate (.session number)))
  refused : ∀ happening, course.relay.Refuses environment happening →
    (course.relay.undergo environment happening).metrics = course.relay.metrics

section Sound

variable {course : Course σ}

omit [Connection σ] in
theorem Sound.mem_running (sound : course.Sound) {number : Nat} :
    number ∈ course.marks.passages.filterMap
        (Passage.running? course.marks.fate) ↔
      number ∈ course.relay.runningSessions := by
  rw [List.mem_filterMap, Relay.mem_runningSessions]
  constructor
  · rintro ⟨passage, opened, running⟩
    obtain rfl := Passage.running?_eq running
    obtain ⟨session, there, tunnel⟩ := sound.known number opened
    obtain ⟨-, accords⟩ := sound.sessions number session there tunnel
    refine ⟨session, there, ?_⟩
    rw [accords.tallied.ended]
    simpa [Passage.running?] using running
  · rintro ⟨session, there, running⟩
    cases tunnel : session.tunnel with
    | none =>
        have finished := sound.refused number session there tunnel
        rw [← Session.isOver_iff, running] at finished
        cases finished
    | some backend =>
        obtain ⟨opened, accords⟩ :=
          sound.sessions number session there (by rw [tunnel]; rfl)
        refine ⟨_, opened, ?_⟩
        rw [accords.tallied.ended] at running
        rw [Passage.running?, if_pos]
        simpa using running

omit [Connection σ] in
theorem Sound.active (sound : course.Sound) :
    course.relay.metrics.active = .ofNat
      (course.relay.registry.size +
        course.relay.sessions.countP (!·.isOver)) := by
  have listed : course.relay.registry.size =
      (course.marks.passages.filterMap
        (Roll.entryOf course.marks.fate)).countP (·.2) := by
    rw [← sound.entries, List.countP_map]
    rfl
  have running : (course.marks.passages.filterMap
      (Passage.running? course.marks.fate)).length =
        course.relay.sessions.countP (!·.isOver) := by
    rw [← Relay.length_runningSessions]
    apply List.Perm.length_eq
    rw [List.perm_ext_iff_of_nodup _ course.relay.nodup_runningSessions]
    · exact fun number => sound.mem_running
    · apply sound.orderly.once.filterMap
      intro first second number ofFirst ofSecond
      rw [Passage.running?_eq ofFirst, Passage.running?_eq ofSecond]
  have active := congrArg Metrics.active sound.counters
  rw [listed, ← running, ← Fates.running_eq]
  exact active

theorem Sound.tallied (environment : Environment σ) (sound : course.Sound) :
    course.Tallied environment where
  active := sound.active
  opened := by
    have balance := Fates.balance (course.marks.passages.map course.marks.fate)
    rw [← sound.counters] at balance
    exact balance
  once := sound.orderly.once
  counters := sound.counters
  registered number registered found := sound.listed found
  session := by
    intro number session there
    constructor
    · constructor
      · intro opened
        obtain ⟨same, is, tunnel⟩ := sound.known number opened
        rw [there] at is
        cases is
        exact tunnel
      · exact fun tunnel => (sound.sessions number session there tunnel).1
    · exact fun tunnel => (sound.sessions number session there tunnel).2.tallied
  refused happening := Relay.Refuses.metrics_eq

end Sound

/-- Whatever happens, in any order, the gauge is the number of the tunnels that
are listed and of the sessions that are not over, and every tunnel that was
opened is counted once more when it has ended. -/
theorem closures_counted (environment : Environment σ) (idleTimeout : Nat)
    (happenings : List (Happening σ))
    (distinct :
      (run environment idleTimeout happenings).relay.registry.uuids.Nodup) :
    (run environment idleTimeout happenings).Tallied environment :=
  (sound_run environment idleTimeout happenings distinct).tallied environment

/-- While a message waits for guacd, the pump closes the socket because of what
guacd has sent; then guacd closes the connection, and the handler closes the
socket once more. -/
def closedTwice : List (Happening Link) :=
  [.openSession "GUAC_ID=desktop&GUAC_TYPE=c", .task (.pump 0),
    .say 0 [.text "5.mouse,2.10,2.20;"], .task (.handler 0 true),
    .task (.handler 0 true), .task (.handler 0 true),
    .guacdSession 0 (fun link => (link.guacdWrite (Bytes.ofText "x")).2),
    .task (.pump 0), .task (.pump 0), .guacdSession 0 (·.guacdClose),
    .task (.handler 0 true), .task (.handler 0 true),
    .task (.handler 0 true)].map .move

/-- The browser is told of an error, and the tunnel is counted as normal. -/
theorem closures_counted_closedTwice :
    (run History.narrow 0 closedTwice).relay.registry.uuids.Nodup ∧
      (run History.narrow 0 closedTwice).Tallied History.narrow ∧
      (run History.narrow 0 closedTwice).marks.shuts 0 =
        [(.pump, .serverError), (.handler, .success)] ∧
      (run History.narrow 0 closedTwice).relay.sessions.map
        (·.outbound.farewells) = [[.ofStatus .serverError]] ∧
      (run History.narrow 0 closedTwice).relay.metrics.ofTunnels =
        { opened := 1, closedNormal := 1 } := by
  have distinct : (run History.narrow 0 closedTwice).relay.registry.uuids.Nodup := by
    decide +kernel
  exact ⟨distinct, closures_counted History.narrow 0 closedTwice distinct,
    by decide +kernel, by decide +kernel, by decide +kernel⟩

/-- The pump has closed the socket when the handler takes a message that it does
not support: the browser is told of a success, and an error is counted. -/
example :
    let course := run History.narrow 0
      ([.openSession "GUAC_ID=desktop&GUAC_TYPE=c", .task (.pump 0),
        .say 0 [.binary], .guacdSession 0 (·.guacdClose), .task (.pump 0),
        .task (.pump 0), .task (.handler 0 false), .task (.handler 0 true),
        .task (.handler 0 true)].map .move)
    course.relay.sessions.map (·.outbound.farewells) =
        [[.ofStatus .success]] ∧
      course.relay.metrics.ofTunnels = { opened := 1, closedError := 1 } := by
  decide +kernel

end Course

end TunnelRelay
