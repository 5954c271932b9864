import TunnelRelay.Proofs.Relay.Course

/-!
Courses, and what their marks say.

A course is a relay with all that was marked on the way to it. Along every course tunnels are opened
once and closed only after that, and each session is in accord with what was marked about it: a mark
that is about a session is left by a step of that session, and a session that was not there before
has just been opened.
-/

namespace TunnelRelay

open Http LongPoll WebSocket

variable {σ : Type}

/-- A relay with all that was marked on the way to it. -/
structure Course (σ : Type) where
  relay : Relay (Recorded σ)
  marks : Marks := []

variable [Connection σ]

namespace Course

def perform (environment : Environment σ) (course : Course σ)
    (happening : Happening σ) : Course σ where
  relay := course.relay.undergo environment happening
  marks := course.marks ++ course.relay.marks environment happening

def initial (idleTimeout : Nat) : Course σ where
  relay := { registry := { idleTimeout } }

def run (environment : Environment σ) (idleTimeout : Nat)
    (happenings : List (Happening σ)) : Course σ :=
  happenings.foldl (perform environment) (initial idleTimeout)

theorem run_snoc (environment : Environment σ) (idleTimeout : Nat)
    (happenings : List (Happening σ)) (last : Happening σ) :
    run environment idleTimeout (happenings ++ [last]) =
      (run environment idleTimeout happenings).perform environment last :=
  List.foldl_append

end Course

/-! ### New sessions -/

namespace Relay

variable (environment : Environment σ) (relay : Relay (Recorded σ))

theorem joinOver_session (query : String) (lost : Bool) :
    ∃ session : Session (Recorded σ),
      (relay.joinOver environment { broken := lost } query).sessions =
        relay.sessions ++ [session] ∧
      (relay.joinMarks environment query lost = [] ∧ session.tunnel = none ∧
          session.handler.going = .finished ∨
        (relay.joinMarks environment query lost).passages =
            [.session relay.sessions.length] ∧
          session.tunnel.isSome = true ∧
          Session.Accords
            ((relay.joinMarks environment query lost).shuts
              relay.sessions.length)
            ((relay.joinMarks environment query lost).fate
              (.session relay.sessions.length)) session) := by
  simp only [joinOver, Relay.connect, joinMarks, Environment.recorded]
  cases environment.connect relay.requests.length
      ⟨Form.pairs (Bytes.ofText query)⟩ with
  | error error => exact ⟨_, rfl, Or.inl ⟨rfl, rfl, rfl⟩⟩
  | ok tunnel =>
      refine ⟨_, rfl, Or.inr ?_⟩
      cases lost with
      | false =>
          exact ⟨rfl, rfl, .begins rfl rfl rfl rfl⟩
      | true =>
          have fate : Marks.fate [.opens (.session relay.sessions.length),
              .closes (.session relay.sessions.length) .resourceClosed]
              (.session relay.sessions.length) = some .resourceClosed := by
            simp [Marks.fate, List.findSome?_cons, Mark.closing?]
          refine ⟨rfl, rfl, ?_⟩
          simp only [if_true]
          rw [fate]
          exact {
            once := List.nodup_nil
            closed := rfl
            told := fun _ member => absurd member List.not_mem_nil
            pump := rfl
            serving := by rintro ⟨⟩
            left := by rintro _ ⟨⟩
            finished := by rintro _ ⟨⟩
            ended := ⟨fun _ => rfl, fun _ => rfl⟩
            counted := by
              rintro status same
              cases same
              rfl }

omit [Connection σ] in
theorem tasks_open_nothing (session : Session (Recorded σ)) (number : Nat)
    (later : HandlerStage) :
    (session.pumpMarks number).passages = [] ∧
      (session.handlerMarks number later).passages = [] := by
  have departs : (Session.departure number later).passages = [] := by
    unfold Session.departure
    split <;> rfl
  constructor
  · unfold Session.pumpMarks
    split <;> rfl
  · unfold Session.handlerMarks
    split
    · rfl
    · rfl
    · rfl
    · split <;> rfl
    all_goals exact departs

/-- No session is opened, and what is marked is about sessions that are
there. -/
structure Stays (before after : Relay (Recorded σ)) (marks : Marks) :
    Prop where
  length : after.sessions.length = before.sessions.length
  spares : ∀ number, before.sessions.length ≤ number → marks.Spares number
  opens : ∀ number, .session number ∉ marks.passages

omit [Connection σ] in
theorem opens_nothing {marks : Marks} (spares : ∀ number, marks.Spares number)
    (number : Nat) : .session number ∉ marks.passages := by
  intro opened
  obtain ⟨mark, member, is⟩ := List.mem_filterMap.mp opened
  cases mark with
  | opens passage =>
      cases is
      exact spares number _ member rfl
  | closes | shuts => cases is

omit [Connection σ] in
theorem stays_of_spares {before after : Relay (Recorded σ)} {marks : Marks}
    (same : after.sessions.length = before.sessions.length)
    (spares : ∀ number, marks.Spares number) : before.Stays after marks :=
  ⟨same, fun number _ => spares number, opens_nothing spares⟩

omit [Connection σ] in
theorem stays_session (number : Nat)
    (step : Session (Recorded σ) → Metrics →
      Pace × Session (Recorded σ) × Metrics)
    (marks : Session (Recorded σ) → Marks)
    (spares : ∀ session other, other ≠ number → (marks session).Spares other)
    (opens : ∀ session, (marks session).passages = []) :
    relay.Stays (relay.stepSession number step).2
      (relay.sessions[number]?.elim [] marks) := by
  unfold stepSession
  cases there : relay.sessions[number]? with
  | none => exact stays_of_spares rfl fun _ => nofun
  | some session =>
      obtain ⟨within, -⟩ := List.getElem?_eq_some_iff.mp there
      refine ⟨List.length_set, ?_, ?_⟩
      · intro other behind
        exact spares session other (by omega)
      · intro other
        rw [Option.elim_some, opens]
        exact List.not_mem_nil

theorem undergo_joins (happening : Happening σ) :
    (∃ query lost, relay.undergo environment happening =
        relay.joinOver environment { broken := lost } query ∧
      relay.marks environment happening =
        relay.joinMarks environment query lost) ∨
    relay.Stays (relay.undergo environment happening)
      (relay.marks environment happening) := by
  cases happening with
  | lost query => exact Or.inl ⟨query, true, rfl, rfl⟩
  | move move =>
      cases move with
      | openSession query => exact Or.inl ⟨query, false, rfl, rfl⟩
      | task task =>
          right
          cases task with
          | exchange number =>
              apply stays_of_spares
              · exact congrArg List.length
                  (History.sessions_exchange environment.recorded number relay)
              · intro other
                simp only [marks]
                cases relay.exchanges[number]? with
                | none => exact Marks.spares_nil other
                | some exchange =>
                    exact relay.exchange_spares environment exchange other
          | pump number =>
              exact relay.stays_session number (·.stepPump) (·.pumpMarks number)
                (fun session _ => pump_spares session)
                fun session => (tasks_open_nothing session number .finished).1
          | handler number heeds =>
              exact relay.stays_session number (·.stepHandler heeds)
                (fun session => session.handlerMarks number
                  (session.stepHandler heeds relay.metrics).2.1.handler)
                (fun session _ => handler_spares session _)
                fun session => (tasks_open_nothing session number _).2
      | closeIdle =>
          exact Or.inr (stays_of_spares rfl
            (IsClosing.spares relay (relay.idle_closing environment)))
      | abandon number =>
          right
          apply stays_of_spares
          · simp only [undergo, perform, withdraw]
            split <;> rfl
          · exact fun _ => Marks.spares_nil _
      | say | lose | guacdSession =>
          right
          apply stays_of_spares
          · simp [undergo, perform, modifySession]
          · exact fun _ => Marks.spares_nil _
      | receive | deliver | advance | guacd =>
          exact Or.inr (stays_of_spares rfl fun _ => Marks.spares_nil _)

theorem undergo_opened (happening : Happening σ) {number : Nat}
    {session : Session (Recorded σ)}
    (absent : relay.sessions[number]? = none)
    (there : (relay.undergo environment happening).sessions[number]? =
      some session) :
    number = relay.sessions.length ∧
      (session.tunnel = none ∧ session.handler.going = .finished ∨
        session.tunnel.isSome = true ∧
        .session number ∈ (relay.marks environment happening).passages ∧
        Session.Accords
          ((relay.marks environment happening).shuts number)
          ((relay.marks environment happening).fate (.session number))
          session) := by
  have behind := List.getElem?_eq_none_iff.mp absent
  obtain ⟨within, -⟩ := List.getElem?_eq_some_iff.mp there
  rcases relay.undergo_joins environment happening with
    ⟨query, lost, joined, marked⟩ | stays
  · rw [joined] at there within
    obtain ⟨fresh, sessions, outcome⟩ :=
      relay.joinOver_session environment query lost
    rw [sessions, List.length_append, List.length_singleton] at within
    obtain rfl : number = relay.sessions.length := by omega
    rw [sessions, List.getElem?_append_right (Nat.le_refl _), Nat.sub_self]
      at there
    cases there
    refine ⟨rfl, ?_⟩
    rw [marked]
    rcases outcome with ⟨-, refused, finished⟩ | ⟨opened, tunnel, accords⟩
    · exact Or.inl ⟨refused, finished⟩
    · rw [opened]
      exact Or.inr ⟨tunnel, List.mem_singleton.mpr rfl, accords⟩
  · rw [stays.length] at within
    omega

theorem undergo_known (happening : Happening σ) {number : Nat}
    (opened : .session number ∈ (relay.marks environment happening).passages) :
    ∃ session : Session (Recorded σ),
      (relay.undergo environment happening).sessions[number]? = some session ∧
      session.tunnel.isSome = true := by
  rcases relay.undergo_joins environment happening with
    ⟨query, lost, joined, marked⟩ | stays
  · obtain ⟨session, sessions, outcome⟩ :=
      relay.joinOver_session environment query lost
    rw [marked] at opened
    rcases outcome with ⟨nothing, -, -⟩ | ⟨last, tunnel, -⟩
    · rw [nothing] at opened
      cases opened
    · rw [last] at opened
      cases List.mem_singleton.mp opened
      refine ⟨session, ?_, tunnel⟩
      rw [joined, sessions, List.getElem?_append_right (Nat.le_refl _),
        Nat.sub_self]
      rfl
  · exact absurd opened (stays.opens number)

theorem undergo_spares (happening : Happening σ) {number : Nat}
    (behind : (relay.undergo environment happening).sessions.length ≤ number) :
    (relay.marks environment happening).Spares number := by
  rcases relay.undergo_joins environment happening with
    ⟨query, lost, joined, marked⟩ | stays
  · obtain ⟨fresh, sessions, -⟩ :=
      relay.joinOver_session environment query lost
    rw [joined, sessions, List.length_append, List.length_singleton] at behind
    rw [marked]
    exact relay.join_spares environment query lost (by omega)
  · exact stays.spares number (stays.length ▸ behind)

end Relay

/-! ### Courses -/

namespace Course

/-- The relay is as its marks say. -/
structure Sound (course : Course σ) : Prop where
  roll : course.relay.registry.roll = Roll.markAll {} course.marks
  orderly : course.marks.Orderly
  sessions : ∀ (number : Nat) (session : Session (Recorded σ)),
    course.relay.sessions[number]? = some session →
    session.tunnel.isSome = true →
    .session number ∈ course.marks.passages ∧
      Session.Accords (course.marks.shuts number)
        (course.marks.fate (.session number)) session
  refused : ∀ (number : Nat) (session : Session (Recorded σ)),
    course.relay.sessions[number]? = some session → session.tunnel = none →
    session.handler.going = .finished
  known : ∀ number, .session number ∈ course.marks.passages →
    ∃ session : Session (Recorded σ),
      course.relay.sessions[number]? = some session ∧
      session.tunnel.isSome = true
  quiet : ∀ number, course.relay.sessions.length ≤ number →
    course.marks.Spares number

omit [Connection σ] in
theorem uuids_eq (registry : Registry (Recorded σ)) :
    registry.uuids = registry.roll.uuids := by
  simp only [Registry.uuids, Roll.uuids, Registry.roll, List.map_map]
  rfl

omit [Connection σ] in
theorem sound_initial (idleTimeout : Nat) :
    (initial idleTimeout : Course σ).Sound where
  roll := rfl
  orderly := ⟨List.nodup_nil, by simp [initial], by simp [initial]⟩
  sessions := by simp [initial]
  refused := by simp [initial]
  known := by simp [initial, Marks.passages]
  quiet _ _ := by simp [initial, Marks.Spares]

section Orderly

variable {course : Course σ}

omit [Connection σ] in
theorem Sound.mem_uuids (sound : course.Sound) {uuid : Uuid} :
    uuid ∈ course.relay.registry.uuids ↔
      .registered uuid ∈ course.marks.passages := by
  rw [uuids_eq, sound.roll]
  exact sound.orderly.mem_uuids

omit [Connection σ] in
theorem Sound.closings (sound : course.Sound) {more : Marks}
    (closing : ∀ mark ∈ more, course.relay.IsClosing mark) :
    Marks.Orderly (course.marks ++ more) := by
  apply sound.orderly.closings
  intro mark member
  obtain ⟨uuid, status, same, known⟩ := closing mark member
  exact ⟨uuid, status, same, sound.mem_uuids.mp known⟩

omit [Connection σ] in
/-- A tunnel that is opened over HTTP is new, as long as no two share a
UUID. -/
theorem Sound.opens (sound : course.Sound) {uuid : Uuid} {token : String}
    (distinct : (course.relay.registry.roll.markAll
      (Mark.entering uuid token)).uuids.Nodup) :
    Marks.Orderly (course.marks ++ Mark.entering uuid token) := by
  have enrolled : (course.relay.registry.roll.enrol uuid).uuids =
      course.relay.registry.uuids ++ [uuid] := by
    rw [uuids_eq]
    exact Roll.uuids_enrol _ uuid
  have new : (course.relay.registry.uuids ++ [uuid]).Nodup := by
    rw [← enrolled]
    exact (Roll.uuids_markAll _ _).sublist.nodup distinct
  have opened : Marks.Orderly
      (course.marks ++ [.opens (.registered uuid)]) := by
    apply sound.orderly.snoc
    · rintro passage same
      cases same
      intro known
      exact (List.nodup_append.mp new).2.2 _ (sound.mem_uuids.mpr known) _
        (List.mem_singleton.mpr rfl) rfl
    · exact nofun
    · exact nofun
  unfold Mark.entering
  rw [← List.singleton_append, ← List.append_assoc]
  apply opened.closings
  intro mark member
  obtain ⟨status, -, rfl⟩ := List.mem_map.mp member
  refine ⟨uuid, status, rfl, ?_⟩
  rw [Marks.passages_append]
  exact List.mem_append_right _ (List.mem_singleton.mpr rfl)

theorem Sound.orderly_exchange (environment : Environment σ)
    (sound : course.Sound) (exchange : Exchange)
    (distinct : (course.relay.registry.roll.markAll
      (course.relay.exchangeMarks environment exchange)).uuids.Nodup) :
    Marks.Orderly (course.marks ++
      course.relay.exchangeMarks environment exchange) := by
  have closings := sound.closings (course.relay.closing_marks exchange)
  unfold Relay.exchangeMarks at distinct ⊢
  cases activity : exchange.activity with
  | collecting | reading | writing | answered => exact closings
  | connecting parameters =>
      rw [activity] at distinct
      simp only [Relay.connectMarks] at distinct ⊢
      split
      · rw [List.append_nil]
        exact sound.orderly
      · rename_i tunnel connected
        rw [connected] at distinct
        exact sound.opens distinct

omit [Connection σ] in
theorem Sound.orderly_join (environment : Environment σ) (sound : course.Sound)
    (query : String) (lost : Bool) :
    Marks.Orderly (course.marks ++
      course.relay.joinMarks environment query lost) := by
  have quiet := sound.quiet _ (Nat.le_refl _)
  have fresh : .session course.relay.sessions.length ∉ course.marks.passages := by
    intro member
    obtain ⟨mark, there, opened⟩ := List.mem_filterMap.mp member
    cases mark with
    | opens passage =>
        cases opened
        exact quiet _ there rfl
    | closes | shuts => cases opened
  have opened : Marks.Orderly
      (course.marks ++ [.opens (.session course.relay.sessions.length)]) := by
    apply sound.orderly.snoc
    · rintro passage same
      cases same
      exact fresh
    · exact nofun
    · exact nofun
  unfold Relay.joinMarks
  split
  · rw [List.append_nil]
    exact sound.orderly
  · cases lost with
    | false => exact opened
    | true =>
        simp only [if_true]
        rw [← List.singleton_append, ← List.append_assoc]
        apply opened.snoc
        · exact nofun
        · rintro passage status same
          cases same
          rw [Marks.passages_append]
          exact List.mem_append_right _ (List.mem_singleton.mpr rfl)
        · rintro number status same
          cases same
          exact (Marks.fate_other (by simp)).trans quiet.silent.2

omit [Connection σ] in
theorem Sound.orderly_stride (sound : course.Sound) {number : Nat}
    {session later : Session (Recorded σ)} {more : Marks}
    (there : course.relay.sessions[number]? = some session)
    (tunnel : session.tunnel.isSome = true)
    (stride : Stride number session later more) :
    Marks.Orderly (course.marks ++ more) := by
  obtain ⟨opened, accords⟩ := sound.sessions number session there tunnel
  cases stride with
  | goesOn | gone | leaves =>
      rw [List.append_nil]
      exact sound.orderly
  | pumpShuts | handlerShuts =>
      apply sound.orderly.snoc
      · exact nofun
      · exact nofun
      · exact nofun
  | ends outbound done pump left handler =>
      apply sound.orderly.snoc
      · exact nofun
      · rintro passage status same
        cases same
        exact opened
      · rintro other status same
        cases same
        cases ended : course.marks.fate (.session number) with
        | none => rfl
        | some status =>
            have finished := accords.ended.mp (by rw [ended]; rfl)
            rw [left] at finished
            cases finished

theorem Sound.orderly_undergo (environment : Environment σ)
    (sound : course.Sound) (happening : Happening σ)
    (distinct :
      (course.perform environment happening).relay.registry.uuids.Nodup) :
    (course.perform environment happening).marks.Orderly := by
  have nothing : Marks.Orderly (course.marks ++ []) := by
    rw [List.append_nil]
    exact sound.orderly
  have rolls : (course.relay.registry.roll.markAll
      (course.relay.marks environment happening)).uuids.Nodup := by
    rw [← course.relay.roll_undergo environment happening, ← uuids_eq]
    exact distinct
  change Marks.Orderly (course.marks ++ course.relay.marks environment happening)
  cases happening with
  | lost query => exact sound.orderly_join environment query true
  | move move =>
      cases move with
      | openSession query => exact sound.orderly_join environment query false
      | closeIdle => exact sound.closings (course.relay.idle_closing environment)
      | task task =>
          cases task with
          | exchange number =>
              simp only [Relay.marks] at rolls ⊢
              cases found : course.relay.exchanges[number]? with
              | none => exact nothing
              | some exchange =>
                  rw [found] at rolls
                  exact sound.orderly_exchange environment exchange rolls
          | pump number =>
              simp only [Relay.marks]
              cases there : course.relay.sessions[number]? with
              | none => exact nothing
              | some session =>
                  cases has : session.tunnel with
                  | none =>
                      simp only [Option.elim_some, Session.pumpMarks, has]
                      exact nothing
                  | some tunnel =>
                      exact sound.orderly_stride there (by rw [has]; rfl)
                        (Session.stepPump_strides number has {}).stride
          | handler number heeds =>
              simp only [Relay.marks]
              cases there : course.relay.sessions[number]? with
              | none => exact nothing
              | some session =>
                  cases has : session.tunnel with
                  | none =>
                      simp only [Option.elim_some, Session.handlerMarks, has]
                      exact nothing
                  | some tunnel =>
                      exact sound.orderly_stride there (by rw [has]; rfl)
                        (Session.stepHandler_strides number has heeds _).stride
      | receive | deliver | abandon | advance | say | lose | guacd
      | guacdSession => exact nothing

/-! ### What marks say of the relay -/

omit [Connection σ] in
theorem Sound.counters (sound : course.Sound) :
    course.relay.metrics.ofTunnels =
      Fates.counters (course.marks.passages.map course.marks.fate) := by
  have roll := sound.roll
  rw [sound.orderly.roll_eq] at roll
  exact congrArg Roll.counters roll

omit [Connection σ] in
theorem Sound.entries (sound : course.Sound) :
    course.relay.registry.tunnels.map (·.entry) =
      course.marks.passages.filterMap (Roll.entryOf course.marks.fate) := by
  have roll := sound.roll
  rw [sound.orderly.roll_eq] at roll
  exact congrArg Roll.entries roll

omit [Connection σ] in
theorem Sound.listed (sound : course.Sound) {number : Nat}
    {registered : RegisteredTunnel (Recorded σ)}
    (found : course.relay.registry.tunnel? number = some registered) :
    .registered registered.tunnel.uuid ∈ course.marks.passages ∧
      registered.listed =
        (course.marks.fate (.registered registered.tunnel.uuid)).isNone := by
  have entry : registered.entry ∈ course.marks.passages.filterMap
      (Roll.entryOf course.marks.fate) := by
    rw [← sound.entries]
    exact List.mem_map_of_mem (List.mem_of_getElem? found)
  obtain ⟨passage, opened, same⟩ := List.mem_filterMap.mp entry
  cases passage with
  | session number => cases same
  | registered uuid =>
      obtain ⟨rfl, listed⟩ := Prod.mk.inj (Option.some.inj same)
      exact ⟨opened, listed.symm⟩

omit [Connection σ] in
theorem Sound.found_iff (sound : course.Sound) {uuid : Uuid} :
    (course.relay.registry.find? uuid).isSome = true ↔
      .registered uuid ∈ course.marks.passages ∧
        course.marks.fate (.registered uuid) = none := by
  have entries : course.relay.registry.roll.entries =
      course.marks.roll.entries := by
    rw [sound.roll, sound.orderly.roll_eq]
  rw [← Roll.listed_iff, ← Option.ne_none_iff_isSome,
    Registry.find?_eq_findIdx?, entries, ne_eq, List.findIdx?_eq_none_iff]
  simp [Marks.roll]

end Orderly

theorem Sound.perform (environment : Environment σ) {course : Course σ}
    (sound : course.Sound) (happening : Happening σ)
    (distinct :
      (course.perform environment happening).relay.registry.uuids.Nodup) :
    (course.perform environment happening).Sound where
  roll := by
    change (course.relay.undergo environment happening).registry.roll = _
    rw [course.relay.roll_undergo, sound.roll, ← Roll.markAll_append]
    rfl
  orderly := sound.orderly_undergo environment happening distinct
  sessions := by
    intro number session there tunnel
    change (course.relay.undergo environment happening).sessions[number]? = _
      at there
    change _ ∈ Marks.passages (_ ++ _) ∧
      Session.Accords (Marks.shuts (_ ++ _) number) (Marks.fate (_ ++ _) _) _
    rw [Marks.passages_append, Marks.shuts_append, Marks.fate_append]
    cases before : course.relay.sessions[number]? with
    | none =>
        obtain ⟨rfl, ⟨refused, -⟩ | ⟨-, opened, accords⟩⟩ :=
          course.relay.undergo_opened environment happening before there
        · rw [refused] at tunnel
          cases tunnel
        -- no mark was about a session that was not there
        · obtain ⟨shuts, fate⟩ := (sound.quiet _ (Nat.le_refl _)).silent
          rw [shuts, fate, Option.none_or, List.nil_append]
          exact ⟨List.mem_append_right _ opened, accords⟩
    | some earlier =>
        obtain ⟨later, is, follows⟩ :=
          course.relay.undergo_follows environment happening before
        rw [there] at is
        cases is
        rw [follows.tunnel] at tunnel
        obtain ⟨opened, accords⟩ := sound.sessions number earlier before tunnel
        exact ⟨List.mem_append_left _ opened,
          follows.accords tunnel _ _ accords⟩
  refused := by
    intro number session there refused
    cases before : course.relay.sessions[number]? with
    | none =>
        obtain ⟨-, ⟨-, finished⟩ | ⟨tunnel, -⟩⟩ :=
          course.relay.undergo_opened environment happening before there
        · exact finished
        · rw [refused] at tunnel
          cases tunnel
    | some earlier =>
        obtain ⟨later, is, follows⟩ :=
          course.relay.undergo_follows environment happening before
        change (course.relay.undergo environment happening).sessions[number]? =
          some session at there
        rw [there] at is
        cases is
        have without : earlier.tunnel = none := by
          have same := follows.tunnel
          rw [refused, Option.isSome_none, eq_comm, Option.isSome_eq_false_iff,
            Option.isNone_iff_eq_none] at same
          exact same
        rw [follows.refused without]
        exact sound.refused number earlier before without
  known := by
    intro number opened
    change _ ∈ Marks.passages (_ ++ _) at opened
    rw [Marks.passages_append] at opened
    rcases List.mem_append.mp opened with old | new
    · obtain ⟨session, there, tunnel⟩ := sound.known number old
      obtain ⟨later, is, follows⟩ :=
        course.relay.undergo_follows environment happening there
      exact ⟨later, is, follows.tunnel.trans tunnel⟩
    · exact course.relay.undergo_known environment happening new
  quiet := by
    intro number behind mark member
    have grows : course.relay.sessions.length ≤ number := by
      by_contra within
      rw [Nat.not_le] at within
      obtain ⟨later, there, -⟩ := course.relay.undergo_follows environment
        happening (List.getElem?_eq_getElem within)
      obtain ⟨inside, -⟩ := List.getElem?_eq_some_iff.mp there
      exact absurd inside (Nat.not_lt.mpr behind)
    rcases List.mem_append.mp member with old | new
    · exact sound.quiet number grows mark old
    · exact course.relay.undergo_spares environment happening behind mark new

theorem uuids_perform (environment : Environment σ) (course : Course σ)
    (happening : Happening σ) :
    course.relay.registry.uuids <+:
      (course.perform environment happening).relay.registry.uuids := by
  rw [uuids_eq, uuids_eq]
  change _ <+: (course.relay.undergo environment happening).registry.roll.uuids
  rw [course.relay.roll_undergo]
  exact Roll.uuids_markAll _ _

theorem sound_run (environment : Environment σ) (idleTimeout : Nat)
    (happenings : List (Happening σ))
    (distinct :
      (run environment idleTimeout happenings).relay.registry.uuids.Nodup) :
    (run environment idleTimeout happenings).Sound := by
  induction happenings using List.reverseRecOn with
  | nil => exact sound_initial idleTimeout
  | append_singleton happenings last ih =>
      rw [run_snoc] at distinct ⊢
      have earlier := (uuids_perform environment _ last).sublist.nodup distinct
      exact (ih earlier).perform environment last distinct

end Course

end TunnelRelay
