import TunnelRelay.Proofs.Relay.Requests

/-!
The life of a tunnel that was opened over HTTP.

A tunnel is listed, open and connected to guacd until somebody closes it, and then it is none of
these for good, and whoever asks for it is refused. A write that is the only request under way
closes its tunnel if and only if the answer is an error that is not the browser's own doing, and a
read if and only if the response does not end well.
-/

namespace TunnelRelay

open Http LongPoll

variable {σ : Type} [Connection σ]

namespace Course

/-! ### The course of moves -/

def along (environment : Environment σ) (idleTimeout : Nat)
    (moves : List (Move σ)) : Course σ :=
  run environment idleTimeout (moves.map .move)

section Along

variable {environment : Environment σ} {idleTimeout : Nat}
  {moves : List (Move σ)}

theorem along_snoc (moves : List (Move σ)) (last : Move σ) :
    along environment idleTimeout (moves ++ [last]) =
      (along environment idleTimeout moves).perform environment
        (.move last) := by
  unfold along
  rw [List.map_append, List.map_singleton, run_snoc]

theorem along_relay (environment : Environment σ) (idleTimeout : Nat)
    (moves : List (Move σ)) :
    (along environment idleTimeout moves).relay =
      (History.run environment idleTimeout moves).relay := by
  induction moves using List.reverseRecOn with
  | nil => rfl
  | append_singleton moves last ih =>
      rw [along_snoc, History.run_snoc]
      exact congrArg (·.perform environment last) ih

theorem along_sound (distinct : History.Distinct environment idleTimeout moves) :
    (along environment idleTimeout moves).Sound := by
  apply sound_run
  change (along environment idleTimeout moves).relay.registry.uuids.Nodup
  rw [along_relay]
  exact distinct

theorem along_sane (connects : environment.Connects)
    (distinct : History.Distinct environment idleTimeout moves) {number : Nat}
    {registered : RegisteredTunnel (Recorded σ)}
    (found : (along environment idleTimeout moves).relay.registry.tunnel?
      number = some registered) : registered.Sane := by
  rw [along_relay] at found
  obtain ⟨lane, there, rfl, -⟩ := History.lane?_of_tunnel found
  exact (History.run_orderly connects distinct lane there).sane

theorem prefix_along {α : Type} (list : Course σ → List α)
    (grows : ∀ (course : Course σ) happening,
      list course <+: list (course.perform environment happening))
    (moves more : List (Move σ)) :
    list (along environment idleTimeout moves) <+:
      list (along environment idleTimeout (moves ++ more)) := by
  induction more using List.reverseRecOn with
  | nil => exact ⟨[], by rw [List.append_nil, List.append_nil]⟩
  | append_singleton more last ih =>
      rw [← List.append_assoc, along_snoc]
      exact ih.trans (grows _ _)

end Along

end Course

/-! ### Requests that arrive -/

omit [Connection σ] in
theorem Relay.tunnel?_iff {registry : Registry (Recorded σ)} {number : Nat}
    {uuid : Uuid} :
    registry.uuids[number]? = some uuid ↔
      ∃ registered, registry.tunnel? number = some registered ∧
        registered.tunnel.uuid = uuid := by
  rw [Registry.uuids, List.getElem?_map, Option.map_eq_some_iff]
  rfl

/-- A request to the long-poll transport. -/
structure Http.Request.Asks (request : Request) (command : Command) :
    Prop where
  path : request.path = "/tunnel"
  method : ["GET", "HEAD", "POST"].contains request.method = true
  parsed : Command.parse request.query = .ok command

namespace Relay

/-- A request shows the token of the tunnel `number`, which is open. -/
def Admits (relay : Relay (Recorded σ)) (request : Request) (uuid : Uuid)
    (number : Nat) : Prop :=
  (lookUp relay.registry uuid
    (request.headerText? "guacamole-tunnel-token")).1 = .ok number

variable {relay : Relay (Recorded σ)} {request : Request} {command : Command}
  {uuid : Uuid} {number : Nat}

theorem Admits.registered (admits : relay.Admits request uuid number) :
    ∃ registered, relay.registry.tunnel? number = some registered ∧
      registered.tunnel.uuid = uuid ∧ registered.tunnel.isOpen = true := by
  have quiet := quiet_lookUp relay.registry uuid
    (request.headerText? "guacamole-tunnel-token")
  unfold Admits at admits
  cases looked : lookUp relay.registry uuid
      (request.headerText? "guacamole-tunnel-token") with
  | mk outcome next =>
      rw [looked] at admits quiet
      cases admits
      obtain ⟨later, here, open_, own, -⟩ := lookUp_ok looked
      obtain ⟨registered, there, same⟩ := quiet.earlier here
      exact ⟨registered, there, same.tracks.uuid.symm.trans own,
        same.tracks.opened open_⟩

theorem starts (relay : Relay (Recorded σ)) (asks : request.Asks command)
    (body : List BodyEvent) (wanted : Bool) :
    ∃ exchange : Exchange,
      (relay.arrive request body wanted).exchanges[relay.exchanges.length]? =
        some { (exchange.start relay.exchanges.length request
          relay.registry).1 with body } := by
  refine ⟨⟨.answered, [],
    { wanted := wanted && request.method != "HEAD" }⟩, ?_⟩
  unfold arrive startExchange
  rw [asks.path]
  simp only [resource?, asks.method, if_true]
  rw [List.getElem?_append_right (Nat.le_refl _), Nat.sub_self]
  rfl

theorem starts_write (asks : request.Asks (.write uuid))
    (admits : relay.Admits request uuid number) (body : List BodyEvent)
    (wanted : Bool) :
    ∃ exchange : Exchange,
      (relay.arrive request body wanted).exchanges[relay.exchanges.length]? =
        some exchange ∧
      exchange.activity = .writing
        { ticket := relay.exchanges.length, tunnel := number } := by
  obtain ⟨exchange, there⟩ := relay.starts asks body wanted
  refine ⟨_, there, ?_⟩
  unfold Admits at admits
  unfold Exchange.start
  rw [asks.parsed]
  simp only
  split
  · rename_i looked
    rw [looked] at admits
    cases admits
  · rename_i looked
    rw [looked] at admits
    cases admits
    obtain ⟨registered, here, open_, -, -⟩ := lookUp_ok looked
    rw [Write.start_open _ here open_]

theorem starts_read (asks : request.Asks (.read uuid))
    (admits : relay.Admits request uuid number) (body : List BodyEvent)
    (wanted : Bool) :
    ∃ (exchange : Exchange) (read : Read),
      (relay.arrive request body wanted).exchanges[relay.exchanges.length]? =
        some exchange ∧
      exchange.activity = .reading read ∧ read.tunnel = number ∧
        read.stage = .acquiring := by
  obtain ⟨exchange, there⟩ := relay.starts asks body wanted
  refine ⟨_, { ticket := relay.exchanges.length, tunnel := number, encoding :=
    ContentEncoding.negotiate (request.headerText? "accept-encoding") },
    there, ?_, rfl, rfl⟩
  unfold Admits at admits
  unfold Exchange.start
  rw [asks.parsed]
  simp only
  split
  · rename_i looked
    rw [looked] at admits
    cases admits
  · rename_i looked
    rw [looked] at admits
    cases admits
    rfl

theorem starts_refused (asks : request.Asks command)
    (tunnel : command = .read uuid ∨ command = .write uuid)
    (unlisted : relay.registry.find? uuid = none) (body : List BodyEvent)
    (wanted : Bool) :
    ∃ exchange : Exchange,
      (relay.arrive request body wanted).exchanges[relay.exchanges.length]? =
        some exchange ∧
      exchange.isAnswered = true ∧
      exchange.answer.codes = some (404, some (Bytes.ofText "516")) := by
  obtain ⟨exchange, there⟩ := relay.starts asks body wanted
  have refused : (exchange.start relay.exchanges.length request
      relay.registry).1 = exchange.refuse noSuchTunnel := by
    have looked : ∀ token, lookUp relay.registry uuid token =
        (.error noSuchTunnel, relay.registry) := by
      intro token
      unfold lookUp Registry.get
      rw [unlisted]
      rfl
    unfold Exchange.start
    rw [asks.parsed]
    rcases tunnel with rfl | rfl
    · simp only [looked]
    · simp only [looked]
  refine ⟨_, there, ?_, ?_⟩
  · rw [refused]
    rfl
  · rw [refused]
    exact exchange.answer.failure_tells noSuchTunnel

end Relay

/-! ### Whole runs -/

namespace Course

section Run

variable (environment : Environment σ) (idleTimeout : Nat)

/-- Among the moves `own`, which come behind `earlier`, one ends the response
to a read. -/
def Met (earlier own : List (Move σ)) (index : Nat) (ending : Ending) : Prop :=
  ∃ before move after, own = before ++ move :: after ∧
    (along environment idleTimeout (earlier ++ before)).relay.ending? index
      move = some ending

variable {environment} {idleTimeout}
variable {earlier own : List (Move σ)} {index number : Nat} {uuid : Uuid}

theorem met_snoc {last : Move σ} {ending : Ending} :
    Met environment idleTimeout earlier (own ++ [last]) index ending ↔
      Met environment idleTimeout earlier own index ending ∨
        (along environment idleTimeout (earlier ++ own)).relay.ending? index
          last = some ending := by
  constructor
  · rintro ⟨before, move, after, split, meets⟩
    rcases List.eq_nil_or_concat after with rfl | ⟨front, final, rfl⟩
    · obtain ⟨rfl, same⟩ := List.append_inj' split rfl
      rw [List.singleton_inj.mp same]
      exact Or.inr meets
    · rw [List.concat_eq_append, ← List.cons_append, ← List.append_assoc]
        at split
      exact Or.inl ⟨before, move, front, (List.append_inj' split rfl).1, meets⟩
  · rintro (⟨before, move, after, rfl, meets⟩ | meets)
    · refine ⟨before, move, after ++ [last], ?_, meets⟩
      rw [List.append_assoc]
      rfl
    · exact ⟨own, last, [], rfl, meets⟩

theorem tunnel_along
    (there : (along environment idleTimeout
      earlier).relay.registry.uuids[number]? = some uuid)
    (own : List (Move σ)) :
    ∃ registered, (along environment idleTimeout
        (earlier ++ own)).relay.registry.tunnel? number = some registered ∧
      registered.tunnel.uuid = uuid := by
  rw [← Relay.tunnel?_iff]
  obtain ⟨within, -⟩ := List.getElem?_eq_some_iff.mp there
  obtain ⟨rest, same⟩ := prefix_along (·.relay.registry.uuids)
    (uuids_perform environment) earlier own
  rw [← same, List.getElem?_append_left within]
  exact there

theorem seen_along (connects : environment.Connects)
    (distinct : History.Distinct environment idleTimeout own)
    {registered : RegisteredTunnel (Recorded σ)}
    (found : (along environment idleTimeout own).relay.registry.tunnel? number =
      some registered) {write : Write} {body : List BodyEvent}
    (there : writesOn (along environment idleTimeout own).relay.exchanges number
      index = some (write, body)) :
    ∃ bytes, write.filtered.HasSeen bytes := by
  rw [along_relay] at found there
  obtain ⟨lane, here, -, writes, -⟩ := History.lane?_of_tunnel found
  rw [← writes] at there
  obtain ⟨post, bytes, -, -, -, seen, -⟩ :=
    ((History.run_orderly connects distinct lane here).written index write body
      there).source
  exact ⟨bytes, seen⟩

theorem writes_along (connects : environment.Connects)
    (distinct : History.Distinct environment idleTimeout (earlier ++ own))
    (there : (along environment idleTimeout
      earlier).relay.registry.uuids[number]? = some uuid)
    (alone : ∀ move ∈ own, move.IsDuring index)
    (writes : (along environment idleTimeout earlier).Writes index number
      uuid) :
    (along environment idleTimeout (earlier ++ own)).Writes index number
      uuid := by
  induction own using List.reverseRecOn with
  | nil =>
      rw [List.append_nil]
      exact writes
  | append_singleton own last ih =>
      rw [← List.append_assoc] at distinct ⊢
      have before := ih distinct.earlier fun move member =>
        alone move (List.mem_append_left _ member)
      have during := alone last (List.mem_append_right _
        (List.mem_singleton.mpr rfl))
      rw [along_snoc]
      by_cases mine : last = .task (.exchange index)
      · obtain ⟨registered, found, same⟩ := tunnel_along there own
        rw [mine]
        exact before.own found same fun write body =>
          seen_along connects distinct.earlier found
      · exact before.beside during mine

theorem reads_along
    (there : (along environment idleTimeout
      earlier).relay.registry.uuids[number]? = some uuid)
    (alone : ∀ move ∈ own, move.IsDuring index)
    (reads : (along environment idleTimeout earlier).Reads index number uuid
      fun _ => False) :
    (along environment idleTimeout (earlier ++ own)).Reads index number uuid
      (Met environment idleTimeout earlier own index) := by
  induction own using List.reverseRecOn with
  | nil =>
      have nothing : Met environment idleTimeout earlier [] index =
          fun _ => False := by
        funext ending
        simp [Met]
      rw [List.append_nil, nothing]
      exact reads
  | append_singleton own last ih =>
      have before := ih fun move member =>
        alone move (List.mem_append_left _ member)
      have during := alone last (List.mem_append_right _
        (List.mem_singleton.mpr rfl))
      have met : Met environment idleTimeout earlier (own ++ [last]) index =
          fun ending => Met environment idleTimeout earlier own index ending ∨
            (along environment idleTimeout (earlier ++ own)).relay.ending?
              index last = some ending :=
        funext fun ending => propext met_snoc
      rw [← List.append_assoc, along_snoc, met]
      by_cases mine : last = .task (.exchange index)
      · obtain ⟨registered, found, same⟩ := tunnel_along there own
        rw [mine]
        exact before.own found same
      · have silent := ending?_beside (along environment idleTimeout
          (earlier ++ own)).relay mine
        simp only [silent, reduceCtorEq, or_false]
        exact before.beside during mine

end Run

end Course

/-! ### The life of a tunnel -/

namespace Relay

def Keeps (relay : Relay (Recorded σ)) (number : Nat) : Prop :=
  ∃ registered, relay.registry.tunnel? number = some registered ∧
    registered.listed = true ∧ registered.tunnel.isOpen = true

/-- There is nothing left of a tunnel: it is not found, guacd is released, and
whoever asks for it is told that there is no such tunnel. -/
structure Forgets (relay : Relay (Recorded σ)) (uuid : Uuid) : Prop where
  unlisted : relay.registry.find? uuid = none
  released : ∀ (number : Nat) (registered : RegisteredTunnel (Recorded σ)),
    relay.registry.tunnel? number = some registered →
    registered.tunnel.uuid = uuid →
    registered.tunnel.isOpen = false ∧
      registered.tunnel.backend.live = false
  refused : ∀ request command, request.Asks command →
    command = .read uuid ∨ command = .write uuid →
    ∀ body wanted, ∃ exchange : Exchange,
      (relay.arrive request body wanted).exchanges[relay.exchanges.length]? =
        some exchange ∧
      exchange.isAnswered = true ∧
      exchange.answer.codes = some (404, some (Bytes.ofText "516"))

end Relay

namespace Course

variable (environment : Environment σ) (idleTimeout : Nat)

/-- Behind the moves `earlier`, a request arrives that is let in to the tunnel
`number`. It is the only request that does anything, until it is answered. -/
structure Serves (earlier : List (Move σ)) (arrival : Move σ)
    (own : List (Move σ)) (command : Uuid → Command) (number : Nat)
    (exchange : Exchange) : Prop where
  admitted : ∃ request body wanted uuid,
    arrival = .receive request body wanted ∧ request.Asks (command uuid) ∧
      (along environment idleTimeout earlier).relay.Admits request uuid number
  alone : ∀ move ∈ own, move.IsDuring
    (along environment idleTimeout earlier).relay.exchanges.length
  there : (along environment idleTimeout
      (earlier ++ [arrival] ++ own)).relay.exchanges[
        (along environment idleTimeout earlier).relay.exchanges.length]? =
    some exchange
  answered : exchange.isAnswered = true

/-- What becomes of the tunnels that are opened over HTTP. -/
structure Lifecycle (moves : List (Move σ)) : Prop where
  /-- A tunnel is found from when it is opened until it is closed. -/
  found : ∀ uuid, ((along environment idleTimeout moves).relay.registry.find?
      uuid).isSome = true ↔
    .registered uuid ∈ (along environment idleTimeout moves).marks.passages ∧
      (along environment idleTimeout moves).marks.fate (.registered uuid) = none
  /-- It is open and connected to guacd just as long. -/
  sane : ∀ (number : Nat) (registered : RegisteredTunnel (Recorded σ)),
    (along environment idleTimeout moves).relay.registry.tunnel? number =
      some registered → registered.Sane
  /-- A write keeps its tunnel if it answers 200 or a client error. -/
  write : ∀ earlier arrival own number exchange,
    moves = earlier ++ [arrival] ++ own →
    Serves environment idleTimeout earlier arrival own .write number exchange →
    ((along environment idleTimeout moves).relay.Keeps number ↔
      exchange.answer.isOk = true ∨ exchange.answer.IsClientError)
  /-- A read keeps its tunnel if the response ends well. -/
  read : ∀ earlier arrival own number exchange,
    moves = earlier ++ [arrival] ++ own →
    Serves environment idleTimeout earlier arrival own .read number exchange →
    ((along environment idleTimeout moves).relay.Keeps number ↔
      ∀ ending, ¬ Met environment idleTimeout (earlier ++ [arrival]) own
        (along environment idleTimeout earlier).relay.exchanges.length
        ending) ∧
      ∀ ending, Met environment idleTimeout (earlier ++ [arrival]) own
        (along environment idleTimeout earlier).relay.exchanges.length ending →
      ending.Shows exchange.answer
  /-- A tunnel that was opened and is not found any more never comes back. -/
  gone : ∀ earlier later uuid, moves = earlier ++ later →
    .registered uuid ∈ (along environment idleTimeout earlier).marks.passages →
    (along environment idleTimeout earlier).relay.registry.find? uuid = none →
    (along environment idleTimeout moves).relay.Forgets uuid

variable {environment} {idleTimeout} {moves earlier own : List (Move σ)}
  {arrival : Move σ} {number : Nat} {uuid : Uuid} {exchange : Exchange}

theorem keeps_iff (connects : environment.Connects)
    (distinct : History.Distinct environment idleTimeout moves)
    {registered : RegisteredTunnel (Recorded σ)}
    (found : (along environment idleTimeout moves).relay.registry.tunnel?
      number = some registered) :
    (along environment idleTimeout moves).relay.Keeps number ↔
      (along environment idleTimeout moves).marks.fate
        (.registered registered.tunnel.uuid) = none := by
  have listed := ((along_sound distinct).listed found).2
  have sane := along_sane connects distinct found
  rw [← Option.isNone_iff_eq_none, ← listed]
  constructor
  · rintro ⟨other, there, is, -⟩
    rw [found] at there
    cases there
    exact is
  · exact fun is => ⟨registered, found, is, sane.1.symm.trans is⟩

theorem arrives (connects : environment.Connects)
    (distinct : History.Distinct environment idleTimeout earlier)
    {request : Request} (body : List BodyEvent) (wanted : Bool)
    (admits : (along environment idleTimeout earlier).relay.Admits request uuid
      number) :
    (along environment idleTimeout (earlier ++
        [.receive request body wanted])).relay.registry.uuids[number]? =
        some uuid ∧
      (along environment idleTimeout (earlier ++
        [.receive request body wanted])).marks.fate (.registered uuid) =
        none := by
  obtain ⟨registered, there, rfl, open_⟩ := admits.registered
  constructor
  · obtain ⟨later, found, same⟩ := tunnel_along
      (Relay.tunnel?_iff.mpr ⟨registered, there, rfl⟩)
      [.receive request body wanted]
    exact Relay.tunnel?_iff.mpr ⟨later, found, same⟩
  · have sane := along_sane connects distinct there
    have silent : (along environment idleTimeout (earlier ++
        [.receive request body wanted])).marks =
        (along environment idleTimeout earlier).marks := by
      rw [along_snoc]
      exact List.append_nil _
    rw [silent, ← Option.isNone_iff_eq_none,
      ← ((along_sound distinct).listed there).2]
    exact sane.1.trans open_

theorem Serves.keeps_write (connects : environment.Connects)
    (distinct : History.Distinct environment idleTimeout
      (earlier ++ [arrival] ++ own))
    (serves : Serves environment idleTimeout earlier arrival own .write number
      exchange) :
    (along environment idleTimeout (earlier ++ [arrival] ++ own)).relay.Keeps
        number ↔
      exchange.answer.isOk = true ∨ exchange.answer.IsClientError := by
  obtain ⟨⟨request, body, wanted, uuid, rfl, asks, admits⟩, alone, there,
    answered⟩ := serves
  obtain ⟨begun, here, writing⟩ :=
    Relay.starts_write asks admits body wanted
  obtain ⟨known, running⟩ :=
    arrives connects distinct.earlier.earlier body wanted admits
  have begins : (along environment idleTimeout
      (earlier ++ [.receive request body wanted])).Writes
      (along environment idleTimeout earlier).relay.exchanges.length number
      uuid := by
    refine .underway ?_ writing rfl nofun running
    rw [along_snoc]
    exact here
  obtain ⟨registered, found, rfl⟩ := tunnel_along known own
  have writes := writes_along connects distinct known alone begins
  rw [keeps_iff connects distinct found]
  cases writes with
  | underway is writing =>
      rw [there] at is
      cases is
      simp [Exchange.isAnswered, writing] at answered
  | answered is done outcome =>
      rw [there] at is
      cases is
      exact outcome

theorem Serves.keeps_read (connects : environment.Connects)
    (distinct : History.Distinct environment idleTimeout
      (earlier ++ [arrival] ++ own))
    (serves : Serves environment idleTimeout earlier arrival own .read number
      exchange) :
    ((along environment idleTimeout (earlier ++ [arrival] ++ own)).relay.Keeps
        number ↔
      ∀ ending, ¬ Met environment idleTimeout (earlier ++ [arrival]) own
        (along environment idleTimeout earlier).relay.exchanges.length
        ending) ∧
      ∀ ending, Met environment idleTimeout (earlier ++ [arrival]) own
        (along environment idleTimeout earlier).relay.exchanges.length ending →
      ending.Shows exchange.answer := by
  obtain ⟨⟨request, body, wanted, uuid, rfl, asks, admits⟩, alone, there,
    answered⟩ := serves
  obtain ⟨begun, read, here, reading, tunnel, stage⟩ :=
    Relay.starts_read asks admits body wanted
  obtain ⟨known, running⟩ :=
    arrives connects distinct.earlier.earlier body wanted admits
  have begins : (along environment idleTimeout
      (earlier ++ [.receive request body wanted])).Reads
      (along environment idleTimeout earlier).relay.exchanges.length number
      uuid fun _ => False := by
    refine .underway ?_ reading tunnel running (fun _ => False.elim) ?_
    · rw [along_snoc]
      exact here
    · simp [stage]
  obtain ⟨registered, found, rfl⟩ := tunnel_along known own
  have reads := reads_along known alone begins
  rw [keeps_iff connects distinct found]
  cases reads with
  | underway is reading =>
      rw [there] at is
      cases is
      simp [Exchange.isAnswered, reading] at answered
  | answered is done outcome shown =>
      rw [there] at is
      cases is
      exact ⟨outcome.trans not_exists, shown⟩

theorem forgets (connects : environment.Connects) {later : List (Move σ)}
    (distinct : History.Distinct environment idleTimeout (earlier ++ later))
    (opened : .registered uuid ∈
      (along environment idleTimeout earlier).marks.passages)
    (unlisted : (along environment idleTimeout
      earlier).relay.registry.find? uuid = none) :
    (along environment idleTimeout (earlier ++ later)).relay.Forgets uuid := by
  have sound := along_sound distinct
  have ended : (along environment idleTimeout (earlier ++ later)).marks.fate
      (.registered uuid) ≠ none := by
    intro running
    obtain ⟨more, same⟩ := prefix_along (·.marks)
      (fun course _ => List.prefix_append course.marks _) earlier later
    rw [← same, Marks.fate_append, Option.or_eq_none_iff] at running
    have still := (along_sound distinct.earlier).found_iff.mpr
      ⟨opened, running.1⟩
    rw [unlisted] at still
    cases still
  have absent : (along environment idleTimeout
      (earlier ++ later)).relay.registry.find? uuid = none := by
    rw [← Option.not_isSome_iff_eq_none, sound.found_iff]
    exact fun found => ended found.2
  constructor
  · exact absent
  · rintro number registered found rfl
    have sane := along_sane connects distinct found
    have closed : registered.listed = false := by
      rw [(sound.listed found).2]
      exact Option.isNone_eq_false_iff.mpr (Option.isSome_iff_ne_none.mpr ended)
    have shut := sane.1.symm.trans closed
    exact ⟨shut, sane.2.trans shut⟩
  · intro request command asks tunnel body wanted
    exact Relay.starts_refused asks tunnel absent body wanted

/-- Along every run, a tunnel that was opened over HTTP is listed, open and
connected until it is closed, and then gone for good; a request that is alone
closes its tunnel exactly when it fails as `Lifecycle` says. -/
theorem lifecycle (environment : Environment σ) (idleTimeout : Nat)
    (moves : List (Move σ)) (connects : environment.Connects)
    (distinct : History.Distinct environment idleTimeout moves) :
    Lifecycle environment idleTimeout moves where
  found uuid := (along_sound distinct).found_iff
  sane number registered := along_sane connects distinct
  write := by
    rintro earlier arrival own number exchange rfl serves
    exact serves.keeps_write connects distinct
  read := by
    rintro earlier arrival own number exchange rfl serves
    exact serves.keeps_read connects distinct
  gone := by
    rintro earlier later uuid rfl opened unlisted
    exact forgets connects distinct opened unlisted

def opening : List (Move Link) :=
  [.receive { target := "/tunnel?connect" } [] true, .task (.exchange 0)]

def polling : Move Link :=
  .receive
    { target := "/tunnel?read:00000000000000000000000000000000"
      headers := [("guacamole-tunnel-token", Bytes.ofText "t")] } [] true

/-- While the read waits, guacd closes its end. -/
def hangingUp : List (Move Link) :=
  [.task (.exchange 1), .task (.exchange 1), .task (.exchange 1),
    .guacd 0 (·.guacdClose), .task (.exchange 1), .task (.exchange 1)]

/-- The response is a success, and the tunnel is gone. -/
theorem lifecycle_hangingUp :
    History.narrow.Connects ∧
      History.Distinct History.narrow 0 (opening ++ [polling] ++ hangingUp) ∧
      Lifecycle History.narrow 0 (opening ++ [polling] ++ hangingUp) ∧
      (∃ exchange, Serves History.narrow 0 opening polling hangingUp .read 0
        exchange ∧ exchange.answer.isOk = true) ∧
      Met History.narrow 0 (opening ++ [polling]) hangingUp 1 .endOfStream ∧
      (along History.narrow 0 opening).relay.registry.find? ⟨0⟩ = some 0 ∧
      (along History.narrow 0
        (opening ++ [polling] ++ hangingUp)).relay.registry.find? ⟨0⟩ =
        none := by
  have distinct : History.Distinct History.narrow 0
      (opening ++ [polling] ++ hangingUp) := by
    unfold History.Distinct
    decide +kernel
  have count : (along History.narrow 0 opening).relay.exchanges.length = 1 := by
    decide +kernel
  have last : ((along History.narrow 0 (opening ++ [polling] ++
      hangingUp)).relay.exchanges[1]?).map (fun exchange =>
        (exchange.isAnswered, exchange.answer.isOk)) = some (true, true) := by
    decide +kernel
  refine ⟨History.narrow_connects, distinct, lifecycle History.narrow 0 _
    History.narrow_connects distinct, ?_, ?_, by decide +kernel,
    by decide +kernel⟩
  · obtain ⟨exchange, there, values⟩ := Option.map_eq_some_iff.mp last
    obtain ⟨answered, isOk⟩ := Prod.mk.inj values
    refine ⟨exchange, ⟨⟨_, _, _, ⟨0⟩, rfl, ?_, ?_⟩, ?_, ?_, answered⟩, isOk⟩
    · exact ⟨by decide +kernel, by decide +kernel, by rfl⟩
    · unfold Relay.Admits
      rfl
    · rw [count]
      simp [hangingUp, Move.IsDuring]
    · rw [count]
      exact there
  · exact ⟨hangingUp.take 4, .task (.exchange 1), [.task (.exchange 1)], rfl,
      by decide +kernel⟩

/-- No header can tell the token, so the tunnel is closed as soon as it is
listed. -/
example :
    let environment := { History.narrow with token := fun _ => "\n" }
    let course := along environment 0 opening
    course.marks.fate (.registered ⟨0⟩) = some .serverError ∧
      course.relay.registry.find? ⟨0⟩ = none ∧
      course.relay.exchanges.map (·.answer.head.map (·.status)) =
        [some 500] := by
  decide +kernel

end Course

end TunnelRelay
