import TunnelRelay.Proofs.Relay.Attendance
import TunnelRelay.Proofs.Relay.Opening

/-!
The feeds of a whole relay.

Every registered tunnel has its feed. A move of the relay is one step of each feed that was there
before, unless a browser does not stay for its answer. A feed that was not there before is fresh:
nothing is taken, and nobody has got an answer of success.
-/

namespace TunnelRelay

open Http LongPoll

variable {σ : Type}

/-- With this move no browser goes away, and none arrives that does not take
its answer. -/
def Move.isPatient : Move σ → Bool
  | .abandon _ => false
  | .receive request _ wanted => wanted && request.method != "HEAD"
  | .task _ | .deliver _ _ | .closeIdle | .advance _ | .openSession _
  | .say _ _ | .lose _ | .guacd _ _ | .guacdSession _ _ => true

namespace History

/-- A browser does not receive the whole answer of a read on a tunnel: it goes
away when the answer has begun, or nobody takes the body. -/
def Deserts (history : History (Tapped σ)) (number : Nat) : Move σ → Prop
  | .abandon index => ∃ exchange read,
      history.relay.exchanges[index]? = some exchange ∧
        exchange.activity = .reading read ∧ read.tunnel = number ∧
        read.begun = true
  | .receive request body wanted => ∃ uuid,
      history.relay.registry.uuids[number]? = some uuid ∧
        Post.reads? ⟨request, body⟩ = some uuid ∧
        (wanted && request.method != "HEAD") = false
  | .task _ | .deliver _ _ | .closeIdle | .advance _ | .openSession _
  | .say _ _ | .lose _ | .guacd _ _ | .guacdSession _ _ => False

theorem not_deserts_of_patient {history : History (Tapped σ)} {number : Nat}
    {move : Move σ} (patient : move.isPatient = true) :
    ¬ history.Deserts number move := by
  cases move with
  | abandon index => cases patient
  | receive request body wanted =>
      rintro ⟨uuid, -, -, unwanted⟩
      rw [Move.isPatient, unwanted] at patient
      cases patient
  | task | deliver | closeIdle | advance | openSession | say | lose | guacd
  | guacdSession => exact id

def feed (history : History (Tapped σ)) (uuid : Uuid) (inlet : Inlet) : Feed where
  inlet
  entries :=
    entriesFor uuid (asks history.posts) (entries history.relay.exchanges)
  count := history.relay.exchanges.length

/-! ### Who reads from which tunnel -/

variable {before after : History (Tapped σ)} {number index : Nat} {uuid : Uuid}

theorem entries_reading {exchanges : List Exchange} {read : Read}
    {answer : Answer} (there : entries exchanges index = .reading read answer) :
    ∃ exchange, exchanges[index]? = some exchange ∧
      exchange.activity = .reading read := by
  unfold entries at there
  cases found : exchanges[index]? with
  | none =>
      rw [found] at there
      cases there
  | some exchange =>
      refine ⟨exchange, rfl, ?_⟩
      rw [found] at there
      simp only [Option.map_some, Option.getD_some, Exchange.entry] at there
      cases activity : exchange.activity with
      | reading other =>
          rw [activity] at there
          cases there
          rfl
      | collecting | connecting | writing | answered =>
          rw [activity] at there
          cases there

theorem Attended.own (attended : before.Attended)
    (distinct : before.relay.registry.uuids.Nodup)
    (own : before.relay.registry.uuids[number]? = some uuid) {read : Read}
    {answer : Answer}
    (there : entries before.relay.exchanges index = .reading read answer) :
    asks before.posts index = some uuid ↔ read.tunnel = number := by
  obtain ⟨other, on, asked⟩ := attended.reading index read answer there
  constructor
  · intro again
    rw [asked] at again
    cases again
    obtain ⟨inside, -⟩ := List.getElem?_eq_some_iff.mp on
    exact (List.getElem?_inj inside distinct).mp (on.trans own.symm)
  · rintro rfl
    rw [own] at on
    cases on
    exact asked

variable [Connection σ] {environment : Environment σ} {move : Move σ}

theorem Attends.attended (attends : Attends environment move before after)
    (attended : before.Attended) : after.Attended := by
  have still := List.prefix_refl before.relay.registry.uuids
  unfold Attended
  cases attends with
  | rests keeps inlets same =>
      rw [keeps.uuids, keeps.asks, same]
      exact attended
  | acts keeps unasked idle inlets changes =>
      rw [keeps.uuids, keeps.asks, changes]
      apply attended.update still (fun _ _ => rfl)
      · exact fun read answer same => absurd same (idle read answer)
      all_goals rw [unasked]; exact nofun
  | opens unasked idle connected inlets uuids same changes count =>
      rw [uuids, same, changes]
      apply attended.update (List.prefix_append _ _) (fun _ _ => rfl)
      · exact fun read answer same => absurd same (idle read answer)
      all_goals rw [unasked]; exact nofun
  | arrives unread inlets uuids asked changes count =>
      rw [uuids, asked, changes]
      apply attended.update still fun _ differs =>
        Function.update_of_ne differs _ _
      · exact fun read answer same => absurd same (unread.1 read answer)
      all_goals rw [Function.update_self]
      · intro uuid asks
        obtain ⟨answer, answered, -⟩ := unread.refused asks
        rw [answered]
        exact nofun
      · intro uuid answer asks same isOk
        obtain ⟨refused, answered, failed⟩ := unread.refused asks
        rw [answered] at same
        cases same
        rw [failed] at isOk
        cases isOk
  | enters received asking own inlets uuids asked changes count =>
      rename_i number uuid encoding request body wanted
      rw [uuids, asked, changes]
      apply attended.update still fun _ differs =>
        Function.update_of_ne differs _ _
      · intro read answer same
        cases same
        exact ⟨uuid, own, Function.update_self ..⟩
      · exact fun _ _ => nofun
      · exact fun _ _ _ => nofun
  | turns keeps there registry changes =>
      rename_i index read answer
      obtain ⟨uuid, on, asked⟩ := attended.reading index read answer there
      have tunnel := (read.spares_step before.relay.registry answer).2
      rw [keeps.uuids, keeps.asks, changes]
      apply attended.update still (fun _ _ => rfl)
      · intro later given same
        unfold Entry.ofStep at same
        split at same
        · cases same
        · cases same
          rw [tunnel]
          exact ⟨uuid, on, asked⟩
      · intro other _
        unfold Entry.ofStep
        split <;> exact nofun
      · intro other given ask _ _
        rw [asked] at ask
        cases ask
        exact List.mem_of_getElem? on
  | leaves keeps there fresh abandoned inlets changes =>
      rename_i index read answer
      obtain ⟨uuid, on, asked⟩ := attended.reading index read answer there
      rw [keeps.uuids, keeps.asks, changes]
      apply attended.update still (fun _ _ => rfl)
      · exact nofun
      · exact fun _ _ => nofun
      · intro other given ask _ _
        rw [asked] at ask
        cases ask
        exact List.mem_of_getElem? on
  | deserts keeps there begun abandoned inlets changes =>
      rename_i index read answer
      have reading := attended.reading index read answer there
      rw [keeps.uuids, keeps.asks, changes]
      apply attended.update still (fun _ _ => rfl)
      · intro later given same
        cases same
        exact reading
      · exact fun _ _ => nofun
      · exact fun _ _ _ => nofun

/-! ### One move, for a feed -/

section Feeds

variable {inlet : Inlet} {queued : List Instruction} {contents : Nat → Bytes}
  {items : List Item}

/-- A move goes on with the feed of a tunnel. -/
def Feeds (before after : History (Tapped σ)) (number : Nat) (uuid : Uuid)
    (inlet : Inlet) : Prop :=
  ∃ later taken, after.relay.registry.inlets[number]? = some later ∧
    after.relay.registry.uuids[number]? = some uuid ∧
    (before.feed uuid inlet).Step (after.feed uuid later) taken

omit [Connection σ] in
theorem feeds_of_keeps (keeps : before.Keeps after) (replies : List Instruction)
    (own : before.relay.registry.uuids[number]? = some uuid)
    (inlets : after.relay.registry.inlets[number]? =
      some (inlet.push replies))
    (same : entriesFor uuid (asks before.posts)
        (entries after.relay.exchanges) =
      entriesFor uuid (asks before.posts) (entries before.relay.exchanges)) :
    Feeds before after number uuid inlet := by
  refine ⟨inlet.push replies, [], inlets, ?_, .rests rfl ?_ keeps.count⟩
  · rw [keeps.uuids]
    exact own
  · simp only [feed]
    rw [keeps.asks]
    exact same

omit [Connection σ] in
theorem feeds_of_other {entry : Entry} (keeps : before.Keeps after)
    (replies : List Instruction)
    (own : before.relay.registry.uuids[number]? = some uuid)
    (differs : asks before.posts index ≠ some uuid)
    (inlets : after.relay.registry.inlets[number]? =
      some (inlet.push replies))
    (changes : entries after.relay.exchanges =
      Function.update (entries before.relay.exchanges) index entry) :
    Feeds before after number uuid inlet := by
  apply feeds_of_keeps keeps replies own inlets
  rw [changes, entriesFor_update_other differs]

omit [Connection σ] in
theorem feed_entries (asked : asks before.posts index = some uuid) :
    (before.feed uuid inlet).entries index =
      entries before.relay.exchanges index :=
  if_pos asked

omit [Connection σ] in
theorem feed_update {entry : Entry} {later : Inlet} (keeps : before.Keeps after)
    (asked : asks before.posts index = some uuid)
    (changes : entries after.relay.exchanges =
      Function.update (entries before.relay.exchanges) index entry) :
    (after.feed uuid later).entries =
      Function.update (before.feed uuid inlet).entries index entry := by
  simp only [feed]
  rw [keeps.asks, changes, entriesFor_update, if_pos asked]

theorem turns_feeds {read : Read} {answer : Answer}
    (attended : before.Attended)
    (distinct : before.relay.registry.uuids.Nodup)
    (found : before.relay.registry.inlets[number]? = some inlet)
    (own : before.relay.registry.uuids[number]? = some uuid)
    (accounts : (before.feed uuid inlet).Accounts queued contents items)
    (keeps : before.Keeps after)
    (there : entries before.relay.exchanges index = .reading read answer)
    (registry : after.relay.registry =
      (read.step answer before.relay.registry).2.2.2)
    (changes : entries after.relay.exchanges =
      Function.update (entries before.relay.exchanges) index
        (.ofStep (read.step answer before.relay.registry).1
          (read.step answer before.relay.registry).2.1
          (read.step answer before.relay.registry).2.2.1)) :
    Feeds before after number uuid inlet := by
  by_cases reads : read.tunnel = number
  · subst reads
    have asked := (attended.own distinct own there).mpr rfl
    have entry : (before.feed uuid inlet).entries index =
        .reading read answer :=
      (feed_entries asked).trans there
    obtain ⟨stands, -⟩ := accounts.stands entry
    have head := Lock.isHeldBy_iff accounts.served index
    rw [Registry.inlets_getElem?] at found
    obtain ⟨registered, here, rfl⟩ := Option.map_eq_some_iff.mp found
    have held : read.stage ≠ .acquiring →
        registered.inlet.lock.isHeldBy read.ticket = true := by
      intro more
      rw [stands.ticket]
      exact head.mpr (stands.head more)
    have uuids : after.relay.registry.uuids[read.tunnel]? = some uuid := by
      rw [keeps.uuids]
      exact own
    rcases read.step_takes here accounts.reader stands.proper stands.waits held
      with same | ⟨holds, mid, taken, supplies, later, is, behind, turn⟩
    · rw [same] at registry changes
      apply feeds_of_keeps keeps [] own
      · rw [registry, Registry.inlets_getElem?, here]
        rfl
      · rw [changes]
        refine congrArg _ (Function.update_eq_self_iff.mpr ?_)
        rw [there]
        rfl
    · rw [← registry] at is
      refine ⟨later, taken, is, uuids, .turns entry holds ?_ turn
        (feed_update keeps asked changes) keeps.count⟩
      rcases behind with rfl | rfl
      · exact supplies
      · exact supplies.withdraw read.ticket
  · have differs : asks before.posts index ≠ some uuid :=
      fun asked => reads ((attended.own distinct own there).mp asked)
    refine feeds_of_other keeps [] own differs ?_ changes
    rw [registry, (read.spares_step before.relay.registry answer).1 number
      (Ne.symm reads)]
    exact found

omit [Connection σ] in
theorem arrives_feeds {exchange : Exchange} {ask : Option Uuid}
    (found : before.relay.registry.inlets[number]? = some inlet)
    (own : before.relay.registry.uuids[number]? = some uuid)
    (unread : exchange.Unread ask)
    (inlets : after.relay.registry.inlets = before.relay.registry.inlets)
    (uuids : after.relay.registry.uuids = before.relay.registry.uuids)
    (asked : asks after.posts =
      Function.update (asks before.posts) before.relay.exchanges.length ask)
    (changes : entries after.relay.exchanges =
      Function.update (entries before.relay.exchanges)
        before.relay.exchanges.length exchange.entry)
    (count : after.relay.exchanges.length =
      before.relay.exchanges.length + 1) :
    Feeds before after number uuid inlet := by
  have idle : Entry.IsIdle
      (if ask = some uuid then exchange.entry else .other) := by
    split
    · rename_i asks
      obtain ⟨answer, answered, failed⟩ := unread.refused asks
      rw [answered]
      exact .refused failed
    · exact .other
  refine ⟨inlet, [], ?_, ?_, .arrives idle rfl ?_ count⟩
  · rw [inlets]
    exact found
  · rw [uuids]
    exact own
  · simp only [feed]
    rw [asked, changes, entriesFor_append]

omit [Connection σ] in
theorem enters_feeds {target : Nat} {asker : Uuid} {read : Read}
    {answer : Answer} (distinct : before.relay.registry.uuids.Nodup)
    (found : before.relay.registry.inlets[number]? = some inlet)
    (own : before.relay.registry.uuids[number]? = some uuid)
    (on : before.relay.registry.uuids[target]? = some asker)
    (ticket : read.ticket = before.relay.exchanges.length)
    (stage : read.stage = .acquiring) (fresh : read.begun = false)
    (proper : asker = uuid → read.Proper answer)
    (inlets : after.relay.registry.inlets =
      before.relay.registry.inlets.modify target
        (·.request before.relay.exchanges.length))
    (uuids : after.relay.registry.uuids = before.relay.registry.uuids)
    (asked : asks after.posts = Function.update (asks before.posts)
      before.relay.exchanges.length (some asker))
    (changes : entries after.relay.exchanges =
      Function.update (entries before.relay.exchanges)
        before.relay.exchanges.length (.reading read answer))
    (count : after.relay.exchanges.length =
      before.relay.exchanges.length + 1) :
    Feeds before after number uuid inlet := by
  have still : after.relay.registry.uuids[number]? = some uuid := by
    rw [uuids]
    exact own
  by_cases reads : asker = uuid
  · subst reads
    obtain ⟨inside, -⟩ := List.getElem?_eq_some_iff.mp on
    cases (List.getElem?_inj inside distinct).mp (on.trans own.symm)
    refine ⟨inlet.request before.relay.exchanges.length, [], ?_, still,
      .enters ticket stage fresh (proper rfl) rfl ?_ count⟩
    · rw [inlets, List.getElem?_modify_eq, found]
      rfl
    · simp only [feed]
      rw [asked, changes, entriesFor_append, if_pos rfl]
  · refine ⟨inlet, [], ?_, still, .arrives .other rfl ?_ count⟩
    · have other : target ≠ number := by
        rintro rfl
        rw [own] at on
        cases on
        exact reads rfl
      rw [inlets, List.getElem?_modify_ne _ _ other]
      exact found
    · simp only [feed]
      rw [asked, changes, entriesFor_append, if_neg]
      exact fun same => reads (Option.some.inj same)

omit [Connection σ] in
theorem leaves_feeds {read : Read} {answer : Answer}
    (attended : before.Attended)
    (distinct : before.relay.registry.uuids.Nodup)
    (found : before.relay.registry.inlets[number]? = some inlet)
    (own : before.relay.registry.uuids[number]? = some uuid)
    (keeps : before.Keeps after)
    (there : entries before.relay.exchanges index = .reading read answer)
    (fresh : read.begun = false)
    (inlets : after.relay.registry.inlets =
      before.relay.registry.inlets.modify read.tunnel
        (·.withdraw read.ticket))
    (changes : entries after.relay.exchanges =
      Function.update (entries before.relay.exchanges) index
        (.answered answer)) :
    Feeds before after number uuid inlet := by
  by_cases reads : read.tunnel = number
  · subst reads
    have asked := (attended.own distinct own there).mpr rfl
    refine ⟨inlet.withdraw read.ticket, [], ?_, ?_,
      .leaves ((feed_entries asked).trans there) fresh rfl
        (feed_update keeps asked changes) keeps.count⟩
    · rw [inlets, List.getElem?_modify_eq, found]
      rfl
    · rw [keeps.uuids]
      exact own
  · have differs : asks before.posts index ≠ some uuid :=
      fun asked => reads ((attended.own distinct own there).mp asked)
    refine feeds_of_other keeps [] own differs ?_ changes
    rw [inlets, List.getElem?_modify_ne _ _ reads]
    exact found

/-- Unless a browser does not stay for its answer, a move goes on with every
feed. -/
theorem Attends.feeds (attends : Attends environment move before after)
    (attended : before.Attended)
    (distinct : before.relay.registry.uuids.Nodup)
    (found : before.relay.registry.inlets[number]? = some inlet)
    (own : before.relay.registry.uuids[number]? = some uuid)
    (accounts : (before.feed uuid inlet).Accounts queued contents items)
    (stays : ¬ before.Deserts number move) :
    Feeds before after number uuid inlet := by
  cases attends with
  | rests keeps inlets same =>
      apply feeds_of_keeps keeps [] own
      · rw [inlets]
        exact found
      · rw [same]
  | acts keeps unasked idle inlets changes =>
      rename_i index target replies entry
      have differs : asks before.posts index ≠ some uuid := by
        rw [unasked]
        exact nofun
      by_cases writes : target = number
      · subst writes
        refine feeds_of_other keeps replies own differs ?_ changes
        rw [inlets, List.getElem?_modify_eq, found]
        rfl
      · refine feeds_of_other keeps [] own differs ?_ changes
        rw [inlets, List.getElem?_modify_ne _ _ writes]
        exact found
  | opens unasked idle connected inlets uuids same changes count =>
      rename_i index attempt request tunnel entry
      have differs : asks before.posts index ≠ some uuid := by
        rw [unasked]
        exact nofun
      obtain ⟨inside, -⟩ := List.getElem?_eq_some_iff.mp found
      obtain ⟨within, -⟩ := List.getElem?_eq_some_iff.mp own
      refine ⟨inlet, [], ?_, ?_, .rests inlet.push_nil.symm ?_ count⟩
      · rw [inlets, List.getElem?_append_left inside]
        exact found
      · rw [uuids, List.getElem?_append_left within]
        exact own
      · simp only [feed]
        rw [same, changes, entriesFor_update_other differs]
  | arrives unread inlets uuids asked changes count =>
      exact arrives_feeds found own unread inlets uuids asked changes count
  | enters received asking on inlets uuids asked changes count =>
      rename_i target asker encoding request body wanted
      have proper : asker = uuid → Read.Proper
          { ticket := before.relay.exchanges.length, tunnel := target,
            encoding }
          { wanted := wanted && request.method != "HEAD" } := by
        rintro rfl
        have wants : (wanted && request.method != "HEAD") = true := by
          rw [received] at stays
          by_contra unwanted
          exact stays ⟨asker, own, asking, eq_false_of_ne_true unwanted⟩
        exact ⟨wants, nofun, nofun, fun _ => ⟨rfl, rfl⟩, nofun⟩
      exact enters_feeds distinct found own on rfl rfl rfl proper inlets uuids
        asked changes count
  | turns keeps there registry changes =>
      exact turns_feeds attended distinct found own accounts keeps there registry
        changes
  | deserts keeps there begun abandoned inlets changes =>
      rename_i index read answer
      obtain ⟨exchange, here, activity⟩ := entries_reading there
      rw [abandoned] at stays
      have other : read.tunnel ≠ number := fun reads =>
        stays ⟨exchange, read, here, activity, reads, begun⟩
      have differs : asks before.posts index ≠ some uuid :=
        fun asked => other ((attended.own distinct own there).mp asked)
      refine feeds_of_other keeps [] own differs ?_ changes
      rw [inlets]
      exact found
  | leaves keeps there fresh abandoned inlets changes =>
      exact leaves_feeds attended distinct found own keeps there fresh inlets
        changes

end Feeds

/-! ### A feed that was not there before -/

omit [Connection σ] in
theorem inlets_length (history : History (Tapped σ)) :
    history.relay.registry.inlets.length =
      history.relay.registry.uuids.length := by
  rw [Registry.inlets, Registry.uuids, List.length_map, List.length_map]

theorem Attends.opened (attends : Attends environment move before after)
    (absent : before.relay.registry.uuids[number]? = none)
    (own : after.relay.registry.uuids[number]? = some uuid) :
    ∃ attempt request tunnel,
      environment.connect attempt request = .ok tunnel ∧
      after.relay.registry.uuids =
        before.relay.registry.uuids ++ [tunnel.uuid] ∧
      after.relay.registry.inlets[number]? = some tunnel.inlet ∧
      tunnel.uuid = uuid ∧
      asks after.posts = asks before.posts ∧
      ∀ index, asks before.posts index ≠ none →
        entries after.relay.exchanges index =
          entries before.relay.exchanges index := by
  have still : after.relay.registry.uuids = before.relay.registry.uuids →
      False := by
    intro same
    rw [same, absent] at own
    cases own
  cases attends with
  | rests keeps | acts keeps | turns keeps | leaves keeps | deserts keeps =>
      exact (still keeps.uuids).elim
  | arrives unread inlets uuids => exact (still uuids).elim
  | enters received asking on inlets uuids => exact (still uuids).elim
  | opens unasked idle connected inlets uuids same changes count =>
      rename_i index attempt request tunnel entry
      have behind := List.getElem?_eq_none_iff.mp absent
      rw [uuids, List.getElem?_append_right behind,
        List.getElem?_singleton] at own
      split at own
      · rename_i last
        refine ⟨attempt, request, tunnel, connected, uuids, ?_,
          Option.some.inj own, same, ?_⟩
        · rw [← inlets_length] at behind last
          rw [inlets, List.getElem?_append_right behind, last]
          rfl
        · intro other asked
          rw [changes, Function.update_of_ne]
          rintro rfl
          exact asked unasked
      · cases own

/-- Nothing is taken from a tunnel that has just been opened. -/
theorem Attends.fresh (attends : Attends environment move before after)
    (attended : before.Attended)
    (unread : environment.ConnectsUnread)
    (distinct : after.relay.registry.uuids.Nodup) {inlet : Inlet}
    (absent : before.relay.registry.uuids[number]? = none)
    (found : after.relay.registry.inlets[number]? = some inlet)
    (own : after.relay.registry.uuids[number]? = some uuid) :
    (after.feed uuid inlet).Accounts [] (fun _ => []) [] ∧
      inlet.queue = [] := by
  obtain ⟨attempt, request, tunnel, connected, uuids, is, rfl, asks_, same⟩ :=
    attends.opened absent own
  rw [found] at is
  cases is
  obtain ⟨reader, lock⟩ := unread attempt request tunnel connected
  rw [uuids] at distinct
  have strange : tunnel.uuid ∉ before.relay.registry.uuids := by
    intro member
    exact (List.nodup_append.mp distinct).2.2 _ member _
      (List.mem_singleton.mpr rfl) rfl
  -- whoever has asked for this UUID before has found no tunnel
  have idle : ∀ index,
      ((after.feed tunnel.uuid tunnel.inlet).entries index).IsIdle := by
    intro index
    simp only [feed, entriesFor]
    split
    · rename_i asked
      rw [asks_] at asked
      rw [same index (by simp [asked])]
      cases entry : entries before.relay.exchanges index with
      | other => exact .other
      | reading read answer =>
          obtain ⟨uuid, on, again⟩ := attended.reading index read answer entry
          rw [asked] at again
          cases again
          exact absurd (List.mem_of_getElem? on) strange
      | answered answer =>
          refine .refused (eq_false_of_ne_true fun isOk => ?_)
          exact strange (attended.found index _ answer asked entry isOk)
    · exact .other
  have queue : tunnel.inlet.lock.queue = [] := by
    rw [Tunnel.inlet, lock]
    rfl
  constructor
  case right => rfl
  case left =>
    exact {
      reader
      whole := by simp [Item.frames]
      arrived := rfl
      replies := rfl
      served := by
        simp only [feed, Tunnel.inlet, lock]
        exact Lock.served_free
      sorted := by
        simp only [feed, queue]
        exact .nil
      reads := by
        simp [feed, queue]
      holds := fun index => (idle index).holds
      within := by
        intro index outside
        simp only [feed, entriesFor] at outside ⊢
        rw [entries_outside outside, ite_self]
      order := fun _ some_ => absurd rfl some_
      sum := List.flatMap_eq_nil_iff.mpr fun _ _ => rfl }

end History

end TunnelRelay
