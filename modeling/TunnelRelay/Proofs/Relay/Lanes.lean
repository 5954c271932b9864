import TunnelRelay.Proofs.Relay.Exchanges
import TunnelRelay.Proofs.Relay.Ledger

/-!
The lanes of a whole relay.

Every registered tunnel has its lane. A move of the relay is one step of each lane that was there
before, or a write of the lane gives up because its browser goes away; a lane that was not there
before is fresh.
-/

namespace TunnelRelay

open Http LongPoll

variable {σ : Type}

namespace History

def lane? (history : History σ) (number : Nat) : Option (Lane σ) :=
  (history.relay.registry.tunnel? number).map fun tunnel =>
    { tunnel
      writes := writesOn history.relay.exchanges number
      posts := history.posts }

/-- What browsers have sent is kept for each exchange and each session, and
writes are on tunnels that exist. -/
structure Aligned (history : History σ) : Prop where
  posts : history.posts.length = history.relay.exchanges.length
  heard : history.heard.length = history.relay.sessions.length
  writes : ∀ number exchange entry,
    writesOn history.relay.exchanges number exchange = some entry →
    number < history.relay.registry.tunnels.length

theorem lane?_eq_some {history : History σ} {number : Nat} {lane : Lane σ}
    (found : history.lane? number = some lane) :
    history.relay.registry.tunnel? number = some lane.tunnel ∧
      lane.writes = writesOn history.relay.exchanges number ∧
      lane.posts = history.posts := by
  unfold lane? at found
  obtain ⟨registered, there, is⟩ := Option.map_eq_some_iff.mp found
  cases is
  exact ⟨there, rfl, rfl⟩

theorem lane?_of_tunnel {history : History σ} {number : Nat}
    {registered : RegisteredTunnel (Recorded σ)}
    (there : history.relay.registry.tunnel? number = some registered) :
    ∃ lane, history.lane? number = some lane ∧ lane.tunnel = registered ∧
      lane.writes = writesOn history.relay.exchanges number ∧
      lane.posts = history.posts :=
  ⟨_, by rw [lane?, there]; rfl, rfl, rfl, rfl⟩

/-- What a move is for a lane: a step, or a write of the lane gives up. -/
def Continues (move : Move σ) (before after : Lane σ) : Prop :=
  before.Step after ∧
      (∀ exchange, move = .abandon exchange → before.writes exchange = none) ∨
    ∃ exchange write body, move = .abandon exchange ∧
      Lane.Abandons exchange write body before after

/-! ### One move, for a lane -/

section Lanes

variable {before after : History σ} {number : Nat} {lane : Lane σ}

theorem lane_quiet (found : before.lane? number = some lane)
    (quiet : ∃ later, after.relay.registry.tunnel? number = some later ∧
      lane.tunnel.Quiet later)
    (writes : ∀ exchange, writesOn after.relay.exchanges number exchange =
      writesOn before.relay.exchanges number exchange)
    (posts : after.posts = before.posts) :
    ∃ next, after.lane? number = some next ∧ lane.Step next := by
  obtain ⟨there, own, known⟩ := lane?_eq_some found
  obtain ⟨later, here, same⟩ := quiet
  obtain ⟨next, is, tunnel, writes_, posts_⟩ := lane?_of_tunnel here
  rw [← tunnel] at same
  refine ⟨next, is, Lane.Step.quiet same ?_ ?_⟩
  · rw [writes_, own]
    exact writes
  · rw [posts_, known]
    exact posts

theorem lane_post {post : Post} (found : before.lane? number = some lane)
    (quiet : ∃ later, after.relay.registry.tunnel? number = some later ∧
      lane.tunnel.Quiet later)
    (writes : ∀ exchange, writesOn after.relay.exchanges number exchange =
      writesOn before.relay.exchanges number exchange)
    (posts : after.posts = before.posts ++ [post]) :
    ∃ next, after.lane? number = some next ∧ lane.Step next := by
  obtain ⟨there, own, known⟩ := lane?_eq_some found
  obtain ⟨later, here, same⟩ := quiet
  obtain ⟨next, is, tunnel, writes_, posts_⟩ := lane?_of_tunnel here
  rw [← tunnel] at same
  rw [← posts_, ← known] at posts
  refine ⟨next, is, Lane.Step.post same ?_ posts⟩
  rw [writes_, own]
  exact writes

theorem lane_enter {post : Post} {later : RegisteredTunnel (Recorded σ)}
    (aligned : before.Aligned) (found : before.lane? number = some lane)
    (addressed : post.isFor lane.tunnel = true)
    (there : after.relay.registry.tunnel? number = some later)
    (tracks : lane.tunnel.Tracks later [])
    (lock : later.tunnel.writerLock =
      lane.tunnel.tunnel.writerLock.request before.relay.exchanges.length)
    (entered : writesOn after.relay.exchanges number
      before.relay.exchanges.length =
        some ({ ticket := before.relay.exchanges.length, tunnel := number },
          post.body))
    (writes : OneWrite number before.relay.exchanges.length
      before.relay.exchanges after.relay.exchanges)
    (posts : after.posts = before.posts ++ [post]) :
    ∃ next, after.lane? number = some next ∧ lane.Step next := by
  obtain ⟨here, own, known⟩ := lane?_eq_some found
  obtain ⟨next, is, tunnel, writes_, posts_⟩ := lane?_of_tunnel there
  have length : lane.posts.length = before.relay.exchanges.length := by
    rw [known]
    exact aligned.posts
  rw [← tunnel] at tracks lock
  rw [← length, ← writes_] at entered
  refine ⟨next, is, Lane.Step.enter tracks ?_ addressed entered rfl rfl
    FilteredWriter.hasSeen_nil ?_ ?_⟩
  · rw [length]
    exact lock
  · intro other differs
    rw [length] at differs
    rw [writes_, own]
    exact writes.others other differs
  · rw [posts_, known]
    exact posts

theorem lane_deliver {index : Nat} {more : List BodyEvent}
    (found : before.lane? number = some lane)
    (registry : after.relay.registry = before.relay.registry)
    (exchanges : after.relay.exchanges =
      before.relay.exchanges.modify index fun exchange =>
        { exchange with body := exchange.body ++ more })
    (posts : after.posts = before.posts.modify index fun post =>
      { post with body := post.body ++ more }) :
    ∃ next, after.lane? number = some next ∧ lane.Step next := by
  obtain ⟨here, own, known⟩ := lane?_eq_some found
  rw [← registry] at here
  obtain ⟨next, is, tunnel, writes, posts_⟩ := lane?_of_tunnel here
  obtain ⟨delivered, others⟩ :=
    writesOn_modify before.relay.exchanges index number more
  rw [← exchanges, ← writes, ← own] at delivered
  refine ⟨next, is, Lane.Step.deliver ?_ delivered ?_ ?_⟩
  · rw [tunnel]
    exact RegisteredTunnel.Quiet.refl _
  · intro other differs
    rw [writes, own, exchanges]
    exact others other differs
  · rw [posts_, known]
    exact posts

end Lanes

variable [Connection σ]

section Moves

variable {environment : Environment σ} {before after : History σ}
  {number : Nat}

theorem Effect.registry (effect : Effect environment before after) :
    after.relay.registry.uuids = before.relay.registry.uuids ∨
      (∃ attempt request tunnel token,
        environment.connect attempt request = .ok tunnel ∧
        (before.relay.registry.put tunnel.recorded token).Quiet
          after.relay.registry) ∧
      SameWrites before.relay.exchanges after.relay.exchanges := by
  cases effect with
  | quiet registry | post registry => exact Or.inl registry.uuids
  | enter found addressed registry => exact Or.inl registry.uuids
  | deliver registry => exact Or.inl (congrArg Registry.uuids registry)
  | connect connected registry writes posts =>
      exact Or.inr ⟨⟨_, _, _, _, connected, registry⟩, writes⟩
  | write was stepped ended goes writes posts =>
      rename_i index write later pace answer given body rest
      have beside := write.step_beside body answer before.relay.registry
      rw [stepped] at beside
      exact Or.inl beside.uuids

omit [Connection σ] in
theorem GivesUp.beside {index : Nat} {write : Write} {body : List BodyEvent}
    (gives : GivesUp index before after write body) :
    before.relay.registry.Beside write.tunnel after.relay.registry := by
  rw [gives.registry]
  apply Registry.beside_update
  intro registered _
  rfl

theorem Effect.lane {lane : Lane σ} (effect : Effect environment before after)
    (aligned : before.Aligned)
    (earlier : before.relay.registry.uuids.Nodup)
    (distinct : after.relay.registry.uuids.Nodup)
    (found : before.lane? number = some lane) (orderly : lane.Orderly) :
    ∃ next, after.lane? number = some next ∧ lane.Step next := by
  obtain ⟨here, own, known⟩ := lane?_eq_some found
  cases effect with
  | quiet registry writes posts =>
      exact lane_quiet found (registry.each number _ here) (writes number) posts
  | post registry writes posts =>
      exact lane_post found (registry.each number _ here) (writes number) posts
  | enter target addressed registry there tracks lock entered writes posts =>
      rename_i post entry registered later
      by_cases same : number = entry
      · subst same
        rw [here] at target
        cases target
        exact lane_enter aligned found addressed there tracks lock entered
          writes posts
      · exact lane_post found (registry.each number _ same here)
          (writes.elsewhere number same) posts
  | deliver registry exchanges posts =>
      exact lane_deliver found registry exchanges posts
  | connect connected registry writes posts =>
      rename_i attempt request tunnel token
      have new : (before.relay.registry.put tunnel.recorded
          token).uuids.Nodup := by
        rw [← registry.uuids]
        exact distinct
      have still : (before.relay.registry.put tunnel.recorded token).tunnel?
          number = some lane.tunnel := by
        obtain ⟨within, -⟩ := List.getElem?_eq_some_iff.mp here
        rw [Registry.tunnel?, Registry.put_distinct new,
          List.getElem?_append_left within]
        exact here
      exact lane_quiet found (registry.each number _ still) (writes number)
        posts
  | write was stepped ended goes writes posts =>
      rename_i index write later pace answer given body rest
      have beside := write.step_beside body answer before.relay.registry
      rw [stepped] at beside
      by_cases same : number = write.tunnel
      · subst same
        have length := congrArg List.length beside.uuids
        simp only [Registry.uuids, List.length_map] at length
        obtain ⟨within, -⟩ := List.getElem?_eq_some_iff.mp here
        have there : after.relay.registry.tunnel? write.tunnel =
            some after.relay.registry.tunnels[write.tunnel] :=
          List.getElem?_eq_getElem (length.symm ▸ within)
        obtain ⟨next, is, tunnel, writes_, posts_⟩ := lane?_of_tunnel there
        rw [← tunnel] at there
        rw [← own] at was
        rw [← writes_] at ended goes
        have leads : Write.Leads index write later body rest pace
            before.relay.registry after.relay.registry lane next := by
          refine ⟨here, was, there, ended, goes, ?_, ?_⟩
          · intro other differs
            rw [writes_, own]
            exact writes.others other differs
          · rw [posts_, known]
            exact posts
        exact ⟨next, is, leads.step orderly earlier stepped⟩
      · exact lane_quiet found (beside.each number _ same here)
          (writes.elsewhere number same) posts

omit [Connection σ] in
theorem GivesUp.lane {index : Nat} {write : Write} {body : List BodyEvent}
    {lane : Lane σ} (gives : GivesUp index before after write body)
    (found : before.lane? number = some lane) :
    ∃ next, after.lane? number = some next ∧
      Continues (.abandon index) lane next := by
  obtain ⟨here, own, known⟩ := lane?_eq_some found
  by_cases same : number = write.tunnel
  · subst same
    have final := Write.onTunnel_own here (·.releaseWriter write.ticket)
    rw [← gives.registry] at final
    obtain ⟨next, is, tunnel, writes, posts⟩ := lane?_of_tunnel final
    have back := Write.gives_back_release lane.tunnel write.ticket
    rw [← tunnel] at back
    refine ⟨next, is, Or.inr ⟨index, write, body, rfl, ?_, back.tracks, ?_,
      Or.inl back.lock, ?_, ?_, ?_⟩⟩
    · rw [own]
      exact gives.was
    · rw [Lane.isOpen, tunnel]
      rfl
    · rw [writes]
      exact gives.is
    · intro other differs
      rw [writes, own]
      exact gives.writes.others other differs
    · rw [posts, known]
      exact gives.posts
  · obtain ⟨next, is, step⟩ := lane_quiet found
      (gives.beside.each number _ same here)
      (gives.writes.elsewhere number same) gives.posts
    refine ⟨next, is, Or.inl ⟨step, ?_⟩⟩
    intro other equal
    cases equal
    rw [own]
    exact writesOn_other gives.was same

theorem Effect.writes {exchange : Nat} {entry : Write × List BodyEvent}
    (effect : Effect environment before after)
    (there : writesOn after.relay.exchanges number exchange = some entry) :
    (∃ earlier, writesOn before.relay.exchanges number exchange =
        some earlier) ∨
      number < before.relay.registry.tunnels.length := by
  cases effect with
  | quiet registry writes | post registry writes =>
      rw [writes] at there
      exact Or.inl ⟨entry, there⟩
  | connect connected registry writes =>
      rw [writes] at there
      exact Or.inl ⟨entry, there⟩
  | enter found addressed registry here tracks lock entered writes posts =>
      rename_i post target registered later
      by_cases same : number = target
      · subst same
        exact Or.inr (List.getElem?_eq_some_iff.mp found).1
      · rw [writes.elsewhere number same] at there
        exact Or.inl ⟨entry, there⟩
  | deliver registry exchanges posts =>
      rename_i index more
      obtain ⟨delivered, others⟩ :=
        writesOn_modify before.relay.exchanges index number more
      rw [← exchanges] at delivered others
      left
      by_cases same : exchange = index
      · subst same
        rw [delivered] at there
        obtain ⟨earlier, was, -⟩ := Option.map_eq_some_iff.mp there
        exact ⟨earlier, was⟩
      · rw [others exchange same] at there
        exact ⟨entry, there⟩
  | write was stepped ended goes writes =>
      left
      exact writes.earlier was there

end Moves

/-! ### One move -/

variable (environment : Environment σ) (history : History σ)

theorem registry_perform (move : Move σ) :
    (history.perform environment move).relay.registry.uuids =
        history.relay.registry.uuids ∨
      (∃ attempt request tunnel token,
        environment.connect attempt request = .ok tunnel ∧
        (history.relay.registry.put tunnel.recorded token).Quiet
          (history.perform environment move).relay.registry) ∧
      SameWrites history.relay.exchanges
        (history.perform environment move).relay.exchanges := by
  rcases history.perform_effect environment move with
    ⟨effect, -⟩ | ⟨index, write, body, -, gives⟩
  · exact effect.registry
  · exact Or.inl gives.beside.uuids

theorem uuids_perform (move : Move σ) :
    history.relay.registry.uuids <+:
      (history.perform environment move).relay.registry.uuids := by
  rcases history.registry_perform environment move with same |
    ⟨⟨attempt, request, tunnel, token, -, quiet⟩, -⟩
  · simp only [same, List.prefix_rfl]
  · rw [quiet.uuids, Registry.uuids_put]
    exact List.prefix_append _ _

variable {environment history} {number : Nat} {lane : Lane σ}

theorem perform_lane (move : Move σ) (aligned : history.Aligned)
    (distinct :
      (history.perform environment move).relay.registry.uuids.Nodup)
    (found : history.lane? number = some lane) (orderly : lane.Orderly) :
    ∃ next, (history.perform environment move).lane? number = some next ∧
      Continues move lane next := by
  have earlier := distinct.sublist
    (history.uuids_perform environment move).sublist
  rcases history.perform_effect environment move with
    ⟨effect, idle⟩ | ⟨index, write, body, abandoned, gives⟩
  · obtain ⟨next, is, step⟩ :=
      effect.lane aligned earlier distinct found orderly
    refine ⟨next, is, Or.inl ⟨step, ?_⟩⟩
    intro exchange same
    rw [(lane?_eq_some found).2.1]
    exact idle exchange same number
  · rw [abandoned] at gives ⊢
    exact gives.lane found

theorem perform_fresh (move : Move σ) (connects : environment.Connects)
    (aligned : history.Aligned)
    (distinct :
      (history.perform environment move).relay.registry.uuids.Nodup)
    (absent : history.lane? number = none)
    (found : (history.perform environment move).lane? number = some lane) :
    lane.Fresh := by
  obtain ⟨there, own, -⟩ := lane?_eq_some found
  obtain ⟨within, here⟩ := List.getElem?_eq_some_iff.mp there
  have behind : history.relay.registry.tunnels.length ≤ number :=
    List.getElem?_eq_none_iff.mp (Option.map_eq_none_iff.mp absent)
  rcases history.registry_perform environment move with same |
    ⟨⟨attempt, request, tunnel, token, connected, quiet⟩, writes⟩
  · have length := congrArg List.length same
    simp only [Registry.uuids, List.length_map] at length
    omega
  · rw [quiet.uuids] at distinct
    have new := connects attempt request tunnel connected
    obtain ⟨listed, was, later⟩ := quiet.earlier there
    rw [Registry.tunnel?, Registry.put_distinct distinct,
      List.getElem?_append_right behind, List.getElem?_singleton] at was
    split at was
    · have is := Option.some.inj was
      constructor
      case sane =>
        apply later.tracks.sane
        rw [← is]
        exact ⟨new.isOpen.symm, new.live.trans new.isOpen.symm⟩
      case lock =>
        rw [Lane.lock, later.lock, ← is]
        exact new.lock
      case taken =>
        rw [Lane.taken, later.tracks.taken, ← is]
        rfl
      case fault =>
        intro failed
        rcases later.tracks.fault failed with before | closed
        · rw [← is] at before
          cases before
        · exact closed
      case writes =>
        intro other
        rw [own, writes]
        cases entry : writesOn history.relay.exchanges number other with
        | none => rfl
        | some entry_ =>
            exact absurd (aligned.writes number other entry_ entry)
              (Nat.not_lt_of_le behind)
    · cases was

/-! ### Alignment -/

omit [Connection σ] in
theorem aligned_initial (idleTimeout : Nat) :
    (initial idleTimeout : History σ).Aligned := by
  refine ⟨rfl, rfl, ?_⟩
  intro number exchange entry there
  cases there

theorem lengths_step (environment : Environment (Recorded σ)) (task : Task)
    (relay : Relay (Recorded σ)) :
    (relay.step environment task).2.exchanges.length =
        relay.exchanges.length ∧
      (relay.step environment task).2.sessions.length =
        relay.sessions.length := by
  have session : ∀ index step,
      (relay.stepSession index step).2.exchanges.length =
          relay.exchanges.length ∧
        (relay.stepSession index step).2.sessions.length =
          relay.sessions.length := by
    intro index step
    unfold Relay.stepSession
    split
    · exact ⟨rfl, rfl⟩
    · exact ⟨rfl, List.length_set⟩
  cases task with
  | pump index => exact session index _
  | handler index heeds => exact session index _
  | exchange index =>
      simp only [Relay.step, Relay.stepExchange]
      split
      · exact ⟨rfl, rfl⟩
      · split
        · rename_i parameters _
          simp only [Relay.connectExchange, Relay.connect]
          cases environment.connect relay.requests.length ⟨parameters⟩ with
          | error error => exact ⟨List.length_set, rfl⟩
          | ok tunnel => exact ⟨List.length_set, rfl⟩
        · exact ⟨List.length_set, rfl⟩

theorem aligned_perform (environment : Environment σ) {history : History σ}
    (aligned : history.Aligned) (move : Move σ) :
    (history.perform environment move).Aligned := by
  refine ⟨?_, ?_, ?_⟩
  · have posts := aligned.posts
    cases move with
    | task task =>
        exact posts.trans
          (lengths_step environment.recorded task history.relay).1.symm
    | receive request body wanted =>
        simp only [perform, Relay.perform, Relay.arrive, List.length_append,
          List.length_singleton, posts]
    | deliver index body =>
        simp only [perform, Relay.perform, List.length_modify, posts]
    | abandon index =>
        simp only [perform, Relay.perform, Relay.withdraw]
        split
        · exact posts
        · exact posts.trans List.length_set.symm
    | closeIdle | advance | openSession | say | lose | guacd
    | guacdSession => exact posts
  · have heard := aligned.heard
    cases move with
    | task task =>
        exact heard.trans
          (lengths_step environment.recorded task history.relay).2.symm
    | abandon index =>
        simp only [perform, Relay.perform, Relay.withdraw]
        split
        · exact heard
        · exact heard
    | openSession query =>
        simp only [perform, Relay.perform, Relay.join, Relay.connect,
          List.length_append, List.length_singleton, heard]
    | say session messages | lose session =>
        simp only [perform, Relay.perform, Relay.modifySession,
          List.length_modify, heard]
    | guacdSession session change =>
        simp only [perform, Relay.perform, Relay.modifySession,
          List.length_modify, heard]
    | receive | deliver | closeIdle | advance | guacd => exact heard
  · intro number exchange entry there
    have grows := (history.uuids_perform environment move).length_le
    simp only [Registry.uuids, List.length_map] at grows
    apply Nat.lt_of_lt_of_le _ grows
    rcases history.perform_effect environment move with
      ⟨effect, -⟩ | ⟨index, write, body, -, gives⟩
    · rcases effect.writes there with ⟨earlier, before⟩ | within
      · exact aligned.writes number exchange earlier before
      · exact within
    · obtain ⟨earlier, before⟩ := gives.writes.earlier gives.was there
      exact aligned.writes number exchange earlier before

end History

end TunnelRelay
