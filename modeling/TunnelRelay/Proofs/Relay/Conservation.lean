import TunnelRelay.Proofs.Relay.Delivery
import TunnelRelay.Proofs.Relay.Feeds

/-!
Reads lose, duplicate and reorder nothing.

The answers of the reads of a tunnel, one behind the other, are the frames that guacd has sent and
the replies that were queued, each in its order; what is missing is still in the reader or in the
queue. A reply that waits comes before the next frame that is taken. All of this holds at any time
of a run in which browsers receive their answers, for the same sequence of items, which only grows.
-/

namespace TunnelRelay

open Http LongPoll

variable {σ : Type}

/-! ### Answers of success -/

/-- What an exchange has taken for its answer. All of it is in the answer of a
read that is over; a read that is under way has the rest with it. -/
inductive LongPoll.Exchange.Gives (exchange : Exchange) : Bytes → Prop
  | answered {content : Bytes} (ended : exchange.activity = .answered)
      (brings : exchange.answer.Brings content) : Gives exchange content
  | reading {read : Read} (under_way : exchange.activity = .reading read) :
      Gives exchange (read.content exchange.answer)

theorem LongPoll.Exchange.Gives.ends {exchange : Exchange} {content : Bytes}
    (gives : exchange.Gives content) (ended : exchange.activity = .answered) :
    Bytes.ofText endOfInstructions <:+ exchange.answer.pieces.flatten := by
  cases gives with
  | answered _ brings =>
      obtain ⟨notice, -, body⟩ := brings.body
      exact ⟨_, body.symm⟩
  | reading under_way =>
      rw [under_way] at ended
      cases ended

def readersOf (uuid : Uuid) (posts : List Post) (exchanges : List Exchange) :
    List Exchange :=
  ((posts.zip exchanges).filter fun (post, exchange) =>
    post.reads? = some uuid ∧ exchange.answer.isOk = true).map (·.2)

theorem readersOf_give {uuid : Uuid} {posts : List Post}
    {exchanges : List Exchange} {contents : Nat → Bytes}
    (length : posts.length = exchanges.length)
    (gives : ∀ (index : Nat) post exchange, posts[index]? = some post →
      exchanges[index]? = some exchange →
      if post.reads? = some uuid ∧ exchange.answer.isOk = true then
        exchange.Gives (contents index)
      else contents index = []) :
    ∃ parts, List.Forall₂ Exchange.Gives (readersOf uuid posts exchanges)
        parts ∧
      parts.flatten = (List.range exchanges.length).flatMap contents := by
  induction posts generalizing exchanges contents with
  | nil =>
      cases exchanges with
      | nil => exact ⟨[], .nil, rfl⟩
      | cons exchange exchanges => cases length
  | cons post posts ih =>
      cases exchanges with
      | nil => cases length
      | cons exchange exchanges =>
          have split : (List.range (exchange :: exchanges).length).flatMap
              contents = contents 0 ++
                (List.range exchanges.length).flatMap (contents <| · + 1) := by
            rw [List.length_cons, List.range_succ_eq_map, List.flatMap_cons,
              List.flatMap_map]
          obtain ⟨parts, each, flat⟩ := ih (Nat.succ.inj length)
            fun index => gives (index + 1)
          have first := gives 0 post exchange rfl rfl
          unfold readersOf at each ⊢
          rw [List.zip_cons_cons, List.filter_cons, split, ← flat]
          split at first
          · rename_i reads
            refine ⟨contents 0 :: parts, ?_, rfl⟩
            rw [if_pos (decide_eq_true reads)]
            exact .cons first each
          · rename_i aside
            refine ⟨parts, ?_, ?_⟩
            · rw [if_neg (by simpa using aside)]
              exact each
            · rw [first]
              rfl

/-! ### Replies before frames -/

namespace Feed

variable {before after : Feed} {taken : List Item}

theorem Step.queue (step : before.Step after taken) :
    before.inlet.queue <+: Item.replies taken ++ after.inlet.queue := by
  cases step with
  | rests inlet =>
      rw [inlet, Inlet.push_queue]
      exact List.prefix_append _ _
  | arrives idle inlet | enters ticket stage fresh proper inlet
  | leaves there fresh inlet =>
      rw [inlet]
      exact List.prefix_refl _
  | turns there held supplies =>
      exact ⟨[], (List.append_nil _).trans supplies.queue⟩

theorem Step.waited (step : before.Step after taken)
    (some : Item.frames taken ≠ []) : before.inlet.queue = [] := by
  cases step with
  | turns there held supplies => exact supplies.waited some
  | rests | arrives | enters | leaves => exact absurd rfl some

end Feed

/-- The items that were taken since some replies waited, with what waits now:
those replies come before any frame. -/
structure Heeds (replies : List Instruction) (items : List Item)
    (queue : List Instruction) : Prop where
  all : replies <+: Item.replies items ++ queue
  first : ∀ front frame back, items = front ++ .frame frame :: back →
    replies <+: Item.replies front

theorem Heeds.start (queue : List Instruction) : Heeds queue [] queue :=
  ⟨List.prefix_refl _, by simp⟩

theorem Heeds.step {replies : List Instruction} {items taken : List Item}
    {before after : Feed} (heeds : Heeds replies items before.inlet.queue)
    (step : before.Step after taken) :
    Heeds replies (items ++ taken) after.inlet.queue := by
  constructor
  · rw [Item.replies_append, List.append_assoc]
    exact heeds.all.trans (List.prefix_append_right_inj _ |>.mpr step.queue)
  · intro front frame back split
    -- the frame is new, so nothing waits: the replies are among the items
    have late : ∀ front_, taken = front_ ++ .frame frame :: back →
        replies <+: Item.replies (items ++ front_) := by
      intro front_ here
      have none_ := step.waited (by rw [here]; simp [Item.frames, Item.frame?])
      have all := heeds.all
      rw [none_, List.append_nil] at all
      rw [Item.replies_append]
      exact all.trans (List.prefix_append _ _)
    rcases List.append_eq_append_iff.mp split with
      ⟨front_, rfl, here⟩ | ⟨rest, here, there⟩
    · exact late front_ here
    · cases rest with
      | nil =>
          rw [List.append_nil] at here
          subst here
          have last := late [] there.symm
          rw [List.append_nil] at last
          exact last
      | cons item rest =>
          cases there
          exact heeds.first front frame rest here

namespace History

def waiting (history : History (Tapped σ)) (number : Nat) : List Instruction :=
  (history.relay.registry.tunnel? number).elim [] (·.outbox.queue)

theorem waiting_of_inlet {history : History (Tapped σ)} {number : Nat}
    {inlet : Inlet}
    (found : history.relay.registry.inlets[number]? = some inlet) :
    history.waiting number = inlet.queue := by
  rw [Registry.inlets_getElem?] at found
  obtain ⟨registered, there, rfl⟩ := Option.map_eq_some_iff.mp found
  rw [waiting, there]
  rfl

theorem waiting_of_absent {history : History (Tapped σ)} {number : Nat}
    (absent : history.relay.registry.uuids[number]? = none) :
    history.waiting number = [] := by
  rw [Registry.uuids, List.getElem?_map, Option.map_eq_none_iff] at absent
  have nothing : history.relay.registry.tunnel? number = none := absent
  rw [waiting, nothing]
  rfl

/-! ### What conservation means -/

/-- The answers of the reads of a tunnel are the items, and those are all that
has come from guacd and all replies that were queued, but for what is still in
the reader and in the queue. -/
structure Conserves (history : History (Tapped σ))
    (registered : RegisteredTunnel (Recorded (Tapped σ)))
    (queued : List Instruction) (items : List Item) : Prop where
  whole : ∀ frame ∈ Item.frames items, ∃ wire : WireFrame,
    Bytes.ofText frame.raw = wire.bytes ∧
      frame.instruction = wire.instruction
  arrived : registered.tunnel.backend.arrived =
    Frame.received (Item.frames items) ++ registered.tunnel.reader.buffer
  replies : queued = Item.replies items ++ registered.outbox.queue
  bodies : ∃ contents, List.Forall₂ Exchange.Gives
      (readersOf registered.tunnel.uuid history.posts history.relay.exchanges)
      contents ∧
    contents.flatten = Item.wire items
  ends : ∀ exchange ∈ readersOf registered.tunnel.uuid history.posts
      history.relay.exchanges, exchange.activity = .answered →
    Bytes.ofText endOfInstructions <:+ exchange.answer.pieces.flatten

theorem gives_of_holds {exchange : Exchange} {inlet : Inlet} {index : Nat}
    {content : Bytes} (holds : exchange.entry.Holds inlet index content)
    (reads : exchange.entry ≠ .other) :
    if exchange.answer.isOk = true then exchange.Gives content
    else content = [] := by
  unfold Exchange.entry at holds reads
  cases activity : exchange.activity with
  | collecting | connecting | writing =>
      rw [activity] at reads
      exact absurd rfl reads
  | reading read =>
      rw [activity] at holds
      cases holds with
      | reading stands =>
          split
          · exact .reading activity
          · rename_i refused
            have fresh : read.begun = false := by
              by_contra begun
              exact refused (stands.proper.begun (eq_true_of_ne_false begun))
            exact (stands.proper.fresh fresh).2
  | answered =>
      rw [activity] at holds
      cases holds with
      | answered brings =>
          rw [if_pos brings.isOk]
          exact .answered activity brings
      | refused failed =>
          rw [if_neg (ne_true_of_eq_false failed)]

theorem Conserves.of_accounts {history : History (Tapped σ)}
    {registered : RegisteredTunnel (Recorded (Tapped σ))}
    {queued : List Instruction} {contents : Nat → Bytes} {items : List Item}
    (aligned : history.Aligned) (attended : history.Attended)
    (accounts : (history.feed registered.tunnel.uuid registered.inlet).Accounts
      queued contents items) : history.Conserves registered queued items := by
  have gives : ∀ (index : Nat) post exchange,
      history.posts[index]? = some post →
      history.relay.exchanges[index]? = some exchange →
      if post.reads? = some registered.tunnel.uuid ∧
          exchange.answer.isOk = true then exchange.Gives (contents index)
      else contents index = [] := by
    intro index post exchange posted found
    have holds := accounts.holds index
    have asked : asks history.posts index = post.reads? := by
      rw [asks, posted]
      rfl
    simp only [feed, entriesFor] at holds
    rw [asked, entries_of_some found] at holds
    by_cases reads : post.reads? = some registered.tunnel.uuid
    · rw [if_pos reads] at holds
      have busy := attended.asked index _ (asked.trans reads)
      rw [entries_of_some found] at busy
      simp only [reads, true_and]
      exact gives_of_holds holds busy
    · rw [if_neg reads] at holds
      rw [if_neg fun both => reads both.1]
      generalize contents index = content at holds
      cases holds
      rfl
  obtain ⟨parts, each, flat⟩ := readersOf_give aligned.posts gives
  have ends := (List.forall₂_and_left _ _).mp
    (each.imp fun _ _ gives => ⟨gives.ends, gives⟩)
  exact ⟨accounts.whole, accounts.arrived, accounts.replies,
    ⟨parts, each, flat.trans accounts.sum⟩, ends.1⟩

/-! ### Runs whose connections keep what arrives -/

section Runs

variable [Connection σ] (environment : Environment σ) (idleTimeout : Nat)

def tapped (moves : List (Move σ)) : History (Tapped σ) :=
  run environment.tapped idleTimeout (moves.map Move.tapped)

/-- The replies that moves queue for a tunnel: with each move, what is in the
queue behind that which has waited before. -/
def queuedBy (number : Nat) :
    History (Tapped σ) → List (Move σ) → List Instruction
  | _, [] => []
  | history, move :: moves =>
      let next := history.perform environment.tapped move.tapped
      (next.waiting number).drop (history.waiting number).length ++
        queuedBy number next moves

/-- All replies that were queued for a tunnel in a run. -/
def queued (number : Nat) (moves : List (Move σ)) : List Instruction :=
  queuedBy environment number (initial idleTimeout) moves

theorem tapped_snoc (moves : List (Move σ)) (move : Move σ) :
    tapped environment idleTimeout (moves ++ [move]) =
      (tapped environment idleTimeout moves).perform environment.tapped
        move.tapped := by
  rw [tapped, List.map_append]
  exact run_snoc _ _ _ _

theorem queued_snoc (number : Nat) (moves : List (Move σ)) (move : Move σ) :
    queued environment idleTimeout number (moves ++ [move]) =
      queued environment idleTimeout number moves ++
        ((tapped environment idleTimeout (moves ++ [move])).waiting
          number).drop
          ((tapped environment idleTimeout moves).waiting number).length := by
  rw [tapped_snoc]
  unfold queued tapped run
  generalize initial idleTimeout = history
  induction moves generalizing history with
  | nil => exact List.append_nil _
  | cons first moves ih =>
      have rest := ih (history.perform environment.tapped first.tapped)
      rw [List.cons_append, queuedBy, rest, queuedBy, List.append_assoc]
      rfl

theorem tapped_uuids (moves more : List (Move σ)) :
    (tapped environment idleTimeout moves).relay.registry.uuids <+:
      (tapped environment idleTimeout (moves ++ more)).relay.registry.uuids := by
  induction more using List.reverseRecOn with
  | nil => exact ⟨[], by rw [List.append_nil, List.append_nil]⟩
  | append_singleton more last ih =>
      rw [← List.append_assoc, tapped_snoc]
      exact ih.trans (uuids_perform _ _ _)

variable {environment} {idleTimeout}

theorem queued_absent {number : Nat} {moves : List (Move σ)}
    (absent : (tapped environment idleTimeout moves).relay.registry.uuids[
      number]? = none) : queued environment idleTimeout number moves = [] := by
  induction moves using List.reverseRecOn with
  | nil => rfl
  | append_singleton moves last ih =>
      have before : (tapped environment idleTimeout
          moves).relay.registry.uuids[number]? = none := by
        have grows := (tapped_uuids environment idleTimeout moves
          [last]).length_le
        rw [List.getElem?_eq_none_iff] at absent ⊢
        exact Nat.le_trans grows absent
      rw [queued_snoc, ih before, waiting_of_absent absent]
      exact List.drop_nil

variable (environment) (idleTimeout)

theorem tapped_attended (moves : List (Move σ)) :
    (tapped environment idleTimeout moves).Attended := by
  induction moves using List.reverseRecOn with
  | nil => exact ⟨nofun, nofun, nofun⟩
  | append_singleton moves last ih =>
      rw [tapped_snoc]
      exact (perform_attends (run_aligned _) ih last).attended ih

theorem tapped_attends (moves : List (Move σ)) (last : Move σ) :
    Attends environment last (tapped environment idleTimeout moves)
      (tapped environment idleTimeout (moves ++ [last])) := by
  rw [tapped_snoc]
  exact perform_attends (run_aligned _)
    (tapped_attended environment idleTimeout moves) last

def Accounted (number : Nat) (uuid : Uuid) (moves : List (Move σ))
    (inlet : Inlet) (items : List Item) : Prop :=
  ∃ contents, ((tapped environment idleTimeout moves).feed uuid inlet).Accounts
    (queued environment idleTimeout number moves) contents items

variable {environment} {idleTimeout} {number : Nat} {uuid : Uuid}
  {moves : List (Move σ)} {last : Move σ} {inlet : Inlet}

theorem accounted_fresh (unread : environment.ConnectsUnread)
    (distinct : (tapped environment idleTimeout
      (moves ++ [last])).relay.registry.uuids.Nodup)
    (absent : (tapped environment idleTimeout moves).relay.registry.uuids[
      number]? = none)
    (found : (tapped environment idleTimeout
      (moves ++ [last])).relay.registry.inlets[number]? = some inlet)
    (own : (tapped environment idleTimeout
      (moves ++ [last])).relay.registry.uuids[number]? = some uuid) :
    Accounted environment idleTimeout number uuid (moves ++ [last]) inlet
      [] := by
  have attended := tapped_attended environment idleTimeout moves
  have attends := tapped_attends environment idleTimeout moves last
  obtain ⟨accounts, empty⟩ :=
    attends.fresh attended unread distinct absent found own
  have nothing : queued environment idleTimeout number (moves ++ [last]) =
      [] := by
    rw [queued_snoc, queued_absent absent, waiting_of_inlet found, empty]
    exact List.drop_nil
  refine ⟨fun _ => [], ?_⟩
  rw [nothing]
  exact accounts

theorem accounted_step {before : Inlet} {items : List Item}
    (distinct : (tapped environment idleTimeout
      moves).relay.registry.uuids.Nodup)
    (stays : ¬ (tapped environment idleTimeout moves).Deserts number last)
    (there : (tapped environment idleTimeout moves).relay.registry.inlets[
      number]? = some before)
    (own : (tapped environment idleTimeout moves).relay.registry.uuids[
      number]? = some uuid)
    (accounted : Accounted environment idleTimeout number uuid moves before
      items)
    (found : (tapped environment idleTimeout
      (moves ++ [last])).relay.registry.inlets[number]? = some inlet) :
    ∃ taken,
      Accounted environment idleTimeout number uuid (moves ++ [last]) inlet
        (items ++ taken) ∧
      ((tapped environment idleTimeout moves).feed uuid before).Step
        ((tapped environment idleTimeout (moves ++ [last])).feed uuid inlet)
        taken := by
  obtain ⟨contents, accounts⟩ := accounted
  have attended := tapped_attended environment idleTimeout moves
  have attends := tapped_attends environment idleTimeout moves last
  obtain ⟨later, taken, here, -, step⟩ :=
    attends.feeds attended distinct there own accounts stays
  rw [found] at here
  cases here
  obtain ⟨others, goes⟩ := accounts.step step
  refine ⟨taken, ⟨others, ?_⟩, step⟩
  rw [queued_snoc, waiting_of_inlet found, waiting_of_inlet there]
  exact goes

/-- The items that were taken in a run are in order, and go on from those of
every earlier time. -/
theorem run_accounted (unread : environment.ConnectsUnread)
    (distinct : Distinct environment.tapped idleTimeout
      (moves.map Move.tapped))
    (stays : ∀ earlier move later, moves = earlier ++ move :: later →
      ¬ (tapped environment idleTimeout earlier).Deserts number move)
    (found : (tapped environment idleTimeout moves).relay.registry.inlets[
      number]? = some inlet)
    (own : (tapped environment idleTimeout moves).relay.registry.uuids[
      number]? = some uuid) :
    ∃ items, Accounted environment idleTimeout number uuid moves inlet items ∧
      ∀ earlier before, earlier <+: moves →
        (tapped environment idleTimeout earlier).relay.registry.inlets[
          number]? = some before →
        ∃ sent rest, items = sent ++ rest ∧
          Accounted environment idleTimeout number uuid earlier before sent ∧
          Heeds before.queue rest inlet.queue := by
  induction moves using List.reverseRecOn generalizing inlet with
  | nil => cases found
  | append_singleton moves last ih =>
      have grows := tapped_uuids environment idleTimeout moves [last]
      have distinct_ : Distinct environment.tapped idleTimeout
          (moves.map Move.tapped) := by
        rw [List.map_append] at distinct
        exact distinct.earlier
      have stays_ := each_of_snoc stays
      cases there : (tapped environment idleTimeout
          moves).relay.registry.inlets[number]? with
      | none =>
          -- the last move has opened the tunnel, and no earlier time knows it
          have absent : (tapped environment idleTimeout
              moves).relay.registry.uuids[number]? = none := by
            rw [List.getElem?_eq_none_iff] at there ⊢
            rw [← inlets_length]
            exact there
          have fresh := accounted_fresh unread distinct absent found own
          refine ⟨[], fresh, ?_⟩
          intro earlier before earlier_ here
          rcases List.prefix_concat_iff.mp earlier_ with rfl | ⟨more, rfl⟩
          · rw [found] at here
            cases here
            exact ⟨[], [], rfl, fresh, .start _⟩
          · have grown := (tapped_uuids environment idleTimeout earlier
              more).length_le
            rw [← inlets_length, ← inlets_length] at grown
            obtain ⟨inside, -⟩ := List.getElem?_eq_some_iff.mp here
            rw [List.getElem?_eq_none_iff] at there
            omega
      | some middle =>
          have own_ : (tapped environment idleTimeout
              moves).relay.registry.uuids[number]? = some uuid := by
            obtain ⟨inside, -⟩ := List.getElem?_eq_some_iff.mp there
            rw [inlets_length] at inside
            rw [← own, List.prefix_iff_getElem?.mp grows number inside]
            exact List.getElem?_eq_getElem inside
          obtain ⟨items, accounted, all⟩ :=
            ih distinct_ stays_ there own_
          obtain ⟨taken, goes, step⟩ := accounted_step distinct_
            (stays moves last [] rfl) there own_ accounted found
          refine ⟨items ++ taken, goes, ?_⟩
          intro earlier before earlier_ here
          rcases List.prefix_concat_iff.mp earlier_ with rfl | within
          · rw [found] at here
            cases here
            exact ⟨items ++ taken, [], (List.append_nil _).symm, goes,
              .start _⟩
          · obtain ⟨sent, rest, rfl, accounted_, heeds⟩ :=
              all earlier before within here
            exact ⟨sent, rest ++ taken, List.append_assoc .., accounted_,
              heeds.step step⟩

/-- Reads lose, duplicate and reorder nothing while browsers receive their
answers. A reply that waits at some time of a run comes before every frame that
is taken from then on. -/
theorem reads_conserve (environment : Environment σ) (idleTimeout : Nat)
    (moves : List (Move σ)) (number : Nat)
    (unread : environment.ConnectsUnread)
    (distinct : Distinct environment.tapped idleTimeout
      (moves.map Move.tapped))
    (stays : ∀ earlier move later, moves = earlier ++ move :: later →
      ¬ (tapped environment idleTimeout earlier).Deserts number move)
    {registered : RegisteredTunnel (Recorded (Tapped σ))}
    (there : (tapped environment idleTimeout moves).relay.registry.tunnel?
      number = some registered) :
    ∃ items,
      (tapped environment idleTimeout moves).Conserves registered
        (queued environment idleTimeout number moves) items ∧
      ∀ earlier before, earlier <+: moves →
        (tapped environment idleTimeout earlier).relay.registry.tunnel?
          number = some before →
        ∃ sent rest, items = sent ++ rest ∧
          (tapped environment idleTimeout earlier).Conserves before
            (queued environment idleTimeout number earlier) sent ∧
          ∀ front frame back, rest = front ++ .frame frame :: back →
            before.outbox.queue <+: Item.replies front := by
  have inlet : ∀ {moves : List (Move σ)} {registered},
      (tapped environment idleTimeout moves).relay.registry.tunnel? number =
        some registered →
      (tapped environment idleTimeout moves).relay.registry.inlets[number]? =
          some registered.inlet ∧
        (tapped environment idleTimeout moves).relay.registry.uuids[number]? =
          some registered.tunnel.uuid := by
    intro moves registered there
    rw [Registry.inlets_getElem?, there, Registry.uuids, List.getElem?_map]
    have here : (tapped environment idleTimeout moves).relay.registry.tunnels[
        number]? = some registered := there
    rw [here]
    exact ⟨rfl, rfl⟩
  obtain ⟨found, own⟩ := inlet there
  obtain ⟨items, ⟨contents, accounts⟩, all⟩ :=
    run_accounted unread distinct stays found own
  refine ⟨items, .of_accounts (run_aligned _)
    (tapped_attended environment idleTimeout moves) accounts, ?_⟩
  rintro earlier before ⟨more, rfl⟩ here
  obtain ⟨found_, own_⟩ := inlet here
  obtain ⟨sent, rest, split, ⟨others, accounts_⟩, heeds⟩ :=
    all earlier before.inlet ⟨more, rfl⟩ found_
  have same : before.tunnel.uuid = registered.tunnel.uuid := by
    have grows := tapped_uuids environment idleTimeout earlier more
    obtain ⟨inside, is⟩ := List.getElem?_eq_some_iff.mp own_
    rw [List.prefix_iff_getElem?.mp grows number inside, is] at own
    exact Option.some.inj own
  rw [← same] at accounts_
  exact ⟨sent, rest, split, .of_accounts (run_aligned _)
    (tapped_attended environment idleTimeout earlier) accounts_, heeds.first⟩

end Runs

/-- Connections on which guacd has room for some frames. -/
def wide : Environment Link :=
  Environment.scripted [] (fun _ => ⟨0⟩) none (Link.ofCapacity 64)
    (fun _ => "t") 8192

def reading : Move Link :=
  .receive
    { target := "/tunnel?read:00000000000000000000000000000000"
      headers := [("guacamole-tunnel-token", Bytes.ofText "t")] }
    [] true

def guacdSends (text : String) : Move Link :=
  .guacd 0 fun link => (link.guacdWrite (Bytes.ofText text)).2

/-- A frame comes in two pieces. A ping is answered when the next frame has
begun; a second read gets the reply, and a third one the frame. -/
def pingedRun : List (Move Link) :=
  let turns (exchange count : Nat) : List (Move Link) :=
    List.replicate count (.task (.exchange exchange))
  .receive { target := "/tunnel?connect" } [] true :: turns 0 1 ++
    reading :: guacdSends "3.n" :: turns 1 3 ++
    guacdSends "op;4.sync,1" :: turns 1 3 ++
    writing "0.,4.ping,1.7;" :: turns 2 3 ++
    guacdSends ".1;" :: reading :: turns 3 3 ++
    reading :: turns 4 6

theorem wide_unread : wide.ConnectsUnread :=
  Environment.scripted_connectsUnread _ _ _ _ _ _

theorem reads_conserve_ping :
    wide.ConnectsUnread ∧ Distinct wide.tapped 0 (pingedRun.map Move.tapped) ∧
    (∀ earlier move later, pingedRun = earlier ++ move :: later →
      ¬ (tapped wide 0 earlier).Deserts 0 move) ∧
    ∃ registered items,
      (tapped wide 0 pingedRun).relay.registry.tunnel? 0 = some registered ∧
      (tapped wide 0 pingedRun).Conserves registered
        (queued wide 0 0 pingedRun) items ∧
      (readersOf ⟨0⟩ (tapped wide 0 pingedRun).posts
          (tapped wide 0 pingedRun).relay.exchanges).map
        (·.answer.pieces.flatten) =
        [Bytes.ofText "3.nop;0.;", Bytes.ofText "0.,4.ping,1.7;0.;",
          Bytes.ofText "4.sync,1.1;0.;"] := by
  have distinct : Distinct wide.tapped 0 (pingedRun.map Move.tapped) := by
    unfold Distinct
    decide +kernel
  have stays : ∀ earlier move later, pingedRun = earlier ++ move :: later →
      ¬ (tapped wide 0 earlier).Deserts 0 move := by
    intro earlier move later split
    have patient : pingedRun.all (·.isPatient) = true := by decide +kernel
    have member : move ∈ pingedRun := by
      rw [split]
      exact List.mem_append_right _ List.mem_cons_self
    exact not_deserts_of_patient (List.all_eq_true.mp patient move member)
  have opened : ((tapped wide 0 pingedRun).relay.registry.tunnel?
      0).isSome = true := by decide +kernel
  obtain ⟨registered, there⟩ := Option.isSome_iff_exists.mp opened
  obtain ⟨items, conserves, -⟩ := reads_conserve wide 0 pingedRun 0 wide_unread
    distinct stays there
  exact ⟨wide_unread, distinct, stays, registered, items, there, conserves,
    by decide +kernel⟩

end History

end TunnelRelay
