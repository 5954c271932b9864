import Mathlib.Data.List.Forall2
import TunnelRelay.Proofs.Relay.Lane

/-!
The account of what a lane has sent.

The record of a tunnel is the beginning of the whole frames that its write requests bring for
guacd, request after request. While the tunnel is open, what is missing is just what the first
write of the lane has not sent yet. The account is kept by every step of a lane except one: a write
that is given up in the middle of a frame.
-/

namespace TunnelRelay

open LongPoll

theorem Conveys.take_mono {sources : List Bytes} {frames : List Frame}
    {first second : Nat} (conveyed : Conveys (sources.take first) frames)
    (before : first ≤ second) : Conveys (sources.take second) frames := by
  have split : sources.take second =
      sources.take first ++ (sources.take second).drop first := by
    have cut := List.take_append_drop first (sources.take second)
    rw [List.take_take, Nat.min_eq_left before] at cut
    exact cut.symm
  have extended := conveyed.append
    (Conveys.silent ((sources.take second).drop first))
  rw [List.append_nil, ← split] at extended
  exact extended

theorem Conveys.of_take {sources : List Bytes} {frames : List Frame}
    {count : Nat} (conveyed : Conveys (sources.take count) frames) :
    Conveys sources frames := by
  have extended := conveyed.append (Conveys.silent (sources.drop count))
  rw [List.append_nil, List.take_append_drop] at extended
  exact extended

namespace Lane

variable {σ : Type}

def taken (lane : Lane σ) : Bytes :=
  lane.tunnel.record.taken

/-! ### Sources that grow -/

def Grows (before after : Lane σ) : Prop :=
  ∃ longer new, after.sources = longer ++ new ∧
    List.Forall₂ (· <+: ·) before.sources longer

theorem Grows.conveys {before after : Lane σ} (grows : before.Grows after)
    {frames : List Frame} (conveyed : Conveys before.sources frames) :
    Conveys after.sources frames := by
  obtain ⟨longer, new, sources, extends_⟩ := grows
  have all := (conveyed.mono extends_).append (Conveys.silent new)
  rw [List.append_nil, ← sources] at all
  exact all

theorem Grows.delivers {before after : Lane σ} (grows : before.Grows after)
    {bytes : Bytes} (delivered : Delivers before.sources bytes) :
    Delivers after.sources bytes := by
  obtain ⟨frames, conveyed, -, same⟩ := delivered
  exact (grows.conveys conveyed).delivers same

theorem Grows.conveys_take {before after : Lane σ} (grows : before.Grows after)
    {frames : List Frame} {count : Nat} (within : count ≤ before.sources.length)
    (conveyed : Conveys (before.sources.take count) frames) :
    Conveys (after.sources.take count) frames := by
  obtain ⟨longer, new, sources, extends_⟩ := grows
  rw [sources, List.take_append_of_le_length
    (Nat.le_trans within (Nat.le_of_eq extends_.length_eq))]
  exact conveyed.mono (List.forall₂_take count extends_)

theorem sources_length (lane : Lane σ) :
    lane.sources.length = lane.posts.length :=
  List.length_map _

theorem grows_of_posts {before after : Lane σ} {gone : Bytes}
    (tracks : before.tunnel.Tracks after.tunnel gone) {new : List Post}
    (posts : after.posts = before.posts ++ new) : before.Grows after := by
  refine ⟨before.sources, new.map fun post =>
    if post.isFor before.tunnel then post.data else [], ?_, ?_⟩
  · rw [sources, posts, List.map_append]
    simp only [Post.isFor_congr tracks.uuid tracks.token]
    rfl
  · exact List.forall₂_same.mpr fun _ _ => List.prefix_rfl

theorem grows_of_same {before after : Lane σ} {gone : Bytes}
    (tracks : before.tunnel.Tracks after.tunnel gone)
    (posts : after.posts = before.posts) : before.Grows after :=
  grows_of_posts tracks (by rw [posts, List.append_nil])

theorem forall₂_modify {posts : List Post} {bring : Post → Bytes}
    {change : Post → Post} (longer : ∀ post, bring post <+: bring (change post))
    (number : Nat) :
    List.Forall₂ (· <+: ·) (posts.map bring)
      ((posts.modify number change).map bring) := by
  induction posts generalizing number with
  | nil =>
      rw [List.modify_nil]
      exact List.Forall₂.nil
  | cons post posts ih =>
      cases number with
      | zero =>
          rw [List.modify_zero_cons]
          exact List.Forall₂.cons (longer post)
            (List.forall₂_same.mpr fun _ _ => List.prefix_rfl)
      | succ number =>
          rw [List.modify_succ_cons]
          exact List.Forall₂.cons List.prefix_rfl (ih number)

theorem Step.grows {before after : Lane σ} (step : before.Step after) :
    before.Grows after := by
  cases step with
  | quiet tunnel writes posts => exact grows_of_same tunnel.tracks posts
  | post tunnel writes posts => exact grows_of_posts tunnel.tracks posts
  | enter tunnel lock addressed entered ticket waits fresh others posts =>
      exact grows_of_posts tunnel posts
  | deliver tunnel delivered others posts =>
      rename_i number more
      refine ⟨after.sources, [], (List.append_nil _).symm, ?_⟩
      simp only [sources, posts,
        Post.isFor_congr tunnel.tracks.uuid tunnel.tracks.token]
      apply forall₂_modify
      intro post
      have same : Post.isFor { post with body := post.body ++ more }
          before.tunnel = post.isFor before.tunnel := rfl
      rw [same]
      split
      · rw [Post.data, Post.data, bodyData_append]
        exact List.prefix_append _ _
      · exact List.prefix_rfl
  | acquire was turn tunnel waited is ticket receives filtered others posts =>
      exact grows_of_same tunnel.tracks posts
  | accept was received tunnel is ticket holds accepted filtered unsent others
      posts => exact grows_of_same tunnel.tracks posts
  | send was held split tunnel lock is ticket holds filtered unsent waited
      others posts => exact grows_of_same tunnel posts
  | leave was nothing tunnel lock is others posts =>
      exact grows_of_same tunnel posts
  | fail was held split tunnel cause closed lock is others posts =>
      exact grows_of_same tunnel posts

/-! ### The account -/

/-- What the first write has unsent ends the frames that guacd has been sent:
those that the requests before it have brought, and its own as far as it has
seen them. -/
def Owes (lane : Lane σ) (number : Nat) (write : Write)
    (body : List BodyEvent) : Prop :=
  ∃ earlier post seen, Conveys (lane.sources.take number) earlier ∧
    lane.posts[number]? = some post ∧ post.data = seen ++ bodyData body ∧
    lane.taken ++ write.unsent = Frame.received (earlier ++ forwardable seen)

/-- What guacd has been sent comes from the requests, whole frame after whole
frame. If the connection has never made a writer wait and never failed, it is
whole frames; so it is while no write is under way. Otherwise the first write
has the rest. Once the tunnel is closed, it is the beginning of whole frames. -/
structure Ledger (lane : Lane σ) : Prop where
  accepted : lane.tunnel.record.waited = false →
    lane.tunnel.record.failed = false → Delivers lane.sources lane.taken
  closed : lane.isOpen = false →
    ∃ rest, Delivers lane.sources (lane.taken ++ rest)
  free : lane.isOpen = true → lane.queue = [] →
    Delivers lane.sources lane.taken
  held : lane.isOpen = true → ∀ number write body,
    lane.writes number = some (write, body) →
    lane.queue.head? = some number → lane.Owes number write body

theorem Owes.start {lane : Lane σ} {number : Nat} {write : Write}
    {body : List BodyEvent} {post : Post} {frames : List Frame}
    (waits : write.stage = .acquiring)
    (found : lane.posts[number]? = some post)
    (data : post.data = bodyData body)
    (conveyed : Conveys (lane.sources.take number) frames)
    (whole : lane.taken = Frame.received frames) :
    lane.Owes number write body := by
  refine ⟨frames, post, [], conveyed, found, data, ?_⟩
  rw [Write.unsent_of_acquiring waits, forwardable_nil, List.append_nil,
    List.append_nil]
  exact whole

theorem Owes.sent {before after : Lane σ} {gone : Bytes} {number : Nat}
    {write next : Write} {body : List BodyEvent}
    (owes : before.Owes number write body)
    (tracks : before.tunnel.Tracks after.tunnel gone)
    (grows : before.Grows after) (split : write.unsent = gone ++ next.unsent)
    (posts : after.posts[number]? = before.posts[number]?) :
    after.Owes number next body := by
  obtain ⟨earlier, post, seen, conveyed, found, data, account⟩ := owes
  have within := (List.getElem?_eq_some_iff.mp found).1
  refine ⟨earlier, post, seen, ?_, posts.trans found, data, ?_⟩
  · apply grows.conveys_take _ conveyed
    rw [sources_length]
    exact Nat.le_of_lt within
  · rw [← account, split, taken, tracks.taken, List.append_assoc]
    rfl

theorem Owes.deliver {before after : Lane σ} {number : Nat} {write : Write}
    {body more : List BodyEvent} (owes : before.Owes number write body)
    (tracks : before.tunnel.Tracks after.tunnel [])
    (grows : before.Grows after)
    (posts : after.posts = before.posts.modify number fun post =>
      { post with body := post.body ++ more }) :
    after.Owes number write (body ++ more) := by
  obtain ⟨earlier, post, seen, conveyed, found, data, account⟩ := owes
  have within := (List.getElem?_eq_some_iff.mp found).1
  refine ⟨earlier, { post with body := post.body ++ more }, seen, ?_, ?_, ?_,
    ?_⟩
  · apply grows.conveys_take _ conveyed
    rw [sources_length]
    exact Nat.le_of_lt within
  · rw [posts, List.getElem?_modify_eq, found]
    rfl
  · rw [bodyData_append, ← List.append_assoc, ← data]
    exact bodyData_append post.body more
  · rw [taken, tracks.taken, List.append_nil]
    exact account

theorem Ledger.held_frames {lane : Lane σ} {number : Nat} {write : Write}
    {body : List BodyEvent} (ledger : lane.Ledger) (orderly : lane.Orderly)
    (open_ : lane.isOpen = true)
    (there : lane.writes number = some (write, body))
    (head : lane.queue.head? = some number) :
    ∃ frames, Conveys (lane.sources.take (number + 1)) frames ∧
      lane.taken ++ write.unsent = Frame.received frames := by
  obtain ⟨earlier, post, seen, conveyed, found, data, account⟩ :=
    ledger.held open_ number write body there head
  refine ⟨earlier ++ forwardable seen, ?_, account⟩
  obtain ⟨again, passed, there_, addressed, -⟩ :=
    (orderly.written number write body there).source
  rw [found] at there_
  cases there_
  have source : lane.sources[number]? = some post.data := by
    rw [sources, List.getElem?_map, found, Option.map_some, if_pos addressed]
  rw [List.take_add_one, source]
  apply conveyed.append
  apply Conveys.single
  rw [data]
  exact forwardable_isPrefix seen _

theorem Ledger.front {lane : Lane σ} (ledger : lane.Ledger)
    (orderly : lane.Orderly) :
    ∃ rest, Delivers lane.sources (lane.taken ++ rest) := by
  cases open_ : lane.isOpen with
  | false => exact ledger.closed open_
  | true =>
      cases queue : lane.queue with
      | nil =>
          refine ⟨[], ?_⟩
          rw [List.append_nil]
          exact ledger.free open_ queue
      | cons first others =>
          obtain ⟨⟨write, body⟩, there⟩ :=
            orderly.queued first (by rw [queue]; exact List.mem_cons_self)
          obtain ⟨frames, conveyed, account⟩ := ledger.held_frames orderly
            open_ there (by rw [queue]; rfl)
          exact ⟨write.unsent, conveyed.of_take.delivers account⟩

theorem Ledger.whole {lane : Lane σ} (ledger : lane.Ledger)
    (orderly : lane.Orderly) (open_ : lane.isOpen = true)
    (idle : ∀ number write body, lane.writes number = some (write, body) →
      write.unsent = []) : Delivers lane.sources lane.taken := by
  cases queue : lane.queue with
  | nil => exact ledger.free open_ queue
  | cons first others =>
      obtain ⟨⟨write, body⟩, there⟩ :=
        orderly.queued first (by rw [queue]; exact List.mem_cons_self)
      obtain ⟨frames, conveyed, account⟩ := ledger.held_frames orderly open_
        there (by rw [queue]; rfl)
      rw [idle first write body there, List.append_nil] at account
      exact conveyed.of_take.delivers account

/-! ### What a step keeps -/

namespace Ledger

theorem gone_of_closed {before after : Lane σ} {gone : Bytes}
    (orderly : before.Orderly) (closed : before.isOpen = false)
    (tracks : before.tunnel.Tracks after.tunnel gone) : gone = [] :=
  (tracks.severed (orderly.sane.2.trans closed)).1

theorem still {before after : Lane σ} (ledger : before.Ledger)
    (orderly : before.Orderly)
    (tracks : before.tunnel.Tracks after.tunnel [])
    (grows : before.Grows after) :
    (after.tunnel.record.waited = false →
      after.tunnel.record.failed = false →
      Delivers after.sources after.taken) ∧
    ∃ rest, Delivers after.sources (after.taken ++ rest) := by
  have same : after.taken = before.taken :=
    tracks.taken.trans (List.append_nil _)
  rw [same]
  constructor
  · intro never sound
    exact grows.delivers
      (ledger.accepted (tracks.unwaited never) (tracks.unfailed sound))
  · obtain ⟨rest, delivered⟩ := ledger.front orderly
    exact ⟨rest, grows.delivers delivered⟩

theorem update {before after : Lane σ} (ledger : before.Ledger)
    (orderly : before.Orderly) (quiet : before.tunnel.Quiet after.tunnel)
    (grows : before.Grows after)
    (held : after.isOpen = true → ∀ number write body,
      after.writes number = some (write, body) →
      before.queue.head? = some number → after.Owes number write body) :
    after.Ledger := by
  obtain ⟨accepted, front⟩ := ledger.still orderly quiet.tracks grows
  have queue : after.queue = before.queue := congrArg Lock.queue quiet.lock
  refine ⟨accepted, fun _ => front, ?_, ?_⟩
  · intro open_ empty
    have same : after.taken = before.taken :=
      quiet.tracks.taken.trans (List.append_nil _)
    rw [same]
    exact grows.delivers
      (ledger.free (quiet.tracks.opened open_) (queue.symm.trans empty))
  · intro open_ number write body there head
    rw [queue] at head
    exact held open_ number write body there head

theorem kept {before after : Lane σ} {number : Nat} {write : Write}
    {body : List BodyEvent} (ledger : before.Ledger)
    (tracks : before.tunnel.Tracks after.tunnel [])
    (grows : before.Grows after) (open_ : after.isOpen = true)
    (there : before.writes number = some (write, body))
    (head : before.queue.head? = some number)
    (posts : after.posts[number]? = before.posts[number]?) :
    after.Owes number write body := by
  have owes := ledger.held (tracks.opened open_) number write body there head
  exact owes.sent tracks grows (List.nil_append _).symm posts

theorem advance {before after : Lane σ} (number : Nat)
    (ledger : before.Ledger) (orderly : before.Orderly)
    (quiet : before.tunnel.Quiet after.tunnel) (grows : before.Grows after)
    (others : Elsewhere number before after)
    (posts : ∀ other, other ≠ number →
      after.posts[other]? = before.posts[other]?)
    (owes : after.isOpen = true → before.queue.head? = some number →
      ∀ write body, after.writes number = some (write, body) →
        after.Owes number write body) : after.Ledger := by
  apply ledger.update orderly quiet grows
  intro open_ other write body there head
  by_cases same : other = number
  · subst same
    exact owes open_ head write body there
  · rw [others other same] at there
    exact ledger.kept quiet.tracks grows open_ there head (posts other same)

theorem sent {before after : Lane σ} {number : Nat} {write : Write}
    {body : List BodyEvent} {gone left : Bytes} (ledger : before.Ledger)
    (orderly : before.Orderly)
    (was : before.writes number = some (write, body)) (held : write.Holds)
    (split : write.unsent = gone ++ left)
    (tracks : before.tunnel.Tracks after.tunnel gone) :
    gone = [] ∨ ∃ frames, Conveys before.sources frames ∧
      after.taken ++ left = Frame.received frames := by
  cases open_ : before.isOpen with
  | false => exact Or.inl (gone_of_closed orderly open_ tracks)
  | true =>
      obtain ⟨frames, conveyed, account⟩ := ledger.held_frames orderly open_
        was (orderly.head_of_holds was held)
      refine Or.inr ⟨frames, conveyed.of_take, ?_⟩
      rw [← account, split, taken, tracks.taken, List.append_assoc]
      rfl

/-- The account of a lane that a write has left, behind whole frames if it was
the first. -/
theorem leave {before after : Lane σ} {number : Nat} {write : Write}
    {body : List BodyEvent} (ledger : before.Ledger)
    (orderly : before.Orderly)
    (was : before.writes number = some (write, body))
    (tracks : before.tunnel.Tracks after.tunnel [])
    (leaves : Lock.Leaves write.ticket before.lock after.lock)
    (is : after.writes number = none)
    (others : Elsewhere number before after)
    (posts : after.posts = before.posts)
    (whole : after.isOpen = true → before.queue.head? = some number →
      ∃ frames, Conveys (before.sources.take (number + 1)) frames ∧
        before.taken = Frame.received frames) : after.Ledger := by
  have grows : before.Grows after := grows_of_same tracks posts
  have same : after.taken = before.taken :=
    tracks.taken.trans (List.append_nil _)
  have queue := (orderly.leave was tracks leaves is others posts).2
  have queued := (orderly.written number write body was).queued
  obtain ⟨accepted, front⟩ := ledger.still orderly tracks grows
  refine ⟨accepted, fun _ => front, ?_, ?_⟩
  · intro open_ empty
    -- the write was the only one, so the first
    have alone : before.queue.head? = some number := by
      by_contra behind
      have first := Lock.head_erase behind
      rw [← queue, empty] at first
      rw [List.head?_eq_none_iff.mp first.symm] at queued
      cases queued
    obtain ⟨frames, conveyed, all⟩ := whole open_ alone
    exact (grows.conveys conveyed.of_take).delivers (same.trans all)
  · intro open_ other next rest there head
    have differs : other ≠ number := by
      rintro rfl
      rw [is] at there
      cases there
    rw [others other differs] at there
    have written := orderly.written other next rest there
    by_cases first : before.queue.head? = some number
    · -- the second write moves up; it has only waited so far
      have waits : next.stage = .acquiring := by
        rcases written.place with waits | held
        · exact waits
        · rw [held.2] at first
          exact absurd (Option.some.inj first) differs
      have later := orderly.behind_first first written.queued differs
      obtain ⟨frames, conveyed, all⟩ := whole open_ first
      obtain ⟨post, seen, found, -, data, -, fresh⟩ := written.source
      cases fresh waits
      rw [← posts] at found
      apply Owes.start waits found data _ (same.trans all)
      apply grows.conveys_take
      · rw [sources_length]
        exact Nat.le_of_lt written.within
      · exact conveyed.take_mono later
    · rw [queue, Lock.head_erase first] at head
      exact ledger.kept tracks grows open_ there head (by rw [posts])

theorem enter {before after : Lane σ} {post : Post} {write : Write}
    (ledger : before.Ledger) (orderly : before.Orderly)
    (tracks : before.tunnel.Tracks after.tunnel [])
    (lock : after.lock = before.lock.request before.posts.length)
    (addressed : post.isFor before.tunnel = true)
    (entered : after.writes before.posts.length = some (write, post.body))
    (ticket : write.ticket = before.posts.length)
    (waits : write.stage = .acquiring) (fresh : write.filtered.HasSeen [])
    (others : Elsewhere before.posts.length before after)
    (posts : after.posts = before.posts ++ [post]) : after.Ledger := by
  have grows : before.Grows after := grows_of_posts tracks posts
  have queue := (orderly.enter tracks lock addressed entered ticket waits fresh
    others posts).2
  obtain ⟨accepted, front⟩ := ledger.still orderly tracks grows
  refine ⟨accepted, fun _ => front, ?_, ?_⟩
  · intro _ empty
    rw [queue] at empty
    cases (List.append_eq_nil_iff.mp empty).2
  · intro open_ number next body there head
    by_cases same : number = before.posts.length
    · subst same
      rw [entered] at there
      cases there
      have alone : before.queue = [] := by
        cases shape : before.queue with
        | nil => rfl
        | cons first rest =>
            obtain ⟨⟨earlier, left⟩, known⟩ :=
              orderly.queued first (by rw [shape]; exact List.mem_cons_self)
            have within := (orderly.written first earlier left known).within
            rw [queue, shape] at head
            cases head
            exact absurd within (Nat.lt_irrefl _)
      obtain ⟨frames, conveyed, -, whole⟩ :=
        ledger.free (tracks.opened open_) alone
      have found : after.posts[before.posts.length]? = some post := by
        rw [posts, List.getElem?_append_right (Nat.le_refl _), Nat.sub_self]
        rfl
      have same : after.taken = before.taken :=
        tracks.taken.trans (List.append_nil _)
      apply Owes.start waits found rfl _ (same.trans whole)
      apply grows.conveys_take (Nat.le_of_eq before.sources_length.symm)
      rw [← before.sources_length, List.take_length]
      exact conveyed
    · rw [others number same] at there
      have written := orderly.written number next body there
      have still : before.queue.head? = some number := by
        cases shape : before.queue with
        | nil =>
            have queued := written.queued
            rw [shape] at queued
            cases queued
        | cons first rest =>
            rw [queue, shape] at head
            exact head
      apply ledger.kept tracks grows open_ there still
      rw [posts, List.getElem?_append_left written.within]

theorem accept {before after : Lane σ} {number : Nat} {write next : Write}
    {data : Bytes} {body : List BodyEvent} {passed : Forwarded}
    (ledger : before.Ledger) (orderly : before.Orderly)
    (tracks : before.tunnel.Tracks after.tunnel [])
    (grows : before.Grows after) (open_ : after.isOpen = true)
    (was : before.writes number = some (write, .chunk data :: body))
    (head : before.queue.head? = some number) (nothing : write.unsent = [])
    (accepted : (write.filtered.accept data).1 = .ok passed)
    (unsent : next.unsent = Bytes.ofText passed.text)
    (posts : after.posts = before.posts) : after.Owes number next body := by
  obtain ⟨earlier, post, seen, conveyed, found, whole, account⟩ :=
    ledger.kept tracks grows open_ was head (by rw [posts])
  obtain ⟨own, again, there, -, data_, has, -⟩ :=
    (orderly.written number write _ was).source
  rw [posts, there] at found
  cases found
  have agree : again = seen := List.append_cancel_right (data_.symm.trans whole)
  subst agree
  rcases has.accept data with ⟨error, refused, -⟩ |
    ⟨forwarded, new, given, -, further, text⟩
  · rw [accepted] at refused
    cases refused
  · rw [accepted] at given
    cases given
    refine ⟨earlier, post, again ++ data, conveyed, ?_, ?_, ?_⟩
    · rw [posts]
      exact there
    · rw [whole, List.append_assoc]
      rfl
    · rw [unsent, text, further, ← List.append_assoc, Frame.received_append,
        ← account, nothing, List.append_nil]

theorem send {before after : Lane σ} {number : Nat} {write next : Write}
    {body : List BodyEvent} {gone : Bytes} (ledger : before.Ledger)
    (orderly : before.Orderly) (grows : before.Grows after)
    (was : before.writes number = some (write, body)) (held : write.Holds)
    (split : write.unsent = gone ++ next.unsent)
    (tracks : before.tunnel.Tracks after.tunnel gone)
    (lock : after.lock = before.lock)
    (is : after.writes number = some (next, body))
    (waited : next.unsent ≠ [] → after.tunnel.record.waited = true)
    (posts : after.posts = before.posts) : after.Ledger := by
  have first := orderly.head_of_holds was held
  have queue : after.queue = before.queue := congrArg Lock.queue lock
  have sent := ledger.sent orderly was held split tracks
  have still : gone = [] → before.tunnel.Tracks after.tunnel [] := by
    rintro rfl
    exact tracks
  refine ⟨?_, ?_, ?_, ?_⟩
  · intro never sound
    have done : next.unsent = [] := by
      by_contra more
      rw [waited more] at never
      cases never
    rcases sent with nothing | ⟨frames, conveyed, whole⟩
    · exact (ledger.still orderly (still nothing) grows).1 never sound
    · rw [done, List.append_nil] at whole
      exact (grows.conveys conveyed).delivers whole
  · intro _
    rcases sent with nothing | ⟨frames, conveyed, whole⟩
    · exact (ledger.still orderly (still nothing) grows).2
    · exact ⟨next.unsent, (grows.conveys conveyed).delivers whole⟩
  · intro _ empty
    rw [← queue, empty] at first
    cases first
  · intro open_ other later rest there head
    rw [queue] at head
    have same : other = number := Option.some.inj (head.symm.trans first)
    subst same
    rw [is] at there
    cases there
    have owes := ledger.held (tracks.opened open_) other write body was first
    exact owes.sent tracks grows split (by rw [posts])

theorem fail {before after : Lane σ} {number : Nat} {write : Write}
    {body : List BodyEvent} {gone left : Bytes} (ledger : before.Ledger)
    (orderly : before.Orderly) (grows : before.Grows after)
    (was : before.writes number = some (write, body)) (held : write.Holds)
    (split : write.unsent = gone ++ left)
    (tracks : before.tunnel.Tracks after.tunnel gone)
    (cause : after.tunnel.record.failed = true ∨
      before.tunnel.tunnel.backend.live = false)
    (closed : after.isOpen = false) : after.Ledger := by
  have sent := ledger.sent orderly was held split tracks
  have still : gone = [] → before.tunnel.Tracks after.tunnel [] := by
    rintro rfl
    exact tracks
  refine ⟨?_, ?_, fun open_ => ?_, fun open_ => ?_⟩
  · intro never sound
    have released : before.tunnel.tunnel.backend.live = false := by
      rcases cause with failed | released
      · rw [failed] at sound
        cases sound
      · exact released
    have nothing := (tracks.severed released).1
    exact (ledger.still orderly (still nothing) grows).1 never sound
  · intro _
    rcases sent with nothing | ⟨frames, conveyed, whole⟩
    · exact (ledger.still orderly (still nothing) grows).2
    · exact ⟨left, (grows.conveys conveyed).delivers whole⟩
  · rw [closed] at open_
    cases open_
  · rw [closed] at open_
    cases open_

theorem step {before after : Lane σ} (ledger : before.Ledger)
    (orderly : before.Orderly) (step : before.Step after) : after.Ledger := by
  have grows := step.grows
  cases step with
  | quiet tunnel writes posts =>
      apply ledger.update orderly tunnel grows
      intro open_ number write body there head
      exact ledger.kept tunnel.tracks grows open_
        ((writes number).symm.trans there) head (by rw [posts])
  | post tunnel writes posts =>
      apply ledger.update orderly tunnel grows
      intro open_ number write body there head
      have was := (writes number).symm.trans there
      have within := (orderly.written number write body was).within
      exact ledger.kept tunnel.tracks grows open_ was head
        (by rw [posts, List.getElem?_append_left within])
  | enter tunnel lock addressed entered ticket waits fresh others posts =>
      exact ledger.enter orderly tunnel lock addressed entered ticket waits
        fresh others posts
  | deliver tunnel delivered others posts =>
      rename_i number more
      apply ledger.advance number orderly tunnel grows others
      · intro other differs
        simp [posts, Ne.symm differs]
      · intro open_ head write body there
        rw [delivered] at there
        obtain ⟨entry, was, is⟩ := Option.map_eq_some_iff.mp there
        cases is
        have owes := ledger.held (tunnel.tracks.opened open_) number entry.1
          entry.2 was head
        exact owes.deliver tunnel.tracks grows posts
  | acquire was turn tunnel waited is ticket receives filtered others posts =>
      rename_i number write next body
      apply ledger.advance number orderly tunnel grows others
      · exact fun other _ => by rw [posts]
      · intro open_ head later rest there
        rw [is] at there
        cases there
        have owes := ledger.held (tunnel.tracks.opened open_) number write body
          was head
        -- whoever has just got the writer has sent nothing of its own yet
        have nothing : next.unsent = [] := by
          rw [Write.unsent, receives]
        apply owes.sent tunnel.tracks grows _ (by rw [posts])
        rw [nothing]
        exact Write.unsent_of_acquiring waited
  | accept was received tunnel is ticket holds accepted filtered unsent others
      posts =>
      rename_i number write next data body passed memory
      apply ledger.advance number orderly tunnel grows others
      · exact fun other _ => by rw [posts]
      · intro open_ head later rest there
        rw [is] at there
        cases there
        have nothing : write.unsent = [] := by
          rw [Write.unsent, received]
        exact ledger.accept orderly tunnel.tracks grows open_ was head nothing
          accepted unsent posts
  | send was held split tunnel lock is ticket holds filtered unsent waited
      others posts =>
      rw [← unsent] at split waited
      exact ledger.send orderly grows was held split tunnel lock is waited posts
  | leave was nothing tunnel lock is others posts =>
      -- what the write has left behind it is whole frames
      apply ledger.leave orderly was tunnel lock is others posts
      intro open_ head
      obtain ⟨frames, conveyed, account⟩ :=
        ledger.held_frames orderly (tunnel.opened open_) was head
      rw [nothing, List.append_nil] at account
      exact ⟨frames, conveyed, account⟩
  | fail was held split tunnel cause closed lock is others posts =>
      exact ledger.fail orderly grows was held split tunnel cause closed

theorem abandons {before after : Lane σ} {number : Nat} {write : Write}
    {body : List BodyEvent} (ledger : before.Ledger)
    (orderly : before.Orderly)
    (given : Abandons number write body before after)
    (clean : before.isOpen = true → write.unsent ≠ [] →
      WholeFrames before.taken) : after.Ledger := by
  refine ledger.leave orderly given.was given.tunnel given.lock given.is
    given.others given.posts ?_
  intro here head
  have open_ : before.isOpen = true := given.tunnel.opened here
  obtain ⟨frames, conveyed, account⟩ :=
    ledger.held_frames orderly open_ given.was head
  by_cases nothing : write.unsent = []
  · rw [nothing, List.append_nil] at account
    exact ⟨frames, conveyed, account⟩
  · -- whole frames in front of whole frames are the first of them
    have front : before.taken <+: Frame.received frames := by
      rw [← account]
      exact List.prefix_append _ _
    obtain ⟨count, cut⟩ :=
      WholeFrames.take (clean open_ nothing) conveyed.forGuacd front
    exact ⟨frames.take count, conveyed.take count, cut⟩

end Ledger

/-! ### New lanes -/

/-- A tunnel that was just opened, and that no write has found yet. It may have been closed at
once. -/
structure Fresh (lane : Lane σ) : Prop where
  sane : lane.tunnel.Sane
  lock : lane.lock = {}
  taken : lane.taken = []
  fault : lane.tunnel.record.failed = true → lane.isOpen = false
  writes : ∀ number, lane.writes number = none

theorem Fresh.queue {lane : Lane σ} (fresh : lane.Fresh) :
    lane.queue = [] := by
  rw [Lane.queue, fresh.lock]
  rfl

theorem Fresh.orderly {lane : Lane σ} (fresh : lane.Fresh) :
    lane.Orderly := by
  refine ⟨fresh.sane, fresh.fault, ?_, ?_, ?_, ?_⟩
  · rw [fresh.lock]
    exact Lock.served_free
  · rw [fresh.queue]
    exact List.Pairwise.nil
  · intro number member
    rw [fresh.queue] at member
    cases member
  · intro number write body there
    rw [fresh.writes number] at there
    cases there

theorem Fresh.ledger {lane : Lane σ} (fresh : lane.Fresh) : lane.Ledger := by
  have nothing : Delivers lane.sources lane.taken :=
    (Conveys.silent lane.sources).delivers fresh.taken
  refine ⟨fun _ _ => nothing, fun _ => ⟨[], ?_⟩, fun _ _ => nothing, ?_⟩
  · rw [List.append_nil]
    exact nothing
  · intro _ number write body there
    rw [fresh.writes number] at there
    cases there

/-! ### What guacd may rely on -/

/-- guacd has been sent the beginning of whole frames that the requests bring
for it. They are whole while the tunnel is open and no write is in the middle
of its work. If the connection has failed, the tunnel is closed. -/
structure Faithful (lane : Lane σ) : Prop where
  front : ∃ rest, Delivers lane.sources (lane.taken ++ rest)
  whole : lane.isOpen = true →
    (∀ number write body, lane.writes number = some (write, body) →
      write.unsent = []) → Delivers lane.sources lane.taken
  failed : lane.tunnel.record.failed = true → lane.isOpen = false

theorem Ledger.faithful {lane : Lane σ} (ledger : lane.Ledger)
    (orderly : lane.Orderly) : lane.Faithful :=
  ⟨ledger.front orderly, ledger.whole orderly, orderly.fault⟩

/-- A write that gives up in the middle of a frame leaves it unfinished, on a
tunnel that is open for the next write. -/
theorem Abandons.not_faithful {before after : Lane σ} {number : Nat}
    {write : Write} {body : List BodyEvent}
    (given : Abandons number write body before after)
    (orderly : before.Orderly) (open_ : before.isOpen = true)
    (unsent : write.unsent ≠ []) (torn : ¬ WholeFrames before.taken) :
    ¬ after.Faithful := by
  intro faithful
  have head : before.queue.head? = some number := by
    rcases (orderly.written number write body given.was).place with waits | held
    · exact absurd (Write.unsent_of_acquiring waits) unsent
    · exact held.2
  have idle : ∀ other next rest, after.writes other = some (next, rest) →
      next.unsent = [] := by
    intro other next rest there
    have differs : other ≠ number := by
      rintro rfl
      rw [given.is] at there
      cases there
    rw [given.others other differs] at there
    rcases (orderly.written other next rest there).place with waits | held
    · exact Write.unsent_of_acquiring waits
    · rw [held.2] at head
      exact absurd (Option.some.inj head) differs
  have whole := faithful.whole (given.isOpen.trans open_) idle
  have same : after.taken = before.taken :=
    given.tunnel.taken.trans (List.append_nil _)
  rw [same] at whole
  exact torn whole.wholeFrames

end Lane

end TunnelRelay
