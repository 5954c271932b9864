import TunnelRelay.Proofs.Frame.Forwarding
import TunnelRelay.Proofs.Lock
import TunnelRelay.Proofs.Relay.Moves
import TunnelRelay.Proofs.Relay.Tunnels

/-!
The writes on one tunnel.

A lane is one registered tunnel with the writes that are under way on it, and all requests that
have arrived. Everything that happens to the relay is one of a few steps of a lane: mostly nothing
happens to it, and otherwise one write enters it, goes on, or leaves it. The writes of a lane stand
in the queue of the writer's lock in the order of their arrival, and only the first of them does
more than wait.
-/

namespace TunnelRelay

open LongPoll

/-! ### What requests bring -/

def LongPoll.bodyData (body : List BodyEvent) : Bytes :=
  body.flatMap fun
    | .chunk data => data
    | _ => []

theorem LongPoll.bodyData_append (body more : List BodyEvent) :
    bodyData (body ++ more) = bodyData body ++ bodyData more :=
  List.flatMap_append

def Post.data (post : Post) : Bytes :=
  bodyData post.body

/-- The request wants to write to this tunnel, and shows its token. -/
def Post.isFor {τ : Type} (post : Post) (registered : RegisteredTunnel τ) :
    Bool :=
  match Command.parse post.request.query with
  | .ok (.write uuid) =>
      uuid == registered.tunnel.uuid &&
        (post.request.headerText? "guacamole-tunnel-token").any
          registered.accepts
  | _ => false

theorem Post.isFor_congr {τ : Type} {before after : RegisteredTunnel τ}
    (uuid : after.tunnel.uuid = before.tunnel.uuid)
    (token : after.token = before.token) (post : Post) :
    post.isFor after = post.isFor before := by
  have accepts : after.accepts = before.accepts := by
    funext text
    rw [RegisteredTunnel.accepts, RegisteredTunnel.accepts, token]
  simp only [Post.isFor, uuid, accepts]

namespace LongPoll.Write

def unsent (write : Write) : Bytes :=
  match write.stage with
  | .sending sending _ _ => sending.unsent
  | _ => []

def Holds (write : Write) : Prop :=
  write.stage ≠ .acquiring ∧ write.stage ≠ .finished

theorem unsent_of_acquiring {write : Write} (waits : write.stage = .acquiring) :
    write.unsent = [] := by
  unfold unsent
  rw [waits]

end LongPoll.Write

/-! ### Lanes -/

/-- One tunnel, the writes that are under way on it with what is left of their
bodies, and all requests so far. -/
structure Lane (σ : Type) where
  tunnel : RegisteredTunnel (Recorded σ)
  writes : Nat → Option (Write × List BodyEvent)
  posts : List Post

namespace Lane

variable {σ : Type}

def isOpen (lane : Lane σ) : Bool :=
  lane.tunnel.tunnel.isOpen

def lock (lane : Lane σ) : Lock :=
  lane.tunnel.tunnel.writerLock

def queue (lane : Lane σ) : List Ticket :=
  lane.lock.queue

def sources (lane : Lane σ) : List Bytes :=
  lane.posts.map fun post =>
    if post.isFor lane.tunnel then post.data else []

def Elsewhere (number : Nat) (before after : Lane σ) : Prop :=
  ∀ other, other ≠ number → after.writes other = before.writes other

/-- What can happen to a lane, unless a browser goes away. -/
inductive Step : Lane σ → Lane σ → Prop
  | quiet {before after : Lane σ}
      (tunnel : before.tunnel.Quiet after.tunnel)
      (writes : ∀ number, after.writes number = before.writes number)
      (posts : after.posts = before.posts) : Step before after
  | post {before after : Lane σ} {post : Post}
      (tunnel : before.tunnel.Quiet after.tunnel)
      (writes : ∀ number, after.writes number = before.writes number)
      (posts : after.posts = before.posts ++ [post]) : Step before after
  | enter {before after : Lane σ} {post : Post} {write : Write}
      (tunnel : before.tunnel.Tracks after.tunnel [])
      (lock : after.lock = before.lock.request before.posts.length)
      (addressed : post.isFor before.tunnel = true)
      (entered : after.writes before.posts.length = some (write, post.body))
      (ticket : write.ticket = before.posts.length)
      (waits : write.stage = .acquiring) (fresh : write.filtered.HasSeen [])
      (others : Elsewhere before.posts.length before after)
      (posts : after.posts = before.posts ++ [post]) : Step before after
  | deliver {before after : Lane σ} {number : Nat} {more : List BodyEvent}
      (tunnel : before.tunnel.Quiet after.tunnel)
      (delivered : after.writes number =
        (before.writes number).map fun entry => (entry.1, entry.2 ++ more))
      (others : Elsewhere number before after)
      (posts : after.posts = before.posts.modify number fun post =>
        { post with body := post.body ++ more }) : Step before after
  | acquire {before after : Lane σ} {number : Nat} {write next : Write}
      {body : List BodyEvent}
      (was : before.writes number = some (write, body))
      (turn : before.lock.isHeldBy write.ticket = true)
      (tunnel : before.tunnel.Quiet after.tunnel)
      (waited : write.stage = .acquiring)
      (is : after.writes number = some (next, body))
      (ticket : next.ticket = write.ticket)
      (receives : next.stage = .receiving)
      (filtered : next.filtered = write.filtered)
      (others : Elsewhere number before after)
      (posts : after.posts = before.posts) : Step before after
  | accept {before after : Lane σ} {number : Nat} {write next : Write}
      {data : Bytes} {body : List BodyEvent} {passed : Forwarded}
      {memory : List Instruction}
      (was : before.writes number = some (write, .chunk data :: body))
      (received : write.stage = .receiving)
      (tunnel : before.tunnel.Quiet after.tunnel)
      (is : after.writes number = some (next, body))
      (ticket : next.ticket = write.ticket) (holds : next.Holds)
      (accepted : (write.filtered.accept data).1 = .ok passed)
      (filtered : next.filtered =
        { (write.filtered.accept data).2 with memory })
      (unsent : next.unsent = Bytes.ofText passed.text)
      (others : Elsewhere number before after)
      (posts : after.posts = before.posts) : Step before after
  | send {before after : Lane σ} {number : Nat} {write next : Write}
      {body : List BodyEvent} {gone left : Bytes} {memory : List Instruction}
      (was : before.writes number = some (write, body)) (held : write.Holds)
      (split : write.unsent = gone ++ left)
      (tunnel : before.tunnel.Tracks after.tunnel gone)
      (lock : after.lock = before.lock)
      (is : after.writes number = some (next, body))
      (ticket : next.ticket = write.ticket) (holds : next.Holds)
      (filtered : next.filtered = { write.filtered with memory })
      (unsent : next.unsent = left)
      (waited : left ≠ [] → after.tunnel.record.waited = true)
      (others : Elsewhere number before after)
      (posts : after.posts = before.posts) : Step before after
  /-- A write ends, and nothing of it is unsent. -/
  | leave {before after : Lane σ} {number : Nat} {write : Write}
      {body : List BodyEvent}
      (was : before.writes number = some (write, body))
      (nothing : write.unsent = [])
      (tunnel : before.tunnel.Tracks after.tunnel [])
      (lock : Lock.Leaves write.ticket before.lock after.lock)
      (is : after.writes number = none)
      (others : Elsewhere number before after)
      (posts : after.posts = before.posts) : Step before after
  /-- A write fails to send, and the tunnel is closed. -/
  | fail {before after : Lane σ} {number : Nat} {write : Write}
      {body : List BodyEvent} {gone left : Bytes}
      (was : before.writes number = some (write, body)) (held : write.Holds)
      (split : write.unsent = gone ++ left)
      (tunnel : before.tunnel.Tracks after.tunnel gone)
      (cause : after.tunnel.record.failed = true ∨
        before.tunnel.tunnel.backend.live = false)
      (closed : after.isOpen = false)
      (lock : Lock.Leaves write.ticket before.lock after.lock)
      (is : after.writes number = none)
      (others : Elsewhere number before after)
      (posts : after.posts = before.posts) : Step before after

/-- The browser of a write goes away, and the write gives up. -/
structure Abandons (number : Nat) (write : Write) (body : List BodyEvent)
    (before after : Lane σ) : Prop where
  was : before.writes number = some (write, body)
  tunnel : before.tunnel.Tracks after.tunnel []
  isOpen : after.isOpen = before.isOpen
  lock : Lock.Leaves write.ticket before.lock after.lock
  is : after.writes number = none
  others : Elsewhere number before after
  posts : after.posts = before.posts

theorem Step.tracks {before after : Lane σ} (step : before.Step after) :
    ∃ gone, before.tunnel.Tracks after.tunnel gone := by
  cases step with
  | quiet tunnel | post tunnel | deliver tunnel => exact ⟨[], tunnel.tracks⟩
  | acquire was turn tunnel => exact ⟨[], tunnel.tracks⟩
  | accept was received tunnel => exact ⟨[], tunnel.tracks⟩
  | enter tunnel => exact ⟨[], tunnel⟩
  | send was held split tunnel => exact ⟨_, tunnel⟩
  | leave was nothing tunnel => exact ⟨[], tunnel⟩
  | fail was held split tunnel => exact ⟨_, tunnel⟩

/-! ### Order in a lane -/

/-- A write stands in the queue of the lane, only its first does more than wait,
and what it has seen of its body is what is not left of it. -/
structure Written (lane : Lane σ) (number : Nat) (write : Write)
    (body : List BodyEvent) : Prop where
  ticket : write.ticket = number
  queued : number ∈ lane.queue
  place : write.stage = .acquiring ∨
    write.Holds ∧ lane.queue.head? = some number
  source : ∃ post seen, lane.posts[number]? = some post ∧
    post.isFor lane.tunnel = true ∧ post.data = seen ++ bodyData body ∧
    write.filtered.HasSeen seen ∧ (write.stage = .acquiring → seen = [])

/-- The tunnel is sane, a failure has closed it, and the writes stand in the
queue of the writer's lock in the order of their arrival. -/
structure Orderly (lane : Lane σ) : Prop where
  sane : lane.tunnel.Sane
  fault : lane.tunnel.record.failed = true → lane.isOpen = false
  served : lane.lock.Served
  sorted : lane.queue.Pairwise (· < ·)
  queued : ∀ number ∈ lane.queue, ∃ entry, lane.writes number = some entry
  written : ∀ number write body, lane.writes number = some (write, body) →
    lane.Written number write body

theorem Written.within {lane : Lane σ} {number : Nat} {write : Write}
    {body : List BodyEvent} (written : lane.Written number write body) :
    number < lane.posts.length := by
  obtain ⟨post, seen, there, -⟩ := written.source
  exact (List.getElem?_eq_some_iff.mp there).1

theorem Written.transport {before after : Lane σ} {gone : Bytes}
    {number : Nat} {write : Write} {body : List BodyEvent}
    (written : before.Written number write body)
    (tracks : before.tunnel.Tracks after.tunnel gone)
    (queued : number ∈ after.queue)
    (head : before.queue.head? = some number →
      after.queue.head? = some number)
    (posts : after.posts[number]? = before.posts[number]?) :
    after.Written number write body := by
  refine ⟨written.ticket, queued, written.place.imp_right fun held =>
    ⟨held.1, head held.2⟩, ?_⟩
  obtain ⟨post, seen, there, addressed, rest⟩ := written.source
  refine ⟨post, seen, posts.trans there, ?_, rest⟩
  rw [Post.isFor_congr tracks.uuid tracks.token]
  exact addressed

theorem Written.deliver {before after : Lane σ} {gone : Bytes} {number : Nat}
    {write : Write} {body more : List BodyEvent}
    (written : before.Written number write body)
    (tracks : before.tunnel.Tracks after.tunnel gone)
    (lock : after.lock = before.lock)
    (posts : after.posts = before.posts.modify number fun post =>
      { post with body := post.body ++ more }) :
    after.Written number write (body ++ more) := by
  have queue : after.queue = before.queue := congrArg Lock.queue lock
  obtain ⟨post, seen, found, addressed, data, filtered, fresh⟩ :=
    written.source
  refine ⟨written.ticket, ?_, ?_, { post with body := post.body ++ more },
    seen, ?_, ?_, ?_, filtered, fresh⟩
  · rw [queue]
    exact written.queued
  · rw [queue]
    exact written.place
  · rw [posts, List.getElem?_modify_eq, found]
    rfl
  · rw [Post.isFor_congr tracks.uuid tracks.token]
    exact addressed
  · rw [bodyData_append, ← List.append_assoc, ← data]
    exact bodyData_append post.body more

namespace Orderly

theorem nodup {lane : Lane σ} (orderly : lane.Orderly) : lane.queue.Nodup :=
  orderly.sorted.imp Nat.ne_of_lt

theorem status {before after : Lane σ} {gone : Bytes}
    (orderly : before.Orderly)
    (tracks : before.tunnel.Tracks after.tunnel gone) :
    after.tunnel.Sane ∧
      (after.tunnel.record.failed = true → after.isOpen = false) := by
  refine ⟨tracks.sane orderly.sane, ?_⟩
  intro failed
  rcases tracks.fault failed with earlier | closed
  · exact tracks.shut (orderly.fault earlier)
  · exact closed

theorem unchanged {before after : Lane σ} {gone : Bytes} {number : Nat}
    {write : Write} {body : List BodyEvent} (orderly : before.Orderly)
    (there : before.writes number = some (write, body))
    (tracks : before.tunnel.Tracks after.tunnel gone)
    (lock : after.lock = before.lock)
    (posts : after.posts[number]? = before.posts[number]?) :
    after.Written number write body := by
  have queue : after.queue = before.queue := congrArg Lock.queue lock
  have written := orderly.written number write body there
  refine written.transport tracks ?_ ?_ posts
  · rw [queue]
    exact written.queued
  · rw [queue]
    exact id

theorem update {before after : Lane σ} {gone : Bytes}
    (orderly : before.Orderly)
    (tracks : before.tunnel.Tracks after.tunnel gone)
    (lock : after.lock = before.lock)
    (kept : ∀ number entry, before.writes number = some entry →
      ∃ later, after.writes number = some later)
    (written : ∀ number write body, after.writes number = some (write, body) →
      after.Written number write body) : after.Orderly := by
  have queue : after.queue = before.queue := congrArg Lock.queue lock
  have status := orderly.status tracks
  refine ⟨status.1, status.2, ?_, ?_, ?_, written⟩
  · rw [lock]
    exact orderly.served
  · rw [queue]
    exact orderly.sorted
  · intro number member
    rw [queue] at member
    obtain ⟨entry, there⟩ := orderly.queued number member
    exact kept number entry there

theorem advance {before after : Lane σ} {gone : Bytes} {number : Nat}
    {write next : Write} {body rest : List BodyEvent}
    (orderly : before.Orderly)
    (was : before.writes number = some (write, body))
    (tracks : before.tunnel.Tracks after.tunnel gone)
    (lock : after.lock = before.lock)
    (is : after.writes number = some (next, rest))
    (ticket : next.ticket = write.ticket) (holds : next.Holds)
    (head : before.queue.head? = some number)
    (seen : ∀ seen data, write.filtered.HasSeen seen →
      data = seen ++ bodyData body →
      ∃ more, data = more ++ bodyData rest ∧ next.filtered.HasSeen more)
    (others : Elsewhere number before after)
    (posts : after.posts = before.posts) : after.Orderly := by
  have queue : after.queue = before.queue := congrArg Lock.queue lock
  refine orderly.update tracks lock ?_ ?_
  · intro other entry there
    by_cases same : other = number
    · subst same
      exact ⟨_, is⟩
    · exact ⟨entry, (others other same).trans there⟩
  · intro other later left there
    by_cases same : other = number
    · subst same
      rw [is] at there
      cases there
      have written := orderly.written other write body was
      obtain ⟨post, passed, found, addressed, data, filtered, -⟩ :=
        written.source
      obtain ⟨more, whole, goes⟩ := seen passed post.data filtered data
      refine ⟨ticket.trans written.ticket, ?_, Or.inr ⟨holds, ?_⟩, post, more,
        ?_, ?_, whole, goes, fun waits => absurd waits holds.1⟩
      · rw [queue]
        exact written.queued
      · rw [queue]
        exact head
      · rw [posts]
        exact found
      · rw [Post.isFor_congr tracks.uuid tracks.token]
        exact addressed
    · rw [others other same] at there
      exact orderly.unchanged there tracks lock (by rw [posts])

theorem leave {before after : Lane σ} {gone : Bytes} {number : Nat}
    {write : Write} {body : List BodyEvent} (orderly : before.Orderly)
    (was : before.writes number = some (write, body))
    (tracks : before.tunnel.Tracks after.tunnel gone)
    (leaves : Lock.Leaves write.ticket before.lock after.lock)
    (is : after.writes number = none)
    (others : Elsewhere number before after)
    (posts : after.posts = before.posts) :
    after.Orderly ∧ after.queue = before.queue.erase number := by
  have status := orderly.status tracks
  have left := leaves.queue orderly.served orderly.nodup
  rw [(orderly.written number write body was).ticket] at left
  have queue : after.queue = before.queue.erase number := left
  refine ⟨⟨status.1, status.2, leaves.served orderly.served, ?_, ?_, ?_⟩,
    queue⟩
  · rw [queue]
    exact orderly.sorted.sublist List.erase_sublist
  · intro other member
    rw [queue] at member
    obtain ⟨differs, before_⟩ :=
      (List.Nodup.mem_erase_iff orderly.nodup).mp member
    obtain ⟨entry, there⟩ := orderly.queued other before_
    exact ⟨entry, (others other differs).trans there⟩
  · intro other next rest there
    by_cases same : other = number
    · subst same
      rw [is] at there
      cases there
    · rw [others other same] at there
      have written := orderly.written other next rest there
      refine written.transport tracks ?_ ?_ (by rw [posts])
      · rw [queue]
        exact (List.Nodup.mem_erase_iff orderly.nodup).mpr
          ⟨same, written.queued⟩
      · intro first
        have behind : before.queue.head? ≠ some number := by
          rw [first]
          exact fun equal => same (Option.some.inj equal)
        rw [queue, Lock.head_erase behind]
        exact first

theorem enter {before after : Lane σ} {post : Post} {write : Write}
    (orderly : before.Orderly)
    (tracks : before.tunnel.Tracks after.tunnel [])
    (lock : after.lock = before.lock.request before.posts.length)
    (addressed : post.isFor before.tunnel = true)
    (entered : after.writes before.posts.length = some (write, post.body))
    (ticket : write.ticket = before.posts.length)
    (waits : write.stage = .acquiring) (fresh : write.filtered.HasSeen [])
    (others : Elsewhere before.posts.length before after)
    (posts : after.posts = before.posts ++ [post]) :
    after.Orderly ∧ after.queue = before.queue ++ [before.posts.length] := by
  have status := orderly.status tracks
  have queue : after.queue = before.queue ++ [before.posts.length] := by
    rw [Lane.queue, lock, Lock.request_queue orderly.served]
    rfl
  have earlier : ∀ number ∈ before.queue, number < before.posts.length := by
    intro number member
    obtain ⟨⟨next, body⟩, there⟩ := orderly.queued number member
    exact (orderly.written number next body there).within
  refine ⟨⟨status.1, status.2, ?served, ?sorted, ?queued, ?written⟩, queue⟩
  case served =>
    rw [lock]
    exact Lock.request_served _ _
  case sorted =>
    rw [queue]
    refine List.pairwise_append.mpr
      ⟨orderly.sorted, List.pairwise_singleton _ _, ?_⟩
    intro number member last newest
    rw [List.mem_singleton.mp newest]
    exact earlier number member
  case queued =>
    intro number member
    rw [queue] at member
    rcases List.mem_append.mp member with before_ | newest
    · obtain ⟨entry, there⟩ := orderly.queued number before_
      have differs : number ≠ before.posts.length :=
        Nat.ne_of_lt (earlier number before_)
      exact ⟨entry, (others number differs).trans there⟩
    · rw [List.mem_singleton.mp newest]
      exact ⟨_, entered⟩
  case written =>
    intro number next body there
    by_cases same : number = before.posts.length
    · subst same
      rw [entered] at there
      cases there
      refine ⟨ticket, ?_, Or.inl waits, post, [], ?_, ?_, rfl, fresh,
        fun _ => rfl⟩
      · rw [queue]
        exact List.mem_append_right _ (List.mem_singleton.mpr rfl)
      · rw [posts, List.getElem?_append_right (Nat.le_refl _), Nat.sub_self]
        rfl
      · rw [Post.isFor_congr tracks.uuid tracks.token]
        exact addressed
    · rw [others number same] at there
      have written := orderly.written number next body there
      refine written.transport tracks ?_ ?_ ?_
      · rw [queue]
        exact List.mem_append_left _ written.queued
      · intro first
        rw [queue, List.head?_append, first]
        rfl
      · rw [posts, List.getElem?_append_left written.within]

theorem head_of_holds {lane : Lane σ} {number : Nat} {write : Write}
    {body : List BodyEvent} (orderly : lane.Orderly)
    (there : lane.writes number = some (write, body)) (holds : write.Holds) :
    lane.queue.head? = some number := by
  rcases (orderly.written number write body there).place with waits | held
  · exact absurd waits holds.1
  · exact held.2

theorem behind_first {lane : Lane σ} (orderly : lane.Orderly)
    {number other : Nat} (first : lane.queue.head? = some number)
    (member : other ∈ lane.queue) (differs : other ≠ number) :
    number < other := by
  have sorted := orderly.sorted
  cases shape : lane.queue with
  | nil =>
      rw [shape] at first
      cases first
  | cons start tail =>
      rw [shape] at first member sorted
      cases first
      rcases List.mem_cons.mp member with equal | among
      · exact absurd equal differs
      · exact (List.pairwise_cons.mp sorted).1 other among

theorem abandons {before after : Lane σ} {number : Nat} {write : Write}
    {body : List BodyEvent} (orderly : before.Orderly)
    (given : Abandons number write body before after) : after.Orderly :=
  (orderly.leave given.was given.tunnel given.lock given.is given.others
    given.posts).1

theorem step {before after : Lane σ} (orderly : before.Orderly)
    (step : before.Step after) : after.Orderly := by
  cases step with
  | quiet tunnel writes posts =>
      refine orderly.update tunnel.tracks tunnel.lock ?_ ?_
      · exact fun number entry there => ⟨entry, (writes number).trans there⟩
      · intro number write body there
        exact orderly.unchanged ((writes number).symm.trans there)
          tunnel.tracks tunnel.lock (by rw [posts])
  | post tunnel writes posts =>
      refine orderly.update tunnel.tracks tunnel.lock ?_ ?_
      · exact fun number entry there => ⟨entry, (writes number).trans there⟩
      · intro number write body there
        have was := (writes number).symm.trans there
        have within := (orderly.written number write body was).within
        exact orderly.unchanged was tunnel.tracks tunnel.lock
          (by rw [posts, List.getElem?_append_left within])
  | enter tunnel lock addressed entered ticket waits fresh others posts =>
      exact (orderly.enter tunnel lock addressed entered ticket waits fresh
        others posts).1
  | deliver tunnel delivered others posts =>
      rename_i number more
      refine orderly.update tunnel.tracks tunnel.lock ?_ ?_
      · intro other entry there
        by_cases same : other = number
        · subst same
          rw [there] at delivered
          exact ⟨_, delivered⟩
        · exact ⟨entry, (others other same).trans there⟩
      · intro other write body there
        by_cases same : other = number
        · subst same
          rw [delivered] at there
          obtain ⟨entry, was, is⟩ := Option.map_eq_some_iff.mp there
          cases is
          exact (orderly.written other entry.1 entry.2 was).deliver
            tunnel.tracks tunnel.lock posts
        · rw [others other same] at there
          exact orderly.unchanged there tunnel.tracks tunnel.lock
            (by simp [posts, Ne.symm same])
  | acquire was turn tunnel waited is ticket receives filtered others posts =>
      rename_i number write next body
      have written := orderly.written number write body was
      have head : before.queue.head? = some number := by
        rw [written.ticket] at turn
        exact (Lock.isHeldBy_iff orderly.served number).mp turn
      -- whoever acquires the writer is the first of the queue
      refine orderly.advance was tunnel.tracks tunnel.lock is ticket
        ⟨by rw [receives]; decide, by rw [receives]; decide⟩ head ?_ others
        posts
      intro seen data has whole
      exact ⟨seen, whole, by rw [filtered]; exact has⟩
  | accept was received tunnel is ticket holds accepted filtered unsent others
      posts =>
      rename_i number write next data body passed memory
      have held : write.Holds :=
        ⟨by rw [received]; decide, by rw [received]; decide⟩
      refine orderly.advance was tunnel.tracks tunnel.lock is ticket holds
        (orderly.head_of_holds was held) ?_ others posts
      intro seen whole has split
      -- refused data would have ended the write, so it was accepted
      rcases has.accept data with ⟨error, refused, -⟩ |
        ⟨forwarded, new, -, goes, -⟩
      · rw [accepted] at refused
        cases refused
      · refine ⟨seen ++ data, ?_, by rw [filtered]; exact goes.remember memory⟩
        rw [split, List.append_assoc]
        rfl
  | send was held split tunnel lock is ticket holds filtered unsent waited
      others posts =>
      refine orderly.advance was tunnel lock is ticket holds
        (orderly.head_of_holds was held) ?_ others posts
      intro seen data has whole
      exact ⟨seen, whole, by rw [filtered]; exact has.remember _⟩
  | leave was nothing tunnel lock is others posts =>
      exact (orderly.leave was tunnel lock is others posts).1
  | fail was held split tunnel cause closed lock is others posts =>
      exact (orderly.leave was tunnel lock is others posts).1

end Orderly

end Lane

end TunnelRelay
