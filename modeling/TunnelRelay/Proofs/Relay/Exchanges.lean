import TunnelRelay.Proofs.Relay.Opening
import TunnelRelay.Proofs.Relay.Writes

/-!
What a move does to tunnels and writes.

Most moves leave all tunnels and all writes in peace. The others are one of a few things: a request
arrives, perhaps to write; more of a body arrives; a tunnel is opened; a write takes a step; or a
write gives up because its browser goes away. Whatever holds of tunnels and writes along a run is
proved by these cases.
-/

namespace TunnelRelay

open Http LongPoll

variable {σ : Type}

/-- The write of an exchange on a tunnel, with what is left of its body. -/
def LongPoll.Exchange.writeOn? (number : Nat) (exchange : Exchange) :
    Option (Write × List BodyEvent) :=
  match exchange.activity with
  | .writing write =>
      if write.tunnel = number then some (write, exchange.body) else none
  | _ => none

/-- The writes of some exchanges on a tunnel, by the number of the exchange. -/
def LongPoll.writesOn (exchanges : List Exchange) (number exchange : Nat) :
    Option (Write × List BodyEvent) :=
  exchanges[exchange]?.bind (Exchange.writeOn? number)

/-- All writes stay as they are. -/
def LongPoll.SameWrites (before after : List Exchange) : Prop :=
  ∀ number exchange,
    writesOn after number exchange = writesOn before number exchange

/-- All writes stay as they are, but for that of one exchange on one tunnel. -/
structure LongPoll.OneWrite (number exchange : Nat)
    (before after : List Exchange) : Prop where
  elsewhere : ∀ other, other ≠ number → ∀ exchange,
    writesOn after other exchange = writesOn before other exchange
  others : ∀ other, other ≠ exchange →
    writesOn after number other = writesOn before number other

/-! ### Writes of a list of exchanges -/

namespace LongPoll

theorem SameWrites.refl (exchanges : List Exchange) :
    SameWrites exchanges exchanges := fun _ _ => rfl

theorem sameWrites_of_eq {before after : List Exchange}
    (same : after = before) : SameWrites before after := by
  rw [same]
  exact SameWrites.refl before

theorem Exchange.writeOn?_of_writing {exchange : Exchange} {write : Write}
    (writing : exchange.activity = .writing write) :
    exchange.writeOn? write.tunnel = some (write, exchange.body) := by
  rw [writeOn?, writing]
  exact if_pos rfl

theorem Exchange.writeOn?_other {exchange : Exchange} {write : Write}
    {number : Nat} (writing : exchange.activity = .writing write)
    (differs : number ≠ write.tunnel) : exchange.writeOn? number = none := by
  rw [writeOn?, writing]
  exact if_neg (Ne.symm differs)

theorem Exchange.writeOn?_idle {exchange : Exchange}
    (idle : ∀ write, exchange.activity ≠ .writing write) (number : Nat) :
    exchange.writeOn? number = none := by
  unfold writeOn?
  split
  · rename_i write writing
    exact absurd writing (idle write)
  · rfl

theorem Exchange.writeOn?_deliver (exchange : Exchange) (number : Nat)
    (more : List BodyEvent) :
    Exchange.writeOn? number { exchange with body := exchange.body ++ more } =
      (exchange.writeOn? number).map fun entry =>
        (entry.1, entry.2 ++ more) := by
  unfold writeOn?
  cases exchange.activity with
  | writing write =>
      simp only
      split <;> rfl
  | collecting | connecting | reading | answered => rfl

section Lists

variable {exchanges : List Exchange} {exchange : Nat} {old new : Exchange}

theorem writesOn_of_writing {write : Write}
    (found : exchanges[exchange]? = some old)
    (writing : old.activity = .writing write) :
    writesOn exchanges write.tunnel exchange = some (write, old.body) := by
  rw [writesOn, found]
  exact Exchange.writeOn?_of_writing writing

theorem writesOn_idle (found : exchanges[exchange]? = some old)
    (idle : ∀ write, old.activity ≠ .writing write) (number : Nat) :
    writesOn exchanges number exchange = none := by
  rw [writesOn, found]
  exact Exchange.writeOn?_idle idle number

theorem writesOn_other {number other : Nat} {entry : Write × List BodyEvent}
    (there : writesOn exchanges number exchange = some entry)
    (differs : other ≠ number) : writesOn exchanges other exchange = none := by
  obtain ⟨found, here, own⟩ := Option.bind_eq_some_iff.mp there
  unfold Exchange.writeOn? at own
  split at own
  · rename_i write writing
    split at own
    · rename_i same
      subst same
      rw [writesOn, here]
      exact Exchange.writeOn?_other writing differs
    · cases own
  · cases own

theorem writesOn_set (found : exchanges[exchange]? = some old)
    (new : Exchange) (number : Nat) :
    writesOn (exchanges.set exchange new) number exchange =
      new.writeOn? number := by
  obtain ⟨within, -⟩ := List.getElem?_eq_some_iff.mp found
  rw [writesOn, List.getElem?_set_self within]
  rfl

theorem writesOn_set_other {other : Nat} (differs : other ≠ exchange)
    (exchanges : List Exchange) (new : Exchange) (number : Nat) :
    writesOn (exchanges.set exchange new) number other =
      writesOn exchanges number other := by
  rw [writesOn, List.getElem?_set_ne (Ne.symm differs)]
  rfl

theorem sameWrites_set (found : exchanges[exchange]? = some old)
    (was : ∀ write, old.activity ≠ .writing write)
    (is : ∀ write, new.activity ≠ .writing write) :
    SameWrites exchanges (exchanges.set exchange new) := by
  intro number other
  by_cases same : other = exchange
  · subst same
    rw [writesOn_set found, Exchange.writeOn?_idle is,
      writesOn_idle found was]
  · exact writesOn_set_other same exchanges new number

theorem oneWrite_set {write : Write}
    (found : exchanges[exchange]? = some old)
    (was : old.activity = .writing write)
    (is : ∀ number, number ≠ write.tunnel → new.writeOn? number = none) :
    OneWrite write.tunnel exchange exchanges (exchanges.set exchange new) := by
  constructor
  · intro number differs other
    by_cases same : other = exchange
    · subst same
      rw [writesOn_set found, is number differs, writesOn, found]
      exact (Exchange.writeOn?_other was differs).symm
    · exact writesOn_set_other same exchanges new number
  · intro other differs
    exact writesOn_set_other differs exchanges new write.tunnel

theorem writesOn_behind (exchanges : List Exchange) (number : Nat) :
    writesOn exchanges number exchanges.length = none := by
  rw [writesOn, List.getElem?_eq_none (Nat.le_refl _)]
  rfl

theorem writesOn_append (exchanges : List Exchange) (new : Exchange)
    (number : Nat) :
    writesOn (exchanges ++ [new]) number exchanges.length =
      new.writeOn? number := by
  rw [writesOn, List.getElem?_append_right (Nat.le_refl _), Nat.sub_self]
  rfl

theorem writesOn_append_other {other : Nat}
    (differs : other ≠ exchanges.length) (new : Exchange) (number : Nat) :
    writesOn (exchanges ++ [new]) number other =
      writesOn exchanges number other := by
  rw [writesOn, writesOn]
  rcases Nat.lt_or_gt_of_ne differs with before | behind
  · rw [List.getElem?_append_left before]
  · rw [List.getElem?_eq_none, List.getElem?_eq_none]
    · exact Nat.le_of_lt behind
    · rw [List.length_append, List.length_singleton]
      exact behind

theorem sameWrites_append (exchanges : List Exchange)
    (idle : ∀ write, new.activity ≠ .writing write) :
    SameWrites exchanges (exchanges ++ [new]) := by
  intro number other
  by_cases last : other = exchanges.length
  · subst last
    rw [writesOn_append, Exchange.writeOn?_idle idle, writesOn_behind]
  · exact writesOn_append_other last new number

theorem oneWrite_append (exchanges : List Exchange) {write : Write}
    (writing : new.activity = .writing write) :
    OneWrite write.tunnel exchanges.length exchanges (exchanges ++ [new]) := by
  constructor
  · intro number differs other
    by_cases last : other = exchanges.length
    · subst last
      rw [writesOn_append, Exchange.writeOn?_other writing differs,
        writesOn_behind]
    · exact writesOn_append_other last new number
  · intro other differs
    exact writesOn_append_other differs new write.tunnel

end Lists

theorem OneWrite.earlier {before after : List Exchange}
    {number exchange other index : Nat} {entry now : Write × List BodyEvent}
    (one : OneWrite number exchange before after)
    (was : writesOn before number exchange = some entry)
    (there : writesOn after other index = some now) :
    ∃ earlier, writesOn before other index = some earlier := by
  by_cases same : other = number
  · subst same
    by_cases equal : index = exchange
    · subst equal
      exact ⟨entry, was⟩
    · rw [one.others index equal] at there
      exact ⟨now, there⟩
  · rw [one.elsewhere other same] at there
    exact ⟨now, there⟩

theorem writesOn_modify (exchanges : List Exchange) (index number : Nat)
    (more : List BodyEvent) :
    let later := exchanges.modify index fun exchange =>
      { exchange with body := exchange.body ++ more }
    (writesOn later number index =
        (writesOn exchanges number index).map fun entry =>
          (entry.1, entry.2 ++ more)) ∧
      ∀ other, other ≠ index →
        writesOn later number other = writesOn exchanges number other := by
  constructor
  · simp only [writesOn, List.getElem?_modify_eq]
    cases exchanges[index]? with
    | none => rfl
    | some exchange => exact Exchange.writeOn?_deliver exchange number more
  · intro other differs
    simp [writesOn, Ne.symm differs]

end LongPoll

/-! ### New tunnels -/

namespace Registry

theorem uuids_put (registry : Registry (Recorded σ))
    (tunnel : Tunnel (Recorded σ)) (token : String) :
    (registry.put tunnel token).uuids = registry.uuids ++ [tunnel.uuid] := by
  simp only [uuids, put, List.map_append, List.map_map, List.map_cons,
    List.map_nil]
  congr 1
  apply List.map_congr_left
  intro registered _
  simp only [Function.comp]
  split <;> rfl

/-- As long as no two tunnels share a UUID, a new tunnel displaces no other. -/
theorem put_distinct {registry : Registry (Recorded σ)}
    {tunnel : Tunnel (Recorded σ)} {token : String}
    (distinct : (registry.put tunnel token).uuids.Nodup) :
    (registry.put tunnel token).tunnels = registry.tunnels ++
      [{ tunnel, token, registeredAt := registry.now }] := by
  rw [uuids_put] at distinct
  have apart := (List.nodup_append.mp distinct).2.2
  simp only [put]
  congr 1
  rw [List.map_congr_left (g := id), List.map_id]
  intro registered member
  have differs : registered.tunnel.uuid ≠ tunnel.uuid :=
    apart _ (List.mem_map_of_mem member) _ (List.mem_singleton.mpr rfl)
  have unlisted : registered.isListedAs tunnel.uuid = false := by
    simp [RegisteredTunnel.isListedAs, differs]
  rw [unlisted]
  rfl

theorem quiet_guacd (registry : Registry (Recorded σ)) (index : Nat)
    (change : σ → σ) :
    registry.Quiet
      (registry.onTunnel index (·.onStream (Recorded.onStream change))) := by
  apply Registry.quiet_update
  intro registered _
  exact RegisteredTunnel.quiet_of_rests rfl rfl rfl rfl rfl
    ⟨rfl, rfl, rfl, rfl⟩

end Registry

variable [Connection σ]

/-! ### Steps of an exchange -/

namespace LongPoll.Exchange

omit [Connection σ] in
theorem answerWith_idle (exchange : Exchange) (answer : Answer)
    (write : Write) :
    (exchange.answerWith answer).activity ≠ .writing write := by
  simp [answerWith]

omit [Connection σ] in
theorem collect_idle (exchange : Exchange) (form : Bytes)
    (idle : ∀ write, exchange.activity ≠ .writing write) (write : Write) :
    (exchange.collect form).2.activity ≠ .writing write := by
  unfold collect
  split
  · exact idle write
  · simp [refuse, answerWith]
  · simp
  · split
    · simp [refuse, answerWith]
    · simp

theorem step_idle {exchange : Exchange} (registry : Registry (Recorded σ))
    (idle : ∀ write, exchange.activity ≠ .writing write) :
    (∀ write, (exchange.step registry).2.1.activity ≠ .writing write) ∧
      registry.Quiet (exchange.step registry).2.2 := by
  have same := Registry.Quiet.refl registry
  unfold Exchange.step
  cases activity : exchange.activity with
  | collecting form => exact ⟨collect_idle exchange form idle, same⟩
  | connecting parameters => exact ⟨fun write => by simp [activity], same⟩
  | answered => exact ⟨fun write => by simp [activity], same⟩
  | writing write => exact absurd activity (idle write)
  | reading read =>
      have quiet := read.quiet_step exchange.answer registry
      simp only
      split
      · rename_i later answer next stepped
        rw [stepped] at quiet
        exact ⟨fun write => by simp [answerWith], quiet⟩
      · rename_i pace later answer next _ stepped
        rw [stepped] at quiet
        exact ⟨fun write => by simp, quiet⟩

/-- An exchange that writes follows its write. -/
theorem step_writing {exchange : Exchange} {registry next : Registry (Recorded σ)}
    {write later : Write} {pace : Pace} {answer : Answer}
    {rest : List BodyEvent} (writing : exchange.activity = .writing write)
    (stepped : write.step exchange.body exchange.answer registry =
      ((pace, later, answer, next), rest)) :
    (exchange.step registry).2.2 = next ∧
      (pace = .ended → ∀ number,
        (exchange.step registry).2.1.writeOn? number = none) ∧
      (pace ≠ .ended →
        (exchange.step registry).2.1.activity = .writing later ∧
          (exchange.step registry).2.1.body = rest) := by
  unfold Exchange.step
  rw [writing]
  simp only [stepped]
  cases pace with
  | ended =>
      refine ⟨rfl, fun _ number => ?_, fun goes => absurd rfl goes⟩
      exact writeOn?_idle (fun write => by simp [answerWith]) number
  | goesOn | yields | parked =>
      refine ⟨rfl, ?_, fun _ => ⟨rfl, rfl⟩⟩
      intro impossible
      cases impossible

omit [Connection σ] in
theorem abandon_idle (exchange : Exchange) (registry : Registry (Recorded σ))
    (write : Write) :
    (exchange.abandon registry).1.activity ≠ .writing write := by
  unfold abandon
  cases activity : exchange.activity with
  | collecting | connecting | writing | answered => exact nofun
  | reading read =>
      simp only
      split <;> exact nofun

omit [Connection σ] in
theorem abandon_quiet {exchange : Exchange} (registry : Registry (Recorded σ))
    (idle : ∀ write, exchange.activity ≠ .writing write) :
    registry.Quiet (exchange.abandon registry).2 := by
  unfold abandon
  cases activity : exchange.activity with
  | writing write => exact absurd activity (idle write)
  | reading read =>
      simp only
      split
      · exact Registry.Quiet.refl registry
      · exact read.quiet_abandon registry
  | collecting | connecting | answered => exact Registry.Quiet.refl registry

theorem enter_quiet (exchange : Exchange) (tunnel : Tunnel (Recorded σ))
    (token : String) (registry : Registry (Recorded σ)) :
    (registry.put tunnel token).Quiet
      (exchange.enter tunnel token registry).2 := by
  unfold enter
  simp only
  split
  · exact Registry.Quiet.refl _
  · exact Registry.quiet_close _ _ _

end LongPoll.Exchange

theorem Relay.startExchange_spec (relay : Relay (Recorded σ))
    (request : Request) (wanted : Bool) :
    ((∀ write, (relay.startExchange request wanted).1.activity ≠
        .writing write) ∧
      (relay.startExchange request wanted).2 = relay.registry) ∨
    ∃ exchange : Exchange, relay.startExchange request wanted =
      exchange.start relay.exchanges.length request relay.registry := by
  unfold Relay.startExchange
  simp only
  split
  · exact Or.inl ⟨Exchange.answerWith_idle _ _, rfl⟩
  · split
    · split
      · exact Or.inr ⟨_, rfl⟩
      · exact Or.inl ⟨Exchange.answerWith_idle _ _, rfl⟩
      · exact Or.inl ⟨Exchange.answerWith_idle _ _, rfl⟩
      · exact Or.inl ⟨Exchange.answerWith_idle _ _, rfl⟩
    · exact Or.inl ⟨Exchange.answerWith_idle _ _, rfl⟩

/-! ### Moves -/

namespace History

/-- What a move does to tunnels and writes, unless a write gives up. -/
inductive Effect (environment : Environment σ) : History σ → History σ → Prop
  | quiet {before after : History σ}
      (registry : before.relay.registry.Quiet after.relay.registry)
      (writes : SameWrites before.relay.exchanges after.relay.exchanges)
      (posts : after.posts = before.posts) : Effect environment before after
  | post {before after : History σ} {post : Post}
      (registry : before.relay.registry.Quiet after.relay.registry)
      (writes : SameWrites before.relay.exchanges after.relay.exchanges)
      (posts : after.posts = before.posts ++ [post]) :
      Effect environment before after
  /-- A request arrives, and joins those who wait to write on a tunnel. -/
  | enter {before after : History σ} {post : Post} {number : Nat}
      {registered later : RegisteredTunnel (Recorded σ)}
      (found : before.relay.registry.tunnel? number = some registered)
      (addressed : post.isFor registered = true)
      (registry : before.relay.registry.Beside number after.relay.registry)
      (there : after.relay.registry.tunnel? number = some later)
      (tracks : registered.Tracks later [])
      (lock : later.tunnel.writerLock =
        registered.tunnel.writerLock.request before.relay.exchanges.length)
      (entered : writesOn after.relay.exchanges number
        before.relay.exchanges.length =
          some ({ ticket := before.relay.exchanges.length, tunnel := number },
            post.body))
      (writes : OneWrite number before.relay.exchanges.length
        before.relay.exchanges after.relay.exchanges)
      (posts : after.posts = before.posts ++ [post]) :
      Effect environment before after
  | deliver {before after : History σ} {index : Nat} {more : List BodyEvent}
      (registry : after.relay.registry = before.relay.registry)
      (exchanges : after.relay.exchanges =
        before.relay.exchanges.modify index fun exchange =>
          { exchange with body := exchange.body ++ more })
      (posts : after.posts = before.posts.modify index fun post =>
        { post with body := post.body ++ more }) :
      Effect environment before after
  | connect {before after : History σ} {attempt : Nat}
      {request : TunnelRequest} {tunnel : Tunnel σ} {token : String}
      (connected : environment.connect attempt request = .ok tunnel)
      (registry : (before.relay.registry.put tunnel.recorded token).Quiet
        after.relay.registry)
      (writes : SameWrites before.relay.exchanges after.relay.exchanges)
      (posts : after.posts = before.posts) : Effect environment before after
  | write {before after : History σ} {index : Nat} {write later : Write}
      {pace : Pace} {answer given : Answer} {body rest : List BodyEvent}
      (was : writesOn before.relay.exchanges write.tunnel index =
        some (write, body))
      (stepped : write.step body answer before.relay.registry =
        ((pace, later, given, after.relay.registry), rest))
      (ended : pace = .ended →
        writesOn after.relay.exchanges write.tunnel index = none)
      (goes : pace ≠ .ended →
        writesOn after.relay.exchanges write.tunnel index =
          some (later, rest))
      (writes : OneWrite write.tunnel index before.relay.exchanges
        after.relay.exchanges)
      (posts : after.posts = before.posts) : Effect environment before after

/-- The browser of a write goes away, and the write gives up. -/
structure GivesUp (index : Nat) (before after : History σ) (write : Write)
    (body : List BodyEvent) : Prop where
  was : writesOn before.relay.exchanges write.tunnel index = some (write, body)
  registry : after.relay.registry =
    before.relay.registry.onTunnel write.tunnel
      (·.releaseWriter write.ticket)
  is : writesOn after.relay.exchanges write.tunnel index = none
  writes : OneWrite write.tunnel index before.relay.exchanges
    after.relay.exchanges
  posts : after.posts = before.posts

variable (environment : Environment σ) (history : History σ)

theorem effect_of_same {after : History σ}
    (registry : after.relay.registry.tunnels = history.relay.registry.tunnels)
    (exchanges : after.relay.exchanges = history.relay.exchanges)
    (posts : after.posts = history.posts) :
    Effect environment history after :=
  Effect.quiet (Registry.quiet_of_same registry) (sameWrites_of_eq exchanges)
    posts

theorem exchange_sets {index : Nat} {exchange : Exchange}
    (found : history.relay.exchanges[index]? = some exchange)
    (settled : ∀ parameters, exchange.activity ≠ .connecting parameters) :
    (history.perform environment (.task (.exchange index))).relay =
      history.relay.setExchange index
        (exchange.step history.relay.registry).2.1
        (exchange.step history.relay.registry).2.2 := by
  cases activity : exchange.activity with
  | connecting parameters => exact absurd activity (settled parameters)
  | collecting | reading | writing | answered =>
      simp only [perform, Relay.perform, Relay.step, Relay.stepExchange,
        found, activity]

theorem write_effect {index : Nat} {exchange : Exchange} {write : Write}
    (found : history.relay.exchanges[index]? = some exchange)
    (writing : exchange.activity = .writing write) :
    Effect environment history
      (history.perform environment (.task (.exchange index))) := by
  have relay := history.exchange_sets environment found (by simp [writing])
  cases stepped : write.step exchange.body exchange.answer
      history.relay.registry with
  | mk result rest =>
      obtain ⟨pace, later, answer, next⟩ := result
      obtain ⟨registry, ended, goes⟩ := Exchange.step_writing writing stepped
      have kept := write.step_tunnel exchange.body exchange.answer
        history.relay.registry
      rw [stepped] at kept
      have own := writesOn_set found
        (exchange.step history.relay.registry).2.1 write.tunnel
      have leads : (history.perform environment
          (.task (.exchange index))).relay.registry = next := by
        rw [relay]
        exact registry
      rw [← leads] at stepped
      refine Effect.write (writesOn_of_writing found writing) stepped ?_ ?_ ?_
        rfl
      · intro done
        rw [relay]
        exact own.trans (ended done _)
      · intro more
        obtain ⟨goesOn, body⟩ := goes more
        have writes := Exchange.writeOn?_of_writing goesOn
        rw [kept, body] at writes
        rw [relay]
        exact own.trans writes
      · rw [relay]
        apply oneWrite_set found writing
        intro number differs
        by_cases done : pace = .ended
        · exact ended done number
        · apply Exchange.writeOn?_other (goes done).1
          rw [kept]
          exact differs

theorem exchange_effect (index : Nat) :
    Effect environment history
      (history.perform environment (.task (.exchange index))) := by
  cases found : history.relay.exchanges[index]? with
  | none =>
      have same : (history.perform environment
          (.task (.exchange index))).relay = history.relay := by
        simp only [perform, Relay.perform, Relay.step, Relay.stepExchange,
          found]
      apply effect_of_same
      · rw [same]
      · rw [same]
      · rfl
  | some exchange =>
      have idle : (∀ write, exchange.activity ≠ .writing write) →
          (∀ parameters, exchange.activity ≠ .connecting parameters) →
          Effect environment history
            (history.perform environment (.task (.exchange index))) := by
        intro idle settled
        have relay := history.exchange_sets environment found settled
        obtain ⟨still, quiet⟩ :=
          Exchange.step_idle history.relay.registry idle
        apply Effect.quiet
        · rw [relay]
          exact quiet
        · rw [relay]
          exact sameWrites_set found idle still
        · rfl
      cases activity : exchange.activity with
      | writing write => exact history.write_effect environment found activity
      | connecting parameters =>
          have was : ∀ write, exchange.activity ≠ .writing write := by
            simp [activity]
          have is : ∀ new : Exchange, new.activity = .answered →
              SameWrites history.relay.exchanges
                (history.relay.exchanges.set index new) := by
            intro new answered
            exact sameWrites_set found was (by simp [answered])
          simp only [perform, Relay.perform, Relay.step, Relay.stepExchange,
            found, activity, Relay.connectExchange, Relay.connect,
            Environment.recorded]
          cases outcome : environment.connect history.relay.requests.length
              ⟨parameters⟩ with
          | error error =>
              exact Effect.quiet (Registry.quiet_of_same rfl) (is _ rfl) rfl
          | ok tunnel =>
              have counted : ∀ token,
                  (history.relay.registry.put tunnel.recorded token).Quiet
                    ((history.relay.registry.count (·.tunnelOpened)).put
                      tunnel.recorded token) :=
                fun token => Registry.quiet_of_same rfl
              exact Effect.connect outcome
                ((counted _).trans (exchange.enter_quiet _ _ _))
                (is _ (exchange.enter_answered _ _ _)) rfl
      | reading | collecting | answered =>
          exact idle (by simp [activity]) (by simp [activity])

theorem receive_effect (request : Request) (body : List BodyEvent)
    (wanted : Bool) :
    Effect environment history
      (history.perform environment (.receive request body wanted)) := by
  have relay : (history.perform environment
      (.receive request body wanted)).relay = { history.relay with
        registry := (history.relay.startExchange request wanted).2
        exchanges := history.relay.exchanges ++
          [{ (history.relay.startExchange request wanted).1 with body }] } :=
    rfl
  rcases history.relay.startExchange_spec request wanted with
    ⟨idle, same⟩ | ⟨exchange, starts⟩
  · refine Effect.post ?_ ?_ rfl
    · rw [relay, same]
      exact Registry.Quiet.refl history.relay.registry
    · rw [relay]
      exact sameWrites_append _ idle
  · rcases exchange.start_spec history.relay.exchanges.length request
      history.relay.registry with ⟨idle, quiet⟩ |
      ⟨uuid, target, registered, later, parsed, found, own, shown, writing,
        beside, there, tracks, lock⟩
    · refine Effect.post ?_ ?_ rfl
      · rw [relay, starts]
        exact quiet
      · rw [relay, starts]
        exact sameWrites_append _ idle
    · have writes : ({ (exchange.start history.relay.exchanges.length request
          history.relay.registry).1 with body } : Exchange).activity =
          .writing { ticket := history.relay.exchanges.length,
                     tunnel := target } := writing
      refine Effect.enter found ?_ ?_ ?_ tracks lock ?_ ?_ rfl
      · simp [Post.isFor, parsed, own, shown]
      · rw [relay, starts]
        exact beside
      · rw [relay, starts]
        exact there
      · rw [relay, starts, writesOn_append]
        exact Exchange.writeOn?_of_writing writes
      · rw [relay, starts]
        exact oneWrite_append history.relay.exchanges writes

theorem abandon_effect (index : Nat) :
    Effect environment history
        (history.perform environment (.abandon index)) ∧
      (∀ number, writesOn history.relay.exchanges number index = none) ∨
    ∃ write body, GivesUp index history
      (history.perform environment (.abandon index)) write body := by
  cases found : history.relay.exchanges[index]? with
  | none =>
      have same := abandon_none environment found
      left
      constructor
      · apply effect_of_same
        · rw [same]
        · rw [same]
        · rfl
      · intro number
        rw [writesOn, found]
        rfl
  | some exchange =>
      have relay := abandon_relay environment found
      have silent := exchange.abandon_idle history.relay.registry
      by_cases writes : ∃ write, exchange.activity = .writing write
      · obtain ⟨write, activity⟩ := writes
        refine Or.inr ⟨write, exchange.body,
          writesOn_of_writing found activity, ?_, ?_, ?_, rfl⟩
        · rw [relay]
          simp only [Relay.setExchange, Exchange.abandon, activity,
            Write.abandon]
        · rw [relay]
          exact (writesOn_set found _ _).trans (Exchange.writeOn?_idle silent _)
        · rw [relay]
          exact oneWrite_set found activity fun number _ =>
            Exchange.writeOn?_idle silent number
      · have idle : ∀ write, exchange.activity ≠ .writing write :=
          fun write activity => writes ⟨write, activity⟩
        refine Or.inl ⟨Effect.quiet ?_ ?_ rfl, writesOn_idle found idle⟩
        · rw [relay]
          exact Exchange.abandon_quiet _ idle
        · rw [relay]
          exact sameWrites_set found idle silent

/-- Every move is one of a few things for tunnels and writes. -/
theorem perform_effect (move : Move σ) :
    Effect environment history (history.perform environment move) ∧
      (∀ index, move = .abandon index →
        ∀ number, writesOn history.relay.exchanges number index = none) ∨
    ∃ index write body, move = .abandon index ∧
      GivesUp index history (history.perform environment move) write body := by
  have session : ∀ index step, Effect environment history
      { history with relay := (history.relay.stepSession index step).2 } := by
    intro index step
    unfold Relay.stepSession
    split <;> exact effect_of_same environment history rfl rfl rfl
  cases move with
  | abandon index =>
      rcases history.abandon_effect environment index with
        ⟨effect, idle⟩ | ⟨write, body, gives⟩
      · refine Or.inl ⟨effect, ?_⟩
        intro other same
        cases same
        exact idle
      · exact Or.inr ⟨index, write, body, rfl, gives⟩
  | task task =>
      refine Or.inl ⟨?_, fun index same => by cases same⟩
      cases task with
      | exchange index => exact history.exchange_effect environment index
      | pump index => exact session index _
      | handler index heeds => exact session index _
  | receive request body wanted =>
      exact Or.inl ⟨history.receive_effect environment request body wanted,
        fun index same => by cases same⟩
  | deliver index body =>
      exact Or.inl ⟨Effect.deliver rfl rfl rfl, fun index same => by cases same⟩
  | closeIdle =>
      exact Or.inl ⟨Effect.quiet (Registry.quiet_closeIdle _)
        (SameWrites.refl _) rfl, fun index same => by cases same⟩
  | guacd index change =>
      exact Or.inl ⟨Effect.quiet (Registry.quiet_guacd _ index change)
        (SameWrites.refl _) rfl, fun index same => by cases same⟩
  | advance | openSession | say | lose | guacdSession =>
      exact Or.inl ⟨effect_of_same environment history rfl rfl rfl,
        fun index same => by cases same⟩

end History

end TunnelRelay
