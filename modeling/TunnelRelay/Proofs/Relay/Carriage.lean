import TunnelRelay.Proofs.Relay.Endings
import TunnelRelay.Proofs.Relay.Freight
import TunnelRelay.Proofs.Relay.Lane

/-!
What requests carry.

A write carries the pieces of its body to guacd. It is counted when it is answered with success, with
all frames that it has brought to guacd, and with all bytes of its body, dropped ones included. A
write that fails is not counted, whatever guacd has taken. A read carries replies and frames to its
browser, and all of them are counted as soon as they are handed over.
-/

namespace TunnelRelay

open Http LongPoll

variable {σ : Type}

theorem FilteredWriter.HasSeen.brings
    {filtered next : FilteredWriter (List Instruction)} {seen data : Bytes}
    {passed : Forwarded} (has : filtered.HasSeen seen)
    (accepted : filtered.accept data = (.ok passed, next)) :
    next.HasSeen (seen ++ data) ∧ ∃ new,
      forwardable (seen ++ data) = forwardable seen ++ new ∧
      Bytes.ofText passed.text = Frame.received new ∧
      passed.count = new.length := by
  obtain ⟨new, later, frames, outcome⟩ := has.completes data
  cases fault : (Intake.takeFrames .client (seen ++ data) []).fault with
  | some cause =>
      simp only [fault, accepted] at outcome
      cases outcome.1
  | none =>
      simp only [fault, accepted] at outcome
      obtain ⟨same, more, -⟩ := outcome
      cases same
      refine ⟨more, new.filter (!·.instruction.isInternal), ?_,
        Frame.received_eq_join _, rfl⟩
      unfold forwardable
      rw [frames, List.filter_append]

theorem FilteredWriter.HasSeen.isWhole
    {filtered : FilteredWriter (List Instruction)} {seen : Bytes}
    {memory : List Instruction} (has : filtered.HasSeen seen)
    (finished : filtered.finish = .ok memory) : IsWhole seen := by
  unfold finish at finished
  split at finished
  · rename_i empty
    rw [IsWhole, ← has.pending]
    exact List.isEmpty_iff.mp empty
  · cases finished

/-! ### Answered requests -/

/-- What a request has carried when it is answered, where `body` is what is not
used of its body. -/
structure Http.Answer.Settles (answer : Answer) (body : List BodyEvent)
    (post : Post) (freight : Freight) : Prop where
  forwards : freight.Forwards
  /-- A body is counted with a success, and then all that was accepted of it;
  one more event has ended it. -/
  sources : freight.sources = [] ∨ ∃ used last, answer.isOk = true ∧
    post.body = used ++ last :: body ∧ freight.sources = [bodyData used]
  rest : ∃ used, used <+: post.body ∧ freight.rest = bodyData used
  isOk : answer.isOk = true → freight.rest = []
  given : freight.given ≠ [] → answer.wanted = true → answer.complete = true →
    answer.Brings (Item.wire freight.given)
  replies : Item.replies freight.given <+: freight.replies

namespace LongPoll.Write

/-! ### Writes -/

def underWay (write : Write) : Nat × Nat :=
  match write.stage with
  | .sending _ count size => (count, size)
  | _ => (0, 0)

/-- What a write carries that is under way: it has accepted the data `rest`, of
which guacd has taken `reached`. -/
structure Carries (write : Write) (body : List BodyEvent) (answer : Answer)
    (post : Post) (rest reached : Bytes) : Prop where
  failing : answer.isOk = false
  used : ∃ used, post.body = used ++ body ∧ rest = bodyData used
  seen : write.filtered.HasSeen rest
  instructions : write.instructions + write.underWay.1 =
    (forwardable rest).length
  bytes : write.bytes + write.underWay.2 = rest.length
  reached : reached ++ write.unsent = Frame.received (forwardable rest)

/-- What a step of a write comes to. -/
def Moves (post : Post) (old : Freight) (before : Registry (Recorded σ))
    (result : (Pace × Write × Answer × Registry (Recorded σ)) ×
      List BodyEvent) : Prop :=
  ∃ new, before.Bears result.1.2.2.2 old new ∧
    (result.1.1 = .ended → result.1.2.2.1.Settles result.2 post new) ∧
    (result.1.1 ≠ .ended → ∃ rest reached,
      result.1.2.1.Carries result.2 result.1.2.2.1 post rest reached ∧
        new = { rest, reached })

variable {write : Write} {body : List BodyEvent} {answer : Answer}
  {post : Post} {rest reached : Bytes} {registry : Registry (Recorded σ)}

theorem Carries.front (carries : write.Carries body answer post rest reached) :
    reached <+: Frame.received (forwardable rest) :=
  ⟨_, carries.reached⟩

theorem Carries.within (carries : write.Carries body answer post rest reached) :
    ∃ used, used <+: post.body ∧ rest = bodyData used := by
  obtain ⟨used, split, data⟩ := carries.used
  exact ⟨used, ⟨body, split.symm⟩, data⟩

theorem settles_failed (failing : answer.isOk = false)
    (within : ∃ used, used <+: post.body ∧ rest = bodyData used)
    (front : reached <+: Frame.received (forwardable rest)) :
    answer.Settles body post { rest, reached } where
  forwards := Freight.forwards_begun rfl front
  sources := Or.inl rfl
  rest := within
  isOk isOk := by
    rw [failing] at isOk
    cases isOk
  given some_ := absurd rfl some_
  replies := List.nil_prefix

theorem Moves.before {middle : Registry (Recorded σ)} {old mid : Freight}
    {result : (Pace × Write × Answer × Registry (Recorded σ)) ×
      List BodyEvent} (moves : Moves post mid middle result)
    (bears : registry.Bears middle old mid) :
    Moves post old registry result := by
  obtain ⟨new, moved, rest⟩ := moves
  exact ⟨new, bears.trans moved, rest⟩

theorem moves_on {later : Write} {pace : Pace} {next : Registry (Recorded σ)}
    {old : Freight} (goes : pace ≠ .ended)
    (bears : registry.Bears next old { rest, reached })
    (carries : later.Carries body answer post rest reached) :
    Moves post old registry ((pace, later, answer, next), body) :=
  ⟨_, bears, fun ended => absurd ended goes,
    fun _ => ⟨rest, reached, carries, rfl⟩⟩

variable [Connection σ]

theorem fail_moves (write : Write) (uuid : Uuid) (answer : Answer)
    (registry : Registry (Recorded σ)) {error : RelayError}
    (fails : error.status.httpCode ≠ Status.success.httpCode)
    (within : ∃ used, used <+: post.body ∧ rest = bodyData used)
    (front : reached <+: Frame.received (forwardable rest)) :
    Moves post { rest, reached } registry
      (write.fail uuid error answer registry, body) := by
  have released := registry.bears_onTunnel write.tunnel
    (·.releaseWriter write.ticket) (fun _ => rfl) { rest, reached }
  refine ⟨_, ?_, fun _ => settles_failed (answer.failure_isOk fails) within
    front, fun goes => absurd rfl goes⟩
  unfold fail
  simp only
  split
  · exact released
  · exact released.trans (Registry.bears_close _ _ _ _)

/-- A body that has ended well is counted: as many instructions as guacd has
been given, and as many bytes as there were. -/
theorem finish_moves {event : BodyEvent} (uuid : Uuid)
    (registry : Registry (Recorded σ))
    (carries : write.Carries (event :: body) answer post rest reached)
    (stage : write.stage = .receiving) :
    Moves post { rest, reached } registry
      (write.finish uuid answer registry, body) := by
  unfold finish
  cases finished : write.filtered.finish with
  | error error =>
      have fails : error.status.httpCode ≠ Status.success.httpCode := by
        have told : refusal? write.filtered.finish = some error := by
          rw [finished]
          rfl
        exact finish_fails told
      exact fail_moves write uuid answer registry fails carries.within
        carries.front
  | ok memory =>
      have nothing : write.underWay = (0, 0) := by
        rw [underWay, stage]
      have sent : write.unsent = [] := by
        rw [unsent, stage]
      have count := carries.instructions
      have size := carries.bytes
      have reached_ := carries.reached
      rw [nothing, Nat.add_zero] at count size
      rw [sent, List.append_nil] at reached_
      have counted : registry.Bears
          (registry.count (·.sentToServer (.ofNat write.instructions)
            (.ofNat write.bytes)))
          { rest, reached } { sources := [rest], reached } := by
        refine ⟨⟨⟨write.instructions, rfl, ?_⟩, ⟨write.bytes, rfl, ?_⟩,
          .refl _ _, .refl _ _, .refl _ _⟩, rfl⟩
        · simp [Freight.instructions, count]
        · simp [Freight.bytes, size]
      refine ⟨_, counted.trans (Registry.bears_onTunnel _ write.tunnel
        (·.releaseWriter write.ticket) (fun _ => rfl) _), fun _ => ?_,
        fun goes => absurd rfl goes⟩
      have isOk : (answer.whole Status.success.httpCode headers []).isOk =
          true :=
        (answer.whole_isOk _ _ _).trans (beq_self_eq_true _)
      obtain ⟨used, split, data⟩ := carries.used
      constructor
      · refine ⟨?_, [], List.nil_prefix, ?_⟩
        · intro source member
          rw [List.mem_singleton.mp member]
          exact carries.seen.isWhole finished
        · simp [reached_, Freight.due]
      · exact Or.inr ⟨used, event, isOk, split, by rw [← data]⟩
      · exact ⟨[], List.nil_prefix, rfl⟩
      · exact fun _ => rfl
      · exact fun some_ => absurd rfl some_
      · exact List.nil_prefix

omit [Connection σ] in
theorem forwarded_moves {count size : Nat}
    {registered : RegisteredTunnel (Recorded σ)}
    (found : registry.tunnel? write.tunnel = some registered)
    (failing : answer.isOk = false)
    (used : ∃ used, post.body = used ++ body ∧ rest = bodyData used)
    (seen : write.filtered.HasSeen rest)
    (instructions : write.instructions + count = (forwardable rest).length)
    (bytes : write.bytes + size = rest.length)
    (whole : reached = Frame.received (forwardable rest)) :
    Moves post { rest, reached } registry
      (write.forwarded count size answer registry, body) := by
  have carries : Carries
      { write with
        stage := .receiving
        filtered := { write.filtered with memory := [] }
        instructions := write.instructions + count
        bytes := write.bytes + size } body answer post rest reached :=
    ⟨failing, used, seen.remember [], instructions, bytes,
      (List.append_nil _).trans whole⟩
  refine moves_on (by decide) ?_ carries
  cases owed : write.filtered.memory with
  | nil =>
      simp only [List.isEmpty_nil, if_true]
      exact .refl _ _
  | cons reply replies =>
      exact Registry.bears_push found (List.cons_ne_nil _ _) _

theorem accept_moves {data : Bytes} (uuid : Uuid)
    {registered : RegisteredTunnel (Recorded σ)}
    (found : registry.tunnel? write.tunnel = some registered)
    (carries : write.Carries (.chunk data :: body) answer post rest reached)
    (stage : write.stage = .receiving) :
    Moves post { rest, reached } registry
      (write.accept uuid data answer registry, body) := by
  have nothing : write.underWay = (0, 0) := by
    rw [underWay, stage]
  have sent : write.unsent = [] := by
    rw [unsent, stage]
  obtain ⟨failing, ⟨used, split, known⟩, seen, count, size, account⟩ := carries
  rw [nothing, Nat.add_zero] at count size
  rw [sent, List.append_nil] at account
  unfold accept
  cases accepting : write.filtered.accept data with
  | mk outcome filtered =>
      cases outcome with
      | error error =>
          have fails : error.status.httpCode ≠ Status.success.httpCode := by
            rcases seen.completes data with ⟨new, next, -, outcome⟩
            split at outcome
            · rw [accepting] at outcome
              cases outcome.1
              exact (by decide :
                Status.clientBadRequest.httpCode ≠ Status.success.httpCode)
            · rw [accepting] at outcome
              cases outcome.1
          exact fail_moves { write with filtered } uuid answer registry fails
            ⟨used, ⟨_, split.symm⟩, known⟩
            ⟨[], by rw [account, List.append_nil]⟩
      | ok passed =>
          obtain ⟨more, new, further, text, length⟩ := seen.brings accepting
          have used_ : ∃ used, post.body = used ++ body ∧
              rest ++ data = bodyData used := by
            refine ⟨used ++ [.chunk data], ?_, ?_⟩
            · rw [split, List.append_assoc]
              rfl
            · rw [bodyData_append, ← known]
              simp [bodyData]
          have count_ : write.instructions + passed.count =
              (forwardable (rest ++ data)).length := by
            rw [further, List.length_append, count, length]
          have size_ : write.bytes + data.length = (rest ++ data).length := by
            rw [List.length_append, size]
          have account_ : reached ++ Bytes.ofText passed.text =
              Frame.received (forwardable (rest ++ data)) := by
            rw [further, Frame.received_append, account, text]
          have same : registry.Bears registry { rest, reached }
              { rest := rest ++ data, reached } :=
            ⟨⟨.refl _ _, .refl _ _, .refl _ _, .refl _ _, .refl _ _⟩, rfl⟩
          simp only
          cases starts : FilteredWriter.sending? passed with
          | none =>
              rw [FilteredWriter.sending?_none starts, List.append_nil]
                at account_
              refine Moves.before ?_ same
              exact forwarded_moves found failing used_ more count_ size_
                account_
          | some sending =>
              rw [← FilteredWriter.sending?_some starts] at account_
              exact moves_on (by decide) same
                ⟨failing, used_, more, count_, size_, account_⟩

omit [Connection σ] in
theorem rests_moves (pace : Pace) (registry : Registry (Recorded σ))
    (carries : write.Carries body answer post rest reached) :
    Moves post { rest, reached } registry
      ((pace, write, answer, registry), body) :=
  ⟨_, .refl _ _, fun _ => settles_failed carries.failing carries.within
    carries.front, fun _ => ⟨rest, reached, carries, rfl⟩⟩

section Stages

variable {registered : RegisteredTunnel (Recorded σ)}

theorem acquiring_moves
    (found : registry.tunnel? write.tunnel = some registered)
    (stage : write.stage = .acquiring)
    (carries : write.Carries body answer post rest reached) :
    Moves post { rest, reached } registry
      (write.step body answer registry) := by
  unfold step
  simp only [found, stage]
  split
  · exact rests_moves .parked registry carries
  · rename_i error tunnel claimed
    have same : tunnel.backend.stream.taken =
        registered.tunnel.backend.stream.taken := by
      rw [claim_refused claimed]
      rfl
    have told : write.failure? body registered.tunnel = some error := by
      simp only [failure?, stage, claimed]
      rfl
    exact (fail_moves write _ answer _ (failure?_fails carries.seen told)
      carries.within carries.front).before
        (Registry.bears_stay found same _)
  · rename_i tunnel claimed
    obtain ⟨same, -⟩ := claim_granted claimed
    obtain ⟨failing, used, seen, count, size, account⟩ := carries
    rw [underWay, stage] at count size
    rw [unsent, stage] at account
    exact moves_on (by decide) (Registry.bears_stay found (by rw [same]) _)
      ⟨failing, used, seen, count, size, account⟩

theorem receiving_moves
    (found : registry.tunnel? write.tunnel = some registered)
    (stage : write.stage = .receiving)
    (carries : write.Carries body answer post rest reached) :
    Moves post { rest, reached } registry
      (write.step body answer registry) := by
  unfold step
  simp only [found, stage]
  cases body with
  | nil => exact rests_moves .parked registry carries
  | cons event body =>
      cases event with
      | failed reason =>
          obtain ⟨used, within, data⟩ := carries.within
          exact fail_moves write _ answer registry
            (by decide : Status.clientBadRequest.httpCode ≠
              Status.success.httpCode)
            ⟨used, within, data⟩ carries.front
      | finished => exact finish_moves _ registry carries stage
      | chunk data =>
          simp only
          split
          · exact accept_moves _ found carries stage
          · exact finish_moves _ registry carries stage

theorem sending_moves {sending : Sending} {count size : Nat}
    (found : registry.tunnel? write.tunnel = some registered)
    (stage : write.stage = .sending sending count size)
    (carries : write.Carries body answer post rest reached) :
    Moves post { rest, reached } registry
      (write.step body answer registry) := by
  have within := carries.within
  obtain ⟨failing, used, seen, instructions, bytes, account⟩ := carries
  rw [underWay, stage] at instructions bytes
  rw [unsent, stage] at account
  unfold step
  simp only [found, stage]
  cases sent : registered.tunnel.send sending with
  | mk outcome tunnel =>
      obtain ⟨-, -, -, gone, left, split, advances, ended⟩ :=
        Tunnel.send_advances sent
      have moved : registry.Bears
          (registry.onTunnel write.tunnel fun _ => tunnel)
          { rest, reached } { rest, reached := reached ++ gone } :=
        Registry.bears_store found advances.taken _
      simp only at account
      rw [split, ← List.append_assoc] at account
      cases outcome with
      | done =>
          obtain ⟨rfl, -⟩ := ended
          rw [List.append_nil] at account
          obtain ⟨later, here⟩ : ∃ later,
              (registry.onTunnel write.tunnel
                fun _ => tunnel).tunnel? write.tunnel = some later :=
            ⟨_, onTunnel_own found _⟩
          exact (forwarded_moves here failing used seen instructions bytes
            account).before moved
      | failed error =>
          exact (fail_moves write _ answer _ (send_fails sent) within
            ⟨left, account⟩).before moved
      | parked more =>
          obtain ⟨rfl, -⟩ := ended
          exact moves_on (by decide) moved
            ⟨failing, used, seen, instructions, bytes, account⟩

end Stages

theorem step_moves (write : Write) (registry : Registry (Recorded σ))
    (carries : write.Carries body answer post rest reached) :
    Moves post { rest, reached } registry
      (write.step body answer registry) := by
  cases found : registry.tunnel? write.tunnel with
  | none =>
      rw [step, found]
      exact rests_moves .ended registry carries
  | some registered =>
      cases stage : write.stage with
      | acquiring => exact acquiring_moves found stage carries
      | receiving => exact receiving_moves found stage carries
      | sending sending count size => exact sending_moves found stage carries
      | finished =>
          simp only [step, found, stage]
          exact rests_moves .ended registry carries

end LongPoll.Write

/-! ### Reads -/

/-- What a read carries: it has given some items to its browser, and has others
in its hand. -/
def Freight.ofRead (given hand : List Item) : Freight :=
  { given, replies := Item.replies (given ++ hand) }

namespace LongPoll.Read

structure Shows (read : Read) (answer : Answer) (given : List Item) :
    Prop where
  begun : answer.isOk = read.begun
  fresh : read.begun = false → given = []
  goes : answer.complete = false
  content : answer.wanted = true →
    answer.pieces.flatten ++ read.unsent = Item.wire given

structure Fits (message : Message) (items : List Item) : Prop where
  data : Bytes.ofText message.data = Item.wire items
  count : message.count = items.length

def Grasps (hand : List Item) : ReadStage → Prop
  | .giving (some message) => Fits message hand
  | _ => hand = []

/-- What a read carries that is under way. -/
structure Carries (read : Read) (answer : Answer) (given hand : List Item) :
    Prop extends read.Shows answer given where
  grasps : Grasps hand read.stage
  giving : ∀ message, read.stage = .giving message → read.begun = true

def Moves (old : Freight) (before : Registry (Recorded σ))
    (result : Pace × Read × Answer × Registry (Recorded σ)) : Prop :=
  ∃ new, before.Bears result.2.2.2 old new ∧
    (result.1 = .ended → ∀ body post, result.2.2.1.Settles body post new) ∧
    (result.1 ≠ .ended → ∃ given hand,
      result.2.1.Carries result.2.2.1 given hand ∧ new = .ofRead given hand)

variable {read : Read} {answer : Answer} {given hand : List Item}
  {registry : Registry (Recorded σ)}

/-- A read whose answer nobody takes any more has what it had. -/
theorem Carries.unwanted (carries : read.Carries answer given hand) :
    read.Carries { answer with wanted := false } given hand where
  begun := carries.begun
  fresh := carries.fresh
  goes := carries.goes
  content := nofun
  grasps := carries.grasps
  giving := carries.giving

theorem Moves.before {middle : Registry (Recorded σ)} {old mid : Freight}
    {result : Pace × Read × Answer × Registry (Recorded σ)}
    (moves : Moves mid middle result) (bears : registry.Bears middle old mid) :
    Moves old registry result := by
  obtain ⟨new, moved, rest⟩ := moves
  exact ⟨new, bears.trans moved, rest⟩

theorem moves_on {later : Read} {pace : Pace} {next : Registry (Recorded σ)}
    {old : Freight} (goes : pace ≠ .ended)
    (bears : registry.Bears next old (.ofRead given hand))
    (carries : later.Carries answer given hand) :
    Moves old registry (pace, later, answer, next) :=
  ⟨_, bears, fun ended => absurd ended goes,
    fun _ => ⟨given, hand, carries, rfl⟩⟩

theorem settles_read (body : List BodyEvent) (post : Post)
    (brings : given ≠ [] → answer.wanted = true → answer.complete = true →
      answer.Brings (Item.wire given)) :
    answer.Settles body post (.ofRead given hand) where
  forwards := Freight.forwards_begun rfl List.nil_prefix
  sources := Or.inl rfl
  rest := ⟨[], List.nil_prefix, rfl⟩
  isOk _ := rfl
  given := brings
  replies := by
    simp only [Freight.ofRead, Item.replies_append]
    exact List.prefix_append _ _

theorem finish_moves {notice : Bytes} {answer : Answer}
    {registry next : Registry (Recorded σ)} (read : Read)
    (bears : registry.Bears next (.ofRead given hand) (.ofRead given hand))
    (isOk : answer.isOk = true) (notes : Notice notice)
    (content : answer.wanted = true →
      answer.pieces.flatten ++ read.unsent = Item.wire given ++ notice) :
    Moves (.ofRead given hand) registry
      (.ended, read.finish answer next) := by
  refine ⟨_, bears.trans (next.bears_onTunnel read.tunnel
    (·.releaseReader read.ticket) (fun _ => rfl) _), fun _ body post => ?_,
    fun goes => absurd rfl goes⟩
  apply settles_read
  intro _ wanted _
  unfold finish Answer.give Answer.finish at *
  cases takes : answer.wanted with
  | false =>
      simp only [takes, Bool.false_eq_true, if_false] at wanted
  | true =>
      simp only [if_true]
      refine ⟨isOk, rfl, notice, notes, ?_⟩
      rw [List.flatten_append, List.flatten_singleton, ← List.append_assoc,
        content takes]

variable [Connection σ]

theorem fail_moves (shows : read.Shows answer given) (begun : read.begun = true)
    (uuid : Uuid) (error : RelayError) (registry : Registry (Recorded σ)) :
    Moves (.ofRead given hand) registry
      (.ended, read.fail uuid error answer registry) := by
  have isOk := shows.begun.trans begun
  unfold fail
  split
  · apply finish_moves read (registry.bears_close uuid _ _) isOk .nothing
    intro wanted
    rw [shows.content wanted, List.append_nil]
  · rename_i open_
    apply finish_moves _ (registry.bears_close uuid _ _) isOk
      (.failure (eq_false_of_ne_true open_))
    intro wanted
    rw [← shows.content wanted, List.append_assoc]

def Holds (items : List Item) : Except RelayError (Option Message) → Prop
  | .ok (some message) => Fits message items
  | .ok none | .error _ => items = []

theorem receive_moves {outcome : Except RelayError (Option Message)}
    (shows : read.Shows answer given) (uuid : Uuid)
    (registry : Registry (Recorded σ)) (holds : Holds hand outcome)
    (fails : ∀ error, outcome = .error error →
      error.status.httpCode ≠ Status.success.httpCode) :
    Moves (.ofRead given hand) registry
      (read.receive uuid outcome answer registry) := by
  unfold receive
  cases begun : read.begun with
  | true =>
      simp only [if_true]
      cases outcome with
      | ok message =>
          have grasps : Grasps hand (.giving message) := by
            cases message <;> exact holds
          have started : { read with
              stage := .giving message
              begun := true }.Shows answer given := by
            refine ⟨shows.begun.trans begun, ?_, shows.goes, shows.content⟩
            intro fresh
            cases fresh
          exact moves_on (by decide) (.refl _ _)
            ⟨started, grasps, fun _ _ => rfl⟩
      | error error => exact fail_moves shows begun uuid error registry
  | false =>
      simp only [Bool.false_eq_true, if_false]
      have nothing := shows.fresh begun
      have starts : ∀ message, firstMessage outcome = .ok message →
          Grasps hand (.giving message) := by
        intro message first
        unfold firstMessage at first
        split at first
        · cases first
          cases message <;> exact holds
        · split at first
          · cases first
            exact holds
          · cases first
      cases first : firstMessage outcome with
      | ok message =>
          refine moves_on (by decide) (.refl _ _)
            ⟨⟨rfl, ?_, shows.goes, shows.content⟩, starts message first,
              fun _ _ => rfl⟩
          intro impossible
          cases impossible
      | error error =>
          have failed : outcome = .error error := by
            unfold firstMessage at first
            split at first
            · cases first
            · split at first <;> cases first
              rfl
          refine ⟨_, (registry.bears_close uuid error.status _).trans
            (Registry.bears_onTunnel _ read.tunnel
              (·.releaseReader read.ticket) (fun _ => rfl) _), ?_,
            fun goes => absurd rfl goes⟩
          exact fun _ body post =>
            settles_read body post fun some_ => absurd nothing some_

theorem give_moves {message : Message}
    {registered : RegisteredTunnel (Recorded σ)}
    (registry : Registry (Recorded σ))
    (carries : read.Carries answer given hand)
    (stage : read.stage = .giving (some message)) :
    Moves (.ofRead given hand) registry
      (read.give registered message answer registry) := by
  have fits : Fits message hand := by
    have grasps := carries.grasps
    rw [stage] at grasps
    exact grasps
  have begun := carries.giving _ stage
  have counted : registry.Bears
      (registry.count (·.sentToClient (.ofNat message.count)
        (.ofNat (Bytes.ofText message.data).length)))
      (.ofRead given hand) (.ofRead (given ++ hand) []) := by
    refine ⟨⟨.refl _ _, .refl _ _, ⟨message.count, rfl, ?_⟩,
      ⟨(Bytes.ofText message.data).length, rfl, ?_⟩, 0, ?_, ?_⟩, rfl⟩
    · rw [fits.count]
      exact List.length_append
    · rw [fits.data]
      simp [Freight.shownBytes, Freight.ofRead]
    · exact (UInt64.add_zero _).symm
    · simp [Freight.replied, Freight.ofRead, Registry.gauge, Registry.waiting,
        Registry.count]
  have shows : Shows
      { read with unsent := read.unsent ++ Bytes.ofText message.data }
      answer (given ++ hand) := by
    refine ⟨carries.begun, ?_, carries.goes, ?_⟩
    · intro fresh
      simp only at fresh
      rw [begun] at fresh
      cases fresh
    · intro wanted
      rw [← List.append_assoc, carries.content wanted, fits.data,
        Item.wire_append]
  have isOk := carries.begun.trans begun
  unfold give
  simp only
  -- the message is counted first, whoever takes it
  refine Moves.before ?_ counted
  split
  · split
    · refine finish_moves _ (.refl _ _) isOk .nothing ?_
      intro wanted
      rw [List.append_nil]
      exact shows.content wanted
    · refine moves_on (by decide) (.refl _ _) ⟨⟨shows.begun, shows.fresh,
        shows.goes, shows.content⟩, rfl, ?_⟩
      intro message giving
      cases giving
  · unfold Answer.give
    cases takes : answer.wanted with
    | true =>
        simp only [if_true]
        refine finish_moves _ (.refl _ _) isOk .nothing ?_
        intro _
        rw [List.append_nil, List.append_nil, List.flatten_append,
          List.flatten_singleton]
        exact shows.content takes
    | false =>
        simp only [Bool.false_eq_true, if_false]
        have silent : { read with unsent := [] }.Shows answer
            (given ++ hand) := by
          refine ⟨shows.begun, shows.fresh, shows.goes, ?_⟩
          intro wanted
          rw [takes] at wanted
          cases wanted
        exact fail_moves silent begun _ _ _

omit [Connection σ] in
theorem bears_take {registered : RegisteredTunnel (Recorded σ)} {number : Nat}
    (found : registry.tunnel? number = some registered) (given : List Item) :
    registry.Bears
      (registry.update number fun _ => { registered with
        outbox := { registered.outbox with queue := [] } })
      (.ofRead given [])
      (.ofRead given (registered.outbox.queue.map .reply)) := by
  have waits := registry.waiting_update number (fun _ => { registered with
    outbox := { registered.outbox with queue := [] } }) found
  have records := registry.taken_update number (fun _ => { registered with
    outbox := { registered.outbox with queue := [] } }) found
  refine ⟨⟨.refl _ _, .refl _ _, .refl _ _, .refl _ _, 0, ?_, ?_⟩,
    congrArg (· + 0) (Nat.add_right_cancel records)⟩
  · exact (UInt64.add_zero _).symm
  · simp only [Freight.replied, Freight.ofRead, Item.replies_append,
      Item.replies_map, List.append_nil, List.length_append, Registry.gauge,
      Metrics.gauge_waiting, List.length_nil] at waits ⊢
    omega

theorem look_holds (outcome : Except RelayError (Option Frame)) :
    Holds (itemsOf (.ready outcome))
      (outcome.map (·.map Message.ofFrame)) := by
  cases outcome with
  | error error => rfl
  | ok frame =>
      cases frame with
      | none => rfl
      | some frame => exact ⟨(List.append_nil _).symm, rfl⟩

theorem ofRead_look (given : List Item)
    (outcome : Poll (Except RelayError (Option Frame))) :
    Freight.ofRead given (itemsOf outcome) = .ofRead given [] := by
  have silent : Item.replies (itemsOf outcome) = [] := by
    unfold itemsOf
    split <;> rfl
  unfold Freight.ofRead
  rw [Item.replies_append, silent, List.append_nil, List.append_nil]

omit [Connection σ] in
theorem rests_moves (pace : Pace) (registry : Registry (Recorded σ))
    (carries : read.Carries answer given hand) :
    Moves (.ofRead given hand) registry (pace, read, answer, registry) := by
  refine ⟨_, .refl _ _, fun _ body post => ?_,
    fun _ => ⟨given, hand, carries, rfl⟩⟩
  apply settles_read
  intro _ _ complete
  rw [carries.goes] at complete
  cases complete

section Stages

variable {registered : RegisteredTunnel (Recorded σ)}

omit [Connection σ] in
theorem stays_moves (found : registry.tunnel? read.tunnel = some registered)
    (shows : read.Shows answer given) {later : RegisteredTunnel (Recorded σ)}
    {pace : Pace} {stage : ReadStage} (goes : pace ≠ .ended)
    (taken : later.record.taken = registered.record.taken)
    (queue : later.outbox.queue = registered.outbox.queue)
    (grasps : Grasps hand stage) (other : ∀ message, stage ≠ .giving message) :
    Moves (.ofRead given hand) registry (pace, { read with stage }, answer,
      registry.update read.tunnel fun _ => later) :=
  moves_on goes (Registry.bears_keep found taken queue _)
    ⟨⟨shows.begun, shows.fresh, shows.goes, shows.content⟩, grasps,
      fun message giving => absurd giving (other message)⟩

theorem acquiring_moves (found : registry.tunnel? read.tunnel = some registered)
    (stage : read.stage = .acquiring)
    (carries : read.Carries answer given hand) :
    Moves (.ofRead given hand) registry (read.step answer registry) := by
  have grasps := carries.grasps
  rw [stage] at grasps
  unfold step
  simp only [found, stage]
  split
  · exact rests_moves .parked registry carries
  · rename_i tunnel claimed
    have same : tunnel.backend = registered.tunnel.backend := by
      unfold Tunnel.claimReader at claimed
      split at claimed <;> cases claimed
      rfl
    exact stays_moves found carries.toShows (by decide)
      (congrArg (·.stream.taken) same) rfl grasps fun message => by simp

/-- Replies that wait are taken before anything else. -/
theorem looking_moves (found : registry.tunnel? read.tunnel = some registered)
    (stage : read.stage = .looking) (carries : read.Carries answer given hand) :
    Moves (.ofRead given hand) registry (read.step answer registry) := by
  have shows := carries.toShows
  have grasps := carries.grasps
  rw [stage] at grasps
  cases grasps
  unfold step
  simp only [found, stage]
  by_cases empty : registered.outbox.queue = []
  · simp only [lookInside_nothing empty]
    exact stays_moves found shows (by decide) rfl rfl rfl
      fun message => by simp
  · simp only [lookInside_found empty]
    refine Moves.before (receive_moves shows _ _ ?_ ?_) (bears_take found given)
    · exact ⟨(Item.wire_map _).symm, by simp [Message.ofInstructions]⟩
    · intro error impossible
      cases impossible

theorem waiting_moves (found : registry.tunnel? read.tunnel = some registered)
    (stage : read.stage = .waiting) (carries : read.Carries answer given hand) :
    Moves (.ofRead given hand) registry (read.step answer registry) := by
  have shows := carries.toShows
  have grasps := carries.grasps
  rw [stage] at grasps
  cases grasps
  unfold step
  simp only [found, stage]
  cases permit : registered.outbox.permit with
  | true =>
      simp only [await_again permit]
      exact stays_moves found shows (by decide) rfl rfl rfl
        fun message => by simp
  | false =>
      cases reading : registered.tunnel.readFrame with
      | mk outcome tunnel =>
          have taken : tunnel.backend.stream.taken =
              registered.record.taken := by
            have rests := registered.tunnel.readFrame_rests.2.2.2
            rw [reading] at rests
            exact rests.taken
          simp only [await_readFrame permit reading]
          cases outcome with
          | parked =>
              have stays : Moves (.ofRead given []) registry (.parked,
                  { read with stage := .waiting }, answer,
                  registry.update read.tunnel
                    fun _ => { registered with tunnel }) :=
                stays_moves found shows (by decide) taken rfl rfl
                  fun message => by simp
              rw [← stage] at stays
              exact stays
          | ready outcome =>
              have kept : registry.Bears
                  (registry.update read.tunnel
                    fun _ => { registered with tunnel })
                  (.ofRead given []) (.ofRead given []) := by
                apply Registry.bears_keep found
                · exact taken
                · rfl
              rw [← ofRead_look given (.ready outcome)] at kept ⊢
              refine Moves.before (receive_moves shows _ _
                (look_holds outcome) ?_) kept
              intro error told
              cases outcome with
              | error other =>
                  cases told
                  exact readFrame_fails reading
              | ok frame => cases told

theorem ending_moves (found : registry.tunnel? read.tunnel = some registered)
    (stage : read.stage = .giving none)
    (carries : read.Carries answer given hand) :
    Moves (.ofRead given hand) registry (read.step answer registry) := by
  have grasps := carries.grasps
  rw [stage] at grasps
  cases grasps
  unfold step
  simp only [found, stage]
  apply finish_moves read (registry.bears_close _ _ _)
    (carries.begun.trans (carries.giving none stage)) .nothing
  intro wanted
  rw [carries.content wanted, List.append_nil]

end Stages

theorem step_moves (read : Read) (registry : Registry (Recorded σ))
    (carries : read.Carries answer given hand) :
    Moves (.ofRead given hand) registry (read.step answer registry) := by
  cases found : registry.tunnel? read.tunnel with
  | none =>
      rw [step, found]
      exact rests_moves .ended registry carries
  | some registered =>
      cases stage : read.stage with
      | acquiring => exact acquiring_moves found stage carries
      | looking => exact looking_moves found stage carries
      | waiting => exact waiting_moves found stage carries
      | giving message =>
          cases message with
          | none => exact ending_moves found stage carries
          | some message =>
              simp only [step, found, stage]
              exact give_moves registry carries stage
      | finished =>
          simp only [step, found, stage]
          exact rests_moves .ended registry carries

end LongPoll.Read

/-! ### Exchanges -/

theorem Http.Answer.settles_nothing (answer : Answer) (body : List BodyEvent)
    (post : Post) : answer.Settles body post {} := by
  have nothing : Freight.ofRead [] [] = {} := rfl
  rw [← nothing]
  exact Read.settles_read body post fun some_ => absurd rfl some_

namespace LongPoll.Exchange

def Carries (exchange : Exchange) (post : Post) (freight : Freight) : Prop :=
  match exchange.activity with
  | .collecting _ | .connecting _ => freight = {}
  | .reading read => ∃ given hand,
      read.Carries exchange.answer given hand ∧ freight = .ofRead given hand
  | .writing write => ∃ rest reached,
      write.Carries exchange.body exchange.answer post rest reached ∧
        freight = { rest, reached }
  | .answered => exchange.answer.Settles exchange.body post freight

variable {exchange : Exchange} {post : Post} {freight : Freight}

theorem refuse_carries (exchange : Exchange) (error : RelayError)
    (post : Post) : (exchange.refuse error).Carries post {} :=
  Answer.settles_nothing _ _ post

theorem enter_carries [Connection σ] (exchange : Exchange)
    (tunnel : Tunnel (Recorded σ)) (token : String)
    (registry : Registry (Recorded σ)) (post : Post) :
    (exchange.enter tunnel token registry).1.Carries post {} := by
  unfold enter
  simp only
  split <;> exact Answer.settles_nothing _ _ post

/-- Nothing has been sent over a tunnel that is new. -/
theorem enter_bears [Connection σ] (exchange : Exchange)
    {tunnel : Tunnel (Recorded σ)} (token : String)
    (silent : tunnel.backend.stream.taken = [])
    (registry : Registry (Recorded σ)) :
    registry.Bears (exchange.enter tunnel token registry).2 {} {} := by
  have listed : registry.Bears (registry.put tunnel token) {} {} := by
    constructor
    · rw [Registry.gauge_put]
      exact .refl _ _
    · rw [Registry.taken_put, silent]
      rfl
  unfold enter
  simp only
  split
  · exact listed
  · exact listed.trans (Registry.bears_close _ _ _ _)

theorem collect_carries (exchange : Exchange) (form : Bytes) (post : Post)
    (collecting : exchange.activity = .collecting form) :
    (exchange.collect form).2.Carries post {} := by
  unfold collect
  split
  · simp only [Carries, collecting]
  · exact refuse_carries _ _ post
  · rfl
  · split
    · exact refuse_carries _ _ post
    · rfl

theorem Carries.deliver (carries : exchange.Carries post freight)
    (more : List BodyEvent) :
    Carries { exchange with body := exchange.body ++ more }
      { post with body := post.body ++ more } freight := by
  unfold Carries at carries ⊢
  cases activity : exchange.activity with
  | collecting form => simpa only [activity] using carries
  | connecting parameters => simpa only [activity] using carries
  | reading read => simpa only [activity] using carries
  | writing write =>
      simp only [activity] at carries ⊢
      obtain ⟨rest, reached, carries, same⟩ := carries
      obtain ⟨used, split, data⟩ := carries.used
      refine ⟨rest, reached, ⟨carries.failing, ⟨used, ?_, data⟩, carries.seen,
        carries.instructions, carries.bytes, carries.reached⟩, same⟩
      rw [split, List.append_assoc]
  | answered =>
      simp only [activity] at carries ⊢
      obtain ⟨forwards, sources, ⟨used, within, rest⟩, isOk, given, replies⟩ :=
        carries
      refine ⟨forwards, ?_, ⟨used, within.trans (List.prefix_append _ _), rest⟩,
        isOk, given, replies⟩
      rcases sources with none_ | ⟨first, last, fine, split, data⟩
      · exact Or.inl none_
      · refine Or.inr ⟨first, last, fine, ?_, data⟩
        rw [split, List.append_assoc]
        rfl

theorem Carries.abandon (carries : exchange.Carries post freight)
    (registry : Registry (Recorded σ)) :
    registry.Bears (exchange.abandon registry).2 freight freight ∧
      (exchange.abandon registry).1.Carries post freight := by
  unfold Carries at carries
  unfold Exchange.abandon
  cases activity : exchange.activity with
  | collecting form =>
      simp only [activity] at carries ⊢
      cases carries
      exact ⟨.refl _ _, Answer.settles_nothing _ _ post⟩
  | connecting parameters =>
      simp only [activity] at carries ⊢
      cases carries
      exact ⟨.refl _ _, Answer.settles_nothing _ _ post⟩
  | answered =>
      simp only [activity] at carries ⊢
      exact ⟨.refl _ _, carries⟩
  | reading read =>
      simp only [activity] at carries ⊢
      obtain ⟨given, hand, carries, rfl⟩ := carries
      split
      · exact ⟨.refl _ _, given, hand, carries.unwanted, rfl⟩
      · constructor
        · simp only [Read.abandon]
          refine registry.bears_onTunnel _ _ ?_ _
          intro tunnel
          split <;> rfl
        · apply Read.settles_read
          intro _ _ complete
          rw [carries.goes] at complete
          cases complete
  | writing write =>
      simp only [activity] at carries ⊢
      obtain ⟨rest, reached, carries, rfl⟩ := carries
      exact ⟨registry.bears_onTunnel write.tunnel
          (·.releaseWriter write.ticket) (fun _ => rfl) _,
        Write.settles_failed carries.failing carries.within carries.front⟩

theorem Carries.forwards (carries : exchange.Carries post freight) :
    freight.Forwards := by
  unfold Carries at carries
  split at carries
  · cases carries
    exact Freight.forwards_begun rfl List.nil_prefix
  · cases carries
    exact Freight.forwards_begun rfl List.nil_prefix
  · obtain ⟨given, hand, -, rfl⟩ := carries
    exact Freight.forwards_begun rfl List.nil_prefix
  · obtain ⟨rest, reached, carries, rfl⟩ := carries
    exact Freight.forwards_begun rfl carries.front
  · exact carries.forwards

variable [Connection σ]

theorem Carries.step (carries : exchange.Carries post freight)
    (registry : Registry (Recorded σ)) :
    ∃ new, registry.Bears (exchange.step registry).2.2 freight new ∧
      (exchange.step registry).2.1.Carries post new := by
  have kept := carries
  unfold Carries at carries
  unfold Exchange.step
  cases activity : exchange.activity with
  | collecting form =>
      simp only [activity] at carries ⊢
      cases carries
      exact ⟨{}, .refl _ _, exchange.collect_carries form post activity⟩
  | connecting parameters => exact ⟨freight, .refl _ _, kept⟩
  | answered => exact ⟨freight, .refl _ _, kept⟩
  | reading read =>
      simp only [activity] at carries ⊢
      obtain ⟨given, hand, carries, rfl⟩ := carries
      obtain ⟨new, bears, ends, goes⟩ := read.step_moves registry carries
      split
      · rename_i stepped
        rw [stepped] at bears ends
        exact ⟨new, bears, ends rfl _ post⟩
      · rename_i more stepped
        rw [stepped] at bears goes
        exact ⟨new, bears, goes more⟩
  | writing write =>
      simp only [activity] at carries ⊢
      obtain ⟨rest, reached, carries, rfl⟩ := carries
      obtain ⟨new, bears, ends, goes⟩ := write.step_moves registry carries
      split
      · rename_i stepped
        rw [stepped] at bears ends
        exact ⟨new, bears, ends rfl⟩
      · rename_i more stepped
        rw [stepped] at bears goes
        exact ⟨new, bears, goes more⟩

theorem start_carries (wanted : Bool) (ticket : Ticket) (request : Request)
    (body : List BodyEvent) (registry : Registry (Recorded σ)) :
    let started := Exchange.start
      { activity := .answered, answer := { wanted } } ticket request registry
    registry.Bears started.2 {} {} ∧
      Carries { started.1 with body } ⟨request, body⟩ {} := by
  have looks : ∀ uuid token, registry.Bears (lookUp registry uuid token).2
      {} {} := fun uuid token =>
    (quiet_lookUp registry uuid token).bears (registry.gauge_get uuid) {}
  intro started
  subst started
  unfold start
  cases Command.parse request.query with
  | error error => exact ⟨.refl _ _, Answer.settles_nothing _ _ _⟩
  | ok command =>
      cases command with
      | connect =>
          refine ⟨.refl _ _, ?_⟩
          unfold startConnect
          simp only
          split
          · rfl
          · split
            · rfl
            · exact Answer.settles_nothing _ _ _
      | read uuid =>
          have looked := looks uuid
            (request.headerText? "guacamole-tunnel-token")
          simp only
          split
          · rename_i found
            rw [found] at looked
            exact ⟨looked, Answer.settles_nothing _ _ _⟩
          · rename_i number next found
            rw [found] at looked
            refine ⟨looked.trans (next.bears_onTunnel number
              (·.requestReader ticket) (fun _ => rfl) _), [], [], ?_, rfl⟩
            refine ⟨⟨rfl, fun _ => rfl, rfl, fun _ => rfl⟩, rfl, ?_⟩
            intro message giving
            cases giving
      | write uuid =>
          have looked := looks uuid
            (request.headerText? "guacamole-tunnel-token")
          simp only
          split
          · rename_i found
            rw [found] at looked
            exact ⟨looked, Answer.settles_nothing _ _ _⟩
          · rename_i number next found
            rw [found] at looked
            obtain ⟨registered, there, isOpen, -, -⟩ := lookUp_ok found
            simp only [Write.start_open ticket there isOpen]
            refine ⟨looked.trans ?_, [], [], ?_, rfl⟩
            · refine Registry.bears_stay there ?_ {}
              rfl
            · exact ⟨rfl, ⟨[], rfl, rfl⟩, FilteredWriter.hasSeen_nil,
                by rw [forwardable_nil]; rfl, rfl,
                by rw [forwardable_nil]; rfl⟩

end LongPoll.Exchange

/-! ### Arrivals and connections -/

namespace Relay

variable [Connection σ]

theorem arrive_carries (request : Request) (body : List BodyEvent)
    (wanted : Bool) (relay : Relay (Recorded σ)) :
    let started := relay.startExchange request wanted
    relay.registry.Bears started.2 {} {} ∧
      Exchange.Carries { started.1 with body } ⟨request, body⟩ {} := by
  intro started
  subst started
  unfold startExchange
  simp only
  split
  · exact ⟨.refl _ _, Answer.settles_nothing _ _ _⟩
  · split
    · split
      · exact Exchange.start_carries _ _ _ _ _
      · exact ⟨.refl _ _, Answer.settles_nothing _ _ _⟩
      · exact ⟨.refl _ _, Answer.settles_nothing _ _ _⟩
      · exact ⟨.refl _ _, Answer.settles_nothing _ _ _⟩
    · exact ⟨.refl _ _, Answer.settles_nothing _ _ _⟩

theorem stepExchange_carries (environment : Environment σ) {index : Nat}
    {relay : Relay (Recorded σ)} {exchange : Exchange} {post : Post}
    {freight : Freight} (there : relay.exchanges[index]? = some exchange)
    (carries : exchange.Carries post freight) :
    let stepped := (relay.stepExchange environment.recorded index).2
    ∃ later new, stepped.exchanges = relay.exchanges.set index later ∧
      stepped.sessions = relay.sessions ∧ later.Carries post new ∧
      relay.registry.Bears stepped.registry freight new := by
  intro stepped
  subst stepped
  unfold stepExchange
  simp only [there]
  split
  · rename_i parameters connecting
    have nothing : freight = {} := by
      unfold Exchange.Carries at carries
      rw [connecting] at carries
      exact carries
    cases nothing
    simp only [connectExchange, Relay.connect]
    cases connected : environment.recorded.connect relay.requests.length
        ⟨parameters⟩ with
    | error error =>
        exact ⟨_, {}, rfl, rfl, exchange.refuse_carries error post, .refl _ _⟩
    | ok tunnel =>
        obtain ⟨opened, -, rfl⟩ := Environment.recorded_ok connected
        refine ⟨_, {}, rfl, rfl, exchange.enter_carries _ _ _ post, ?_⟩
        have counted : relay.registry.Bears
            (relay.registry.count (·.tunnelOpened)) {} {} :=
          ⟨.refl _ _, rfl⟩
        exact counted.trans (exchange.enter_bears _ rfl _)
  · obtain ⟨new, bears, further⟩ := carries.step relay.registry
    exact ⟨_, new, rfl, rfl, further, bears⟩

end Relay

end TunnelRelay
