import TunnelRelay.Proofs.Frame.Forwarding
import TunnelRelay.Proofs.Lock
import TunnelRelay.Proofs.Relay.Inlets
import TunnelRelay.Proofs.Relay.Reads

/-!
One turn of a read.

A read that has the reader takes items out of its inlet: all replies that are queued, or else one
frame of guacd. What it has taken is in the answer, in what is unsent, or in its hand. When it ends,
all of it is in the answer, and `0.;` behind it. A frame is only taken when no reply is queued.
-/

namespace TunnelRelay

open Http LongPoll

/-! ### Items -/

/-- Something for the browser: a reply of the relay, or a frame of guacd. -/
inductive Item where
  | reply (instruction : Instruction)
  | frame (frame : Frame)

namespace Item

def bytes : Item → Bytes
  | .reply instruction => instruction.wire
  | .frame received => Bytes.ofText received.raw

def reply? : Item → Option Instruction
  | .reply instruction => some instruction
  | .frame _ => none

def frame? : Item → Option Frame
  | .reply _ => none
  | .frame received => some received

def wire (items : List Item) : Bytes :=
  items.flatMap bytes

def replies (items : List Item) : List Instruction :=
  items.filterMap reply?

def frames (items : List Item) : List Frame :=
  items.filterMap frame?

@[simp] theorem wire_append (first second : List Item) :
    wire (first ++ second) = wire first ++ wire second :=
  List.flatMap_append

@[simp] theorem replies_append (first second : List Item) :
    replies (first ++ second) = replies first ++ replies second :=
  List.filterMap_append

@[simp] theorem frames_append (first second : List Item) :
    frames (first ++ second) = frames first ++ frames second :=
  List.filterMap_append

@[simp] theorem replies_map (queue : List Instruction) :
    replies (queue.map reply) = queue := by
  induction queue with
  | nil => rfl
  | cons instruction queue ih => exact congrArg (instruction :: ·) ih

@[simp] theorem frames_map (queue : List Instruction) :
    frames (queue.map reply) = [] := by
  induction queue with
  | nil => rfl
  | cons instruction queue ih => exact ih

theorem wire_map (queue : List Instruction) :
    wire (queue.map reply) =
      Bytes.ofText (Message.ofInstructions queue).data := by
  unfold Message.ofInstructions
  simp only
  induction queue with
  | nil => simp [Bytes.ofText, wire]
  | cons instruction queue ih =>
      rw [List.map_cons, List.map_cons, String.join_cons, Bytes.ofText_append,
        ← ih]
      rfl

end Item

/-- Items go from an inlet to a read. No byte of guacd and no reply is lost or
taken twice, and a frame only goes when no reply is queued. -/
structure Inlet.Supplies (before after : Inlet) (items : List Item) : Prop where
  reader : after.reader.Sound .unbounded
  whole : ∀ frame ∈ Item.frames items, ∃ wire : WireFrame,
    Bytes.ofText frame.raw = wire.bytes ∧
      frame.instruction = wire.instruction
  arrived : ∃ got, after.arrived = before.arrived ++ got ∧
    before.reader.buffer ++ got =
      Frame.received (Item.frames items) ++ after.reader.buffer
  queue : before.queue = Item.replies items ++ after.queue
  waited : Item.frames items ≠ [] → before.queue = []

namespace Inlet

theorem supplies_nothing {before after : Inlet}
    (sound : before.reader.Sound .unbounded)
    (reader : after.reader = before.reader)
    (arrived : after.arrived = before.arrived)
    (queue : after.queue = before.queue) : before.Supplies after [] := by
  refine ⟨?_, ?_, ⟨[], ?_, ?_⟩, queue.symm, fun some => absurd rfl some⟩
  · rw [reader]
    exact sound
  · intro frame member
    cases member
  · rw [List.append_nil]
    exact arrived
  · rw [List.append_nil, reader]
    rfl

theorem Supplies.withdraw {before after : Inlet} {items : List Item}
    (supplies : before.Supplies after items) (ticket : Ticket) :
    before.Supplies (after.withdraw ticket) items :=
  ⟨supplies.reader, supplies.whole, supplies.arrived, supplies.queue,
    supplies.waited⟩

end Inlet

/-! ### What a read has taken -/

def Http.Answer.isOk (answer : Answer) : Bool :=
  answer.head.any fun head => head.status == Status.success.httpCode

/-- What the relay puts in front of the end of an answer: nothing, or an `error`
instruction for a failure other than a connection that is closed. -/
inductive Notice : Bytes → Prop
  | nothing : Notice []
  | failure {error : RelayError} (open_ : error.isConnectionClosed = false) :
      Notice (Instruction.error (Answer.publicMessage error) error.status).wire

/-- The answer is complete. Without its notice and its `0.;` it is the bytes
`content`. -/
structure Http.Answer.Brings (answer : Answer) (content : Bytes) : Prop where
  isOk : answer.isOk = true
  complete : answer.complete = true
  body : ∃ notice, Notice notice ∧ answer.pieces.flatten =
    content ++ notice ++ Bytes.ofText endOfInstructions

namespace LongPoll.Read

/-- The message that a read has taken and not put into its answer yet. -/
def inHand (read : Read) : Bytes :=
  match read.stage with
  | .giving (some message) => Bytes.ofText message.data
  | _ => []

def content (read : Read) (answer : Answer) : Bytes :=
  answer.pieces.flatten ++ read.unsent ++ read.inHand

/-- The browser of a read is still there, and the answer has begun as soon as
anything is taken. -/
structure Proper (read : Read) (answer : Answer) : Prop where
  wanted : answer.wanted = true
  goes : read.stage ≠ .finished
  giving : ∀ message, read.stage = .giving message → read.begun = true
  fresh : read.begun = false → answer.isOk = false ∧ read.content answer = []
  begun : read.begun = true → answer.isOk = true

end LongPoll.Read

/-- What an exchange is to reads. -/
inductive Entry where
  | other
  | reading (read : Read) (answer : Answer)
  | answered (answer : Answer)

def Entry.ofStep (pace : Pace) (read : Read) (answer : Answer) : Entry :=
  if pace = .ended then .answered answer else .reading read answer

/-- A read that has the reader takes items, and goes on or ends. -/
inductive Turn (read : Read) (answer : Answer) (before : Inlet) :
    Entry → Inlet → List Item → Prop
  | goesOn {later : Read} {given : Answer} {after : Inlet} {items : List Item}
      (ticket : later.ticket = read.ticket)
      (tunnel : later.tunnel = read.tunnel)
      (lock : after.lock = before.lock)
      (proper : later.Proper given)
      (waits : later.stage = .waiting →
        after.queue = [] ∨ after.outbox.permit = true)
      (content : later.content given =
        read.content answer ++ Item.wire items) :
      Turn read answer before (.reading later given) after items
  | ends {given : Answer} {after : Inlet} {items : List Item}
      (lock : after.lock = before.lock.withdraw read.ticket)
      (brings : given.Brings (read.content answer ++ Item.wire items)) :
      Turn read answer before (.answered given) after items
  | fails {given : Answer} {after : Inlet}
      (lock : after.lock = before.lock.withdraw read.ticket)
      (failed : given.isOk = false)
      (nothing : read.content answer = []) :
      Turn read answer before (.answered given) after []

/-! ### Failures of guacd -/

theorem RelayError.ofSocket_fails (fault : IoFault) :
    (RelayError.ofSocket fault).status.httpCode ≠
      Status.success.httpCode := by
  unfold RelayError.ofSocket
  cases fault.kind <;> simp [RelayError.status, Status.httpCode]

theorem FrameReader.atEnd_fails {reader : FrameReader} {error : RelayError}
    (given : reader.atEnd = .error error) :
    error.status.httpCode ≠ Status.success.httpCode := by
  unfold atEnd at given
  split at given
  · cases given
  · cases given
    exact (by decide : Status.serverError.httpCode ≠ Status.success.httpCode)

theorem FrameReader.readFrame_fails {σ : Type} [ByteSource σ]
    {reader next : FrameReader} {input rest : σ} {error : RelayError}
    (done : reader.readFrame input = (.ready (.error error), next, rest)) :
    error.status.httpCode ≠ Status.success.httpCode := by
  fun_induction readFrame reader input with
  | case1 | case4 => simp at done
  | case2 reader input cause holds =>
      simp only [Prod.mk.injEq, Poll.ready.injEq, Except.error.injEq] at done
      rw [← done.1]
      exact (by decide : Status.serverError.httpCode ≠ Status.success.httpCode)
  | case3 | case6 =>
      simp only [Prod.mk.injEq, Poll.ready.injEq] at done
      exact atEnd_fails done.1
  | case5 reader input waits ended grown fault stream step =>
      simp only [Prod.mk.injEq, Poll.ready.injEq, Except.error.injEq] at done
      rw [← done.1]
      exact RelayError.ofSocket_fails fault
  | case7 reader input waits ended grown byte bytes stream step ih =>
      exact ih done

theorem Http.Answer.whole_isOk (answer : Answer) (code : Nat)
    (headers : Headers) (body : Bytes) :
    (answer.whole code headers body).isOk =
      (code == Status.success.httpCode) := by
  unfold Answer.whole Answer.finish Answer.give Answer.isOk
  simp only
  split
  · rfl
  · split <;> rfl

theorem Http.Answer.failure_isOk (answer : Answer) {error : RelayError}
    (fails : error.status.httpCode ≠ Status.success.httpCode) :
    (answer.failure error).isOk = false :=
  (answer.whole_isOk _ _ _).trans (beq_false_of_ne fails)

/-! ### One step of a read -/

namespace LongPoll.Read

variable {σ : Type}

/-- A step of a read has led to a turn, behind which the inlet of its tunnel is
`mid`, but for the lock. -/
def Takes (read : Read) (answer : Answer) (before mid : Inlet)
    (step : Pace × Read × Answer × Registry (Recorded (Tapped σ)))
    (items : List Item) : Prop :=
  ∃ after, step.2.2.2.inlets[read.tunnel]? = some after ∧
    (after = mid ∨ after = mid.withdraw read.ticket) ∧
    Turn read answer before (.ofStep step.1 step.2.1 step.2.2.1) after items

variable {registry next : Registry (Recorded (Tapped σ))} {read last : Read}
  {answer start : Answer} {before mid : Inlet} {items : List Item}

theorem finish_takes {notice : Bytes}
    (found : registry.inlets[read.tunnel]? = some mid)
    (lock : mid.lock = before.lock) (same : next.inlets = registry.inlets)
    (ticket : last.ticket = read.ticket) (tunnel : last.tunnel = read.tunnel)
    (wanted : start.wanted = true) (isOk : start.isOk = true)
    (notes : Notice notice)
    (taken : start.pieces.flatten ++ last.unsent =
      read.content answer ++ Item.wire items ++ notice) :
    read.Takes answer before mid (.ended, last.finish start next) items := by
  unfold finish Answer.give Answer.finish
  simp only [wanted, if_true]
  refine ⟨mid.withdraw read.ticket, ?_, Or.inr rfl, .ends ?_ ?_⟩
  · have inlets : (next.onTunnel last.tunnel
        (·.releaseReader last.ticket)).inlets =
        next.inlets.modify last.tunnel (·.withdraw last.ticket) :=
      Registry.inlets_update fun _ _ => rfl
    rw [inlets, same, ticket, tunnel, List.getElem?_modify_eq, found]
    rfl
  · rw [Inlet.withdraw, lock]
  · refine ⟨isOk, rfl, notice, notes, ?_⟩
    rw [List.flatten_append, List.flatten_singleton, ← List.append_assoc,
      taken]

variable [Connection σ]

theorem fail_takes (found : registry.inlets[read.tunnel]? = some mid)
    (lock : mid.lock = before.lock) (proper : read.Proper answer)
    (begun : read.begun = true) (empty : read.inHand = []) (uuid : Uuid)
    (error : RelayError) :
    read.Takes answer before mid
      (.ended, read.fail uuid error answer registry) [] := by
  have taken : answer.pieces.flatten ++ read.unsent =
      read.content answer ++ Item.wire [] := by
    rw [content, empty, List.append_nil]
    exact (List.append_nil _).symm
  have isOk := proper.begun begun
  unfold fail
  split
  · exact finish_takes found lock (Registry.inlets_close uuid _) rfl rfl
      proper.wanted isOk .nothing (taken.trans (List.append_nil _).symm)
  · rename_i open_
    refine finish_takes found lock (Registry.inlets_close uuid _) rfl rfl
      proper.wanted isOk (.failure (eq_false_of_ne_true open_)) ?_
    rw [← taken, List.append_assoc]

def carried : Except RelayError (Option Message) → Bytes
  | .ok (some message) => Bytes.ofText message.data
  | .ok none | .error _ => []

omit [Connection σ] in
theorem hold_takes {message : Option Message} (pace : Pace) (start : Answer)
    (found : next.inlets[read.tunnel]? = some mid)
    (lock : mid.lock = before.lock) (empty : read.inHand = [])
    (brings : carried (.ok message) = Item.wire items)
    (wanted : start.wanted = true) (isOk : start.isOk = true)
    (pieces : start.pieces = answer.pieces) (more : pace ≠ .ended) :
    read.Takes answer before mid
      (pace, { read with stage := .giving message, begun := true }, start, next)
      items := by
  refine ⟨mid, found, Or.inl rfl, ?_⟩
  rw [Entry.ofStep, if_neg more]
  refine .goesOn rfl rfl lock ⟨wanted, ?_, fun _ _ => rfl, ?_, fun _ => isOk⟩
    ?_ ?_
  · intro impossible
    cases impossible
  · intro impossible
    cases impossible
  · intro impossible
    cases impossible
  · rw [← brings, content, content, empty, pieces, List.append_nil]
    cases message <;> rfl

theorem receive_takes {uuid : Uuid}
    {outcome : Except RelayError (Option Message)}
    (found : registry.inlets[read.tunnel]? = some mid)
    (lock : mid.lock = before.lock) (proper : read.Proper answer)
    (empty : read.inHand = []) (brings : carried outcome = Item.wire items)
    (fails : ∀ error, outcome = .error error → items = [] ∧
      error.status.httpCode ≠ Status.success.httpCode) :
    read.Takes answer before mid (read.receive uuid outcome answer registry)
      items := by
  unfold receive
  split
  · rename_i begun
    split
    · rename_i message
      have holds := hold_takes .goesOn answer found lock empty brings
        proper.wanted (proper.begun begun) rfl (by decide)
      rw [← begun] at holds
      exact holds
    · rename_i error
      rw [(fails error rfl).1]
      exact fail_takes found lock proper begun empty uuid error
  · rename_i fresh
    have silent := proper.fresh (eq_false_of_ne_true fresh)
    split
    · rename_i message first
      refine hold_takes .yields
        (answer.start .success (headers read.encoding)) found lock empty ?_
        proper.wanted rfl rfl (by decide)
      rw [← brings]
      unfold firstMessage at first
      split at first
      · cases first
        rfl
      · split at first <;> cases first
        rfl
    · rename_i error first
      have failed : outcome = .error error := by
        unfold firstMessage at first
        split at first
        · cases first
        · split at first <;> cases first
          rfl
      obtain ⟨none_, code⟩ := fails error failed
      subst none_
      refine ⟨mid.withdraw read.ticket, ?_, Or.inr rfl,
        .fails ?_ (answer.failure_isOk code) silent.2⟩
      · have inlets : ((registry.close uuid error.status).2.onTunnel
            read.tunnel (·.releaseReader read.ticket)).inlets =
            (registry.close uuid error.status).2.inlets.modify read.tunnel
              (·.withdraw read.ticket) :=
          Registry.inlets_update fun _ _ => rfl
        simp only
        rw [inlets, Registry.inlets_close, List.getElem?_modify_eq, found]
        rfl
      · rw [Inlet.withdraw, lock]

theorem give_takes {registered : RegisteredTunnel (Recorded (Tapped σ))}
    {message : Message} (found : registry.inlets[read.tunnel]? = some mid)
    (lock : mid.lock = before.lock) (proper : read.Proper answer)
    (stage : read.stage = .giving (some message)) :
    read.Takes answer before mid (read.give registered message answer registry)
      [] := by
  have begun := proper.giving _ stage
  have isOk := proper.begun begun
  have taken : answer.pieces.flatten ++
      (read.unsent ++ Bytes.ofText message.data) =
        read.content answer ++ Item.wire [] ++ [] := by
    rw [content, inHand, stage, ← List.append_assoc, List.append_nil]
    exact (List.append_nil _).symm
  unfold give
  simp only [Answer.give, proper.wanted, if_true]
  split
  · split
    · exact finish_takes found lock rfl rfl rfl proper.wanted isOk .nothing
        taken
    · refine ⟨mid, found, Or.inl rfl, .goesOn rfl rfl lock
        ⟨proper.wanted, ?_, ?_, ?_, fun _ => isOk⟩ ?_ ?_⟩
      · intro impossible
        cases impossible
      · intro other impossible
        cases impossible
      · intro fresh
        rw [begun] at fresh
        cases fresh
      · intro impossible
        cases impossible
      · rw [List.append_nil] at taken
        rw [← taken, content, inHand, List.append_nil]
  · refine finish_takes found lock rfl rfl rfl rfl isOk .nothing ?_
    rw [← taken, List.append_nil, List.flatten_append, List.flatten_singleton]

omit [Connection σ] in
theorem stay_takes {stage : ReadStage} (pace : Pace)
    (found : next.inlets[read.tunnel]? = some mid)
    (lock : mid.lock = before.lock) (proper : read.Proper answer)
    (empty : read.inHand = []) (between : stage = .looking ∨ stage = .waiting)
    (waits : stage = .waiting → mid.queue = [] ∨ mid.outbox.permit = true)
    (more : pace ≠ .ended) :
    read.Takes answer before mid (pace, { read with stage }, answer, next)
      [] := by
  have still : Read.inHand { read with stage } = [] := by
    rcases between with rfl | rfl <;> rfl
  have same : Read.content { read with stage } answer = read.content answer := by
    rw [content, still, content, empty]
  refine ⟨mid, found, Or.inl rfl, ?_⟩
  rw [Entry.ofStep, if_neg more]
  refine .goesOn rfl rfl lock ⟨proper.wanted, ?_, ?_, ?_, proper.begun⟩ waits
    (same.trans (List.append_nil _).symm)
  · intro impossible
    rcases between with rfl | rfl <;> cases impossible
  · intro message impossible
    rcases between with rfl | rfl <;> cases impossible
  · intro fresh
    rw [same]
    exact proper.fresh fresh

def itemsOf : Poll (Except RelayError (Option Frame)) → List Item
  | .ready (.ok (some frame)) => [.frame frame]
  | .ready (.ok none) | .ready (.error _) | .parked => []

theorem supplies_readFrame
    {registered : RegisteredTunnel (Recorded (Tapped σ))}
    {tunnel : Tunnel (Recorded (Tapped σ))}
    {outcome : Poll (Except RelayError (Option Frame))}
    (sound : registered.tunnel.reader.Sound .unbounded)
    (empty : registered.outbox.queue = [])
    (done : registered.tunnel.readFrame = (outcome, tunnel)) :
    registered.inlet.Supplies
      (RegisteredTunnel.inlet { registered with tunnel }) (itemsOf outcome) := by
  obtain ⟨kept, shaped, got, obtains, conserved⟩ :=
    Tunnel.readFrame_sound sound done
  have gone : FrameReader.gone outcome =
      Frame.received (Item.frames (itemsOf outcome)) := by
    unfold FrameReader.gone itemsOf
    split
    · exact (List.append_nil _).symm
    · rfl
    · rfl
    · rfl
  have silent : Item.replies (itemsOf outcome) = [] := by
    unfold itemsOf
    split <;> rfl
  refine ⟨kept, ?_, ⟨got, Backend.obtains_arrived obtains, ?_⟩, ?_,
    fun _ => empty⟩
  · intro frame member
    unfold itemsOf at member
    split at member
    · rename_i given
      rw [List.mem_singleton.mp member]
      exact shaped given rfl
    · cases member
    · cases member
    · cases member
  · rw [← gone]
    exact conserved
  · rw [silent]
    rfl

theorem readFrame_lock {tunnel next : Tunnel (Recorded (Tapped σ))}
    {outcome : Poll (Except RelayError (Option Frame))}
    (done : tunnel.readFrame = (outcome, next)) :
    next.readerLock = tunnel.readerLock := by
  rw [Tunnel.readFrame_rest done]

theorem readFrame_fails {tunnel next : Tunnel σ} {error : RelayError}
    (done : tunnel.readFrame = (.ready (.error error), next)) :
    error.status.httpCode ≠ Status.success.httpCode := by
  unfold Tunnel.readFrame at done
  split at done
  · cases done
  · cases reading : tunnel.reader.readFrame tunnel.backend with
    | mk outcome rest =>
        obtain ⟨reader, backend⟩ := rest
        rw [reading] at done
        cases done
        exact FrameReader.readFrame_fails reading

variable {registered : RegisteredTunnel (Recorded (Tapped σ))}

omit [Connection σ] in
theorem inlets_store (found : registry.tunnel? read.tunnel = some registered)
    (later : RegisteredTunnel (Recorded (Tapped σ))) :
    (registry.update read.tunnel fun _ => later).inlets[read.tunnel]? =
      some later.inlet := by
  rw [Registry.inlets_getElem?, Registry.tunnel?_update_self, found]
  rfl

theorem lookInside_nothing {τ : Type} {registered : RegisteredTunnel τ}
    (empty : registered.outbox.queue = []) :
    lookInside registered = (.nothing, registered) := by
  obtain ⟨tunnel, token, registeredAt, lastAccess, listed, queue, permit⟩ :=
    registered
  cases empty
  rfl

theorem lookInside_found {τ : Type} {registered : RegisteredTunnel τ}
    (some_ : registered.outbox.queue ≠ []) :
    lookInside registered =
      (.found (.ok (some (Message.ofInstructions registered.outbox.queue))),
        { registered with outbox := { registered.outbox with queue := [] } }) := by
  unfold lookInside Outbox.take
  simp only
  rw [if_neg]
  rwa [List.isEmpty_iff]

theorem looking_takes (found : registry.tunnel? read.tunnel = some registered)
    (sound : registered.inlet.reader.Sound .unbounded)
    (proper : read.Proper answer) (stage : read.stage = .looking) :
    ∃ mid items, registered.inlet.Supplies mid items ∧
      read.Takes answer registered.inlet mid (read.step answer registry)
        items := by
  have empty : read.inHand = [] := by rw [inHand, stage]
  by_cases queued : registered.outbox.queue = []
  · refine ⟨registered.inlet, [], Inlet.supplies_nothing sound rfl rfl rfl, ?_⟩
    simp only [step, found, stage, lookInside_nothing queued]
    exact stay_takes .goesOn (inlets_store found _) rfl proper empty
      (Or.inr rfl) (fun _ => Or.inl queued) (by decide)
  · refine ⟨RegisteredTunnel.inlet { registered with
        outbox := { registered.outbox with queue := [] } },
      registered.outbox.queue.map .reply, ?_, ?_⟩
    · refine ⟨sound, ?_, ⟨[], (List.append_nil _).symm, ?_⟩, ?_, ?_⟩
      · intro frame member
        rw [Item.frames_map] at member
        cases member
      · rw [Item.frames_map, List.append_nil]
        rfl
      · rw [Item.replies_map]
        exact (List.append_nil _).symm
      · intro some_
        exact absurd (Item.frames_map _) some_
    · simp only [step, found, stage, lookInside_found queued]
      refine receive_takes (inlets_store found _) rfl proper empty
        (Item.wire_map _).symm ?_
      intro error impossible
      cases impossible

def lookOf : Poll (Except RelayError (Option Frame)) → Look
  | .parked => .nothing
  | .ready outcome => .found (outcome.map (·.map Message.ofFrame))

theorem await_again {τ : Type} [Connection τ] {registered : RegisteredTunnel τ}
    (permit : registered.outbox.permit = true) :
    await registered = (.again,
      { registered with
        outbox := { registered.outbox with permit := false } }) := by
  unfold await Outbox.awaken
  rw [permit]

theorem await_readFrame {τ : Type} [Connection τ]
    {registered : RegisteredTunnel τ} {tunnel : Tunnel τ}
    {outcome : Poll (Except RelayError (Option Frame))}
    (permit : registered.outbox.permit = false)
    (reading : registered.tunnel.readFrame = (outcome, tunnel)) :
    await registered = (lookOf outcome, { registered with tunnel }) := by
  unfold await Outbox.awaken
  rw [permit, reading]
  cases outcome with
  | parked => rfl
  | ready outcome => cases outcome <;> rfl

theorem waiting_takes (found : registry.tunnel? read.tunnel = some registered)
    (sound : registered.inlet.reader.Sound .unbounded)
    (proper : read.Proper answer) (stage : read.stage = .waiting)
    (waits : registered.inlet.queue = [] ∨
      registered.inlet.outbox.permit = true) :
    ∃ mid items, registered.inlet.Supplies mid items ∧
      read.Takes answer registered.inlet mid (read.step answer registry)
        items := by
  have empty : read.inHand = [] := by rw [inHand, stage]
  cases permit : registered.outbox.permit with
  | true =>
      refine ⟨RegisteredTunnel.inlet { registered with
          outbox := { registered.outbox with permit := false } }, [],
        Inlet.supplies_nothing sound rfl rfl rfl, ?_⟩
      simp only [step, found, stage, await_again permit]
      exact stay_takes .goesOn (inlets_store found _) rfl proper empty
        (Or.inl rfl) (fun impossible => by cases impossible) (by decide)
  | false =>
      -- a permit would have been left behind with the replies
      have none_ : registered.outbox.queue = [] := by
        rcases waits with none_ | given
        · exact none_
        · rw [RegisteredTunnel.inlet, permit] at given
          cases given
      cases reading : registered.tunnel.readFrame with
      | mk outcome tunnel =>
          have lock : (RegisteredTunnel.inlet
              { registered with tunnel }).lock = registered.inlet.lock :=
            readFrame_lock reading
          refine ⟨_, _, supplies_readFrame sound none_ reading, ?_⟩
          simp only [step, found, stage, await_readFrame permit reading]
          cases outcome with
          | parked =>
              have stays := stay_takes .parked
                (inlets_store found { registered with tunnel }) lock proper
                empty (Or.inr rfl) (fun _ => Or.inl none_) (by decide)
              rw [← stage] at stays
              exact stays
          | ready outcome =>
              refine receive_takes (inlets_store found _) lock proper empty ?_
                ?_
              · cases outcome with
                | error error => rfl
                | ok frame =>
                    cases frame with
                    | none => rfl
                    | some frame => exact (List.append_nil _).symm
              · intro error told
                cases outcome with
                | error other =>
                    cases told
                    exact ⟨rfl, readFrame_fails reading⟩
                | ok frame => cases told

/-- A step of a read waits for the reader and changes nothing, or it is a turn
of the read that has the reader. -/
theorem step_takes (found : registry.tunnel? read.tunnel = some registered)
    (sound : registered.inlet.reader.Sound .unbounded)
    (proper : read.Proper answer)
    (waits : read.stage = .waiting → registered.inlet.queue = [] ∨
      registered.inlet.outbox.permit = true)
    (held : read.stage ≠ .acquiring →
      registered.inlet.lock.isHeldBy read.ticket = true) :
    read.step answer registry = (.parked, read, answer, registry) ∨
    registered.inlet.lock.isHeldBy read.ticket = true ∧
      ∃ mid items, registered.inlet.Supplies mid items ∧
        read.Takes answer registered.inlet mid (read.step answer registry)
          items := by
  have here : registry.inlets[read.tunnel]? = some registered.inlet := by
    rw [Registry.inlets_getElem?, found]
    rfl
  have nothing : registered.inlet.Supplies registered.inlet [] :=
    Inlet.supplies_nothing sound rfl rfl rfl
  cases stage : read.stage with
  | acquiring =>
      have empty : read.inHand = [] := by rw [inHand, stage]
      cases turn : registered.inlet.lock.isHeldBy read.ticket with
      | false =>
          -- without the reader the read changes nothing
          left
          have claim : registered.tunnel.claimReader read.ticket =
              (false, registered.tunnel) := by
            unfold Tunnel.claimReader
            rw [if_neg]
            exact Bool.eq_false_iff.mp turn
          simp only [step, found, stage, claim]
      | true =>
          right
          have claim : registered.tunnel.claimReader read.ticket = (true,
              { registered.tunnel with
                queuedReaders := registered.tunnel.queuedReaders - 1 }) := by
            unfold Tunnel.claimReader
            rw [if_pos]
            exact turn
          refine ⟨rfl, registered.inlet, [], nothing, ?_⟩
          simp only [step, found, stage, claim]
          exact stay_takes .goesOn (inlets_store found _) rfl proper empty
            (Or.inl rfl) (fun impossible => by cases impossible) (by decide)
  | looking =>
      exact Or.inr ⟨held (by rw [stage]; decide),
        looking_takes found sound proper stage⟩
  | waiting =>
      exact Or.inr ⟨held (by rw [stage]; decide),
        waiting_takes found sound proper stage (waits stage)⟩
  | giving message =>
      refine Or.inr ⟨held (by rw [stage]; exact nofun), registered.inlet, [],
        nothing, ?_⟩
      cases message with
      | none =>
          have begun := proper.giving _ stage
          simp only [step, found, stage]
          refine finish_takes here rfl (Registry.inlets_close _ _) rfl rfl
            proper.wanted (proper.begun begun) .nothing ?_
          rw [content, inHand, stage]
          simp [Item.wire]
      | some message =>
          simp only [step, found, stage]
          exact give_takes here rfl proper stage
  | finished => exact absurd stage proper.goes

end LongPoll.Read

end TunnelRelay
