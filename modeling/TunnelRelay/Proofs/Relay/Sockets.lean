import TunnelRelay.Proofs.Relay.Batching
import TunnelRelay.Proofs.Relay.Carriage

/-!
What sessions carry.

The handler of a session carries the messages of its browser to guacd, one after another. A message
is counted when it has been forwarded to its end, with all its bytes, dropped ones included; one that
fails is not counted, whatever guacd has taken of it. The pump carries frames to the browser. They
are counted when they are handed to the socket, even if it does not take them. The replies of the
relay go over the same socket, and are not counted with the frames.
-/

namespace TunnelRelay

/-- Between two moments the counters have grown as a freight has. -/
def Metrics.Follows (before after : Metrics) (old new : Freight) : Prop :=
  ∀ waiting, (before.gauge waiting).Follows (after.gauge waiting) old new

theorem Metrics.Follows.refl (metrics : Metrics) (freight : Freight) :
    metrics.Follows metrics freight freight :=
  fun _ => .refl _ freight

theorem Metrics.follows_under (metrics : Metrics) (freight : Freight)
    (rest reached : Bytes) :
    metrics.Follows metrics freight { freight with rest, reached } :=
  fun _ => ⟨.refl _ _, .refl _ _, .refl _ _, .refl _ _, .refl _ _⟩

namespace Item

@[simp] theorem frames_ofFrames (received : List Frame) :
    frames (received.map frame) = received := by
  induction received with
  | nil => rfl
  | cons first others ih => exact congrArg (first :: ·) ih

@[simp] theorem replies_ofFrames (received : List Frame) :
    replies (received.map frame) = [] := by
  induction received with
  | nil => rfl
  | cons first others ih => exact ih

theorem wire_ofFrames (received : List Frame) :
    wire (received.map frame) = Frame.received received :=
  List.flatMap_map ..

end Item

namespace WebSocket

open Session

variable {σ : Type}

/-! ### The socket -/

namespace Outbound

def text (outbound : Outbound) : Bytes :=
  outbound.sent.flatMap fun
    | .text data => Bytes.ofText data
    | .pong _ | .close _ => []

structure Keeps (before after : Outbound) : Prop where
  text : after.text = before.text
  shut : before.isOpen = false → after.isOpen = false

theorem Keeps.refl (outbound : Outbound) : outbound.Keeps outbound :=
  ⟨rfl, id⟩

theorem keeps_sendPong (outbound : Outbound) (data : Bytes) :
    outbound.Keeps (outbound.sendPong data) := by
  unfold sendPong
  split
  · exact ⟨by simp [text], id⟩
  · exact .refl outbound

theorem keeps_close (outbound : Outbound) (status : Status) :
    outbound.Keeps (outbound.close status) := by
  unfold close
  split
  · exact .refl outbound
  · split
    · exact ⟨rfl, fun _ => rfl⟩
    · exact ⟨by simp [text], fun _ => rfl⟩

theorem keeps_broken (outbound : Outbound) :
    outbound.Keeps { outbound with broken := true } :=
  ⟨rfl, fun _ => by simp [isOpen]⟩

theorem sendText_shut {outbound : Outbound} (shut : outbound.isOpen = false)
    (text : String) :
    ∃ error, outbound.sendText text = (.error error, outbound) := by
  unfold sendText
  split
  · exact ⟨_, rfl⟩
  · split
    · exact ⟨_, rfl⟩
    · rename_i closed broken
      simp [isOpen, closed, broken] at shut

/-- The socket has sent `first` and then frames and replies. The last frames
that it was handed were refused if nothing gets through any more. -/
def Shows (outbound : Outbound) (first : Bytes) (frames : List Frame)
    (replies : List Instruction) : Prop :=
  ∃ said refused, outbound.text = first ++ Item.wire said ∧
    frames = Item.frames said ++ refused ∧ replies = Item.replies said ∧
    (refused ≠ [] → outbound.isOpen = false)

variable {outbound after : Outbound} {first : Bytes} {frames : List Frame}
  {replies : List Instruction}

theorem Shows.keeps (shows : outbound.Shows first frames replies)
    (keeps : outbound.Keeps after) : after.Shows first frames replies := by
  obtain ⟨said, refused, text, given, answered, shut⟩ := shows
  exact ⟨said, refused, keeps.text.trans text, given, answered,
    fun some_ => keeps.shut (shut some_)⟩

theorem Shows.open_ (shows : outbound.Shows first frames replies)
    (isOpen : outbound.isOpen = true) : ∃ said,
      outbound.text = first ++ Item.wire said ∧ frames = Item.frames said ∧
        replies = Item.replies said := by
  obtain ⟨said, refused, text, given, answered, shut⟩ := shows
  cases refused with
  | nil => exact ⟨said, text, given.trans (List.append_nil _), answered⟩
  | cons frame others =>
      rw [shut (List.cons_ne_nil _ _)] at isOpen
      cases isOpen

theorem Shows.sendFrames (shows : outbound.Shows first frames replies)
    (more : List Frame) :
    (outbound.sendText (Frame.join more)).2.Shows first (frames ++ more)
      replies := by
  cases isOpen : outbound.isOpen with
  | true =>
      obtain ⟨said, text_, rfl, rfl⟩ := shows.open_ isOpen
      rw [sendText_open isOpen]
      refine ⟨said ++ more.map .frame, [], ?_, by simp, by simp,
        fun some_ => absurd rfl some_⟩
      rw [Item.wire_append, Item.wire_ofFrames, ← Frame.received_eq_join,
        ← List.append_assoc, ← text_]
      simp [text, Frame.join]
  | false =>
      obtain ⟨said, refused, text, rfl, rfl, shut⟩ := shows
      obtain ⟨error, refuses⟩ := sendText_shut isOpen (Frame.join more)
      rw [refuses]
      exact ⟨said, refused ++ more, text, List.append_assoc _ _ _, rfl,
        fun _ => isOpen⟩

theorem Shows.sendReply (shows : outbound.Shows first frames replies)
    (isOpen : outbound.isOpen = true) (reply : Instruction) :
    (outbound.sendText reply.encode).2.Shows first frames
      (replies ++ [reply]) := by
  obtain ⟨said, text_, rfl, rfl⟩ := shows.open_ isOpen
  rw [sendText_open isOpen]
  refine ⟨said ++ [.reply reply], [], ?_, ?_, ?_, fun some_ => absurd rfl some_⟩
  · rw [Item.wire_append, ← List.append_assoc, ← text_]
    simp [text, Item.wire, Item.bytes, Instruction.wire]
  · simp [Item.frames, Item.frame?]
  · simp [Item.replies, Item.reply?]

end Outbound

/-! ### Sessions -/

namespace HandlerStage

def Hauls (consumed : List Incoming) (freight : Freight) :
    HandlerStage → Prop
  | .listening | .replying _ => texts consumed = freight.sources ∧
      freight.rest = [] ∧ freight.reached = freight.due
  | .acquiring text =>
      texts consumed = freight.sources ++ [Bytes.ofText text] ∧
      freight.rest = [] ∧ freight.reached = freight.due
  | .sending filtered current count size =>
      texts consumed = freight.sources ++ [freight.rest] ∧
      filtered.HasSeen freight.rest ∧
      count = (forwardable freight.rest).length ∧ size = freight.rest.length ∧
      ∃ part, part ++ current.unsent =
          Frame.received (forwardable freight.rest) ∧
        freight.reached = freight.due ++ part
  | .leaving _ | .waiting _ | .finished => ∃ begun,
      texts consumed = freight.sources ++ begun ∧
      (freight.rest = [] ∨ begun = [freight.rest]) ∧
      ∃ part, part <+: Frame.received (forwardable freight.rest) ∧
        freight.reached = freight.due ++ part

/-- Which of the replies of the filter the handler has said. -/
def Answers (said owed : List Instruction) : HandlerStage → Prop
  | .replying replies => said ++ replies = owed
  | .leaving _ | .waiting _ | .finished => said <+: owed
  | .listening | .acquiring _ | .sending _ _ _ _ => said = owed

variable {stage : HandlerStage} {consumed : List Incoming} {freight : Freight}
  {said owed : List Instruction}

theorem Hauls.front (hauls : stage.Hauls consumed freight)
    (status : Option Status) : (leaving status).Hauls consumed freight := by
  cases stage with
  | listening | replying =>
      obtain ⟨sources, rest, reached⟩ := hauls
      exact ⟨[], sources.trans (List.append_nil _).symm, Or.inl rest, [],
        List.nil_prefix, reached.trans (List.append_nil _).symm⟩
  | acquiring text =>
      obtain ⟨sources, rest, reached⟩ := hauls
      exact ⟨_, sources, Or.inl rest, [], List.nil_prefix,
        reached.trans (List.append_nil _).symm⟩
  | sending filtered current count size =>
      obtain ⟨sources, -, -, -, part, account, reached⟩ := hauls
      exact ⟨_, sources, Or.inr rfl, part, ⟨_, account⟩, reached⟩
  | leaving | waiting | finished => exact hauls

theorem Answers.front (answers : stage.Answers said owed) : said <+: owed := by
  cases stage with
  | replying replies => exact ⟨replies, answers⟩
  | leaving | waiting | finished => exact answers
  | listening | acquiring | sending =>
      cases answers
      exact List.prefix_rfl

end HandlerStage

namespace Session

/-- What the socket, the pump and the connection have of what a session
carries. -/
structure Bears (outbound : Outbound) (pump : Pump)
    (tunnel : Tunnel (Recorded σ)) (said : List Instruction)
    (freight : Freight) : Prop where
  reached : freight.reached = tunnel.backend.stream.taken
  whole : ∀ source ∈ freight.sources, IsWhole source
  shows : ∃ frames, freight.given = frames.map .frame ∧
    outbound.Shows (Bytes.ofText (announcement tunnel.uuid)) frames said
  batch : ∃ held, pump.batch = Frame.join held ∧ pump.pending = held.length

/-- What a session with a tunnel carries, and the messages that it was sent. -/
structure Carries (session : Session (Recorded σ))
    (tunnel : Tunnel (Recorded σ)) (heard : List Incoming)
    (freight : Freight) : Prop where
  there : session.tunnel = some tunnel
  bears : ∃ said, session.handler.Answers said freight.replies ∧
    Bears session.outbound session.pump tunnel said freight
  account : ∃ consumed, heard = consumed ++ session.inbound ∧
    session.handler.Hauls consumed freight

def Moves (heard : List Incoming) (old : Freight) (before : Metrics)
    (result : Pace × Session (Recorded σ) × Metrics) : Prop :=
  ∃ next new, result.2.1.Carries next heard new ∧
    before.Follows result.2.2 old new

variable {session : Session (Recorded σ)} {tunnel next : Tunnel (Recorded σ)}
  {heard consumed : List Incoming} {said : List Instruction}
  {freight : Freight} {outbound : Outbound} {pump : Pump} {metrics : Metrics}

theorem Bears.keeps {later : Outbound} (bears : Bears outbound pump tunnel said
    freight) (keeps : outbound.Keeps later) (uuid : next.uuid = tunnel.uuid)
    (taken : next.backend.stream.taken = tunnel.backend.stream.taken) :
    Bears later pump next said freight := by
  obtain ⟨frames, given, shows⟩ := bears.shows
  rw [← uuid] at shows
  exact ⟨bears.reached.trans taken.symm, bears.whole,
    ⟨frames, given, shows.keeps keeps⟩, bears.batch⟩

theorem moves_on {result : Session (Recorded σ)} (pace : Pace)
    (carries : result.Carries next heard freight) (metrics : Metrics) :
    Moves heard freight metrics (pace, result, metrics) :=
  ⟨next, freight, carries, .refl _ _⟩

theorem Carries.rests (carries : session.Carries tunnel heard freight)
    {after : Session (Recorded σ)} (there : after.tunnel = some next)
    (outbound : session.outbound.Keeps after.outbound)
    (batch : ∃ held, after.pump.batch = Frame.join held ∧
      after.pump.pending = held.length)
    (handler : after.handler = session.handler)
    (inbound : after.inbound = session.inbound)
    (uuid : next.uuid = tunnel.uuid)
    (taken : next.backend.stream.taken = tunnel.backend.stream.taken) :
    after.Carries next heard freight := by
  obtain ⟨-, ⟨said, answers, bears⟩, account⟩ := carries
  rw [← handler, ← inbound] at account
  rw [← handler] at answers
  have kept := bears.keeps outbound uuid taken
  exact ⟨there, ⟨said, answers, kept.reached, kept.whole, kept.shows, batch⟩,
    account⟩

theorem Carries.held (carries : session.Carries tunnel heard freight) :
    ∃ held, session.pump.batch = Frame.join held ∧
      session.pump.pending = held.length := by
  obtain ⟨said, -, bears⟩ := carries.bears
  exact bears.batch

/-! ### The pump -/

theorem Carries.sendBatch (carries : session.Carries tunnel heard freight)
    (metrics : Metrics) :
    ∃ new, (session.sendBatch metrics).2.1.Carries tunnel heard new ∧
      metrics.Follows (session.sendBatch metrics).2.2 freight new := by
  obtain ⟨there, ⟨said, answers, bears⟩, account⟩ := carries
  obtain ⟨frames, given, shows⟩ := bears.shows
  obtain ⟨held, batch, pending⟩ := bears.batch
  have size : session.pump.batch.utf8ByteSize =
      (Item.wire (held.map .frame)).length := by
    rw [batch, Item.wire_ofFrames, ← Frame.received_eq_join]
    rfl
  refine ⟨{ freight with given := freight.given ++ held.map .frame }, ?_, ?_⟩
  · have shown := shows.sendFrames held
    rw [← batch] at shown
    refine ⟨there, ⟨said, answers, bears.reached, bears.whole,
      ⟨frames ++ held, ?_, shown⟩, [], rfl, rfl⟩, account⟩
    rw [given, List.map_append]
  · intro waiting
    refine ⟨.refl _ _, .refl _ _, ⟨session.pump.pending, rfl, ?_⟩,
      ⟨session.pump.batch.utf8ByteSize, rfl, ?_⟩, .refl _ _⟩
    · simp [Freight.shown, pending]
    · simp [Freight.shownBytes, size]

theorem Carries.drainPump (carries : session.Carries tunnel heard freight)
    (status : Status) (metrics : Metrics) :
    Moves heard freight metrics (session.drainPump status metrics) := by
  unfold Session.drainPump
  by_cases empty : session.pump.batch.isEmpty = true
  · simp only [if_pos empty]
    apply moves_on
    exact carries.rests carries.there (.refl _) carries.held rfl rfl rfl rfl
  · simp only [if_neg empty]
    obtain ⟨new, sent, follows⟩ := carries.sendBatch metrics
    exact ⟨tunnel, new, sent.rests sent.there (.refl _) sent.held rfl rfl rfl
      rfl, follows⟩

variable [Connection σ]

theorem Carries.readPump (carries : session.Carries tunnel heard freight)
    (reading : session.pump.stage = .reading) (metrics : Metrics) :
    Moves heard freight metrics (session.stepPump metrics) := by
  unfold Session.stepPump
  simp only [carries.there, reading]
  obtain ⟨uuid, -, -, rests⟩ := tunnel.readFrame_rests
  cases told : tunnel.readFrame with
  | mk outcome next =>
      rw [told] at uuid rests
      have read : ∀ pump : Pump, (∃ held, pump.batch = Frame.join held ∧
            pump.pending = held.length) →
          Carries { session with tunnel := some next, pump } next heard
            freight :=
        fun pump held =>
          carries.rests rfl (.refl _) held rfl rfl uuid rests.taken
      have same := read session.pump carries.held
      cases outcome with
      | parked => exact moves_on _ same metrics
      | ready outcome =>
          cases outcome with
          | error error => exact same.drainPump _ metrics
          | ok frame =>
              cases frame with
              | none => exact same.drainPump _ metrics
              | some frame =>
                  obtain ⟨held, batch, pending⟩ := carries.held
                  have joined := read ⟨.reading,
                      session.pump.batch ++ frame.raw,
                      session.pump.pending + 1⟩
                    ⟨held ++ [frame], by rw [batch, Frame.join_snoc],
                      by simp [pending]⟩
                  obtain ⟨new, sent, follows⟩ := joined.sendBatch metrics
                  simp only
                  split
                  · exact moves_on _ joined metrics
                  · split
                    · rename_i handed
                      rw [handed] at sent follows
                      exact ⟨next, new, sent, follows⟩
                    · rename_i handed
                      rw [handed] at sent follows
                      refine ⟨next.releaseReader pumpTicket, new, ?_, follows⟩
                      exact sent.rests rfl (.refl _) sent.held rfl rfl rfl rfl

theorem Carries.stepPump (carries : session.Carries tunnel heard freight)
    (metrics : Metrics) :
    Moves heard freight metrics (session.stepPump metrics) := by
  cases stage : session.pump.stage with
  | acquiring =>
      simp only [Session.stepPump, carries.there, stage, Tunnel.claimReader]
      split
      · exact moves_on _ carries metrics
      · rename_i claimed
        split at claimed
        · cases claimed
          apply moves_on
          exact carries.rests rfl (.refl _) carries.held rfl rfl rfl rfl
        · cases claimed
  | closing status =>
      simp only [Session.stepPump, carries.there, stage]
      apply moves_on
      exact carries.rests rfl (Outbound.keeps_close _ _) carries.held rfl rfl
        rfl rfl
  | finished status =>
      simp only [Session.stepPump, carries.there, stage]
      exact moves_on _ carries metrics
  | reading => exact carries.readPump stage metrics

/-! ### The handler -/

omit [Connection σ] in
theorem Moves.before {freight mid : Freight} {metrics : Metrics}
    {result : Pace × Session (Recorded σ) × Metrics}
    (moves : Moves heard mid metrics result)
    (follows : metrics.Follows metrics freight mid) :
    Moves heard freight metrics result := by
  obtain ⟨next, new, carries, later⟩ := moves
  exact ⟨next, new, carries, fun waiting =>
    (follows waiting).trans (later waiting)⟩

omit [Connection σ] in
theorem Bears.grows (bears : Bears outbound pump tunnel said freight)
    (uuid : next.uuid = tunnel.uuid) {gone : Bytes}
    (taken : next.backend.stream.taken =
      tunnel.backend.stream.taken ++ gone) (rest : Bytes) :
    Bears outbound pump next said
      { freight with rest, reached := freight.reached ++ gone } := by
  obtain ⟨reached, whole, shows, batch⟩ := bears
  rw [← uuid] at shows
  refine ⟨?_, whole, shows, batch⟩
  rw [taken, reached]

omit [Connection σ] in
theorem Bears.release (bears : Bears outbound pump tunnel said freight) :
    Bears outbound pump (tunnel.releaseWriter handlerTicket) said freight :=
  bears.keeps (.refl _) rfl rfl

section Handler

variable {present : Option (Tunnel (Recorded σ))} {bufferSize : Nat}
  {inbound : List Incoming} {handler : HandlerStage}

omit [Connection σ] in
theorem leave_moves (bears : Bears outbound pump tunnel said freight)
    (front : said <+: freight.replies) (split : heard = consumed ++ inbound)
    (status : Option Status)
    (hauls : (HandlerStage.leaving status).Hauls consumed freight)
    (metrics : Metrics) :
    Moves heard freight metrics
      (leave ⟨some tunnel, bufferSize, outbound, inbound, pump, handler⟩ status
        metrics) := by
  unfold Session.leave
  apply moves_on
  cases status with
  | none => exact ⟨rfl, ⟨said, front, bears⟩, consumed, split, hauls⟩
  | some status =>
      exact ⟨rfl, ⟨said, front, bears.keeps (Outbound.keeps_close _ _) rfl rfl⟩,
        consumed, split, hauls⟩

omit [Connection σ] in
/-- A message that has been forwarded is counted, if it may end there. -/
theorem forwarded_moves {filtered : FilteredWriter (List Instruction)}
    {count size : Nat} (bears : Bears outbound pump tunnel said freight)
    (all : said = freight.replies) (split : heard = consumed ++ inbound)
    (sources : texts consumed = freight.sources ++ [freight.rest])
    (seen : filtered.HasSeen freight.rest)
    (instructions : count = (forwardable freight.rest).length)
    (bytes : size = freight.rest.length)
    (reached : freight.reached =
      freight.due ++ Frame.received (forwardable freight.rest))
    (metrics : Metrics) :
    Moves heard freight metrics
      (forwarded ⟨present, bufferSize, outbound, inbound, pump, handler⟩ tunnel
        filtered count size metrics) := by
  cases all
  have released := bears.release
  unfold Session.forwarded
  simp only
  split
  · exact leave_moves released List.prefix_rfl split _
      ⟨_, sources, Or.inr rfl, _, List.prefix_rfl, reached⟩ metrics
  · rename_i replies finished
    refine ⟨tunnel.releaseWriter handlerTicket, { freight with
      sources := freight.sources ++ [freight.rest]
      rest := []
      replies := freight.replies ++ replies }, ?_, ?_⟩
    · refine ⟨rfl, ⟨freight.replies, rfl, released.reached, ?_, released.shows,
        released.batch⟩, consumed, split, sources, rfl, ?_⟩
      · intro source member
        rcases List.mem_append.mp member with before | last
        · exact released.whole source before
        · rw [List.mem_singleton.mp last]
          exact seen.isWhole finished
      · exact reached.trans (freight.due_snoc freight.rest).symm
    · intro waiting
      refine ⟨⟨count, rfl, ?_⟩, ⟨size, rfl, ?_⟩, .refl _ _, .refl _ _,
        ⟨replies.length, rfl, ?_⟩⟩
      · simp [Freight.instructions, instructions]
      · simp [Freight.bytes, bytes]
      · simp only [Freight.replied, List.length_append, Metrics.gauge_waiting]
        omega

omit [Connection σ] in
theorem forward_moves {text : String}
    (bears : Bears outbound pump tunnel said freight)
    (all : said = freight.replies) (split : heard = consumed ++ inbound)
    (hauls : (HandlerStage.acquiring text).Hauls consumed freight)
    (metrics : Metrics) :
    Moves heard freight metrics
      (forward ⟨present, bufferSize, outbound, inbound, pump, handler⟩ tunnel
        text metrics) := by
  obtain ⟨sources, rest, reached⟩ := id hauls
  cases all
  unfold Session.forward
  simp only
  split
  · exact leave_moves bears.release List.prefix_rfl split _ (hauls.front _)
      metrics
  · rename_i passed filtered accepting
    obtain ⟨seen, new, further, text_, length⟩ :=
      FilteredWriter.hasSeen_nil.brings accepting
    rw [List.nil_append] at seen further
    rw [forwardable_nil, List.nil_append] at further
    rw [← further] at text_ length
    have takes : Bears outbound pump tunnel freight.replies
        { freight with rest := Bytes.ofText text } :=
      ⟨bears.reached, bears.whole, bears.shows, bears.batch⟩
    refine Moves.before ?_ (metrics.follows_under freight (Bytes.ofText text)
      freight.reached)
    split
    · rename_i silent
      rw [FilteredWriter.sending?_none silent] at text_
      refine forwarded_moves takes rfl split sources seen length rfl ?_ metrics
      rw [← text_, List.append_nil]
      exact reached
    · rename_i sending starts
      rw [← FilteredWriter.sending?_some starts] at text_
      apply moves_on
      exact ⟨rfl, ⟨freight.replies, rfl, takes⟩, consumed, split, sources, seen,
        length, rfl, [], text_, reached.trans (List.append_nil _).symm⟩

omit [Connection σ] in
theorem hear_moves (bears : Bears outbound pump tunnel said freight)
    (all : said = freight.replies) (message : Incoming)
    (split : heard = (consumed ++ [message]) ++ inbound)
    (hauls : HandlerStage.listening.Hauls consumed freight)
    (metrics : Metrics) :
    Moves heard freight metrics
      (hear ⟨some tunnel, bufferSize, outbound, inbound, pump, .listening⟩
        tunnel message metrics) := by
  obtain ⟨sources, rest, reached⟩ := hauls
  have others : texts [message] = [] →
      HandlerStage.listening.Hauls (consumed ++ [message]) freight := by
    intro none_
    refine ⟨?_, rest, reached⟩
    rw [texts_append, none_, List.append_nil, sources]
  have gone : Bears { outbound with broken := true } pump tunnel
      freight.replies freight := by
    rw [← all]
    exact bears.keeps outbound.keeps_broken rfl rfl
  cases all
  unfold Session.hear
  cases message with
  | text text =>
      have waits : (HandlerStage.acquiring text).Hauls
          (consumed ++ [.text text]) freight := by
        refine ⟨?_, rest, reached⟩
        rw [texts_append, sources]
        rfl
      simp only [Tunnel.requestWriter]
      split
      · exact leave_moves bears List.prefix_rfl split _ (waits.front _) metrics
      · rename_i joined asked
        split at asked
        · cases asked
          apply moves_on
          exact ⟨rfl, ⟨_, rfl, bears.keeps (.refl _) rfl rfl⟩, _, split, waits⟩
        · cases asked
  | binary =>
      exact leave_moves bears List.prefix_rfl split _ ((others rfl).front _)
        metrics
  | ping data =>
      apply moves_on
      exact ⟨rfl, ⟨_, rfl, bears.keeps (outbound.keeps_sendPong data) rfl rfl⟩,
        _, split, others rfl⟩
  | pong data =>
      apply moves_on
      exact ⟨rfl, ⟨_, rfl, bears⟩, _, split, others rfl⟩
  | lost =>
      exact leave_moves bears List.prefix_rfl split _ ((others rfl).front _)
        metrics
  | close =>
      exact leave_moves gone List.prefix_rfl split _ ((others rfl).front _)
        metrics

theorem acquiring_moves {text : String}
    (bears : Bears outbound pump tunnel said freight)
    (all : said = freight.replies) (split : heard = consumed ++ inbound)
    (hauls : (HandlerStage.acquiring text).Hauls consumed freight)
    (heeds : Bool) (metrics : Metrics) :
    Moves heard freight metrics
      (stepHandler ⟨some tunnel, bufferSize, outbound, inbound, pump,
        .acquiring text⟩ heeds metrics) := by
  unfold Session.stepHandler
  simp only
  split
  · apply moves_on
    exact ⟨rfl, ⟨said, all, bears⟩, consumed, split, hauls⟩
  · rename_i error later claimed
    cases LongPoll.Write.claim_refused claimed
    cases all
    exact leave_moves bears.release List.prefix_rfl split _ (hauls.front _)
      metrics
  · rename_i later claimed
    obtain ⟨rfl, -⟩ := LongPoll.Write.claim_granted claimed
    exact forward_moves bears all split hauls metrics

theorem sending_moves {filtered : FilteredWriter (List Instruction)}
    {sending : Sending} {count size : Nat}
    (bears : Bears outbound pump tunnel said freight)
    (all : said = freight.replies) (split : heard = consumed ++ inbound)
    (hauls : (HandlerStage.sending filtered sending count size).Hauls consumed
      freight) (heeds : Bool) (metrics : Metrics) :
    Moves heard freight metrics
      (stepHandler ⟨some tunnel, bufferSize, outbound, inbound, pump,
        .sending filtered sending count size⟩ heeds metrics) := by
  obtain ⟨sources, seen, instructions, bytes, part, account, reached⟩ := hauls
  unfold Session.stepHandler
  simp only
  cases sent : tunnel.send sending with
  | mk outcome next =>
      obtain ⟨uuid, -, -, gone, left, cut, advances, ended⟩ :=
        Tunnel.send_advances sent
      rw [cut, ← List.append_assoc] at account
      have grown := bears.grows uuid advances.taken freight.rest
      have more : freight.reached ++ gone = freight.due ++ (part ++ gone) := by
        rw [reached, List.append_assoc]
      refine Moves.before ?_ (metrics.follows_under freight freight.rest
        (freight.reached ++ gone))
      cases outcome with
      | done =>
          obtain ⟨rfl, -⟩ := ended
          rw [List.append_nil] at account
          rw [account] at more
          exact forwarded_moves grown all split sources seen instructions bytes
            more metrics
      | failed error =>
          cases all
          exact leave_moves grown.release List.prefix_rfl split _
            ⟨_, sources, Or.inr rfl, _, ⟨left, account⟩, more⟩ metrics
      | parked rest =>
          obtain ⟨rfl, -⟩ := ended
          apply moves_on
          exact ⟨rfl, ⟨_, all, grown⟩, consumed, split, sources, seen,
            instructions, bytes, _, account, more⟩

theorem reply_moves {reply : Instruction} {replies : List Instruction}
    (bears : Bears outbound pump tunnel said freight)
    (owed : said ++ reply :: replies = freight.replies)
    (split : heard = consumed ++ inbound)
    (hauls : (HandlerStage.replying (reply :: replies)).Hauls consumed freight)
    (heeds : Bool) (metrics : Metrics) :
    Moves heard freight metrics
      (stepHandler ⟨some tunnel, bufferSize, outbound, inbound, pump,
        .replying (reply :: replies)⟩ heeds metrics) := by
  unfold Session.stepHandler
  simp only
  cases isOpen : outbound.isOpen with
  | true =>
      obtain ⟨frames, given, shows⟩ := bears.shows
      have shown := shows.sendReply isOpen reply
      have all : said ++ [reply] ++ replies = freight.replies := by
        rw [List.append_assoc]
        exact owed
      rw [sendText_open isOpen] at shown
      simp only [sendText_open isOpen]
      apply moves_on
      exact ⟨rfl, ⟨_, all, bears.reached, bears.whole, ⟨frames, given, shown⟩,
        bears.batch⟩, consumed, split, hauls⟩
  | false =>
      obtain ⟨error, refused⟩ := Outbound.sendText_shut isOpen reply.encode
      simp only [refused]
      exact leave_moves bears ⟨_, owed⟩ split _ (hauls.front _) metrics

end Handler

theorem Carries.stepHandler (carries : session.Carries tunnel heard freight)
    (heeds : Bool) (metrics : Metrics) :
    Moves heard freight metrics (session.stepHandler heeds metrics) := by
  obtain ⟨there, ⟨said, answers, bears⟩, consumed, split, hauls⟩ := id carries
  obtain ⟨_, bufferSize, outbound, inbound, pump, handler⟩ := session
  cases there
  simp only at answers bears split hauls
  cases handler with
  | listening =>
      simp only [Session.stepHandler, Session.listen]
      split
      · exact leave_moves bears answers.front split _ (hauls.front _) metrics
      · exact moves_on _ carries metrics
      · rename_i message inbound _
        apply hear_moves bears answers message ?_ hauls
        rw [split, List.append_assoc]
        rfl
  | acquiring text => exact acquiring_moves bears answers split hauls heeds metrics
  | sending filtered sending count size =>
      exact sending_moves bears answers split hauls heeds metrics
  | replying replies =>
      cases replies with
      | nil =>
          have all : said = freight.replies :=
            (List.append_nil said).symm.trans answers
          apply moves_on
          exact ⟨rfl, ⟨said, all, bears⟩, consumed, split, hauls⟩
      | cons reply replies =>
          exact reply_moves bears answers split hauls heeds metrics
  | leaving status =>
      have closes := tunnel.close_closes
      apply moves_on
      exact ⟨rfl, ⟨said, answers, bears.keeps (.refl _) closes.uuid
        closes.taken⟩, consumed, split, hauls⟩
  | waiting status =>
      simp only [Session.stepHandler]
      split
      · refine ⟨tunnel, freight, ⟨rfl, ⟨said, answers, bears⟩, consumed, split,
          hauls⟩, fun waiting => ?_⟩
        rw [Metrics.gauge_tunnelClosed]
        exact .refl _ _
      · exact moves_on _ carries metrics
  | finished => exact moves_on _ carries metrics

/-! ### Whatever happens to a session -/

inductive Loads (session : Session (Recorded σ)) (heard : List Incoming) :
    Freight → Prop
  | refused (none_ : session.tunnel = none) : Loads session heard {}
  | carries {tunnel : Tunnel (Recorded σ)} {freight : Freight}
      (carries : session.Carries tunnel heard freight) :
      Loads session heard freight

theorem Loads.stepPump (loads : session.Loads heard freight)
    (metrics : Metrics) :
    ∃ new, (session.stepPump metrics).2.1.Loads heard new ∧
      metrics.Follows (session.stepPump metrics).2.2 freight new := by
  cases loads with
  | refused none_ =>
      unfold Session.stepPump
      rw [none_]
      exact ⟨{}, .refused none_, .refl _ _⟩
  | carries carries =>
      obtain ⟨next, new, carried, follows⟩ := carries.stepPump metrics
      exact ⟨new, .carries carried, follows⟩

theorem Loads.stepHandler (loads : session.Loads heard freight)
    (heeds : Bool) (metrics : Metrics) :
    ∃ new, (session.stepHandler heeds metrics).2.1.Loads heard new ∧
      metrics.Follows (session.stepHandler heeds metrics).2.2 freight new := by
  cases loads with
  | refused none_ =>
      unfold Session.stepHandler
      rw [none_]
      exact ⟨{}, .refused none_, .refl _ _⟩
  | carries carries =>
      obtain ⟨next, new, carried, follows⟩ := carries.stepHandler heeds metrics
      exact ⟨new, .carries carried, follows⟩

omit [Connection σ] in
theorem Loads.deliver (loads : session.Loads heard freight)
    {outbound : Outbound} (keeps : session.outbound.Keeps outbound)
    (messages : List Incoming) :
    Loads ({ session with outbound }.deliver messages) (heard ++ messages)
      freight := by
  cases loads with
  | refused none_ => exact .refused none_
  | carries carries =>
      obtain ⟨there, ⟨said, answers, bears⟩, consumed, split, hauls⟩ := carries
      refine .carries ⟨there, ⟨said, answers, bears.keeps keeps rfl rfl⟩,
        consumed, ?_, hauls⟩
      rw [split, List.append_assoc]
      rfl

omit [Connection σ] in
theorem Loads.guacd (loads : session.Loads heard freight) (change : σ → σ) :
    Loads { session with
        tunnel := session.tunnel.map (·.onStream (Recorded.onStream change)) }
      heard freight := by
  cases loads with
  | refused none_ =>
      apply Loads.refused
      rw [none_]
      rfl
  | carries carries =>
      rename_i tunnel
      have there : session.tunnel.map (·.onStream (Recorded.onStream change)) =
          some (tunnel.onStream (Recorded.onStream change)) := by
        rw [carries.there]
        rfl
      exact .carries (carries.rests there (.refl _) carries.held rfl rfl rfl
        rfl)

theorem start_loads (environment : Environment σ) (attempt : Nat)
    (request : TunnelRequest) (bufferSize : Nat) (metrics : Metrics) :
    let started := Session.start (environment.recorded.connect attempt request)
      bufferSize {} metrics
    started.1.Loads [] {} ∧ metrics.Follows started.2 {} {} := by
  intro started
  subst started
  cases connected : environment.recorded.connect attempt request with
  | error error => exact ⟨.refused rfl, .refl _ _⟩
  | ok tunnel =>
      obtain ⟨opened, -, rfl⟩ := Environment.recorded_ok connected
      refine ⟨.carries ⟨rfl, ⟨[], rfl, rfl, ?_, ⟨[], rfl, [], [], rfl, rfl, rfl,
        ?_⟩, [], rfl, rfl⟩, [], rfl, rfl, rfl, rfl⟩, .refl _ _⟩
      · intro source member
        cases member
      · exact fun some_ => absurd rfl some_

omit [Connection σ] in
/-- The replies go another way than the frames that are counted. -/
theorem Loads.silent (loads : session.Loads heard freight) :
    Item.replies freight.given = [] := by
  cases loads with
  | refused => rfl
  | carries carries =>
      obtain ⟨said, -, bears⟩ := carries.bears
      obtain ⟨frames, given, -⟩ := bears.shows
      rw [given, Item.replies_ofFrames]

omit [Connection σ] in
theorem Loads.forwards (loads : session.Loads heard freight) :
    freight.Forwards := by
  cases loads with
  | refused => exact Freight.forwards_begun rfl List.nil_prefix
  | carries carries =>
      obtain ⟨-, ⟨said, -, bears⟩, consumed, -, hauls⟩ := carries
      obtain ⟨begun, -, -, part, front, reached⟩ := hauls.front none
      exact ⟨bears.whole, part, front, reached⟩

end Session

end WebSocket

end TunnelRelay
