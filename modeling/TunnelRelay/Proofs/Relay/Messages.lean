import TunnelRelay.Proofs.Frame.RoundTrip
import TunnelRelay.Proofs.Relay.Opening
import TunnelRelay.Proofs.Relay.Reads
import TunnelRelay.Proofs.Relay.Sessions
import TunnelRelay.Stream.Script

/-!
What WebSocket sessions send to browsers.

The pump and the handler share the socket, and their steps come in any order. Whatever they do, the
first message tells the UUID of the tunnel, each text message behind it is whole instructions, and
a close message is the last one. A handler that has come to its end leaves a closed tunnel.
-/

namespace TunnelRelay.WebSocket

variable {σ : Type}

/-- A text that is at least one instruction, and nothing but instructions. -/
def IsInstructions (text : String) : Prop :=
  text ≠ "" ∧ WholeFrames (Bytes.ofText text)

/-! ### Replies are instructions -/

def Printable (instruction : Instruction) : Prop :=
  ∀ text ∈ instruction.elements, text.length ≤ maxElementLength

theorem Printable.isInstructions {instruction : Instruction}
    (printable : Printable instruction) : IsInstructions instruction.encode := by
  constructor
  · intro empty
    apply instruction.wire_ne_nil
    rw [Instruction.wire, empty]
    rfl
  · have bytes := WireFrame.bytes_ofInstruction printable
    rw [Instruction.wire] at bytes
    rw [← bytes]
    exact WireFrame.wholeFrames _

theorem printable_pong {frame : Frame} {data : Bytes} {reply : Instruction}
    (taken : frame ∈ (Intake.takeFrames .client data []).frames)
    (owed : frame.instruction.pong? = some reply) : Printable reply := by
  obtain ⟨wire, -, same, admitted⟩ := Intake.takeFrames_shape taken
  have short : ∀ text ∈ frame.instruction.elements,
      text.length ≤ maxElementLength := by
    intro text member
    rw [same, WireFrame.elements_instruction] at member
    exact Nat.le_trans (admitted.2 8192 rfl text member) (by decide)
  unfold Instruction.pong? at owed
  split at owed
  · rename_i command nonce others internal args
    split at owed
    · cases owed
      intro text member
      have among : nonce ∈ frame.instruction.elements := by
        simp [Instruction.elements, args]
      simp only [Instruction.pong, Instruction.internal, Instruction.elements,
        List.mem_cons, List.not_mem_nil, or_false] at member
      rcases member with rfl | rfl | rfl
      · decide
      · decide
      · exact short _ among
    · cases owed
  · cases owed

theorem printable_replies {data : Bytes} {passed : Forwarded}
    {next : FilteredWriter (List Instruction)}
    (accepted : FilteredWriter.accept
      { filter := internalFilter, memory := [] } data = (.ok passed, next)) :
    ∀ reply ∈ next.memory, Printable reply := by
  obtain ⟨new, other, frames, outcome⟩ :=
    FilteredWriter.hasSeen_nil.completes data
  rw [List.nil_append] at frames outcome
  cases fault : (Intake.takeFrames .client data []).fault with
  | some cause =>
      simp only [fault, accepted] at outcome
      cases outcome.1
  | none =>
      simp only [fault, accepted] at outcome
      obtain ⟨same, -, memory⟩ := outcome
      cases same
      intro reply member
      rw [memory, List.nil_append] at member
      obtain ⟨frame, among, owed⟩ := List.mem_filterMap.mp member
      have taken : frame ∈ (Intake.takeFrames .client data []).frames := by
        rw [frames]
        exact List.mem_append_right _ among
      exact printable_pong taken owed

/-! ### The socket -/

/-- What has been sent begins with the text `first` and goes on with whole
instructions, and a close message stands at its end. A socket that is `mute`
has never got anything through. -/
structure Outbound.Proper (first : String) (mute : Bool) (outbound : Outbound) :
    Prop where
  silent : mute = true → outbound.sent = [] ∧ outbound.broken = true
  begins : mute = false → ∃ others, outbound.sent = .text first :: others ∧
    ∀ text, .text text ∈ others → IsInstructions text
  ends : ∃ front last, outbound.sent = front ++ last ∧
    (∀ frame, .close frame ∉ front) ∧
    (last = [] ∨ outbound.closed = true ∧
      ∃ status, last = [.close (.ofStatus status)])

/-- A close message can only be the last one, and carries both codes of one
status. -/
theorem close_last {sent early last front back : List Outgoing}
    {frame : CloseFrame} (split : sent = early ++ last)
    (none : ∀ frame, .close frame ∉ early)
    (ending : last = [] ∨ ∃ status, last = [.close (.ofStatus status)])
    (closes : sent = front ++ .close frame :: back) :
    back = [] ∧ (∀ other, .close other ∉ front) ∧
      ∃ status : Status, frame.code = status.websocketCode ∧
        frame.reason = toString status.guacamoleCode := by
  rw [split] at closes
  rcases ending with rfl | ⟨status, rfl⟩
  · rw [List.append_nil] at closes
    have among : .close frame ∈ early := by
      rw [closes]
      exact List.mem_append_right _ List.mem_cons_self
    exact absurd among (none frame)
  · rcases List.eq_nil_or_concat back with rfl | ⟨others, message, rfl⟩
    · obtain ⟨rfl, same⟩ := List.append_inj' closes rfl
      cases same
      exact ⟨rfl, none, status, rfl, rfl⟩
    · rw [List.concat_eq_append, ← List.cons_append,
        ← List.append_assoc] at closes
      obtain ⟨rfl, -⟩ := List.append_inj' closes rfl
      have among : .close frame ∈ front ++ .close frame :: others :=
        List.mem_append_right _ List.mem_cons_self
      exact absurd among (none frame)

namespace Outbound

variable {first : String} {mute : Bool} {outbound : Outbound}

theorem Proper.front (proper : outbound.Proper first mute)
    (isOpen : outbound.closed = false) (frame : CloseFrame) :
    .close frame ∉ outbound.sent := by
  obtain ⟨front, last, split, none, ending⟩ := proper.ends
  rcases ending with rfl | ⟨closed, -⟩
  · rw [split, List.append_nil]
    exact none frame
  · rw [isOpen] at closed
    cases closed

theorem Proper.push (proper : outbound.Proper first mute)
    (isOpen : outbound.closed = false) (through : outbound.broken = false)
    (message : Outgoing) (closed : Bool)
    (whole : ∀ text, message = .text text → IsInstructions text)
    (closes : (∀ frame, message ≠ .close frame) ∨
      closed = true ∧ ∃ status, message = .close (.ofStatus status)) :
    Proper first mute
      { outbound with closed, sent := outbound.sent ++ [message] } := by
  constructor
  · intro silent
    have broken := (proper.silent silent).2
    rw [through] at broken
    cases broken
  · intro speaks
    obtain ⟨others, split, instructions⟩ := proper.begins speaks
    refine ⟨others ++ [message], by rw [split]; rfl, ?_⟩
    intro text member
    rcases List.mem_append.mp member with before | last
    · exact instructions text before
    · exact whole text (List.mem_singleton.mp last).symm
  · have none := proper.front isOpen
    rcases closes with other | ⟨shut, status, same⟩
    · refine ⟨outbound.sent ++ [message], [], (List.append_nil _).symm, ?_,
        Or.inl rfl⟩
      intro frame member
      rcases List.mem_append.mp member with before | last
      · exact none frame before
      · exact other frame (List.mem_singleton.mp last).symm
    · exact ⟨outbound.sent, [message], rfl, none,
        Or.inr ⟨shut, status, by rw [same]⟩⟩

theorem Proper.sendText (proper : outbound.Proper first mute) {text : String}
    (whole : IsInstructions text) : (outbound.sendText text).2.Proper first mute := by
  unfold Outbound.sendText
  split
  · exact proper
  · rename_i isOpen
    split
    · exact proper
    · rename_i through
      apply proper.push (eq_false_of_ne_true isOpen)
        (eq_false_of_ne_true through) (.text text) outbound.closed
      · intro other same
        cases same
        exact whole
      · exact Or.inl fun frame impossible => by cases impossible

theorem Proper.sendPong (proper : outbound.Proper first mute) (data : Bytes) :
    (outbound.sendPong data).Proper first mute := by
  unfold Outbound.sendPong Outbound.isOpen
  split
  · rename_i opened
    simp only [Bool.and_eq_true, Bool.not_eq_true'] at opened
    apply proper.push opened.1 opened.2 (.pong data) outbound.closed
    · intro other impossible
      cases impossible
    · exact Or.inl fun frame impossible => by cases impossible
  · exact proper

theorem Proper.close (proper : outbound.Proper first mute) (status : Status) :
    (outbound.close status).Proper first mute := by
  unfold Outbound.close
  split
  · exact proper
  · rename_i isOpen
    have none := proper.front (eq_false_of_ne_true isOpen)
    split
    · exact ⟨proper.silent, proper.begins, outbound.sent, [],
        (List.append_nil _).symm, none, Or.inl rfl⟩
    · rename_i through
      apply proper.push (eq_false_of_ne_true isOpen)
        (eq_false_of_ne_true through) (.close (.ofStatus status)) true
      · intro other impossible
        cases impossible
      · exact Or.inr ⟨rfl, status, rfl⟩

theorem Proper.breaks (proper : outbound.Proper first mute) :
    Proper first mute { outbound with broken := true } :=
  ⟨fun silent => ⟨(proper.silent silent).1, rfl⟩, proper.begins, proper.ends⟩

end Outbound

/-! ### Sessions -/

def HandlerStage.replies : HandlerStage → List Instruction
  | .sending filtered _ _ _ => filtered.memory
  | .replying replies => replies
  | _ => []

namespace Session

/-- What a session with a tunnel keeps to while it sends messages. -/
structure Talks (first : String) (mute : Bool) (session : Session σ) : Prop where
  outbound : session.outbound.Proper first mute
  batch : WholeFrames (Bytes.ofText session.pump.batch)
  replies : ∀ reply ∈ session.handler.replies, Printable reply
  tunnel : ∃ tunnel, session.tunnel = some tunnel ∧
    tunnel.reader.Sound .unbounded ∧
    (session.handler.closed = true → tunnel.isOpen = false)

variable {first : String} {mute : Bool} {session : Session σ}

theorem Talks.deliver (talks : session.Talks first mute)
    (messages : List Incoming) : (session.deliver messages).Talks first mute :=
  ⟨talks.outbound, talks.batch, talks.replies, talks.tunnel⟩

theorem Talks.breaks (talks : session.Talks first mute) :
    Talks first mute
      { session with outbound := { session.outbound with broken := true } } :=
  ⟨talks.outbound.breaks, talks.batch, talks.replies, talks.tunnel⟩

theorem Talks.guacd (talks : session.Talks first mute) (change : σ → σ) :
    Talks first mute
      { session with tunnel := session.tunnel.map (·.onStream change) } := by
  obtain ⟨tunnel, there, sound, closed⟩ := talks.tunnel
  refine ⟨talks.outbound, talks.batch, talks.replies, tunnel.onStream change,
    ?_, sound, closed⟩
  rw [there]
  rfl

theorem Talks.onTunnel (talks : session.Talks first mute) {tunnel : Tunnel σ}
    (there : session.tunnel = some tunnel) (next : Tunnel σ)
    (sound : next.reader.Sound .unbounded)
    (isOpen : next.isOpen = tunnel.isOpen) :
    Talks first mute { session with tunnel := some next } := by
  obtain ⟨other, same, -, closed⟩ := talks.tunnel
  rw [there] at same
  cases same
  refine ⟨talks.outbound, talks.batch, talks.replies, next, rfl, sound, ?_⟩
  rw [isOpen]
  exact closed

theorem Talks.sound (talks : session.Talks first mute) {tunnel : Tunnel σ}
    (there : session.tunnel = some tunnel) : tunnel.reader.Sound .unbounded := by
  obtain ⟨other, same, sound, -⟩ := talks.tunnel
  rw [there] at same
  cases same
  exact sound

/-! ### The pump -/

theorem Talks.join (talks : session.Talks first mute) {frame : Frame}
    {wire : WireFrame} (raw : Bytes.ofText frame.raw = wire.bytes)
    (pump : Pump) (joined : pump.batch = session.pump.batch ++ frame.raw) :
    Talks first mute { session with pump } := by
  refine ⟨talks.outbound, ?_, talks.replies, talks.tunnel⟩
  rw [joined, Bytes.ofText_append, raw]
  exact talks.batch.append wire.wholeFrames

theorem append_raw_ne_empty {frame : Frame} {wire : WireFrame}
    (raw : Bytes.ofText frame.raw = wire.bytes) {batch : String} :
    batch ++ frame.raw ≠ "" := by
  intro empty
  have bytes := Bytes.ofText_append batch frame.raw
  rw [empty, raw] at bytes
  exact wire.bytes_ne_nil (List.append_eq_nil_iff.mp bytes.symm).2

theorem Talks.sendBatch (talks : session.Talks first mute)
    (some_ : session.pump.batch ≠ "") (metrics : Metrics) :
    (session.sendBatch metrics).2.1.Talks first mute :=
  ⟨talks.outbound.sendText ⟨some_, talks.batch⟩, WholeFrames.nil,
    talks.replies, talks.tunnel⟩

theorem Talks.stopPump (talks : session.Talks first mute) {tunnel : Tunnel σ}
    (there : session.tunnel = some tunnel) (status : Option Status) :
    (session.stopPump tunnel status).Talks first mute := by
  obtain ⟨other, same, sound, closed⟩ := talks.tunnel
  rw [there] at same
  cases same
  exact ⟨talks.outbound, talks.batch, talks.replies, _, rfl, sound, closed⟩

theorem Talks.drainPump (talks : session.Talks first mute) (status : Status)
    (metrics : Metrics) : (session.drainPump status metrics).2.1.Talks first mute := by
  unfold Session.drainPump
  by_cases empty : session.pump.batch.isEmpty = true
  · simp only [if_pos empty]
    exact ⟨talks.outbound, talks.batch, talks.replies, talks.tunnel⟩
  · have some_ : session.pump.batch ≠ "" := by
      intro nothing
      rw [nothing] at empty
      exact empty rfl
    have sent := talks.sendBatch some_ metrics
    simp only [if_neg empty]
    exact ⟨sent.outbound, sent.batch, sent.replies, sent.tunnel⟩

variable [Connection σ]

theorem Talks.stepPump (talks : session.Talks first mute) (metrics : Metrics) :
    (session.stepPump metrics).2.1.Talks first mute := by
  obtain ⟨tunnel, there, sound, closed⟩ := talks.tunnel
  unfold Session.stepPump
  rw [there]
  simp only
  cases session.pump.stage with
  | acquiring =>
      simp only [Tunnel.claimReader]
      split
      · exact talks
      · rename_i claimed
        split at claimed
        · cases claimed
          exact ⟨talks.outbound, talks.batch, talks.replies, _, rfl, sound,
            closed⟩
        · cases claimed
  | closing status =>
      have shut : Talks first mute
          { session with outbound := session.outbound.close status } :=
        ⟨talks.outbound.close status, talks.batch, talks.replies, talks.tunnel⟩
      exact shut.stopPump there (some status)
  | finished status => exact talks
  | reading =>
      cases reading : tunnel.readFrame with
      | mk outcome next =>
          obtain ⟨kept, shaped, -⟩ := Tunnel.readFrame_sound sound reading
          have isOpen : next.isOpen = tunnel.isOpen := by
            rw [Tunnel.readFrame_rest reading]
          have moved := talks.onTunnel there next kept isOpen
          cases outcome with
          | parked => exact moved
          | ready outcome =>
              cases outcome with
              | error error => exact moved.drainPump _ metrics
              | ok frame =>
                  cases frame with
                  | none => exact moved.drainPump _ metrics
                  | some frame =>
                      obtain ⟨wire, raw, -⟩ := shaped frame rfl
                      have longer := moved.join raw ⟨.reading,
                        session.pump.batch ++ frame.raw,
                        session.pump.pending + 1⟩ rfl
                      simp only
                      split
                      · exact longer
                      · have sent := longer.sendBatch (append_raw_ne_empty raw)
                          metrics
                        split
                        · rename_i done
                          rw [done] at sent
                          exact sent
                        · rename_i failed
                          have same := congrArg (·.2.1.tunnel) failed
                          rw [failed] at sent
                          exact sent.stopPump same.symm none

/-! ### The handler -/

omit [Connection σ] in
theorem Talks.handle (talks : session.Talks first mute) (stage : HandlerStage)
    (replies : ∀ reply ∈ stage.replies, Printable reply)
    (serves : stage.closed = false) :
    Talks first mute { session with handler := stage } := by
  obtain ⟨tunnel, there, sound, -⟩ := talks.tunnel
  refine ⟨talks.outbound, talks.batch, replies, tunnel, there, sound, ?_⟩
  intro closed
  rw [serves] at closed
  cases closed

omit [Connection σ] in
theorem Talks.leave (talks : session.Talks first mute) (status : Option Status)
    (metrics : Metrics) : (session.leave status metrics).2.1.Talks first mute := by
  have left : Talks first mute { session with handler := .leaving status } :=
    talks.handle _ (List.forall_mem_nil _) rfl
  cases status with
  | none => exact left
  | some status =>
      exact ⟨talks.outbound.close status, left.batch, left.replies, left.tunnel⟩

omit [Connection σ] in
theorem Talks.releaseWriter (talks : session.Talks first mute) {tunnel : Tunnel σ}
    (there : session.tunnel = some tunnel) (next : Tunnel σ)
    (reader : next.reader = tunnel.reader)
    (isOpen : next.isOpen = tunnel.isOpen) :
    (session.releaseWriter next).Talks first mute := by
  have sound := talks.sound there
  rw [← reader] at sound
  exact talks.onTunnel there _ sound isOpen

omit [Connection σ] in
theorem Talks.forwarded (talks : session.Talks first mute) {tunnel : Tunnel σ}
    (there : session.tunnel = some tunnel) (next : Tunnel σ)
    (reader : next.reader = tunnel.reader)
    (isOpen : next.isOpen = tunnel.isOpen)
    {filtered : FilteredWriter (List Instruction)}
    (owed : ∀ reply ∈ filtered.memory, Printable reply) (count size : Nat)
    (metrics : Metrics) :
    (session.forwarded next filtered count size metrics).2.1.Talks first mute := by
  have released := talks.releaseWriter there next reader isOpen
  unfold Session.forwarded
  simp only
  split
  · exact released.leave _ metrics
  · rename_i replies finished
    have same : replies = filtered.memory := by
      unfold FilteredWriter.finish at finished
      split at finished <;> cases finished
      rfl
    rw [same]
    exact released.handle (.replying filtered.memory) owed rfl

omit [Connection σ] in
theorem Talks.forward (talks : session.Talks first mute) {tunnel : Tunnel σ}
    (there : session.tunnel = some tunnel) (text : String) (metrics : Metrics) :
    (session.forward tunnel text metrics).2.1.Talks first mute := by
  unfold Session.forward
  simp only
  split
  · exact (talks.releaseWriter there tunnel rfl rfl).leave _ metrics
  · rename_i passed filtered accepted
    have owed := printable_replies accepted
    split
    · exact talks.forwarded there tunnel rfl rfl owed _ _ metrics
    · exact (talks.onTunnel there tunnel (talks.sound there) rfl).handle
        (.sending filtered _ _ _) owed rfl

omit [Connection σ] in
theorem Talks.hear (talks : session.Talks first mute) {tunnel : Tunnel σ}
    (there : session.tunnel = some tunnel) (message : Incoming)
    (metrics : Metrics) :
    (session.hear tunnel message metrics).2.1.Talks first mute := by
  unfold Session.hear
  cases message with
  | text text =>
      simp only [Tunnel.requestWriter]
      split
      · exact talks.leave _ metrics
      · rename_i joined
        split at joined
        · cases joined
          have sound := talks.sound there
          have waits := talks.onTunnel there
            { tunnel with
              writerLock := tunnel.writerLock.request handlerTicket } sound rfl
          exact waits.handle (.acquiring text) (List.forall_mem_nil _) rfl
        · cases joined
  | binary => exact talks.leave _ metrics
  | ping data =>
      exact ⟨talks.outbound.sendPong data, talks.batch, talks.replies,
        talks.tunnel⟩
  | pong data => exact talks
  | close => exact talks.breaks.leave _ metrics
  | lost => exact talks.leave _ metrics

omit [Connection σ] in
theorem Talks.listen (talks : session.Talks first mute) {tunnel : Tunnel σ}
    (there : session.tunnel = some tunnel) (heeds : Bool) (metrics : Metrics) :
    (session.listen tunnel heeds metrics).2.1.Talks first mute := by
  unfold Session.listen
  split
  · exact talks.leave _ metrics
  · exact talks
  · rename_i message inbound _ _
    have heard : Talks first mute { session with inbound } :=
      ⟨talks.outbound, talks.batch, talks.replies, talks.tunnel⟩
    exact heard.hear there message metrics

theorem Talks.stepHandler (talks : session.Talks first mute) (heeds : Bool)
    (metrics : Metrics) :
    (session.stepHandler heeds metrics).2.1.Talks first mute := by
  obtain ⟨tunnel, there, sound, closed⟩ := talks.tunnel
  obtain ⟨own, bufferSize, outbound, inbound, pump, handler⟩ := session
  cases there
  have owed := talks.replies
  unfold Session.stepHandler
  simp only
  cases handler with
  | listening => exact talks.listen rfl heeds metrics
  | acquiring text =>
      simp only [Tunnel.claimWriter]
      split
      · exact talks
      · rename_i error next refused
        have released : next.reader = tunnel.reader ∧
            next.isOpen = tunnel.isOpen := by
          split at refused
          · split at refused <;> cases refused
            exact ⟨rfl, rfl⟩
          · cases refused
        have moved := talks.onTunnel rfl next
          (by rw [released.1]; exact sound) released.2
        exact moved.leave _ metrics
      · rename_i next claimed
        split at claimed
        · split at claimed <;> cases claimed
          exact talks.forward rfl text metrics
        · cases claimed
  | sending filtered sending count size =>
      unfold Tunnel.send
      simp only
      cases sent : sending.poll tunnel.backend with
      | mk outcome backend =>
          cases outcome with
          | done =>
              exact talks.forwarded rfl { tunnel with backend } rfl rfl owed
                count size metrics
          | failed error =>
              have released :=
                talks.releaseWriter rfl { tunnel with backend } rfl rfl
              exact released.leave _ metrics
          | parked more =>
              have moved := talks.onTunnel rfl { tunnel with backend } sound rfl
              exact moved.handle (.sending filtered more count size) owed rfl
  | replying replies =>
      cases replies with
      | nil => exact talks.handle .listening (List.forall_mem_nil _) rfl
      | cons reply replies =>
          have sent := talks.outbound.sendText
            (owed reply List.mem_cons_self).isInstructions
          have rest : ∀ other ∈ replies, Printable other :=
            fun other later => owed other (List.mem_cons_of_mem reply later)
          simp only
          cases outcome : outbound.sendText reply.encode with
          | mk result after =>
              rw [outcome] at sent
              cases result with
              | ok done =>
                  exact ⟨sent, talks.batch, rest, tunnel, rfl, sound, closed⟩
              | error error =>
                  have refused : Talks first mute
                      ⟨some tunnel, bufferSize, after, inbound, pump,
                        .replying (reply :: replies)⟩ :=
                    ⟨sent, talks.batch, owed, tunnel, rfl, sound, closed⟩
                  exact refused.leave (some (closingStatus error)) metrics
  | leaving status =>
      refine ⟨talks.outbound, talks.batch, List.forall_mem_nil _, tunnel.close,
        rfl, ?_, fun _ => tunnel.close_isOpen⟩
      rw [tunnel.close_reader]
      exact sound
  | waiting status =>
      have shut : tunnel.isOpen = false := closed rfl
      simp only
      split
      · exact ⟨talks.outbound, talks.batch, List.forall_mem_nil _, tunnel, rfl,
          sound, fun _ => shut⟩
      · exact talks
  | finished => exact talks

/-! ### Whatever happens -/

/-- What can happen to a session next. Either task takes a step, in any order. -/
inductive Turn (σ : Type) where
  | pump (metrics : Metrics)
  | handler (heeds : Bool) (metrics : Metrics)
  | arrive (messages : List Incoming)
  /-- From now on nothing gets through to the browser. -/
  | sendingFails
  | guacd (change : σ → σ)

def turn (session : Session σ) : Turn σ → Session σ
  | .pump metrics => (session.stepPump metrics).2.1
  | .handler heeds metrics => (session.stepHandler heeds metrics).2.1
  | .arrive messages => session.deliver messages
  | .sendingFails =>
      { session with outbound := { session.outbound with broken := true } }
  | .guacd change =>
      { session with tunnel := session.tunnel.map (·.onStream change) }

theorem Talks.turn (talks : session.Talks first mute) (turn : Turn σ) :
    (session.turn turn).Talks first mute := by
  cases turn with
  | pump metrics => exact talks.stepPump metrics
  | handler heeds metrics => exact talks.stepHandler heeds metrics
  | arrive messages => exact talks.deliver messages
  | sendingFails => exact talks.breaks
  | guacd change => exact talks.guacd change

theorem Talks.turns (talks : session.Talks first mute) (turns : List (Turn σ)) :
    (turns.foldl Session.turn session).Talks first mute := by
  induction turns generalizing session with
  | nil => exact talks
  | cons turn turns ih => exact ih (talks.turn turn)

theorem turns_refused (refused : session.tunnel = none)
    (turns : List (Turn σ)) :
    (turns.foldl Session.turn session).outbound.sent = session.outbound.sent := by
  induction turns generalizing session with
  | nil => rfl
  | cons turn turns ih =>
      have step : (session.turn turn).tunnel = none ∧
          (session.turn turn).outbound.sent = session.outbound.sent := by
        cases turn with
        | pump metrics => simp [Session.turn, stepPump, refused]
        | handler heeds metrics => simp [Session.turn, stepHandler, refused]
        | arrive messages => exact ⟨refused, rfl⟩
        | sendingFails => exact ⟨refused, rfl⟩
        | guacd change => simp [Session.turn, refused]
      rw [List.foldl_cons, ih step.1]
      exact step.2

theorem start_talks {tunnel : Tunnel σ} (sound : tunnel.reader.Sound .unbounded)
    (bufferSize : Nat) (broken : Bool) (metrics : Metrics) :
    (start (.ok tunnel) bufferSize { broken } metrics).1.Talks
      (announcement tunnel.uuid) broken := by
  cases broken with
  | true =>
      refine ⟨⟨fun _ => ⟨rfl, rfl⟩, ?_, [], [], rfl, ?_, Or.inl rfl⟩,
        WholeFrames.nil, List.forall_mem_nil _, tunnel.close, rfl, ?_,
        fun _ => tunnel.close_isOpen⟩
      · intro impossible
        cases impossible
      · exact fun frame => List.not_mem_nil
      · rw [tunnel.close_reader]
        exact sound
  | false =>
      refine ⟨⟨?_, fun _ => ⟨[], rfl, ?_⟩, [.text (announcement tunnel.uuid)],
        [], rfl, ?_, Or.inl rfl⟩, WholeFrames.nil, List.forall_mem_nil _, _, rfl,
        sound, ?_⟩
      · intro impossible
        cases impossible
      · exact fun text impossible => by cases impossible
      · intro frame member
        cases List.mem_singleton.mp member
      · intro impossible
        cases impossible

/-- A refused connection is told by one close message. Otherwise the first
message announces the tunnel, each text behind it is whole instructions, and a
close message, which carries both codes of one status, is the last message.
This holds from the moment that sending fails, and in any order of the steps of
the two tasks. When the handler is over, the tunnel is closed. -/
theorem messages_proper (connected : Except RelayError (Tunnel σ))
    (sound : ∀ tunnel, connected = .ok tunnel →
      tunnel.reader.Sound .unbounded)
    (bufferSize : Nat) (broken : Bool) (metrics : Metrics)
    (turns : List (Turn σ)) :
    let session := turns.foldl turn
      (start connected bufferSize { broken } metrics).1
    let sent := session.outbound.sent
    (∀ error, connected = .error error →
      sent = if broken then [] else [.close (.ofStatus error.status)]) ∧
    (∀ tunnel, connected = .ok tunnel →
      (broken = true → sent = []) ∧
      (broken = false → ∃ others,
        sent = .text (announcement tunnel.uuid) :: others ∧
        ∀ text, .text text ∈ others →
          text ≠ "" ∧ WholeFrames (Bytes.ofText text)) ∧
      (session.isOver = true → ∃ own, session.tunnel = some own ∧
        own.isOpen = false)) ∧
    ∀ front frame back, sent = front ++ .close frame :: back →
      back = [] ∧ (∀ other, .close other ∉ front) ∧
      ∃ status : Status, frame.code = status.websocketCode ∧
        frame.reason = toString status.guacamoleCode := by
  intro session sent
  cases connected with
  | error error =>
      have still : sent = (Outbound.close { broken } error.status).sent :=
        turns_refused rfl turns
      have refused : sent =
          if broken then [] else [.close (.ofStatus error.status)] := by
        rw [still]
        cases broken <;> rfl
      refine ⟨?_, ?_, ?_⟩
      · intro other same
        cases same
        exact refused
      · intro tunnel impossible
        cases impossible
      · intro front frame back closes
        rw [← List.nil_append (if broken then _ else _)] at refused
        refine close_last refused (fun frame => List.not_mem_nil) ?_ closes
        cases broken with
        | true => exact Or.inl rfl
        | false => exact Or.inr ⟨error.status, rfl⟩
  | ok opened =>
      have talks : session.Talks (announcement opened.uuid) broken :=
        (start_talks (sound opened rfl) bufferSize broken metrics).turns turns
      obtain ⟨own, there, -, closed⟩ := talks.tunnel
      refine ⟨?_, ?_, ?_⟩
      · intro error impossible
        cases impossible
      · intro tunnel same
        cases same
        refine ⟨fun silent => (talks.outbound.silent silent).1,
          talks.outbound.begins, ?_⟩
        intro ended
        refine ⟨own, there, closed ?_⟩
        unfold isOver at ended
        split at ended
        · rename_i finished
          rw [finished]
          rfl
        · cases ended
      · intro front frame back closes
        obtain ⟨early, last, split, none, ending⟩ := talks.outbound.ends
        exact close_last split none (ending.imp id (·.2)) closes

/-- A frame, a ping and a binary message: the handler closes the socket, and the
pump, which comes second, finds it closed. -/
theorem messages_proper_binary :
    let tunnel := Tunnel.ofStream ⟨0⟩ none
      ({ input := ⟨[.ok (Bytes.ofText "3.nop;")]⟩ } : Scripted)
    let turns : List (Turn Scripted) := [
      .arrive [.text "0.,4.ping,1.7;", .binary], .pump {}, .pump {},
      .handler true {}, .handler true {}, .handler true {}, .handler true {},
      .handler true {}, .handler true {}, .pump {}, .pump {},
      .handler true {}, .handler true {}]
    let session := turns.foldl turn (start (.ok tunnel) 8192 {} {}).1
    tunnel.reader.Sound .unbounded ∧ session.outbound.sent =
      [.text (announcement tunnel.uuid), .text "3.nop;",
        .text "0.,4.ping,1.7;", .close ⟨4256, "256"⟩] ∧
      session.isOver = true ∧
      ∃ own, session.tunnel = some own ∧ own.isOpen = false := by
  intro tunnel turns session
  have sound : tunnel.reader.Sound .unbounded :=
    (Tunnel.ofStream_isUnread _ _ _).reader
  have ended : session.isOver = true := by decide +kernel
  have proper := messages_proper (.ok tunnel)
    (fun other same => by cases same; exact sound) 8192 false {} turns
  exact ⟨sound, by decide +kernel, ended, (proper.2.1 tunnel rfl).2.2 ended⟩

/-- Receiving fails while a frame of guacd waits in the batch. The pump sends
the frame and its close message all the same. -/
example :
    let tunnel := Tunnel.ofStream ⟨0⟩ none
      ({ input := ⟨[.ok (Bytes.ofText "3.nop;")]⟩ } : Scripted)
    let turns : List (Turn Scripted) := [.pump {}, .pump {}, .arrive [.lost],
      .handler true {}, .handler true {}, .pump {}, .pump {}, .pump {},
      .handler true {}]
    let session := turns.foldl turn (start (.ok tunnel) 8192 {} {}).1
    session.outbound.sent = [.text (announcement tunnel.uuid),
      .text "3.nop;", .close (.ofStatus .success)] ∧
      session.isOver = true := by
  decide +kernel

end Session

end TunnelRelay.WebSocket
