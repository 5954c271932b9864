import TunnelRelay.Proofs.Relay.Messages
import TunnelRelay.Proofs.Stream.Timed

/-!
What the pump makes of the stream of guacd.

The pump puts frames that have come in together into one message, up to a size. As long as the
socket accepts messages and the tunnel is not closed from elsewhere, its messages are the frames of
the stream in their order, however the stream comes in, and it does not wait while it holds a frame
back. Behind the last frame it closes the socket and tells how the stream has ended.
-/

namespace TunnelRelay

def Frame.join (frames : List Frame) : String :=
  String.join (frames.map (·.raw))

theorem Frame.join_snoc (frames : List Frame) (frame : Frame) :
    join (frames ++ [frame]) = join frames ++ frame.raw := by
  unfold join
  rw [List.map_append, String.join_append, List.map_singleton,
    String.join_cons, String.join_nil, String.append_empty]

theorem Frame.join_eq_empty {frames : List Frame}
    (full : ∀ frame ∈ frames, frame.raw ≠ "") (empty : join frames = "") :
    frames = [] := by
  cases frames with
  | nil => rfl
  | cons frame frames =>
      unfold join at empty
      rw [List.map_cons, String.join_cons, String.append_eq_empty_iff] at empty
      exact absurd empty.1 (full frame List.mem_cons_self)

theorem Intake.takeFrames_full {limits : Limits} {buffer : Bytes} {frame : Frame}
    (taken : frame ∈ (takeFrames { limits } buffer []).frames) :
    frame.raw ≠ "" := by
  intro empty
  obtain ⟨wire, raw, -⟩ := takeFrames_shape taken
  rw [empty] at raw
  exact wire.bytes_ne_nil raw.symm

namespace FrameReader

variable {τ : Type} [ByteSink τ] {reader : FrameReader}

theorem readFrame_available (input : Backend (Timed τ))
    (available : reader.available = true) :
    (reader.readFrame input).1 ≠ .parked ∧
      (reader.readFrame input).2.2 = input := by
  obtain ⟨outcome, next, gives⟩ := readFrame_of_available available
  rw [gives input]
  exact ⟨nofun, rfl⟩

end FrameReader

/-- Two tunnels have the same reader, and the same is still to come for it. -/
structure Tunnel.ReadsAs {τ : Type} (before after : Tunnel (Timed τ)) :
    Prop where
  reader : after.reader = before.reader
  lock : after.readerLock = before.readerLock
  signal : after.closeSignal = before.closeSignal
  live : after.backend.live = before.backend.live
  items : after.backend.stream.items = before.backend.stream.items

theorem Tunnel.ReadsAs.refl {τ : Type} (tunnel : Tunnel (Timed τ)) :
    tunnel.ReadsAs tunnel :=
  ⟨rfl, rfl, rfl, rfl, rfl⟩

theorem Tunnel.send_readsAs {τ : Type} [ByteSink τ] (tunnel : Tunnel (Timed τ))
    (sending : Sending) : tunnel.ReadsAs (tunnel.send sending).2 := by
  have keeps : Connection.KeepsWriting (Timed.items : Timed τ → Schedule) :=
    ⟨fun _ _ => rfl, fun _ => rfl⟩
  constructor
  · rfl
  · rfl
  · rfl
  · exact Backend.keeps_live.poll sending tunnel.backend
  · exact (Backend.keepsWriting_stream keeps).poll sending tunnel.backend

namespace WebSocket

variable {τ : Type}

def Outgoing.ofFrames (frames : List Frame) : Outgoing :=
  .text (Frame.join frames)

def endingStatus : (ending : Option RelayError) → Status
  | none => .success
  | some error => Session.closingStatus error

namespace Session

/-- How far the pump has got with the frames `all` of a stream: those in
`batches` are sent, those in `held` are in the batch, and it will take `left`
more steps at most. -/
def Stands (tunnel : Tunnel (Timed τ)) (all : List Frame)
    (ending : Option RelayError) (bufferSize : Nat)
    (batches : List (List Frame)) (held : List Frame) (left : Nat) :
    (stage : PumpStage) → Prop
  | .acquiring => batches = [] ∧ held = [] ∧
      tunnel.readerLock.isHeldBy pumpTicket = true ∧
      tunnel.closeSignal = false ∧
      tunnel.reader.Expects tunnel.backend all ending ∧
      all.length + tunnel.backend.stream.items.waits + 3 ≤ left
  | .reading => ∃ others, all = batches.flatten ++ held ++ others ∧
      tunnel.closeSignal = false ∧
      tunnel.reader.Expects tunnel.backend others ending ∧
      (held ≠ [] → tunnel.available = true ∧
        (Frame.join held).utf8ByteSize < bufferSize) ∧
      others.length + tunnel.backend.stream.items.waits + 2 ≤ left
  | .closing status => all = batches.flatten ∧ held = [] ∧
      status = endingStatus ending ∧ 1 ≤ left
  | .finished status => all = batches.flatten ∧ held = [] ∧
      status = some (endingStatus ending)

/-- The messages of the pump so far, and where it stands. -/
structure Pumps (all : List Frame) (ending : Option RelayError)
    (session : Session (Timed τ)) (said : List Outgoing)
    (batches : List (List Frame)) (held : List Frame) (left : Nat) : Prop where
  tunnel : ∃ tunnel, session.tunnel = some tunnel ∧
    Stands tunnel all ending session.bufferSize batches held left
      session.pump.stage
  batch : session.pump.batch = Frame.join held
  small : ∀ batch ∈ batches, batch ≠ [] ∧
    (Frame.join batch.dropLast).utf8ByteSize < session.bufferSize
  said : said = batches.map .ofFrames ++
    if session.isPumpDone then [.close (.ofStatus (endingStatus ending))]
    else []

theorem sendText_open {outbound : Outbound} (isOpen : outbound.isOpen = true)
    (text : String) :
    outbound.sendText text =
      (.ok (), { outbound with sent := outbound.sent ++ [.text text] }) := by
  unfold Outbound.isOpen at isOpen
  rw [Bool.and_eq_true, Bool.not_eq_true', Bool.not_eq_true'] at isOpen
  unfold Outbound.sendText
  rw [if_neg (ne_true_of_eq_false isOpen.1),
    if_neg (ne_true_of_eq_false isOpen.2)]

theorem close_open {outbound : Outbound} (isOpen : outbound.isOpen = true)
    (status : Status) :
    outbound.close status = { outbound with
      closed := true
      sent := outbound.sent ++ [.close (.ofStatus status)] } := by
  unfold Outbound.isOpen at isOpen
  rw [Bool.and_eq_true, Bool.not_eq_true', Bool.not_eq_true'] at isOpen
  unfold Outbound.close
  rw [if_neg (ne_true_of_eq_false isOpen.1),
    if_neg (ne_true_of_eq_false isOpen.2)]

variable {all : List Frame} {ending : Option RelayError}
  {session : Session (Timed τ)} {said : List Outgoing}
  {batches : List (List Frame)} {held : List Frame} {left : Nat}

structure Advances (all : List Frame) (ending : Option RelayError)
    (before : Session (Timed τ)) (said : List Outgoing) (left : Nat)
    (after : Session (Timed τ)) : Prop where
  size : after.bufferSize = before.bufferSize
  goes : ∃ added batches held,
    after.outbound.sent = before.outbound.sent ++ added ∧
      after.Pumps all ending (said ++ added) batches held left

theorem small_snoc {bufferSize : Nat} {batch : List Frame}
    (small : ∀ batch ∈ batches, batch ≠ [] ∧
      (Frame.join batch.dropLast).utf8ByteSize < bufferSize)
    (some_ : batch ≠ [])
    (short : (Frame.join batch.dropLast).utf8ByteSize < bufferSize) :
    ∀ other ∈ batches ++ [batch], other ≠ [] ∧
      (Frame.join other.dropLast).utf8ByteSize < bufferSize := by
  intro other member
  rcases List.mem_append.mp member with before | last
  · exact small other before
  · rw [List.mem_singleton.mp last]
    exact ⟨some_, short⟩

theorem join_dropLast_le (frames : List Frame) :
    (Frame.join frames.dropLast).utf8ByteSize ≤
      (Frame.join frames).utf8ByteSize := by
  rcases List.eq_nil_or_concat frames with rfl | ⟨others, frame, rfl⟩
  · exact Nat.le_refl _
  · rw [List.concat_eq_append, List.dropLast_concat, Frame.join_snoc,
      String.utf8ByteSize_append]
    exact Nat.le_add_right _ _

/-- What the pump still holds when the stream ends goes out before it closes the
socket. -/
theorem Pumps.drain (ending : Option RelayError) (session : Session (Timed τ))
    {tunnel : Tunnel (Timed τ)} (full : ∀ frame ∈ all, frame.raw ≠ "")
    (there : session.tunnel = some tunnel)
    (batch : session.pump.batch = Frame.join held)
    (small : ∀ batch ∈ batches, batch ≠ [] ∧
      (Frame.join batch.dropLast).utf8ByteSize < session.bufferSize)
    (said_ : said = batches.map .ofFrames)
    (whole : all = batches.flatten ++ held)
    (short : held ≠ [] →
      (Frame.join held).utf8ByteSize < session.bufferSize)
    (isOpen : session.outbound.isOpen = true) (more : 1 ≤ left)
    (metrics : Metrics) :
    session.Advances all ending said left
      (session.drainPump (endingStatus ending) metrics).2.1 := by
  unfold Session.drainPump
  by_cases empty : session.pump.batch.isEmpty = true
  · simp only [if_pos empty]
    have among : ∀ frame ∈ held, frame.raw ≠ "" := by
      intro frame member
      apply full
      rw [whole]
      exact List.mem_append_right _ member
    rw [batch] at empty
    have nothing : held = [] :=
      Frame.join_eq_empty among (String.isEmpty_iff.mp empty)
    subst nothing
    rw [List.append_nil] at whole
    refine ⟨rfl, [], batches, [], (List.append_nil _).symm, ?_⟩
    constructor
    · exact ⟨tunnel, there, whole, rfl, rfl, more⟩
    · exact batch
    · exact small
    · rw [List.append_nil, said_]
      exact (List.append_nil _).symm
  · simp only [if_neg empty, Session.sendBatch]
    rw [sendText_open isOpen, batch]
    have some_ : held ≠ [] := by
      rintro rfl
      rw [batch] at empty
      exact empty rfl
    refine ⟨rfl, [.ofFrames held], batches ++ [held], [], rfl, ?_⟩
    constructor
    · refine ⟨tunnel, there, ?_, rfl, rfl, more⟩
      rw [List.flatten_append, List.flatten_singleton]
      exact whole
    · rfl
    · exact small_snoc small some_
        (Nat.lt_of_le_of_lt (join_dropLast_le held) (short some_))
    · rw [said_, List.map_append]
      exact (List.append_nil _).symm

/-- A frame has been read. It waits in the batch if another one is there already
and the batch is small enough, or else the batch goes out. -/
theorem Pumps.take (session : Session (Timed τ)) {tunnel : Tunnel (Timed τ)}
    {others : List Frame} {frame : Frame}
    (small : ∀ batch ∈ batches, batch ≠ [] ∧
      (Frame.join batch.dropLast).utf8ByteSize < session.bufferSize)
    (said_ : said = batches.map .ofFrames)
    (batch : session.pump.batch = Frame.join held)
    (short : (Frame.join held).utf8ByteSize < session.bufferSize)
    (whole : all = batches.flatten ++ held ++ frame :: others)
    (signal : tunnel.closeSignal = false)
    (expects : tunnel.reader.Expects tunnel.backend others ending)
    (steps : others.length + tunnel.backend.stream.items.waits + 2 ≤ left)
    (isOpen : session.outbound.isOpen = true) (metrics : Metrics) :
    let joined : Session (Timed τ) := { session with
      tunnel := some tunnel
      pump := ⟨.reading, session.pump.batch ++ frame.raw,
        session.pump.pending + 1⟩ }
    (tunnel.available = true ∧
        (session.pump.batch ++ frame.raw).utf8ByteSize < session.bufferSize →
      session.Advances all ending said left joined) ∧
    (joined.sendBatch metrics).1 = .ok () ∧
      session.Advances all ending said left (joined.sendBatch metrics).2.1 := by
  intro joined
  have longer : session.pump.batch ++ frame.raw =
      Frame.join (held ++ [frame]) := by
    rw [batch, Frame.join_snoc]
  -- either the frame waits with the others, or it ends the batch
  constructor
  · rintro ⟨available, fits⟩
    refine ⟨rfl, [], batches, held ++ [frame], (List.append_nil _).symm, ?_⟩
    constructor
    · refine ⟨tunnel, rfl, others, ?_, signal, expects, ?_, steps⟩
      · rw [whole, List.append_assoc, List.append_assoc, List.append_assoc]
        rfl
      · intro _
        rw [← longer]
        exact ⟨available, fits⟩
    · exact longer
    · exact small
    · rw [said_]
      rfl
  · unfold Session.sendBatch
    have through : joined.outbound.isOpen = true := isOpen
    simp only
    rw [sendText_open through]
    refine ⟨rfl, rfl, [.text joined.pump.batch],
      batches ++ [held ++ [frame]], [], rfl, ?_⟩
    constructor
    · refine ⟨tunnel, rfl, others, ?_, signal, expects, ?_, steps⟩
      · rw [whole, List.flatten_append, List.flatten_singleton]
        simp only [List.append_assoc, List.singleton_append]
      · intro nothing
        exact absurd rfl nothing
    · rfl
    · apply small_snoc small
      · exact List.append_ne_nil_of_right_ne_nil _ (List.cons_ne_nil _ _)
      · rw [List.dropLast_concat]
        exact short
    · rw [said_, List.map_append]
      change _ ++ [Outgoing.text (session.pump.batch ++ frame.raw)] =
        _ ++ [Outgoing.ofFrames (held ++ [frame])] ++ []
      rw [longer, List.append_nil]
      rfl

variable [ByteSink τ]

theorem Pumps.stepReading (full : ∀ frame ∈ all, frame.raw ≠ "")
    {tunnel : Tunnel (Timed τ)} {bufferSize pending : Nat}
    {outbound : Outbound} {inbound : List Incoming} {text : String}
    {handler : HandlerStage} (positive : 0 < bufferSize)
    (pumps : Pumps all ending ⟨some tunnel, bufferSize, outbound, inbound,
      ⟨.reading, text, pending⟩, handler⟩ said batches held left)
    (isOpen : outbound.isOpen = true) (metrics : Metrics) :
    Session.Advances all ending ⟨some tunnel, bufferSize, outbound, inbound,
      ⟨.reading, text, pending⟩, handler⟩ said (left - 1)
      (Session.stepPump ⟨some tunnel, bufferSize, outbound, inbound,
        ⟨.reading, text, pending⟩, handler⟩ metrics).2.1 := by
  obtain ⟨own, same, stands⟩ := pumps.tunnel
  cases same
  have batch := pumps.batch
  have small := pumps.small
  have said_ := pumps.said
  unfold Session.stepPump
  simp only
  obtain ⟨others, whole, signal, expects, ready, steps⟩ := stands
  have unsaid : said = batches.map .ofFrames :=
    said_.trans (List.append_nil _)
  have short : (Frame.join held).utf8ByteSize < bufferSize := by
    by_cases some_ : held = []
    · rw [some_]
      exact positive
    · exact (ready some_).2
  -- an end of any kind is met behind the last frame
  have drains : others = [] → ∀ next : Tunnel (Timed τ),
      Session.Advances all ending ⟨some tunnel, bufferSize, outbound,
        inbound, ⟨.reading, text, pending⟩, handler⟩ said (left - 1)
        (Session.drainPump ⟨some next, bufferSize, outbound, inbound,
          ⟨.reading, text, pending⟩, handler⟩ (endingStatus ending)
          metrics).2.1 := by
    rintro rfl next
    rw [List.append_nil] at whole
    have more : 1 ≤ left - 1 := by omega
    have drained := Pumps.drain ending ⟨some next, bufferSize, outbound,
      inbound, ⟨.reading, text, pending⟩, handler⟩ full rfl batch small unsaid whole
      (fun _ => short) isOpen more metrics
    exact ⟨drained.size, drained.goes⟩
  rw [Tunnel.readFrame, if_neg (ne_true_of_eq_false signal)]
  cases reading : tunnel.reader.readFrame tunnel.backend with
  | mk outcome rest =>
      obtain ⟨reader, backend⟩ := rest
      have tells := expects.readFrame reading
      cases outcome with
      | parked =>
          obtain ⟨later, fewer⟩ := tells
          refine ⟨rfl, [], batches, held, (List.append_nil _).symm, ?_⟩
          constructor
          · refine ⟨_, rfl, others, whole, signal, later, ?_, ?_⟩
            · -- the reader does not wait while a frame is held back
              intro some_
              have gives := FrameReader.readFrame_available
                tunnel.backend (ready some_).1
              rw [reading] at gives
              exact absurd rfl gives.1
            · simp only
              omega
          · exact batch
          · exact small
          · rw [List.append_nil]
            exact said_
      | ready outcome =>
          cases outcome with
          | error error =>
              obtain ⟨nothing, rfl⟩ := tells
              exact drains nothing { tunnel with reader, backend }
          | ok outcome =>
              cases outcome with
              | none =>
                  obtain ⟨nothing, rfl⟩ := tells
                  exact drains nothing { tunnel with reader, backend }
              | some frame =>
                  obtain ⟨later, rfl, expects, less⟩ := tells
                  have fewer : later.length +
                      backend.stream.items.waits + 2 ≤ left - 1 := by
                    rw [List.length_cons] at steps
                    omega
                  have signal : Tunnel.closeSignal
                      { tunnel with reader, backend } = false := signal
                  obtain ⟨joins, sent, goes⟩ := Pumps.take
                    ⟨some tunnel, bufferSize, outbound, inbound,
                      ⟨.reading, text, pending⟩, handler⟩
                    small unsaid batch short whole signal expects fewer
                    isOpen metrics
                  simp only
                  split
                  · rename_i fits
                    rw [Bool.and_eq_true, decide_eq_true_iff] at fits
                    exact joins fits
                  · split
                    · rename_i done
                      rw [done] at goes
                      exact goes
                    · rename_i failed
                      rw [failed] at sent
                      cases sent

theorem Pumps.stepPump (full : ∀ frame ∈ all, frame.raw ≠ "")
    (positive : 0 < session.bufferSize)
    (pumps : session.Pumps all ending said batches held left)
    (isOpen : session.isPumpDone = false → session.outbound.isOpen = true)
    (metrics : Metrics) :
    session.Advances all ending said (left - 1)
      (session.stepPump metrics).2.1 := by
  obtain ⟨tunnel, there, stands⟩ := pumps.tunnel
  have batch := pumps.batch
  have small := pumps.small
  have said_ := pumps.said
  obtain ⟨own, bufferSize, outbound, inbound, ⟨stage, text, pending⟩,
    handler⟩ := session
  cases there
  unfold Session.stepPump
  simp only
  cases stage with
  | acquiring =>
      obtain ⟨rfl, rfl, holds, signal, expects, steps⟩ := stands
      rw [Tunnel.claimReader, if_pos holds]
      refine ⟨rfl, [], [], [], (List.append_nil _).symm, ?_⟩
      constructor
      · refine ⟨_, rfl, all, rfl, signal, expects, ?_, ?_⟩
        · intro nothing
          exact absurd rfl nothing
        · simp only
          omega
      · exact batch
      · exact small
      · rw [said_]
        rfl
  | closing status =>
      obtain ⟨whole, rfl, rfl, -⟩ := stands
      simp only
      rw [close_open (isOpen rfl)]
      refine ⟨rfl, [.close (.ofStatus (endingStatus ending))], batches, [],
        rfl, ?_⟩
      constructor
      · exact ⟨_, rfl, whole, rfl, rfl⟩
      · exact batch
      · exact small
      · rw [said_]
        exact congrArg (· ++ _) (List.append_nil _)
  | finished status =>
      obtain ⟨whole, rfl, rfl⟩ := stands
      refine ⟨rfl, [], batches, [], (List.append_nil _).symm, ?_⟩
      constructor
      · exact ⟨tunnel, rfl, whole, rfl, rfl⟩
      · exact batch
      · exact small
      · rw [List.append_nil]
        exact said_
  | reading =>
      exact Pumps.stepReading full positive pumps (isOpen rfl) metrics

/-! ### What else happens to a session -/

omit [ByteSink τ] in
/-- The pump and what it reads are left alone, as long as the tunnel is open. -/
structure Spares (before : Session (Timed τ)) (tunnel : Tunnel (Timed τ))
    (after : Session (Timed τ)) : Prop where
  pump : after.pump = before.pump
  size : after.bufferSize = before.bufferSize
  tunnel : ∃ next, after.tunnel = some next ∧
    (next.isOpen = true → tunnel.ReadsAs next)

section Handler

variable {before after : Session (Timed τ)} {tunnel next : Tunnel (Timed τ)}

omit [ByteSink τ] in
theorem Spares.refl (there : before.tunnel = some tunnel) :
    before.Spares tunnel before :=
  ⟨rfl, rfl, tunnel, there, fun _ => .refl tunnel⟩

omit [ByteSink τ] in
theorem Spares.leave (spares : before.Spares tunnel after)
    (status : Option Status) (metrics : Metrics) :
    before.Spares tunnel (after.leave status metrics).2.1 := by
  cases status with
  | none => exact ⟨spares.pump, spares.size, spares.tunnel⟩
  | some status => exact ⟨spares.pump, spares.size, spares.tunnel⟩

omit [ByteSink τ] in
theorem spares_releaseWriter (reads : tunnel.ReadsAs next) :
    before.Spares tunnel (before.releaseWriter next) := by
  refine ⟨rfl, rfl, _, rfl, fun _ => ?_⟩
  exact ⟨reads.reader, reads.lock, reads.signal, reads.live, reads.items⟩

omit [ByteSink τ] in
theorem spares_forwarded (reads : tunnel.ReadsAs next)
    (filtered : FilteredWriter (List Instruction)) (count size : Nat)
    (metrics : Metrics) :
    before.Spares tunnel
      (before.forwarded next filtered count size metrics).2.1 := by
  have released : before.Spares tunnel (before.releaseWriter next) :=
    spares_releaseWriter reads
  unfold Session.forwarded
  simp only
  split
  · exact released.leave _ metrics
  · exact ⟨rfl, rfl, released.tunnel⟩

omit [ByteSink τ] in
theorem spares_forward (text : String) (metrics : Metrics) :
    before.Spares tunnel (before.forward tunnel text metrics).2.1 := by
  have released : before.Spares tunnel (before.releaseWriter tunnel) :=
    spares_releaseWriter (.refl tunnel)
  unfold Session.forward
  simp only
  split
  · exact released.leave _ metrics
  · split
    · exact spares_forwarded (.refl tunnel) _ _ _ _
    · exact ⟨rfl, rfl, tunnel, rfl, fun _ => .refl tunnel⟩

omit [ByteSink τ] in
theorem spares_hear (there : before.tunnel = some tunnel) (message : Incoming)
    (inbound : List Incoming) (metrics : Metrics) :
    before.Spares tunnel
      ({ before with inbound }.hear tunnel message metrics).2.1 := by
  have heard : before.Spares tunnel { before with inbound } :=
    ⟨rfl, rfl, tunnel, there, fun _ => .refl tunnel⟩
  unfold Session.hear
  cases message with
  | text text =>
      simp only [Tunnel.requestWriter]
      by_cases isOpen : tunnel.isOpen = true
      · rw [if_pos isOpen]
        exact ⟨rfl, rfl, _, rfl, fun _ => ⟨rfl, rfl, rfl, rfl, rfl⟩⟩
      · rw [if_neg isOpen]
        exact heard.leave _ metrics
  | binary => exact heard.leave _ metrics
  | ping data | pong data =>
      exact ⟨rfl, rfl, tunnel, there, fun _ => .refl tunnel⟩
  | lost => exact heard.leave none metrics
  | close =>
      have deaf : before.Spares tunnel { before with
          inbound, outbound := { before.outbound with broken := true } } :=
        ⟨rfl, rfl, tunnel, there, fun _ => .refl tunnel⟩
      exact deaf.leave _ metrics

omit [ByteSink τ] in
theorem spares_listen (there : before.tunnel = some tunnel) (heeds : Bool)
    (metrics : Metrics) :
    before.Spares tunnel (before.listen tunnel heeds metrics).2.1 := by
  unfold Session.listen
  split
  · exact (Spares.refl there).leave _ metrics
  · exact Spares.refl there
  · exact spares_hear there _ _ metrics

theorem spares_stepHandler (there : before.tunnel = some tunnel) (heeds : Bool)
    (metrics : Metrics) :
    before.Spares tunnel (before.stepHandler heeds metrics).2.1 := by
  have still := Spares.refl there
  obtain ⟨own, bufferSize, outbound, inbound, pump, handler⟩ := before
  cases there
  unfold Session.stepHandler
  simp only
  cases handler with
  | listening => exact spares_listen rfl heeds metrics
  | acquiring text =>
      simp only [Tunnel.claimWriter]
      by_cases holds : tunnel.writerLock.isHeldBy handlerTicket = true
      · rw [if_pos holds]
        by_cases isOpen : tunnel.isOpen = true
        · rw [if_pos isOpen]
          exact spares_forward text metrics
        · rw [if_neg isOpen]
          have released : Spares
              ⟨some tunnel, bufferSize, outbound, inbound, pump,
                .acquiring text⟩ tunnel
              ⟨some (tunnel.releaseWriter handlerTicket), bufferSize, outbound,
                inbound, pump, .acquiring text⟩ :=
            spares_releaseWriter (.refl tunnel)
          exact released.leave (some (closingStatus tunnel.closedError)) metrics
      · rw [if_neg holds]
        exact still
  | sending filtered sending count size =>
      have sent := tunnel.send_readsAs sending
      simp only
      cases going : tunnel.send sending with
      | mk outcome next =>
          rw [going] at sent
          cases outcome with
          | done => exact spares_forwarded sent _ _ _ _
          | failed error =>
              have released : Spares
                  ⟨some tunnel, bufferSize, outbound, inbound, pump,
                    .sending filtered sending count size⟩ tunnel
                  (releaseWriter ⟨some tunnel, bufferSize, outbound, inbound,
                    pump, .sending filtered sending count size⟩ next) :=
                spares_releaseWriter sent
              exact released.leave _ metrics
          | parked more => exact ⟨rfl, rfl, next, rfl, fun _ => sent⟩
  | replying replies =>
      cases replies with
      | nil => exact ⟨rfl, rfl, tunnel, rfl, fun _ => .refl tunnel⟩
      | cons reply replies =>
          simp only
          cases outbound.sendText reply.encode with
          | mk outcome after =>
              have told : Spares
                  ⟨some tunnel, bufferSize, outbound, inbound, pump,
                    .replying (reply :: replies)⟩ tunnel
                  ⟨some tunnel, bufferSize, after, inbound, pump,
                    .replying (reply :: replies)⟩ :=
                ⟨rfl, rfl, tunnel, rfl, fun _ => .refl tunnel⟩
              cases outcome with
              | ok done => exact ⟨rfl, rfl, tunnel, rfl, fun _ => .refl tunnel⟩
              | error error =>
                  exact told.leave (some (closingStatus error)) metrics
  | leaving status =>
      -- a closed tunnel need not be spared
      refine ⟨rfl, rfl, tunnel.close, rfl, ?_⟩
      intro isOpen
      rw [tunnel.close_isOpen] at isOpen
      cases isOpen
  | waiting status =>
      simp only
      split
      · exact ⟨rfl, rfl, tunnel, rfl, fun _ => .refl tunnel⟩
      · exact still
  | finished => exact still

end Handler

omit [ByteSink τ] in
theorem Stands.reads {tunnel next : Tunnel (Timed τ)} {bufferSize : Nat}
    {stage : PumpStage} (reads : tunnel.ReadsAs next)
    (stands : Stands tunnel all ending bufferSize batches held left stage) :
    Stands next all ending bufferSize batches held left stage := by
  have expects : ∀ {frames : List Frame},
      tunnel.reader.Expects tunnel.backend frames ending →
        next.reader.Expects next.backend frames ending := by
    intro frames expects
    rw [reads.reader]
    constructor
    · exact expects.looks
    · exact expects.running
    · rw [reads.live]
      exact expects.live
    · rw [reads.items]
      exact expects.full
    · rw [reads.items]
      exact expects.frames
    · rw [reads.items]
      exact expects.ending
  cases stage with
  | acquiring =>
      obtain ⟨first, none, holds, signal, expected, steps⟩ := stands
      refine ⟨first, none, ?_, ?_, expects expected, ?_⟩
      · rw [reads.lock]
        exact holds
      · rw [reads.signal]
        exact signal
      · rw [reads.items]
        exact steps
  | reading =>
      obtain ⟨others, whole, signal, expected, ready, steps⟩ := stands
      refine ⟨others, whole, ?_, expects expected, ?_, ?_⟩
      · rw [reads.signal]
        exact signal
      · unfold Tunnel.available
        rw [reads.reader]
        exact ready
      · rw [reads.items]
        exact steps
  | closing status => exact stands
  | finished status => exact stands

/-- The socket accepts messages, and the tunnel is open. -/
def serves (session : Session (Timed τ)) : Bool :=
  session.outbound.isOpen && session.tunnel.any (·.isOpen)

omit [ByteSink τ] in
theorem Pumps.spared {after : Session (Timed τ)} {tunnel : Tunnel (Timed τ)}
    (pumps : session.Pumps all ending said batches held left)
    (there : session.tunnel = some tunnel)
    (spares : session.Spares tunnel after)
    (serves : after.isPumpDone = false → after.serves = true) :
    after.Pumps all ending said batches held left := by
  obtain ⟨own, same, stands⟩ := pumps.tunnel
  rw [there] at same
  cases same
  obtain ⟨next, moved, reads⟩ := spares.tunnel
  have done : after.isPumpDone = session.isPumpDone := by
    unfold isPumpDone
    rw [spares.pump]
  constructor
  · refine ⟨next, moved, ?_⟩
    rw [spares.pump, spares.size]
    cases finished : after.isPumpDone with
    | false =>
        have served := serves finished
        unfold Session.serves at served
        rw [moved, Bool.and_eq_true] at served
        exact Stands.reads (reads served.2) stands
    | true =>
        rw [done] at finished
        unfold isPumpDone at finished
        split at finished
        · rename_i status stage
          rw [stage] at stands ⊢
          exact stands
        · cases finished
  · rw [spares.pump]
    exact pumps.batch
  · rw [spares.size]
    exact pumps.small
  · rw [done]
    exact pumps.said

/-! ### Whole sessions -/

def Turn.isPump {σ : Type} : Turn σ → Bool
  | .pump _ => true
  | _ => false

/-- The messages of the pump in the course of some turns. -/
def pumped (session : Session (Timed τ)) : (turns : List (Turn (Timed τ))) →
    List Outgoing
  | [] => []
  | turn :: turns =>
      (if turn.isPump then
        (session.turn turn).outbound.sent.drop session.outbound.sent.length
      else []) ++ pumped (session.turn turn) turns

theorem pumped_snoc (session : Session (Timed τ))
    (turns : List (Turn (Timed τ))) (turn : Turn (Timed τ)) :
    session.pumped (turns ++ [turn]) = session.pumped turns ++
      if turn.isPump then
        ((turns.foldl Session.turn session).turn turn).outbound.sent.drop
          (turns.foldl Session.turn session).outbound.sent.length
      else [] := by
  induction turns generalizing session with
  | nil => exact List.append_nil _
  | cons first turns ih =>
      rw [List.cons_append, pumped, ih, pumped, List.append_assoc]
      rfl

/-- guacd keeps to its schedule. -/
def Turn.Keeps : Turn (Timed τ) → Prop
  | .guacd change => ∀ stream, (change stream).items = stream.items
  | _ => True

theorem turn_spares {tunnel : Tunnel (Timed τ)} {turn : Turn (Timed τ)}
    (there : session.tunnel = some tunnel) (keeps : turn.Keeps)
    (other : turn.isPump = false) :
    session.Spares tunnel (session.turn turn) := by
  cases turn with
  | pump metrics => cases other
  | handler heeds metrics => exact spares_stepHandler there heeds metrics
  | arrive messages => exact ⟨rfl, rfl, tunnel, there, fun _ => .refl tunnel⟩
  | sendingFails => exact ⟨rfl, rfl, tunnel, there, fun _ => .refl tunnel⟩
  | guacd change =>
      refine ⟨rfl, rfl, tunnel.onStream change, ?_, fun _ => ?_⟩
      · simp only [Session.turn]
        rw [there]
        rfl
      · exact ⟨rfl, rfl, rfl, rfl, keeps tunnel.backend.stream⟩

theorem Pumps.turn {turn : Turn (Timed τ)}
    (full : ∀ frame ∈ all, frame.raw ≠ "") (positive : 0 < session.bufferSize)
    (pumps : session.Pumps all ending said batches held left)
    (keeps : turn.Keeps)
    (serving : session.isPumpDone = false → session.serves = true)
    (serves : (session.turn turn).isPumpDone = false →
      (session.turn turn).serves = true) :
    (session.turn turn).bufferSize = session.bufferSize ∧
      ∃ batches held, (session.turn turn).Pumps all ending
        (said ++ if turn.isPump then
          (session.turn turn).outbound.sent.drop session.outbound.sent.length
        else []) batches held (left - if turn.isPump then 1 else 0) := by
  cases own : turn.isPump with
  | true =>
      cases turn with
      | pump metrics =>
          have isOpen : session.isPumpDone = false →
              session.outbound.isOpen = true := by
            intro working
            have served := serving working
            unfold Session.serves at served
            rw [Bool.and_eq_true] at served
            exact served.1
          obtain ⟨size, added, later, still, sent, stands⟩ :=
            pumps.stepPump full positive isOpen metrics
          refine ⟨size, later, still, ?_⟩
          change Pumps all ending (session.stepPump metrics).2.1
            (said ++ List.drop _ (session.stepPump metrics).2.1.outbound.sent)
            later still (left - 1)
          rw [sent, List.drop_left]
          exact stands
      | handler heeds metrics | arrive messages | sendingFails
      | guacd change => cases own
  | false =>
      obtain ⟨tunnel, there, -⟩ := pumps.tunnel
      have spares := turn_spares there keeps own
      refine ⟨spares.size, batches, held, ?_⟩
      have still := pumps.spared there spares serves
      simp only [Bool.false_eq_true, if_false, List.append_nil, Nat.sub_zero]
      exact still

theorem start_pumps {tunnel : Tunnel (Timed τ)} (untouched : tunnel.IsUntouched)
    (full : tunnel.backend.stream.items.Full) (bufferSize : Nat)
    (metrics : Metrics) :
    let whole := Intake.takeFrames .unbounded
      (tunnel.reader.buffer ++ tunnel.backend.stream.items.front) []
    let ending := whole.ending? tunnel.backend.stream.items.failure?
    Pumps whole.frames ending (start (.ok tunnel) bufferSize {} metrics).1 []
      [] [] (whole.frames.length + tunnel.backend.stream.items.waits + 3) := by
  intro whole ending
  constructor
  · refine ⟨tunnel.requestReader pumpTicket, rfl, rfl, rfl, ?_,
      untouched.signal, ?_, Nat.le_refl _⟩
    · unfold Tunnel.requestReader
      rw [untouched.lock]
      rfl
    · exact ⟨untouched.looks, untouched.running, untouched.live, full, rfl, rfl⟩
  · rfl
  · intro batch impossible
    cases impossible
  · rfl

/-- The turns up to one of them, where the ones up to the one before have left
the pump where it stands. -/
theorem run_pumps {start : Session (Timed τ)} {turns : List (Turn (Timed τ))}
    (full : ∀ frame ∈ all, frame.raw ≠ "") (positive : 0 < start.bufferSize)
    (pumps : start.Pumps all ending [] [] [] left)
    (keeps : ∀ turn ∈ turns, turn.Keeps)
    (serving : ∀ count ≤ turns.length,
      ((turns.take count).foldl turn start).isPumpDone = false →
        ((turns.take count).foldl turn start).serves = true) :
    (turns.foldl turn start).bufferSize = start.bufferSize ∧
      ∃ batches held, (turns.foldl turn start).Pumps all ending
        (start.pumped turns) batches held
          (left - turns.countP Turn.isPump) := by
  -- by induction from the end: the pump needs a socket that serves before and after each turn
  induction turns using List.reverseRecOn with
  | nil => exact ⟨rfl, [], [], pumps⟩
  | append_singleton turns last ih =>
      have earlier : ∀ count ≤ turns.length,
          (turns ++ [last]).take count = turns.take count := by
        intro count within
        exact List.take_append_of_le_length within
      have before := ih
        (fun turn member => keeps turn (List.mem_append_left _ member))
        (by
          intro count within
          have longer : count ≤ (turns ++ [last]).length := by
            rw [List.length_append]
            omega
          have served := serving count longer
          rw [earlier count within] at served
          exact served)
      obtain ⟨size, batches, held, stands⟩ := before
      have now := serving turns.length (by rw [List.length_append]; omega)
      have then_ := serving (turns ++ [last]).length (Nat.le_refl _)
      rw [earlier _ (Nat.le_refl _), List.take_length] at now
      rw [List.take_length, List.foldl_append] at then_
      rw [List.foldl_append, pumped_snoc, List.countP_append]
      obtain ⟨still, later, rest, goes⟩ := stands.turn full
        (by rw [size]; exact positive)
        (keeps last (List.mem_append_right _ List.mem_cons_self)) now then_
      refine ⟨still.trans size, later, rest, ?_⟩
      rw [List.countP_singleton, ← Nat.sub_sub]
      exact goes

/-! ### What the place of the pump tells -/

section Place

variable {tunnel : Tunnel (Timed τ)} {bufferSize : Nat} {stage : PumpStage}

omit [ByteSink τ] in
theorem Stands.front
    (stands : Stands tunnel all ending bufferSize batches held left stage) :
    batches.flatten ++ held <+: all := by
  cases stage with
  | acquiring =>
      obtain ⟨rfl, rfl, -⟩ := stands
      exact List.nil_prefix
  | reading =>
      obtain ⟨others, whole, -⟩ := stands
      exact ⟨others, whole.symm⟩
  | closing status | finished status =>
      obtain ⟨rfl, rfl, -⟩ := stands
      exact ⟨[], by rw [List.append_nil, List.append_nil]⟩

omit [ByteSink τ] in
theorem Stands.finished
    (stands : Stands tunnel all ending bufferSize batches held 0 stage) :
    ∃ status, stage = .finished status := by
  cases stage with
  | acquiring =>
      obtain ⟨-, -, -, -, -, steps⟩ := stands
      omega
  | reading =>
      obtain ⟨others, -, -, -, -, steps⟩ := stands
      omega
  | closing status =>
      obtain ⟨-, -, -, steps⟩ := stands
      omega
  | finished status => exact ⟨status, rfl⟩

theorem Stands.ready
    (stands : Stands tunnel all ending bufferSize batches held left stage)
    (some_ : held ≠ []) :
    stage = .reading ∧ tunnel.readFrame.1 ≠ .parked ∧
      tunnel.readFrame.2.backend = tunnel.backend := by
  cases stage with
  | acquiring => exact absurd stands.2.1 some_
  | closing status | finished status => exact absurd stands.2.1 some_
  | reading =>
      obtain ⟨others, -, signal, expects, ready, -⟩ := stands
      rw [Tunnel.readFrame, if_neg (ne_true_of_eq_false signal)]
      exact ⟨rfl, FrameReader.readFrame_available tunnel.backend
        (ready some_).1⟩

theorem stepPump_reading (there : session.tunnel = some tunnel)
    (reading : session.pump.stage = .reading)
    (gives : tunnel.readFrame.1 ≠ .parked) (metrics : Metrics) :
    (session.stepPump metrics).1 ≠ .parked ∧
      (session.stepPump metrics).2.1.tunnel.map (·.backend) =
        some tunnel.readFrame.2.backend := by
  unfold Session.stepPump
  rw [there]
  simp only
  rw [reading]
  simp only
  cases read : tunnel.readFrame with
  | mk outcome next =>
      rw [read] at gives
      have drains : ∀ status,
          (Session.drainPump { session with tunnel := some next } status
            metrics).1 ≠ .parked ∧
          (Session.drainPump { session with tunnel := some next } status
            metrics).2.1.tunnel.map (·.backend) = some next.backend := by
        intro status
        unfold Session.drainPump
        simp only
        split <;> exact ⟨by simp, rfl⟩
      cases outcome with
      | parked => exact absurd rfl gives
      | ready outcome =>
          cases outcome with
          | error error => exact drains _
          | ok outcome =>
              cases outcome with
              | none => exact drains _
              | some frame =>
                  simp only
                  split
                  · exact ⟨by simp, rfl⟩
                  · simp only [Session.sendBatch]
                    cases Outbound.sendText session.outbound
                        (session.pump.batch ++ frame.raw) with
                    | mk outcome outbound =>
                        cases outcome with
                        | ok done => exact ⟨by simp, rfl⟩
                        | error error => exact ⟨by simp, rfl⟩

end Place

theorem join_flatten (batches : List (List Frame)) :
    String.join (batches.map Frame.join) = Frame.join batches.flatten := by
  induction batches with
  | nil => rfl
  | cons batch batches ih =>
      rw [List.map_cons, String.join_cons, ih, List.flatten_cons]
      unfold Frame.join
      rw [List.map_append, String.join_append]

/-- The pump goes through the frames of a stream, whatever chunks and waits it
comes in, as long as the socket accepts messages and nobody else closes the
tunnel. Its messages are batches of frames one after another, none of them
empty, each less than the buffer size without its last frame. While the pump
holds frames back it neither waits for guacd nor asks for more. When it is done,
and it is after so many steps, it has sent all frames before the end of the
stream, its first failure or the first malformed bytes, and behind them one
close message, which says success if the stream has ended or the connection was
closed, and else tells the status of the error. -/
theorem batches_stream (tunnel : Tunnel (Timed τ))
    (untouched : tunnel.IsUntouched)
    (full : tunnel.backend.stream.items.Full)
    (bufferSize : Nat) (positive : 1 ≤ bufferSize) (metrics : Metrics)
    (turns : List (Turn (Timed τ)))
    (keeps : ∀ change, .guacd change ∈ turns →
      ∀ stream, (change stream).items = stream.items)
    (undisturbed : ∀ count ≤ turns.length,
      let session := (turns.take count).foldl turn
        (start (.ok tunnel) bufferSize {} metrics).1
      session.isPumpDone = false → session.serves = true) :
    let items := tunnel.backend.stream.items
    let before := (start (.ok tunnel) bufferSize {} metrics).1
    let session := turns.foldl turn before
    let stream := tunnel.reader.buffer ++ items.front
    let whole := Intake.ofChunks .unbounded [stream]
    let status := match whole.ending? items.failure? with
      | none => Status.success
      | some error =>
          if error.isConnectionClosed then .success else error.status
    ∃ (batches : List (List Frame)) (held : List Frame),
      before.pumped turns =
        batches.map (fun batch => .text (Frame.join batch)) ++
          (if session.isPumpDone then [.close (.ofStatus status)] else []) ∧
      (∀ batch ∈ batches, batch ≠ [] ∧
        (Frame.join batch.dropLast).utf8ByteSize < bufferSize) ∧
      batches.flatten ++ held <+: whole.frames ∧
      session.pump.batch = Frame.join held ∧
      (held ≠ [] → ∀ metrics, (session.stepPump metrics).1 ≠ .parked ∧
        (session.stepPump metrics).2.1.tunnel.map (·.backend) =
          session.tunnel.map (·.backend)) ∧
      (session.isPumpDone = true → batches.flatten = whole.frames ∧
        Bytes.ofText (String.join (batches.map Frame.join)) ++ whole.left =
          stream) ∧
      (whole.frames.length + items.waits + 3 ≤ turns.countP Turn.isPump →
        session.isPumpDone = true) := by
  intro items before session stream whole status
  have goes : ∀ turn ∈ turns, turn.Keeps := by
    intro turn member
    cases turn with
    | guacd change => exact keeps change member
    | pump metrics | handler heeds metrics | arrive messages
    | sendingFails => trivial
  obtain ⟨size, batches, held, pumps⟩ : session.bufferSize = bufferSize ∧
      ∃ batches held, session.Pumps whole.frames
        (whole.ending? items.failure?) (before.pumped turns) batches held
        (whole.frames.length + items.waits + 3 - turns.countP Turn.isPump) :=
    run_pumps (fun frame => Intake.takeFrames_full)
      (show 0 < before.bufferSize from positive)
      (start_pumps untouched full bufferSize metrics) goes undisturbed
  obtain ⟨own, there, stands⟩ := pumps.tunnel
  -- the status that the pump closes with, written out
  have told : endingStatus (whole.ending? items.failure?) = status := by
    simp only [status]
    cases whole.ending? items.failure? with
    | none => rfl
    | some error => rfl
  have said := pumps.said
  have small := pumps.small
  rw [size] at small
  refine ⟨batches, held, ?_, small, stands.front, pumps.batch, ?_, ?_, ?_⟩
  · rw [← told]
    exact said
  · intro some_ metrics
    obtain ⟨reading, gives, still⟩ := stands.ready some_
    have step := stepPump_reading there reading gives metrics
    rw [still] at step
    rw [there]
    exact step
  · intro done
    have sent : whole.frames = batches.flatten := by
      unfold isPumpDone at done
      split at done
      · rename_i finished stage
        change (turns.foldl turn before).pump.stage = _ at stage
        rw [stage] at stands
        exact stands.1
      · cases done
    refine ⟨sent.symm, ?_⟩
    rw [join_flatten, ← sent]
    unfold Frame.join
    rw [Frame.received_eq_join]
    exact Intake.received_takeFrames .unbounded stream
  -- as many steps as there are frames and waits leave the pump nothing to do
  · intro enough
    rw [Nat.sub_eq_zero_of_le enough] at stands
    obtain ⟨status, stage⟩ := stands.finished
    unfold isPumpDone
    rw [show session.pump.stage = _ from stage]

/-- Frames that come in parts, wait for each other and outgrow the buffer size,
and a connection that times out. The handler does not disturb the pump. -/
theorem batches_stream_timeout :
    let items : Schedule := [.ready (.ok (Bytes.ofText "3.nop;4.si")), .parked,
      .ready (.ok (Bytes.ofText "ze,1.1;3.xyz;3.nop;")),
      .ready (.error ⟨.timedOut, none⟩)]
    let tunnel := Tunnel.ofStream ⟨0⟩ none (⟨items, {}⟩ : Timed Sink)
    let turns : List (Turn (Timed Sink)) := [.pump {}, .arrive [.ping []],
      .pump {}, .handler true {}, .pump {}, .pump {}, .handler true {},
      .pump {}, .pump {}, .pump {}, .pump {}]
    let before := (start (.ok tunnel) 12 {} {}).1
    (turns.foldl turn before).isPumpDone = true ∧
      before.pumped turns = [.text "3.nop;", .text "4.size,1.1;3.xyz;",
        .text "3.nop;", .close ⟨4514, "514"⟩] ∧
      ∃ batches : List (List Frame),
        before.pumped turns =
          batches.map (fun batch => .text (Frame.join batch)) ++
            [.close ⟨4514, "514"⟩] ∧
        batches.flatten.map (·.raw) =
          ["3.nop;", "4.size,1.1;", "3.xyz;", "3.nop;"] := by
  intro items tunnel turns before
  have full : items.Full := by
    intro chunk member
    simp only [items, List.mem_cons, List.not_mem_nil, Poll.ready.injEq,
      Except.ok.injEq, reduceCtorEq, false_or, or_false] at member
    rcases member with rfl | rfl <;> decide
  have keeps : ∀ change, Turn.guacd change ∈ turns →
      ∀ stream, (change stream).items = stream.items := by
    intro change member
    simp [turns] at member
  have undisturbed : ∀ count ≤ turns.length,
      ((turns.take count).foldl turn before).isPumpDone = false →
        ((turns.take count).foldl turn before).serves = true := by
    decide +kernel
  have done : (turns.foldl turn before).isPumpDone = true := by
    decide +kernel
  obtain ⟨batches, held, said, -, -, -, -, sent, -⟩ := batches_stream tunnel
    (Tunnel.ofStream_isUntouched _ _ _) full 12 (by decide) {} turns keeps
    undisturbed
  have whole : (Intake.ofChunks .unbounded [items.front]).frames.map (·.raw) =
      ["3.nop;", "4.size,1.1;", "3.xyz;", "3.nop;"] := by
    decide +kernel
  have frames : batches.flatten =
      (Intake.ofChunks .unbounded [items.front]).frames := (sent done).1
  have timeout : before.pumped turns =
      batches.map (fun batch => .text (Frame.join batch)) ++
        [.close ⟨4514, "514"⟩] := by
    refine said.trans (congrArg _ ?_)
    rw [if_pos done]
    decide +kernel
  refine ⟨done, by decide +kernel, batches, timeout, ?_⟩
  rw [frames]
  exact whole

end Session
end WebSocket
end TunnelRelay
