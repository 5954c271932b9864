import TunnelRelay.Proofs.Guacd.Transcript
import TunnelRelay.Proofs.Stream.Timed
import TunnelRelay.Proofs.Stream.Willing

/-!
Handshakes with a guacd that keeps the relay waiting.

guacd's bytes come in chunks with waits between them, and all that is written to it is taken. A
handshake that is taken up again behind each wait hears the frames of these bytes in their order.
It comes to its end with the first frame or the second, whatever the chunks and the waits are.
-/

namespace TunnelRelay

/-! ### Writing to a timed stream -/

theorem TakesAll.backend {σ : Type} [Connection σ] {willing : σ → Prop}
    {taken : σ → Bytes} (takes : TakesAll willing taken) :
    TakesAll (fun backend : Backend σ =>
        backend.live = true ∧ willing backend.stream)
      (fun backend => taken backend.stream) := by
  constructor
  · rintro backend ⟨live, ready⟩ byte bytes
    obtain ⟨count, next, written, still, grown⟩ := takes.write ready byte bytes
    refine ⟨count, { backend with stream := next }, ?_, ⟨live, still⟩, grown⟩
    change backend.write (byte :: bytes) = _
    unfold Backend.write
    rw [if_pos live, written]
  · rintro backend ⟨live, ready⟩
    obtain ⟨next, flushed, still, same⟩ := takes.flush ready
    refine ⟨{ backend with stream := next }, ?_, ⟨live, still⟩, same⟩
    change backend.flush = _
    unfold Backend.flush
    rw [if_pos live, flushed]

namespace Timed

variable {τ : Type} [ByteSink τ]

theorem takesAll {willing : τ → Prop} {taken : τ → Bytes}
    (takes : TakesAll willing taken) :
    TakesAll (fun timed : Timed τ => willing timed.output)
      (fun timed => taken timed.output) := by
  constructor
  · intro timed ready byte bytes
    obtain ⟨count, next, written, still, grown⟩ := takes.write ready byte bytes
    refine ⟨count, { timed with output := next }, ?_, still, grown⟩
    exact congrArg (fun outcome : Poll (Except IoFault Nat) × τ =>
      (outcome.1, { timed with output := outcome.2 })) written
  · intro timed ready
    obtain ⟨next, flushed, still, same⟩ := takes.flush ready
    refine ⟨{ timed with output := next }, ?_, still, same⟩
    exact congrArg (fun outcome : Poll (Except IoFault Unit) × τ =>
      (outcome.1, { timed with output := outcome.2 })) flushed

theorem keepsWriting_items :
    Connection.KeepsWriting (Timed.items : Timed τ → Schedule) :=
  ⟨fun _ _ => rfl, fun _ => rfl⟩

theorem backend_keeps_output (backend : Backend (Timed τ)) (room : Nat) :
    (backend.read room).2.stream.output = backend.stream.output := by
  have kept : ∀ timed : Timed τ,
      (ByteSource.read timed room).2.output = timed.output := by
    intro timed
    change (timed.read room).2.output = timed.output
    unfold Timed.read
    split
    · rfl
    · rfl
    · rfl
    · split <;> rfl
  unfold Backend.read
  split
  · have same := kept backend.stream
    split
    · rename_i stream reading
      rw [reading] at same
      exact same
    · rename_i given stream reading
      rw [reading] at same
      exact same
  · rfl

theorem readFrame_output (reader : FrameReader) (input : Backend (Timed τ)) :
    (reader.readFrame input).2.2.stream.output = input.stream.output := by
  have reads : ∀ {backend next : Backend (Timed τ)} {room : Nat}
      {given : Poll (Except IoFault Bytes)},
      ByteSource.read backend room = (given, next) →
      next.stream.output = backend.stream.output := by
    intro backend next room given done
    rw [← backend_keeps_output backend room]
    exact congrArg (·.2.stream.output) done.symm
  fun_induction FrameReader.readFrame reader input with
  | case1 | case2 | case3 => rfl
  | case4 reader input waits running grown stream step
  | case5 reader input waits running grown fault stream step
  | case6 reader input waits running grown stream step last => exact reads step
  | case7 reader input waits running grown byte bytes stream step ih =>
      exact ih.trans (reads step)

end Timed

theorem FrameReader.Expects.readFrame_left {τ : Type} [ByteSink τ]
    {reader next : FrameReader} {input rest : Backend (Timed τ)}
    {frames : List Frame} {ending : Option RelayError}
    {outcome : Poll (Except RelayError (Option Frame))}
    (expects : reader.Expects input frames ending)
    (done : reader.readFrame input = (outcome, next, rest))
    (goes : outcome = .parked ∨ ∃ frame, outcome = .ready (.ok (some frame))) :
    reader.buffer ++ input.stream.items.front =
      gone outcome ++ (next.buffer ++ rest.stream.items.front) := by
  have silent : ∀ {reader : FrameReader}, .ready reader.atEnd ≠ outcome := by
    rintro reader rfl
    unfold atEnd at goes
    split at goes <;> simp at goes
  fun_induction FrameReader.readFrame reader input with
  | case1 reader input frame length holds =>
      cases done
      obtain ⟨found, -⟩ := expects.looks.sound.frame holds
      obtain ⟨wire, more, split, extent, -, raw, -⟩ :=
        Decoder.decode_frame_shape found
      rw [scan_buffer, gone, raw, split, extent, List.drop_left,
        List.append_assoc]
  | case2 reader input cause holds =>
      cases done
      simp at goes
  | case3 reader input waits ended => exact absurd (Prod.mk.inj done).1 silent
  | case4 reader input waits ended grown stream step =>
      simp only [Prod.mk.injEq] at done
      obtain ⟨rfl, rfl, rfl⟩ := done
      obtain ⟨-, reads⟩ := Timed.backend_reads expects.live expects.full
        reserve_room_pos step
      cases reads with
      | waited first =>
          rw [first, gone, List.nil_append]
          exact congrArg (· ++ stream.stream.items.front) reserve_buffer.symm
  | case5 reader input waits ended grown fault stream step =>
      simp only [Prod.mk.injEq] at done
      obtain ⟨rfl, -⟩ := done
      simp at goes
  | case6 reader input waits ended grown stream step last =>
      exact absurd (Prod.mk.inj done).1 silent
  | case7 reader input waits ended grown byte bytes stream step ih =>
      obtain ⟨still, same, -⟩ := expects.grows step
      exact same.symm.trans (ih still done)

/-! ### What is there without a wait -/

/-- The bytes before the first wait and the first failure. -/
def Schedule.now : Schedule → Bytes
  | [] | .parked :: _ | .ready (.error _) :: _ => []
  | .ready (.ok chunk) :: items => chunk ++ now items

theorem Timed.backend_read_now {τ : Type} [ByteSink τ]
    {backend rest : Backend (Timed τ)} {room : Nat} {byte : UInt8}
    {bytes : Bytes}
    (step : backend.read room = (.ready (.ok (byte :: bytes)), rest)) :
    backend.stream.items.now = byte :: bytes ++ rest.stream.items.now := by
  have given : ∀ timed next : Timed τ,
      timed.read room = (.ready (.ok (byte :: bytes)), next) →
        timed.items.now = byte :: bytes ++ next.items.now := by
    rintro ⟨items, output⟩ next done
    unfold Timed.read at done
    split at done
    · cases done
    · cases done
    · cases done
    · rename_i chunk items script
      simp only at script
      subst script
      split at done
      · cases done
        rfl
      · simp only [Prod.mk.injEq, Poll.ready.injEq, Except.ok.injEq] at done
        obtain ⟨same, rfl⟩ := done
        simp only [Schedule.now]
        rw [← List.append_assoc, ← same, List.take_append_drop]
  unfold Backend.read at step
  split at step
  · split at step
    · cases step
    · rename_i given' stream reading
      cases step
      exact given _ _ reading
  · cases step

/-- How many frames a reader can give before it has to wait. -/
def FrameReader.inHand {τ : Type} (reader : FrameReader)
    (input : Backend (Timed τ)) : Nat :=
  (Intake.takeFrames .unbounded
    (reader.buffer ++ input.stream.items.now) []).frames.length

/-- A reader waits only if it has no frame in hand, and each frame that it gives
is one of those. -/
theorem FrameReader.Expects.readFrame_inHand {τ : Type} [ByteSink τ]
    {reader next : FrameReader} {input rest : Backend (Timed τ)}
    {frames : List Frame} {ending : Option RelayError}
    {outcome : Poll (Except RelayError (Option Frame))}
    (expects : reader.Expects input frames ending)
    (done : reader.readFrame input = (outcome, next, rest)) :
    (outcome = .parked → reader.inHand input = 0) ∧
      ∀ frame, outcome = .ready (.ok (some frame)) →
        reader.inHand input = next.inHand rest + 1 := by
  fun_induction FrameReader.readFrame reader input with
  | case1 reader input frame length holds =>
      simp only [Prod.mk.injEq] at done
      obtain ⟨rfl, rfl, rfl⟩ := done
      refine ⟨by simp, fun _ _ => ?_⟩
      obtain ⟨found, -⟩ := expects.looks.sound.frame holds
      have within := (reader.next_within frame length holds).2
      have longer := Decoder.decode_settled_append found (by simp)
        input.stream.items.now
      have taken := Intake.takeFrames_cons longer
      rw [List.drop_append_of_le_length within] at taken
      exact congrArg (·.frames.length) taken
  | case2 reader input cause holds =>
      cases done
      exact ⟨by simp, by simp⟩
  | case3 reader input waits ended =>
      rw [expects.running] at ended
      cases ended
  | case4 reader input waits ended grown stream step =>
      simp only [Prod.mk.injEq] at done
      obtain ⟨rfl, -⟩ := done
      refine ⟨fun _ => ?_, by simp⟩
      obtain ⟨-, reads⟩ := Timed.backend_reads expects.live expects.full
        reserve_room_pos step
      cases reads with
      | waited first =>
          have taken :=
            Intake.takeFrames_incomplete (expects.looks.incomplete waits) []
          rw [inHand, first, Schedule.now, List.append_nil]
          exact congrArg (·.frames.length) taken
  | case5 reader input waits ended grown fault stream step =>
      simp only [Prod.mk.injEq] at done
      obtain ⟨rfl, -⟩ := done
      exact ⟨by simp, by simp⟩
  | case6 reader input waits ended grown stream step last =>
      simp only [Prod.mk.injEq] at done
      obtain ⟨rfl, -⟩ := done
      refine ⟨by simp, ?_⟩
      intro frame given
      unfold atEnd at given
      split at given <;> simp at given
  | case7 reader input waits ended grown byte bytes stream step ih =>
      have same : (grown.scan (grown.buffer ++ byte :: bytes)).inHand stream =
          reader.inHand input := by
        rw [inHand, inHand, scan_buffer, Timed.backend_read_now step,
          List.append_assoc]
        exact congrArg (fun buffer : Bytes => (Intake.takeFrames .unbounded
          (buffer ++ _) []).frames.length) reserve_buffer
      rw [← same]
      exact ih (expects.grows step).1 done

/-! ### What a stream has to tell -/

/-- What the bytes of a stream decode to before it fails or ends. -/
def Schedule.heard (items : Schedule) : Intake :=
  Intake.takeFrames .unbounded items.front []

/-- How a stream ends behind its frames. -/
def Schedule.ending? (items : Schedule) : Option RelayError :=
  items.heard.ending? items.failure?

theorem FrameReader.Expects.fresh {τ : Type} {items : Schedule}
    (full : items.Full) (output : τ) :
    FrameReader.ofGuacd.Expects ({ stream := ⟨items, output⟩ } : Backend (Timed τ))
      items.heard.frames items.ending? :=
  ⟨FrameReader.looks_fresh (by decide), rfl, rfl, full, rfl, rfl⟩

namespace Guacd

/-! ### Taking a handshake up again -/

namespace Handshake

variable {σ : Type} [Connection σ] {handshake : Handshake}
  {reader next : FrameReader} {stream rest : σ} {stage : Stage}

/-- A handshake that is taken up again a number of times, each time as it was
left. -/
def resume (times : Nat) (handshake : Handshake) (reader : FrameReader)
    (stream : σ) : Stage × FrameReader × σ :=
  match times with
  | 0 => handshake.run reader stream
  | times + 1 =>
      let (stage, reader, stream) := handshake.run reader stream
      resume times { handshake with stage } reader stream

theorem resume_succ (ran : handshake.run reader stream = (stage, next, rest))
    (times : Nat) :
    handshake.resume (times + 1) reader stream =
      resume times { handshake with stage } next rest := by
  rw [resume, ran]

theorem run_to (step : handshake.step reader stream = (.to stage, next, rest)) :
    handshake.run reader stream =
      run { handshake with stage } next rest := by
  rw [run.eq_def]
  split
  · rename_i parked
    rw [step] at parked
    cases parked
  · rename_i moved
    rw [step] at moved
    cases moved
    rfl

theorem run_parked
    (step : handshake.step reader stream = (.parked stage, next, rest)) :
    handshake.run reader stream = (stage, next, rest) := by
  rw [run.eq_def]
  split
  · rename_i parked
    rw [step] at parked
    cases parked
    rfl
  · rename_i moved
    rw [step] at moved
    cases moved

theorem resume_to
    (step : handshake.step reader stream = (.to stage, next, rest))
    (times : Nat) :
    handshake.resume times reader stream =
      resume times { handshake with stage } next rest := by
  cases times with
  | zero => exact run_to step
  | succ times => rw [resume, resume, run_to step]

theorem resume_parked
    (step : handshake.step reader stream = (.parked stage, next, rest))
    (times : Nat) :
    handshake.resume (times + 1) reader stream =
      resume times { handshake with stage } next rest :=
  resume_succ (run_parked step) times

theorem resume_finished {outcome : Except RelayError Agreement}
    (ended : handshake.stage = .finished outcome) (times : Nat) :
    handshake.resume times reader stream =
      (.finished outcome, reader, stream) := by
  have step : handshake.step reader stream =
      (.parked (.finished outcome), reader, stream) := by
    unfold Handshake.step
    rw [ended]
  induction times generalizing handshake with
  | zero => exact run_parked step
  | succ times ih =>
      rw [resume_parked step]
      exact ih rfl rfl

theorem resume_more {outcome : Except RelayError Agreement} {times : Nat}
    (ended : handshake.resume times reader stream =
      (.finished outcome, next, rest)) (more : Nat) :
    handshake.resume (times + more) reader stream =
      (.finished outcome, next, rest) := by
  induction times generalizing handshake reader stream with
  | zero =>
      have ran : handshake.run reader stream =
          (.finished outcome, next, rest) := ended
      rw [Nat.zero_add]
      cases more with
      | zero => exact ran
      | succ more =>
          rw [resume_succ ran]
          exact resume_finished rfl more
  | succ times ih =>
      rw [Nat.add_right_comm]
      exact ih ended

end Handshake

/-! ### Hearing frames -/

/-- What a read tells where these frames and this ending are to be heard. -/
def told : (frames : List Frame) → (ending : Option RelayError) →
    Except RelayError (Option Frame)
  | frame :: _, _ => .ok (some frame)
  | [], none => .ok none
  | [], some error => .error error

theorem told_args {frames : List Frame} {ending : Option RelayError}
    {names : List String}
    (asked : (Handshake.instruction? (told frames ending)).bind
      (expect "args") = .ok names) :
    ∃ frame others, frames = frame :: others ∧
      frame.instruction = ⟨"args", names⟩ := by
  cases frames with
  | nil => cases ending <;> cases asked
  | cons frame others =>
      exact ⟨frame, others, rfl, Option.some.inj (expect_ok asked)⟩

variable {τ : Type} {willing : τ → Prop} {taken : τ → Bytes}

/-- The relay has written the bytes `said`. The bytes `left` are still to be
heard, and with them the frames and how the stream ends. -/
structure Listens (willing : τ → Prop) (taken : τ → Bytes)
    (reader : FrameReader) (backend : Backend (Timed τ)) (left : Bytes)
    (frames : List Frame) (ending : Option RelayError) (said : Bytes) :
    Prop where
  expects : reader.Expects backend frames ending
  left : reader.buffer ++ backend.stream.items.front = left
  willing : willing backend.stream.output
  said : taken backend.stream.output = said

variable {reader : FrameReader} {backend : Backend (Timed τ)}
  {left : Bytes} {frames : List Frame} {ending : Option RelayError}
  {said : Bytes} [ByteSink τ]

theorem Listens.write
    (listens : Listens willing taken reader backend left frames ending said)
    (takes : TakesAll willing taken) (instruction : Instruction)
    (stay : Sending → Stage) (leave : Stage) :
    ∃ next, Handshake.write (.ofInstruction instruction) stay leave backend =
        (.to leave, next) ∧
      Listens willing taken reader next left frames ending
        (said ++ instruction.wire) ∧
      next.stream.items = backend.stream.items := by
  obtain ⟨next, done, ⟨live, ready⟩, grown⟩ :=
    (Timed.takesAll takes).backend.poll instruction.wire backend
      ⟨listens.expects.live, listens.willing⟩
  have items :=
    (Backend.keepsWriting_stream Timed.keepsWriting_items).poll
      (.ofBytes instruction.wire) backend
  rw [done] at items
  have full := listens.expects.full
  have heard := listens.expects.frames
  have ends := listens.expects.ending
  have behind := listens.left
  rw [← items] at full heard ends behind
  refine ⟨next, ?_, ⟨⟨listens.expects.looks, listens.expects.running, live,
    full, heard, ends⟩, behind, ready, ?_⟩, items⟩
  · have sent : (Sending.ofInstruction instruction).poll backend =
        (.done, next) := done
    rw [Handshake.write, sent]
  · rw [grown, listens.said]

theorem Listens.readFrame
    (listens : Listens willing taken reader backend left frames ending said)
    {outcome : Poll (Except RelayError (Option Frame))} {later : FrameReader}
    {next : Backend (Timed τ)}
    (done : reader.readFrame backend = (outcome, later, next)) :
    taken next.stream.output = said ∧
      ((outcome = .parked ∧ reader.inHand backend = 0 ∧
          Listens willing taken later next left frames ending said ∧
          next.stream.items.waits < backend.stream.items.waits) ∨
        outcome = .ready (told frames ending) ∧
          ∀ frame others, frames = frame :: others → ∃ behind,
            left = Bytes.ofText frame.raw ++ behind ∧
              Listens willing taken later next behind others ending said ∧
              reader.inHand backend = later.inHand next + 1 ∧
              next.stream.items.waits ≤ backend.stream.items.waits) := by
  have output := Timed.readFrame_output reader backend
  rw [done] at output
  have ready := listens.willing
  have same := listens.said
  rw [← output] at ready same
  refine ⟨same, ?_⟩
  have tells := listens.expects.readFrame done
  have goes := listens.expects.readFrame_left done
  have hand := listens.expects.readFrame_inHand done
  rw [listens.left] at goes
  cases outcome with
  | parked =>
      exact .inl ⟨rfl, hand.1 rfl,
        ⟨tells.1, (goes (.inl rfl)).symm, ready, same⟩, tells.2⟩
  | ready read =>
      refine .inr ?_
      cases read with
      | error error =>
          obtain ⟨rfl, rfl⟩ := tells
          exact ⟨rfl, nofun⟩
      | ok read =>
          cases read with
          | none =>
              obtain ⟨rfl, rfl⟩ := tells
              exact ⟨rfl, nofun⟩
          | some frame =>
              obtain ⟨others, rfl, expects, waits⟩ := tells
              refine ⟨rfl, ?_⟩
              rintro _ _ ⟨rfl, rfl⟩
              exact ⟨_, goes (.inr ⟨frame, rfl⟩), ⟨expects, rfl, ready, same⟩,
                hand.2 frame rfl, waits⟩

variable (spec : ConnectionSpec) (info : ClientInfo)

theorem Listens.await {stay : Stage}
    {leave : Except RelayError (Option Instruction) → Stage}
    (awaits : ∀ (reader : FrameReader) (backend : Backend (Timed τ)),
      Handshake.step ⟨spec, info, stay⟩ reader backend =
        Handshake.await stay leave reader backend)
    (listens : Listens willing taken reader backend left frames ending said) :
    ∃ later next,
      (Handshake.step ⟨spec, info, stay⟩ reader backend =
          (.parked stay, later, next) ∧
        reader.inHand backend = 0 ∧
        Listens willing taken later next left frames ending said ∧
        next.stream.items.waits < backend.stream.items.waits) ∨
      Handshake.step ⟨spec, info, stay⟩ reader backend =
          (.to (leave (Handshake.instruction? (told frames ending))),
            later, next) ∧
        taken next.stream.output = said ∧
        ∀ frame others, frames = frame :: others → ∃ behind,
          left = Bytes.ofText frame.raw ++ behind ∧
            Listens willing taken later next behind others ending said ∧
            reader.inHand backend = later.inHand next + 1 ∧
            next.stream.items.waits ≤ backend.stream.items.waits := by
  cases done : reader.readFrame backend with
  | mk outcome rest =>
      obtain ⟨later, next⟩ := rest
      refine ⟨later, next, ?_⟩
      rw [awaits, Handshake.await, done]
      obtain ⟨same, ⟨rfl, empty, still, fewer⟩ | ⟨rfl, goes⟩⟩ :=
        listens.readFrame done
      · exact .inl ⟨rfl, empty, still, fewer⟩
      · exact .inr ⟨rfl, same, goes⟩

/-- Such a stage is left at last, when the handshake is taken up again behind
each wait, and at once when a frame is in hand. -/
theorem Listens.awaited (stay : Stage)
    (leave : Except RelayError (Option Instruction) → Stage)
    (awaits : ∀ (reader : FrameReader) (backend : Backend (Timed τ)),
      Handshake.step ⟨spec, info, stay⟩ reader backend =
        Handshake.await stay leave reader backend)
    (listens : Listens willing taken reader backend left frames ending said)
    {times : Nat} (enough : backend.stream.items.waits ≤ times ∨
      0 < reader.inHand backend) :
    ∃ more ≤ times, ∃ later next, Handshake.resume times ⟨spec, info, stay⟩
        reader backend = Handshake.resume more ⟨spec, info,
          leave (Handshake.instruction? (told frames ending))⟩ later next ∧
      taken next.stream.output = said ∧
      ∀ frame others, frames = frame :: others → ∃ behind,
        left = Bytes.ofText frame.raw ++ behind ∧
          Listens willing taken later next behind others ending said ∧
          (backend.stream.items.waits ≤ times →
            next.stream.items.waits ≤ more) ∧
          (0 < reader.inHand backend →
            reader.inHand backend = later.inHand next + 1) := by
  induction times generalizing reader backend with
  | zero =>
      obtain ⟨later, next, ⟨-, empty, -, fewer⟩ | ⟨step, same, goes⟩⟩ :=
        listens.await spec info awaits
      · exact absurd fewer (by omega)
      · refine ⟨0, Nat.le_refl 0, later, next, Handshake.resume_to step 0, same,
          ?_⟩
        intro frame others first
        obtain ⟨behind, split, heard, hand, waits⟩ := goes frame others first
        exact ⟨behind, split, heard, Nat.le_trans waits, fun _ => hand⟩
  | succ times ih =>
      obtain ⟨later, next, ⟨step, empty, still, fewer⟩ | ⟨step, same, goes⟩⟩ :=
        listens.await spec info awaits
      · obtain ⟨more, within, last, final, led, said, hears⟩ :=
          ih still (.inl (by omega))
        refine ⟨more, Nat.le_succ_of_le within, last, final,
          (Handshake.resume_parked step times).trans led, said, ?_⟩
        intro frame others first
        obtain ⟨behind, split, heard, waits, -⟩ := hears frame others first
        exact ⟨behind, split, heard, fun _ => waits (by omega),
          fun some => absurd some (by omega)⟩
      · refine ⟨times + 1, Nat.le_refl _, later, next,
          Handshake.resume_to step _, same, ?_⟩
        intro frame others first
        obtain ⟨behind, split, heard, hand, waits⟩ := goes frame others first
        exact ⟨behind, split, heard, Nat.le_trans waits, fun _ => hand⟩

theorem Listens.described (takes : TakesAll willing taken)
    (names : List String) (instructions : List Instruction)
    (listens : Listens willing taken reader backend left frames ending said)
    (times : Nat) :
    ∃ next, Handshake.resume times
        ⟨spec, info, Handshake.describe names instructions⟩ reader backend =
      Handshake.resume times ⟨spec, info, .awaitingReady (agreedVersion names)⟩
        reader next ∧
      Listens willing taken reader next left frames ending
        (said ++ instructions.flatMap Instruction.wire) ∧
      next.stream.items = backend.stream.items := by
  induction instructions generalizing backend said with
  | nil =>
      refine ⟨backend, rfl, ?_, rfl⟩
      rw [List.flatMap_nil, List.append_nil]
      exact listens
  | cons instruction instructions ih =>
      obtain ⟨middle, done, wrote, items⟩ := listens.write takes instruction
        (.describing names · instructions)
        (Handshake.describe names instructions)
      obtain ⟨next, ran, others, same⟩ := ih wrote
      refine ⟨next, ?_, ?_, same.trans items⟩
      · rw [← ran]
        apply Handshake.resume_to
        exact congrArg (fun result : Handshake.Moved × Backend (Timed τ) =>
          (result.1, reader, result.2)) done
      · rw [List.flatMap_cons, ← List.append_assoc]
        exact others

/-! ### Whole handshakes -/

variable {items : Schedule} {output : τ}

omit [ByteSink τ] in
theorem Listens.start (taken : τ → Bytes) (full : items.Full) (ready : willing output) :
    Listens willing taken .ofGuacd { stream := ⟨items, output⟩ } items.front
      items.heard.frames items.ending? (taken output) :=
  ⟨FrameReader.Expects.fresh full output, rfl, ready, rfl⟩

theorem resume_selecting (takes : TakesAll willing taken) (full : items.Full)
    (ready : willing output) (times : Nat) :
    ∃ selected, (Handshake.start spec info).resume times .ofGuacd
        ({ stream := ⟨items, output⟩ } : Backend (Timed τ)) =
          Handshake.resume times ⟨spec, info, .awaitingArgs⟩ .ofGuacd selected ∧
      Listens willing taken .ofGuacd selected items.front items.heard.frames
        items.ending? (taken output ++ (select spec).wire) ∧
      selected.stream.items = items := by
  obtain ⟨selected, done, listens, same⟩ :=
    (Listens.start taken full ready).write takes (select spec)
      .selecting .awaitingArgs
  refine ⟨selected, Handshake.resume_to ?_ times, listens, same⟩
  exact congrArg (fun result : Handshake.Moved × Backend (Timed τ) =>
    (result.1, FrameReader.ofGuacd, result.2)) done

/-- A handshake that knows the arguments describes the client, and comes to its
end with the frame that it hears then. -/
theorem Listens.agreed (takes : TakesAll willing taken) (names : List String)
    (listens : Listens willing taken reader backend left frames ending said)
    {times : Nat} (enough : backend.stream.items.waits ≤ times ∨
      0 < reader.inHand backend) :
    ∃ later next, Handshake.resume times ⟨spec, info,
          Handshake.describe names (description spec info names)⟩ reader
            backend =
        (Handshake.afterReady (agreedVersion names)
          (Handshake.instruction? (told frames ending)), later, next) ∧
      taken next.stream.output =
        said ++ (description spec info names).flatMap Instruction.wire ∧
      ∀ frame others, frames = frame :: others → ∃ behind,
        left = Bytes.ofText frame.raw ++ behind ∧
          Listens willing taken later next behind others ending (said ++
            (description spec info names).flatMap Instruction.wire) ∧
          (backend.stream.items.waits ≤ times →
            next.stream.items.waits ≤ times) := by
  obtain ⟨described, wrote, listens, same⟩ := listens.described spec info takes
    names (description spec info names) times
  have hand : reader.inHand described = reader.inHand backend := by
    rw [FrameReader.inHand, same]
    rfl
  rw [← same, ← hand] at enough
  obtain ⟨least, less, later, next, answered, whole, goes⟩ :=
    listens.awaited spec info (.awaitingReady (agreedVersion names))
      (Handshake.afterReady (agreedVersion names)) (fun _ _ => rfl) enough
  refine ⟨later, next, ?_, whole, ?_⟩
  · rw [wrote, answered]
    exact Handshake.resume_finished rfl least
  · intro frame others split
    obtain ⟨behind, front, heard, waits, -⟩ := goes frame others split
    rw [same] at waits
    exact ⟨behind, front, heard, fun few => Nat.le_trans (waits few) less⟩

/-- A handshake that is taken up often enough, or that has both frames without
a wait, comes to its end with the first frame that it hears, having selected a
protocol, or with the second, having said the whole transcript. -/
theorem resume_start (takes : TakesAll willing taken) (full : items.Full)
    (ready : willing output) {times : Nat}
    (enough : items.waits ≤ times ∨
      2 ≤ (Intake.takeFrames .unbounded items.now []).frames.length) :
    ∃ later next, (∃ error,
        (Handshake.instruction? (told items.heard.frames items.ending?)).bind
          (expect "args") = .error error ∧
        (Handshake.start spec info).resume times .ofGuacd
          ({ stream := ⟨items, output⟩ } : Backend (Timed τ)) =
            (.finished (.error error), later, next) ∧
        taken next.stream.output = taken output ++ (select spec).wire) ∨
      ∃ frame names others, items.heard.frames = frame :: others ∧
        frame.instruction = ⟨"args", names⟩ ∧
        (Handshake.start spec info).resume times .ofGuacd
          ({ stream := ⟨items, output⟩ } : Backend (Timed τ)) =
            (Handshake.afterReady (agreedVersion names)
              (Handshake.instruction? (told others items.ending?)),
              later, next) ∧
        taken next.stream.output = taken output ++
          (transcript spec info names).flatMap Instruction.wire ∧
        ∀ second rest, others = second :: rest → ∃ behind,
          items.front = Bytes.ofText frame.raw ++
            (Bytes.ofText second.raw ++ behind) ∧
          Listens willing taken later next behind rest items.ending?
            (taken output ++
              (transcript spec info names).flatMap Instruction.wire) ∧
          (items.waits ≤ times → next.stream.items.waits ≤ times) := by
  obtain ⟨selected, began, listens, same⟩ :=
    resume_selecting spec info takes full ready times
  -- the first frame is awaited while the handshake has the frames in hand that came before a wait
  have hand : FrameReader.ofGuacd.inHand selected =
      (Intake.takeFrames .unbounded items.now []).frames.length := by
    rw [FrameReader.inHand, same]
    rfl
  obtain ⟨more, within, later, next, asked, said, goes⟩ :=
    listens.awaited spec info .awaitingArgs (Handshake.afterArgs spec info)
      (fun _ _ => rfl) (by rw [same, hand]; exact enough.imp id (by omega))
  rw [same, hand] at goes
  rw [began, asked]
  unfold Handshake.afterArgs
  cases first : (Handshake.instruction?
      (told items.heard.frames items.ending?)).bind (expect "args") with
  | error error =>
      exact ⟨later, next, .inl ⟨error, rfl, Handshake.resume_finished rfl more,
        said⟩⟩
  | ok names =>
      obtain ⟨frame, others, split, named⟩ := told_args first
      obtain ⟨behind, front, heard, waits, fewer⟩ := goes frame others split
      -- the second frame is in hand, or is reached behind the waits that are left
      have left : next.stream.items.waits ≤ more ∨ 0 < later.inHand next := by
        rcases enough with enough | enough
        · exact .inl (waits enough)
        · exact .inr (by omega)
      obtain ⟨last, final, answered, whole, goes⟩ :=
        heard.agreed spec info takes names left
      have all : taken output ++ (select spec).wire ++
          (description spec info names).flatMap Instruction.wire =
            taken output ++
              (transcript spec info names).flatMap Instruction.wire :=
        List.append_assoc _ _ _
      rw [all] at whole goes
      refine ⟨last, final, .inr ⟨frame, names, others, split, named, answered,
        whole, ?_⟩⟩
      intro second rest split
      obtain ⟨last, next, still, later⟩ := goes second rest split
      exact ⟨last, by rw [front, next], still,
        fun enough => Nat.le_trans (later (waits enough)) within⟩

end Guacd

end TunnelRelay
