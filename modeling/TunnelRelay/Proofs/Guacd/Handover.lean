import TunnelRelay.Proofs.Guacd.Hearing

/-!
From the handshake to the tunnel.

The reader that has heard the handshake goes on as the reader of the tunnel, with all that it has
read ahead. So the tunnel gives what stands behind the handshake, as if its reader were a new one
there: wherever a chunk of the stream ends, nothing is lost and nothing is heard twice.
-/

namespace TunnelRelay

/-! ### Several reads -/

/-- The answers among the outcomes of several reads, without the waits. -/
def answered {α : Type} (outcomes : List (Poll α)) : List α :=
  outcomes.filterMap fun
    | .ready answer => some answer
    | .parked => none

/-- The outcomes of several reads from a tunnel, one after another. -/
def Tunnel.readFrames {σ : Type} [Connection σ] : (count : Nat) → Tunnel σ →
    List (Poll (Except RelayError (Option Frame))) × Tunnel σ
  | 0, tunnel => ([], tunnel)
  | count + 1, tunnel =>
      let (outcome, tunnel) := tunnel.readFrame
      let (outcomes, tunnel) := readFrames count tunnel
      (outcome :: outcomes, tunnel)

theorem Tunnel.readFrames_eq {σ : Type} [Connection σ] {tunnel : Tunnel σ}
    (silent : tunnel.closeSignal = false) (count : Nat) :
    (tunnel.readFrames count).1 =
      (FrameReader.readFrames count tunnel.reader tunnel.backend).1 := by
  induction count generalizing tunnel with
  | zero => rfl
  | succ count ih =>
      have step : tunnel.readFrame =
          ((tunnel.reader.readFrame tunnel.backend).1,
            { tunnel with
              reader := (tunnel.reader.readFrame tunnel.backend).2.1
              backend := (tunnel.reader.readFrame tunnel.backend).2.2 }) := by
        unfold Tunnel.readFrame
        rw [silent]
        rfl
      rw [Tunnel.readFrames, step, FrameReader.readFrames]
      exact congrArg (_ :: ·) (ih silent)

open Guacd in
/-- A reader that is asked often enough gives each frame that is expected, and
then the ending. -/
theorem FrameReader.Expects.answered_first {τ : Type} [ByteSink τ]
    {reader : FrameReader} {input : Backend (Timed τ)} {frames : List Frame}
    {ending : Option RelayError}
    (expects : reader.Expects input frames ending) {count : Nat}
    (enough : frames.length + 1 + input.stream.items.waits ≤ count) :
    frames.map (.ok ∘ some) ++ [told [] ending] <+:
      answered (readFrames count reader input).1 := by
  induction count generalizing reader input frames with
  | zero => exact absurd enough (by omega)
  | succ count ih =>
      rcases done : reader.readFrame input with ⟨outcome, next, rest⟩
      have tells := expects.readFrame done
      rw [readFrames_cons done]
      cases outcome with
      | parked => exact ih tells.1 (by have fewer := tells.2; omega)
      | ready read =>
          cases read with
          | error error =>
              obtain ⟨rfl, rfl⟩ := tells
              exact ⟨_, rfl⟩
          | ok read =>
              cases read with
              | none =>
                  obtain ⟨rfl, rfl⟩ := tells
                  exact ⟨_, rfl⟩
              | some frame =>
                  obtain ⟨others, rfl, later, waits⟩ := tells
                  rw [List.length_cons] at enough
                  exact (List.cons_prefix_cons).mpr
                    ⟨rfl, ih later (by omega)⟩

theorem Intake.takeFrames_wire (wire : WireFrame) (more : Bytes) :
    ∃ raw, Bytes.ofText raw = wire.bytes ∧
      takeFrames .unbounded (wire.bytes ++ more) [] =
        { takeFrames .unbounded more [] with
          frames := ⟨wire.instruction, raw⟩ ::
            (takeFrames .unbounded more []).frames } := by
  obtain ⟨raw, same, found⟩ := Decoder.decode_wire wire
    (Limits.admit_unbounded 0 wire.texts) more
  have taken := takeFrames_cons found
  rw [List.drop_left] at taken
  exact ⟨raw, same, taken⟩

namespace Guacd

/-! ### Opening a tunnel -/

/-- A tunnel is opened as `establish` opens one, where the handshake is taken up
again a number of times. -/
def establishWithin {σ : Type} [Connection σ] (times : Nat) (uuid : Uuid)
    (spec : ConnectionSpec) (info : ClientInfo) (stream : σ) : Established σ :=
  let backend : Backend σ := { stream }
  match (Handshake.start spec info).resume times .ofGuacd backend with
  | (.finished (.ok agreement), reader, backend) =>
      .opened
        { uuid, connectionId := some agreement.connectionId, backend, reader }
  | (.finished (.error error), _, backend) =>
      .failed error backend.release.2.stream
  | (_, _, backend) => .unfinished backend.release.2.stream

theorem establishWithin_zero {σ : Type} [Connection σ] (uuid : Uuid)
    (spec : ConnectionSpec) (info : ClientInfo) (stream : σ) :
    establishWithin 0 uuid spec info stream =
      establish uuid spec info stream := rfl

theorem establishWithin_agreed {σ : Type} [Connection σ] {times : Nat}
    {uuid : Uuid} {spec : ConnectionSpec} {info : ClientInfo} {stream : σ}
    {agreement : Agreement} {reader : FrameReader} {backend : Backend σ}
    (agreed : (Handshake.start spec info).resume times .ofGuacd
      { stream } = (.finished (.ok agreement), reader, backend)) :
    establishWithin times uuid spec info stream = .opened
      { uuid, connectionId := some agreement.connectionId, backend, reader } := by
  unfold establishWithin
  simp only [agreed]

variable {τ : Type} [ByteSink τ] {willing : τ → Prop} {taken : τ → Bytes}

theorem resume_agreed (takes : TakesAll willing taken) (spec : ConnectionSpec)
    (info : ClientInfo) {args ready : WireFrame} {names : List String}
    {identifier : String} {more : List String}
    (asked : args.instruction = ⟨"args", names⟩)
    (named : ready.instruction = ⟨"ready", identifier :: more⟩) {rest : Bytes}
    {items : Schedule} (full : items.Full)
    (front : items.front = args.bytes ++ (ready.bytes ++ rest)) {output : τ}
    (accepting : willing output) {times : Nat}
    (enough : items.waits ≤ times ∨
      args.bytes ++ ready.bytes <+: items.now) :
    ∃ reader backend, (Handshake.start spec info).resume times .ofGuacd
        ({ stream := ⟨items, output⟩ } : Backend (Timed τ)) =
          (.finished (.ok ⟨identifier, agreedVersion names⟩), reader, backend) ∧
      (items.waits ≤ times → backend.stream.items.waits ≤ times) ∧
      Listens willing taken reader backend rest
        (Intake.takeFrames .unbounded rest []).frames
        ((Intake.takeFrames .unbounded rest []).ending? items.failure?)
        (taken output ++
          (transcript spec info names).flatMap Instruction.wire) := by
  obtain ⟨first, firstBytes, firstTaken⟩ :=
    Intake.takeFrames_wire args (ready.bytes ++ rest)
  obtain ⟨second, secondBytes, secondTaken⟩ :=
    Intake.takeFrames_wire ready rest
  have heard : items.heard = { Intake.takeFrames .unbounded rest [] with
      frames := ⟨⟨"args", names⟩, first⟩ :: ⟨⟨"ready", identifier :: more⟩, second⟩ ::
        (Intake.takeFrames .unbounded rest []).frames } := by
    rw [Schedule.heard, front, firstTaken, secondTaken, asked, named]
  have ending : items.ending? =
      (Intake.takeFrames .unbounded rest []).ending? items.failure? := by
    rw [Schedule.ending?, heard]
    rfl
  have enough : items.waits ≤ times ∨
      2 ≤ (Intake.takeFrames .unbounded items.now []).frames.length := by
    apply enough.imp id
    rintro ⟨behind, now⟩
    obtain ⟨_, -, argsTaken⟩ :=
      Intake.takeFrames_wire args (ready.bytes ++ behind)
    obtain ⟨_, -, readyTaken⟩ := Intake.takeFrames_wire ready behind
    rw [← now, List.append_assoc, argsTaken, readyTaken]
    exact Nat.le_add_left 2 _
  obtain ⟨reader, backend, ⟨error, refused, -⟩ |
    ⟨frame, wanted, others, split, instruction, ran, -, goes⟩⟩ :=
      resume_start spec info takes full accepting enough
  · rw [heard] at refused
    cases refused
  · rw [heard] at split
    cases split
    cases instruction
    obtain ⟨behind, bytes, listens, waits⟩ := goes _ _ rfl
    rw [ending] at listens
    -- the handshake has used exactly the two frames
    have same : behind = rest := by
      rw [front, ← firstBytes, ← secondBytes] at bytes
      exact (List.append_cancel_left (List.append_cancel_left bytes)).symm
    rw [same] at listens
    exact ⟨reader, backend, ran, waits, listens⟩

/-- Nothing is lost between the handshake and the tunnel. A guacd that sends
its arguments, an identifier and any bytes behind them, in any chunks and with
any waits, gets a tunnel: behind all waits, and with `establish` itself where no
wait comes before the two frames. The handshake has used exactly these frames.
The tunnel then gives the answers that a new reader gives to the bytes behind
them alone, in any chunks again, up to the end or the first error. -/
theorem establish_hands_over (takes : TakesAll willing taken) (uuid : Uuid)
    (spec : ConnectionSpec) (info : ClientInfo) (args ready : WireFrame)
    (names : List String) (identifier : String) (more : List String)
    (asked : args.instruction = ⟨"args", names⟩)
    (named : ready.instruction = ⟨"ready", identifier :: more⟩) (rest : Bytes)
    (items : Schedule) (full : items.Full)
    (front : items.front = args.bytes ++ (ready.bytes ++ rest)) (output : τ)
    (accepting : willing output) :
    ∃ tunnel : Tunnel (Timed τ),
      (∀ times, items.waits ≤ times →
        establishWithin times uuid spec info ⟨items, output⟩ =
          .opened tunnel) ∧
      (args.bytes ++ ready.bytes <+: items.now →
        establish uuid spec info (⟨items, output⟩ : Timed τ) =
          .opened tunnel) ∧
      tunnel.connectionId = some identifier ∧
      tunnel.reader.buffer ++ tunnel.backend.stream.items.front = rest ∧
      taken tunnel.backend.stream.output = taken output ++
        (transcript spec info names).flatMap Instruction.wire ∧
      ∃ (frames : List Frame) (ending : Except RelayError (Option Frame)),
        (∀ frame, ending ≠ .ok (some frame)) ∧
        let answers := frames.map (.ok ∘ some) ++ [ending]
        (∀ extra, answers <+: answered (tunnel.readFrames
          (answers.length + items.waits + extra)).1) ∧
        ∀ (alone : Schedule) (other : τ), alone.Full → alone.front = rest →
          alone.failure? = items.failure? → ∀ extra,
            answers <+: answered (FrameReader.readFrames
              (answers.length + alone.waits + extra) .ofGuacd
              ({ stream := ⟨alone, other⟩ } : Backend (Timed τ))).1 := by
  obtain ⟨reader, backend, agreed, waits, listens⟩ := resume_agreed takes spec
    info asked named full front accepting (.inl (Nat.le_refl items.waits))
  refine ⟨{ uuid, connectionId := some identifier, backend, reader }, ?_, ?_, rfl,
    listens.left, listens.said,
    (Intake.takeFrames .unbounded rest []).frames,
    told [] ((Intake.takeFrames .unbounded rest []).ending? items.failure?),
    ?_, ?_, ?_⟩
  · intro times enough
    obtain ⟨extra, rfl⟩ := Nat.exists_eq_add_of_le enough
    exact establishWithin_agreed (Handshake.resume_more agreed extra)
  · intro within
    obtain ⟨reader', backend', atOnce, -⟩ := resume_agreed takes spec info asked
      named full front accepting (.inr within)
    -- a handshake that has ended at once is not changed by taking it up again
    have same := Handshake.resume_more atOnce items.waits
    rw [Nat.zero_add, agreed] at same
    cases same
    rw [← establishWithin_zero]
    exact establishWithin_agreed atOnce
  · intro frame
    cases (Intake.takeFrames .unbounded rest []).ending? items.failure? with
    | none => exact nofun
    | some error => exact nofun
  · intro extra
    rw [Tunnel.readFrames_eq rfl]
    apply listens.expects.answered_first
    have fewer := waits (Nat.le_refl items.waits)
    simp only [List.length_append, List.length_map, List.length_singleton]
    omega
  · rintro alone other whole rfl failure extra
    rw [← failure]
    apply (FrameReader.Expects.fresh whole other).answered_first
    simp only [Schedule.heard, List.length_append, List.length_map, List.length_singleton]
    omega

/-- The identifier comes in two chunks, and with the second a frame and the
beginning of another. -/
theorem establish_hands_over_shared :
    let args : Instruction := ⟨"args", ["VERSION_1_1_0", "port"]⟩
    let ready : Instruction := ⟨"ready", ["$1"]⟩
    let behind := Bytes.ofText "4.sync,1.0;3.no"
    let items : Schedule := [
      .ready (.ok (args.wire ++ Bytes.ofText "5.rea")), .parked,
      .ready (.ok (Bytes.ofText "dy,2.$1;4.sync,1.0;3.no"))]
    items.Full ∧ items.front = args.wire ++ (ready.wire ++ behind) ∧
      ∃ tunnel : Tunnel (Timed Sink),
        establishWithin 1 ⟨0⟩ ⟨"vnc", []⟩ {} ⟨items, {}⟩ = .opened tunnel ∧
          tunnel.connectionId = some "$1" ∧
          tunnel.reader.buffer ++ tunnel.backend.stream.items.front =
            behind := by
  intro args ready behind items
  have full : items.Full := by
    intro chunk member
    simp only [items, List.mem_cons, List.not_mem_nil, Poll.ready.injEq,
      Except.ok.injEq, reduceCtorEq, false_or, or_false] at member
    rcases member with rfl | rfl <;> decide +kernel
  have front : items.front = args.wire ++ (ready.wire ++ behind) := by
    decide +kernel
  have short : ∀ text ∈ args.elements, text.length ≤ maxElementLength := by
    decide
  have short' : ∀ text ∈ ready.elements, text.length ≤ maxElementLength := by
    decide
  have bytes := WireFrame.bytes_ofInstruction short
  have bytes' := WireFrame.bytes_ofInstruction short'
  obtain ⟨tunnel, opened, -, identifier, left, -⟩ := establish_hands_over
    Sink.takesAll ⟨0⟩ ⟨"vnc", []⟩ {} (.ofInstruction args short)
    (.ofInstruction ready short') _ _ _
    (WireFrame.instruction_ofInstruction short)
    (WireFrame.instruction_ofInstruction short') behind items full
    (by rw [bytes, bytes']; exact front) {} ⟨rfl, rfl⟩
  exact ⟨full, front, tunnel, opened 1 (by decide), identifier, left⟩

end Guacd

end TunnelRelay
