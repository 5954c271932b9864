import TunnelRelay.Frame.Reader
import TunnelRelay.Proofs.Frame.Bounds

/-!
A frame reader on a stream.

All that a reader knows is a function of the bytes in its buffer: its decoder is a fresh one that
has looked at them, and the outcome it holds is what that decoder found. So it goes on correctly
behind every read, failed or not, and what it gives are the frames of the bytes that arrived.
-/

namespace TunnelRelay

/-! ### What reads have given -/

def Poll.given : Poll (Except IoFault Bytes) → Bytes
  | ready (.ok bytes) => bytes
  | ready (.error _) | parked => []

/-- Reads lead from one state of a stream to another and have given the bytes
`got` in all. -/
inductive Obtains {σ : Type} [ByteSource σ] :
    (input : σ) → (got : Bytes) → (rest : σ) → Prop
  | nothing (input : σ) : Obtains input [] input
  | read {input rest : σ} {got : Bytes} (room : Nat)
      (others : Obtains (ByteSource.read input room).2 got rest) :
      Obtains input ((ByteSource.read input room).1.given ++ got) rest

theorem Obtains.one {σ : Type} [ByteSource σ] {input rest : σ} {room : Nat}
    {outcome : Poll (Except IoFault Bytes)}
    (step : ByteSource.read input room = (outcome, rest)) :
    Obtains input outcome.given rest := by
  have once := read room (nothing (ByteSource.read input room).2)
  rw [step, List.append_nil] at once
  exact once

theorem Obtains.cons {σ : Type} [ByteSource σ] {input next rest : σ}
    {room : Nat} {outcome : Poll (Except IoFault Bytes)} {got : Bytes}
    (step : ByteSource.read input room = (outcome, next))
    (others : Obtains next got rest) :
    Obtains input (outcome.given ++ got) rest := by
  have further : Obtains (ByteSource.read input room).2 got rest := by
    rw [step]
    exact others
  have all := read room further
  rw [step] at all
  exact all

theorem Obtains.trans {σ : Type} [ByteSource σ] {first second third : σ}
    {early late : Bytes} (before : Obtains first early second)
    (after : Obtains second late third) :
    Obtains first (early ++ late) third := by
  induction before with
  | nothing input => exact after
  | read room others ih =>
      rw [List.append_assoc]
      exact read room (ih after)

/-! ### What a reader knows -/

namespace Decoder

theorem decode_settled_fresh {decoder next : Decoder} {buffer : Bytes}
    {decoded : Decoded} (step : decoder.decode buffer = (decoded, next))
    (settled : decoded ≠ .incomplete) : next = decoder.reset := by
  unfold decode at step
  simp only at step
  split at step
  · cases step
    exact absurd rfl settled
  · exact (congrArg Prod.snd step).symm
  · exact (congrArg Prod.snd step).symm

theorem decode_settled_append {limits : Limits} {next : Decoder}
    {buffer : Bytes} {decoded : Decoded}
    (step : Decoder.decode { limits } buffer = (decoded, next))
    (settled : decoded ≠ .incomplete) (more : Bytes) :
    Decoder.decode { limits } (buffer ++ more) = (decoded, next) := by
  rw [← step]
  exact decode_append (Progress.fits_initial buffer)
    (by rw [step]; exact settled) more

end Decoder

namespace FrameReader

/-- The reader has looked at its buffer and holds what it found. -/
def Looks (limits : Limits) (reader : FrameReader) : Prop :=
  ∃ decoded, Decoder.decode { limits } reader.buffer =
      (decoded, reader.decoder) ∧ reader.next = pendingOf decoded

/-- The reader has looked at its buffer. What it found it holds, unless it was
malformed and has been told. -/
def Sound (limits : Limits) (reader : FrameReader) : Prop :=
  ∃ decoded, Decoder.decode { limits } reader.buffer =
      (decoded, reader.decoder) ∧
    (reader.next = pendingOf decoded ∨
      reader.next = none ∧ ∃ cause, decoded = .malformed cause)

variable {limits : Limits} {reader : FrameReader}

theorem Looks.sound (looks : reader.Looks limits) : reader.Sound limits := by
  obtain ⟨decoded, looked, holds⟩ := looks
  exact ⟨decoded, looked, Or.inl holds⟩

theorem looks_fresh (room : limits.elements ≠ some 0) :
    ({ decoder := { limits } } : FrameReader).Looks limits :=
  ⟨.incomplete, Intake.decode_empty room, rfl⟩

theorem Sound.goes_on (sound : reader.Sound limits) (more : Bytes) :
    reader.decoder.decode (reader.buffer ++ more) =
      Decoder.decode { limits } (reader.buffer ++ more) := by
  obtain ⟨decoded, looked, -⟩ := sound
  by_cases incomplete : decoded = .incomplete
  · subst incomplete
    exact (Decoder.decode_resumed (Progress.fits_initial _) looked
      more).2.2.2.symm
  · rw [Decoder.decode_settled_fresh looked incomplete]
    rfl

theorem scan_looks {buffer : Bytes}
    (same : reader.decoder.decode buffer = Decoder.decode { limits } buffer) :
    (reader.scan buffer).Looks limits := by
  refine ⟨(Decoder.decode { limits } buffer).1, ?_, ?_⟩
  · change Decoder.decode { limits } buffer =
      (_, (reader.decoder.decode buffer).2)
    rw [same]
  · change pendingOf (reader.decoder.decode buffer).1 = _
    rw [same]

theorem Looks.incomplete (looks : reader.Looks limits)
    (waits : reader.next = none) :
    Decoder.decode { limits } reader.buffer =
      (.incomplete, reader.decoder) := by
  obtain ⟨decoded, looked, holds⟩ := looks
  rw [waits] at holds
  cases decoded with
  | incomplete => exact looked
  | frame frame length => cases holds
  | malformed cause => cases holds

theorem Sound.frame {frame : Frame} {length : Nat}
    (sound : reader.Sound limits)
    (holds : reader.next = some (.ok (frame, length))) :
    Decoder.decode { limits } reader.buffer =
        (.frame frame length, reader.decoder) ∧
      reader.decoder = { limits } := by
  obtain ⟨decoded, looked, found⟩ := sound
  rcases found with held | ⟨told, -⟩
  · rw [holds] at held
    cases decoded with
    | incomplete => cases held
    | malformed cause => cases held
    | frame other size =>
        cases held
        exact ⟨looked, Decoder.decode_frame_fresh looked⟩
  · rw [holds] at told
    cases told

theorem Sound.malformed {cause : Malformed} (sound : reader.Sound limits)
    (holds : reader.next = some (.error cause)) :
    Decoder.decode { limits } reader.buffer =
      (.malformed cause, reader.decoder) := by
  obtain ⟨decoded, looked, found⟩ := sound
  rcases found with held | ⟨told, -⟩
  · rw [holds] at held
    cases decoded with
    | incomplete => cases held
    | frame frame length => cases held
    | malformed other =>
        cases held
        exact looked
  · rw [holds] at told
    cases told

theorem reserve_room_pos : 0 < reader.reserve.room := by
  unfold reserve room readChunk
  split
  · simp only
    omega
  · omega

theorem Looks.reserve (looks : reader.Looks limits) :
    reader.reserve.Looks limits := by
  unfold FrameReader.reserve
  split
  · exact looks
  · exact looks

theorem Sound.reserve (sound : reader.Sound limits) :
    reader.reserve.Sound limits := by
  unfold FrameReader.reserve
  split
  · exact sound
  · exact sound

@[simp] theorem reserve_buffer : reader.reserve.buffer = reader.buffer := by
  unfold reserve
  split <;> rfl

@[simp] theorem reserve_next : reader.reserve.next = reader.next := by
  unfold reserve
  split <;> rfl

@[simp] theorem reserve_ended : reader.reserve.ended = reader.ended := by
  unfold reserve
  split <;> rfl

theorem readFrame_of_available (available : reader.available = true) :
    ∃ outcome next, ∀ {τ : Type} [ByteSource τ] (input : τ),
      reader.readFrame input = (.ready outcome, next, input) := by
  rcases holds : reader.next with _ | cause | ⟨frame, length⟩
  · have ended : reader.ended = true := by
      rw [FrameReader.available, holds] at available
      simpa using available
    refine ⟨reader.atEnd, reader, ?_⟩
    intro τ source input
    rw [readFrame.eq_def]
    simp only [holds, if_pos ended]
  · refine ⟨.error (.malformed cause), reader.forget, ?_⟩
    intro τ source input
    rw [readFrame.eq_def]
    simp only [holds]
  · refine ⟨.ok (some frame),
      reader.forget.scan (reader.buffer.drop length), ?_⟩
    intro τ source input
    rw [readFrame.eq_def]
    simp only [holds]

def gone : Poll (Except RelayError (Option Frame)) → Bytes
  | .ready (.ok (some frame)) => Bytes.ofText frame.raw
  | .ready (.ok none) | .ready (.error _) | .parked => []

theorem gone_atEnd (reader : FrameReader) : gone (.ready reader.atEnd) = [] := by
  unfold atEnd
  split <;> rfl

/-- A read keeps the reader sound. What it gives is a frame of the grammar, and
no byte is lost or given twice. -/
theorem readFrame_sound {σ : Type} [ByteSource σ] {input rest : σ}
    {next : FrameReader} {outcome : Poll (Except RelayError (Option Frame))}
    (sound : reader.Sound limits)
    (done : reader.readFrame input = (outcome, next, rest)) :
    next.Sound limits ∧
      (∀ frame, outcome = .ready (.ok (some frame)) →
        ∃ wire : WireFrame, Bytes.ofText frame.raw = wire.bytes ∧
          frame.instruction = wire.instruction) ∧
      ∃ got, Obtains input got rest ∧
        reader.buffer ++ got = gone outcome ++ next.buffer := by
  fun_induction readFrame reader input with
  | case1 reader input frame length holds =>
      simp only [Prod.mk.injEq] at done
      obtain ⟨rfl, rfl, rfl⟩ := done
      -- a frame is given, and the rest of the buffer is looked at
      obtain ⟨found, fresh⟩ := sound.frame holds
      obtain ⟨wire, more, split, extent, instruction, raw, -⟩ :=
        Decoder.decode_frame_shape found
      refine ⟨?_, ?_, [], .nothing input, ?_⟩
      · apply Looks.sound
        apply scan_looks
        change reader.decoder.decode _ = _
        rw [fresh]
      · intro other same
        cases same
        exact ⟨wire, raw, instruction⟩
      · rw [scan_buffer, List.append_nil, split, extent, List.drop_left, gone,
          raw]
  | case2 reader input cause holds =>
      simp only [Prod.mk.injEq] at done
      obtain ⟨rfl, rfl, rfl⟩ := done
      refine ⟨⟨_, sound.malformed holds, Or.inr ⟨rfl, cause, rfl⟩⟩, ?_, [],
        .nothing input, ?_⟩
      · intro frame impossible
        cases impossible
      · exact List.append_nil _
  | case3 reader input waits ended =>
      simp only [Prod.mk.injEq] at done
      obtain ⟨rfl, rfl, rfl⟩ := done
      refine ⟨sound, ?_, [], .nothing input, ?_⟩
      · intro frame impossible
        unfold atEnd at impossible
        split at impossible <;> cases impossible
      · unfold atEnd
        split <;> exact List.append_nil _
  | case4 reader input waits ended grown stream step =>
      simp only [Prod.mk.injEq] at done
      obtain ⟨rfl, rfl, rfl⟩ := done
      refine ⟨sound.reserve, ?_, [], Obtains.one step, ?_⟩
      · intro frame impossible
        cases impossible
      · rw [List.append_nil]
        exact reserve_buffer.symm
  | case5 reader input waits ended grown fault stream step =>
      simp only [Prod.mk.injEq] at done
      obtain ⟨rfl, rfl, rfl⟩ := done
      refine ⟨sound.reserve, ?_, [], Obtains.one step, ?_⟩
      · intro frame impossible
        cases impossible
      · rw [List.append_nil]
        exact reserve_buffer.symm
  | case6 reader input waits ended grown stream step last =>
      simp only [Prod.mk.injEq] at done
      obtain ⟨rfl, rfl, rfl⟩ := done
      refine ⟨sound.reserve, ?_, [], Obtains.one step, ?_⟩
      · intro frame impossible
        unfold atEnd at impossible
        split at impossible <;> cases impossible
      · unfold atEnd
        rw [List.append_nil]
        split <;> exact reserve_buffer.symm
  | case7 reader input waits ended grown byte bytes stream step ih =>
      -- bytes came in: the loop goes round with them behind the buffer
      have looked : (grown.scan (grown.buffer ++ byte :: bytes)).Looks limits :=
        scan_looks (sound.reserve.goes_on _)
      obtain ⟨kept, shaped, got, obtained, conserved⟩ := ih looked.sound done
      refine ⟨kept, shaped, byte :: bytes ++ got, Obtains.cons step obtained, ?_⟩
      rw [← conserved, scan_buffer, List.append_assoc]
      congr 1
      exact reserve_buffer.symm

end FrameReader

end TunnelRelay
