import TunnelRelay.Frame.FilteredWriter
import TunnelRelay.Proofs.Frame.Interrupted

/-!
Malformed bytes put an end to a stream.

Where decoding has failed, the malformed bytes stay at the front of the buffer, and decoding starts
over with them. Whatever arrives behind them, it comes to the same end. So a reader never gives
what stands behind malformed bytes, and a filtered writer never forwards it.
-/

namespace TunnelRelay

/-! ### Readers -/

namespace FrameReader

variable {limits : Limits} {reader next : FrameReader} {cause : Malformed}

/-- A read for a caller that wants a part of each frame: its instruction, its
bytes as they were received, or all of it. -/
def readAs {σ α : Type} [ByteSource σ] (view : Frame → α) (reader : FrameReader)
    (input : σ) : Poll (Except RelayError (Option α)) × FrameReader × σ :=
  match reader.readFrame input with
  | (.parked, rest) => (.parked, rest)
  | (.ready outcome, rest) => (.ready (outcome.map (·.map view)), rest)

/-- Reads one after another. Each finds the stream as it is by then, whatever has
happened to it in between. -/
def readEach {σ : Type} [ByteSource σ] (reader : FrameReader) :
    List σ → List (Poll (Except RelayError (Option Frame))) × FrameReader
  | [] => ([], reader)
  | input :: inputs =>
      let (outcome, next, _) := reader.readFrame input
      let (outcomes, last) := next.readEach inputs
      (outcome :: outcomes, last)

/-- A read of a stream fails: because of malformed bytes, because of the end of
the stream, or because the stream fails. It waits only if the stream has nothing
to give and has not ended. -/
inductive Denied {σ α : Type} [ByteSource σ] (cause : Malformed) (input : σ) :
    Poll (Except RelayError (Option α)) → Prop
  | waits (room : Nat) (nothing : (ByteSource.read input room).1 = .parked) :
      Denied cause input .parked
  | malformed : Denied cause input (.ready (.error (.malformed cause)))
  | ended : Denied cause input (.ready (.error (.malformed .streamEnded)))
  | failed (fault : IoFault) :
      Denied cause input (.ready (.error (.ofSocket fault)))

/-- Every read fails, whatever the stream is. -/
def Barren (cause : Malformed) (reader : FrameReader) : Prop :=
  ∀ (σ α : Type) [ByteSource σ] (view : Frame → α) (input : σ),
    Denied cause input (reader.readAs view input).1

/-- The reader has told that the bytes in its buffer are malformed, or that the
stream has ended inside a frame. -/
structure Stuck (limits : Limits) (cause : Malformed) (reader : FrameReader) :
    Prop where
  told : reader.next = none
  remains : Decoder.decode { limits } reader.buffer =
      (.malformed cause, reader.decoder) ∨
    reader.ended = true ∧ reader.buffer ≠ []

theorem readFrame_malformed {σ : Type} [ByteSource σ] (input : σ)
    (holds : reader.next = some (.error cause)) :
    reader.readFrame input =
      (.ready (.error (.malformed cause)), reader.forget, input) := by
  rw [readFrame.eq_def]
  simp only [holds]

theorem Stuck.buffer_ne_nil (room : limits.elements ≠ some 0)
    (stuck : reader.Stuck limits cause) : reader.buffer ≠ [] := by
  rcases stuck.remains with found | ⟨-, some⟩
  · intro empty
    rw [empty, Intake.decode_empty room] at found
    cases found
  · exact some

theorem Stuck.reserve (stuck : reader.Stuck limits cause) :
    reader.reserve.Stuck limits cause := by
  unfold FrameReader.reserve
  split
  · exact ⟨stuck.told, stuck.remains⟩
  · exact stuck

theorem scan_malformed
    (found : Decoder.decode { limits } reader.buffer =
      (.malformed cause, reader.decoder)) (more : Bytes) :
    (reader.scan (reader.buffer ++ more)).next = some (.error cause) ∧
      Decoder.decode { limits } (reader.buffer ++ more) =
        (.malformed cause, (reader.scan (reader.buffer ++ more)).decoder) := by
  have fresh := Decoder.decode_settled_fresh found (by simp)
  have again := Decoder.decode_settled_append found (by simp) more
  have looks : (reader.scan (reader.buffer ++ more)).Looks limits := by
    apply scan_looks
    rw [fresh]
    rfl
  obtain ⟨decoded, finds, holds⟩ := looks
  rw [scan_buffer] at finds
  obtain rfl := congrArg Prod.fst (finds.symm.trans again)
  exact ⟨holds, finds⟩

theorem Stuck.readFrame {σ : Type} [ByteSource σ] {input rest : σ}
    {outcome : Poll (Except RelayError (Option Frame))}
    (room : limits.elements ≠ some 0) (stuck : reader.Stuck limits cause)
    (done : reader.readFrame input = (outcome, next, rest)) :
    next.Stuck limits cause ∧ Denied cause input outcome := by
  have atEnd : ∀ {reader : FrameReader}, reader.buffer ≠ [] →
      reader.atEnd = .error (.malformed .streamEnded) :=
    fun some => if_neg (some ∘ List.isEmpty_iff.mp)
  fun_induction FrameReader.readFrame reader input with
  | case1 reader input frame length holds =>
      rw [stuck.told] at holds
      cases holds
  | case2 reader input other holds =>
      rw [stuck.told] at holds
      cases holds
  | case3 reader input waits ended =>
      rw [atEnd (stuck.buffer_ne_nil room)] at done
      cases done
      exact ⟨stuck, .ended⟩
  | case4 reader input waits open_ grown after given =>
      simp only [Prod.mk.injEq] at done
      obtain ⟨rfl, rfl, rfl⟩ := done
      exact ⟨stuck.reserve, .waits grown.room (by rw [given])⟩
  | case5 reader input waits open_ grown fault after given =>
      simp only [Prod.mk.injEq] at done
      obtain ⟨rfl, rfl, rfl⟩ := done
      exact ⟨stuck.reserve, .failed fault⟩
  | case6 reader input waits open_ grown after given last =>
      have some : grown.buffer ≠ [] := stuck.reserve.buffer_ne_nil room
      have early : last.atEnd = _ := atEnd some
      rw [early] at done
      simp only [Prod.mk.injEq] at done
      obtain ⟨rfl, rfl, rfl⟩ := done
      exact ⟨⟨stuck.reserve.told, .inr ⟨rfl, some⟩⟩, .ended⟩
  | case7 reader input waits open_ grown byte bytes after given ih =>
      -- the bytes that arrive join the malformed ones, which are found again
      rcases stuck.reserve.remains with found | ⟨ended, -⟩
      · obtain ⟨holds, again⟩ := scan_malformed found (byte :: bytes)
        rw [readFrame_malformed _ holds] at done
        simp only [Prod.mk.injEq] at done
        obtain ⟨rfl, rfl, rfl⟩ := done
        exact ⟨⟨rfl, .inl again⟩, .malformed⟩
      · rw [reserve_ended] at ended
        exact absurd ended open_

theorem Sound.stuck {σ : Type} [ByteSource σ] {input rest : σ}
    (sound : reader.Sound limits)
    (done : reader.readFrame input =
      (.ready (.error (.malformed cause)), next, rest)) :
    next.Stuck limits cause := by
  have atEnd : ∀ {reader : FrameReader} {cause : Malformed},
      reader.atEnd = .error (.malformed cause) → reader.buffer ≠ [] := by
    intro reader cause ended empty
    rw [FrameReader.atEnd, empty] at ended
    cases ended
  fun_induction FrameReader.readFrame reader input with
  | case1 reader input frame length holds => cases done
  | case2 reader input other holds =>
      cases done
      exact ⟨rfl, .inl (sound.malformed holds)⟩
  | case3 reader input waits ended =>
      simp only [Prod.mk.injEq, Poll.ready.injEq] at done
      obtain ⟨early, rfl, -⟩ := done
      exact ⟨waits, .inr ⟨ended, atEnd early⟩⟩
  | case4 reader input waits open_ grown after given => cases done
  | case5 reader input waits open_ grown fault after given =>
      simp only [Prod.mk.injEq, Poll.ready.injEq, Except.error.injEq] at done
      exact absurd done.1 (RelayError.ofSocket_ne_malformed fault cause)
  | case6 reader input waits open_ grown after given last =>
      simp only [Prod.mk.injEq, Poll.ready.injEq] at done
      obtain ⟨early, rfl, -⟩ := done
      exact ⟨reserve_next.trans waits, .inr ⟨rfl, atEnd early⟩⟩
  | case7 reader input waits open_ grown byte bytes after given ih =>
      have looked : (grown.scan (grown.buffer ++ byte :: bytes)).Looks limits :=
        scan_looks (sound.reserve.goes_on _)
      exact ih looked.sound done

theorem Stuck.barren (room : limits.elements ≠ some 0)
    (stuck : reader.Stuck limits cause) : reader.Barren cause := by
  intro σ α source view input
  unfold readAs
  rcases reading : reader.readFrame input with ⟨outcome, rest⟩
  have denied := (stuck.readFrame room reading).2
  cases denied with
  | waits room nothing => exact .waits room nothing
  | malformed => exact .malformed
  | ended => exact .ended
  | failed fault => exact .failed fault

theorem Stuck.readEach {σ : Type} [ByteSource σ] (inputs : List σ)
    (room : limits.elements ≠ some 0) (stuck : reader.Stuck limits cause) :
    (reader.readEach inputs).2.Stuck limits cause := by
  induction inputs generalizing reader with
  | nil => exact stuck
  | cons input inputs ih =>
      rcases reading : reader.readFrame input with ⟨outcome, next, rest⟩
      simp only [FrameReader.readEach, reading]
      exact ih (stuck.readFrame room reading).1

/-- Among reads of which one has told that bytes are malformed, that one is not
undone by the others. -/
theorem Sound.readEach_stuck {σ : Type} [ByteSource σ] {inputs : List σ}
    (room : limits.elements ≠ some 0) (sound : reader.Sound limits)
    (told : .ready (.error (.malformed cause)) ∈ (reader.readEach inputs).1) :
    (reader.readEach inputs).2.Stuck limits cause := by
  induction inputs generalizing reader with
  | nil => cases told
  | cons input inputs ih =>
      rcases reading : reader.readFrame input with ⟨outcome, next, rest⟩
      simp only [FrameReader.readEach, reading] at told ⊢
      rcases List.mem_cons.mp told with rfl | later
      · exact (sound.stuck reading).readEach inputs room
      · exact ih (readFrame_sound sound reading).1 later

end FrameReader

/-! ### Filtered writers -/

namespace FilteredWriter

variable {φ σ : Type} {cause : Malformed}

/-- Something that is done with a filtered writer. Each write finds the stream as
it is by then. -/
inductive Use (φ σ : Type) where
  | write (data : Bytes) (output : σ)
  | writeInstruction (instruction : Instruction) (output : σ)
  /-- What the filter remembers is changed, as when its replies are taken. -/
  | remember (change : φ → φ)

def use [ByteSink σ] (writer : FilteredWriter φ) : Use φ σ → FilteredWriter φ
  | .write data output => (writer.write data output).2.1
  | .writeInstruction instruction output =>
      (writer.writeInstruction instruction output).2.1
  | .remember change => { writer with memory := change writer.memory }

/-- The writer goes on with more data as if it started over with all that is
pending. -/
def GoesOn (writer : FilteredWriter φ) : Prop :=
  ∀ more, Intake.takeFrames writer.decoder (writer.pending ++ more) [] =
    Intake.takeFrames .client (writer.pending ++ more) []

/-- The decoder has started over in front of malformed bytes. -/
structure Broken (cause : Malformed) (writer : FilteredWriter φ) : Prop where
  decoder : writer.decoder = .client
  fault : (Intake.takeFrames .client writer.pending []).fault = some cause

theorem goesOn_fresh (filter : Filter φ) (memory : φ) :
    ({ filter, memory } : FilteredWriter φ).GoesOn :=
  fun _ => rfl

theorem takeFrames_goes_on {buffer : Bytes}
    (sound : (Intake.takeFrames .client buffer []).fault = none)
    (more : Bytes) :
    Intake.takeFrames (Intake.takeFrames .client buffer []).decoder
        ((Intake.takeFrames .client buffer []).left ++ more) [] =
      Intake.takeFrames .client
        ((Intake.takeFrames .client buffer []).left ++ more) [] := by
  have looked : Decoder.client.decode
      (Intake.takeFrames .client buffer []).left = _ :=
    Intake.takeFrames_decoder rfl sound
  have resumed := (Decoder.decode_resumed (Progress.fits_initial _) looked
    more).2.2.2
  rw [Intake.takeFrames, ← resumed, ← Intake.takeFrames]

theorem takeFrames_decoder_of_fault {decoder : Decoder} {buffer : Bytes}
    {frames : List Frame}
    (faulty : (Intake.takeFrames decoder buffer frames).fault = some cause) :
    (Intake.takeFrames decoder buffer frames).decoder = decoder.reset := by
  fun_induction Intake.takeFrames decoder buffer frames with
  | case1 decoder buffer frames next step => cases faulty
  | case2 decoder buffer frames cause next step =>
      exact Decoder.decode_settled_fresh step (by simp)
  | case3 decoder buffer frames frame length next step ih =>
      rw [ih faulty, Decoder.decode_frame_fresh step]
      rfl

variable {writer : FilteredWriter φ}

theorem GoesOn.accept (goesOn : writer.GoesOn) (data : Bytes) :
    (writer.accept data).2.GoesOn ∧
      ∀ cause, (writer.decoder.drain (writer.pending ++ data)).1 = .error cause →
        (writer.accept data).1 = .error (.badRequest cause.message) ∧
          (writer.accept data).2.Broken cause := by
  have whole := goesOn data
  cases fault : (Intake.takeFrames writer.decoder
      (writer.pending ++ data) []).fault with
  | none =>
      have drained := Decoder.drain_of_sound fault
      refine ⟨?_, fun cause failed => by rw [drained] at failed; cases failed⟩
      rw [whole] at fault
      intro more
      simp only [FilteredWriter.accept, drained, whole]
      exact takeFrames_goes_on fault more
  | some cause =>
      have drained := Decoder.drain_of_fault fault
      rw [whole] at fault drained
      have accepted : writer.accept data = (.error (.badRequest cause.message),
          { writer with pending := writer.pending ++ data, decoder := .client }) := by
        rw [FilteredWriter.accept, drained]
        simp only [takeFrames_decoder_of_fault fault]
        rfl
      rw [accepted]
      refine ⟨fun more => rfl, fun other failed => ?_⟩
      rw [drained] at failed
      cases failed
      exact ⟨rfl, rfl, fault⟩

theorem Broken.accept (broken : writer.Broken cause) (data : Bytes) :
    writer.accept data = (.error (.badRequest cause.message),
      { writer with pending := writer.pending ++ data }) := by
  have faulty := (Intake.takeFrames_fault (Progress.fits_initial _)
    broken.fault data).2
  have drained := Decoder.drain_of_fault faulty
  have fresh := takeFrames_decoder_of_fault faulty
  rw [FilteredWriter.accept, broken.decoder, drained]
  simp only [fresh]
  rfl

theorem Broken.append (broken : writer.Broken cause) (data : Bytes) :
    Broken cause { writer with pending := writer.pending ++ data } :=
  ⟨broken.decoder, (Intake.takeFrames_fault (Progress.fits_initial _)
    broken.fault data).2⟩

section

variable [ByteSink σ]

theorem write_writer (data : Bytes) (output : σ) :
    (writer.write data output).2.1 = (writer.accept data).2 := by
  unfold FilteredWriter.write
  split
  · rename_i accepted
    rw [accepted]
  · rename_i accepted
    rw [accepted]
    split <;> rfl

theorem writeInstruction_writer (instruction : Instruction) (output : σ) :
    (writer.writeInstruction instruction output).2.1 =
      { writer with memory := (writer.filter writer.memory instruction).2 } := by
  unfold FilteredWriter.writeInstruction FilteredWriter.acceptInstruction
  rcases writer.filter writer.memory instruction with ⟨passed, memory⟩
  rcases passed with error | (_ | instruction) <;> rfl

theorem Broken.write (broken : writer.Broken cause) (data : Bytes) (output : σ) :
    writer.write data output = ((.failed (.badRequest cause.message), 0),
      { writer with pending := writer.pending ++ data }, output) := by
  rw [FilteredWriter.write, broken.accept data]

theorem GoesOn.use (goesOn : writer.GoesOn) (done : Use φ σ) :
    (writer.use done).GoesOn := by
  cases done with
  | write data output =>
      change ((writer.write data output).2.1).GoesOn
      rw [write_writer]
      exact (goesOn.accept data).1
  | writeInstruction instruction output =>
      change ((writer.writeInstruction instruction output).2.1).GoesOn
      rw [writeInstruction_writer]
      exact goesOn
  | remember change => exact goesOn

theorem Broken.use (broken : writer.Broken cause) (done : Use φ σ) :
    (writer.use done).Broken cause := by
  cases done with
  | write data output =>
      change ((writer.write data output).2.1).Broken cause
      rw [broken.write]
      exact broken.append data
  | writeInstruction instruction output =>
      change ((writer.writeInstruction instruction output).2.1).Broken cause
      rw [writeInstruction_writer]
      exact ⟨broken.decoder, broken.fault⟩
  | remember change => exact ⟨broken.decoder, broken.fault⟩

theorem GoesOn.uses (goesOn : writer.GoesOn) (done : List (Use φ σ)) :
    (done.foldl FilteredWriter.use writer).GoesOn := by
  induction done generalizing writer with
  | nil => exact goesOn
  | cons first done ih => exact ih (goesOn.use first)

theorem Broken.uses (broken : writer.Broken cause) (done : List (Use φ σ)) :
    (done.foldl FilteredWriter.use writer).Broken cause := by
  induction done generalizing writer with
  | nil => exact broken
  | cons first done ih => exact ih (broken.use first)

end

theorem Broken.finish (broken : writer.Broken cause) :
    writer.finish = .error (.badRequest "Incomplete instruction.") := by
  have some : writer.pending ≠ [] := by
    intro empty
    have faulty := broken.fault
    have waits : Decoder.client.decode [] = (.incomplete, .client) :=
      Intake.decode_empty (by decide)
    rw [empty, Intake.takeFrames_incomplete waits] at faulty
    cases faulty
  exact if_neg (some ∘ List.isEmpty_iff.mp)

end FilteredWriter

/-! ### No way back -/

/-- What a decoder says of a frame, or of malformed bytes, it says of every longer
buffer. So once a reader has told that bytes are malformed, every read fails,
whatever the stream brings, whatever part of a frame is asked for. And once a
filtered writer has failed on malformed data, every write fails in the same way
whatever it is given: it forwards nothing and asks no filter. The data cannot be
brought to an end either. -/
theorem malformed_is_final :
    (∀ (limits : Limits) (buffer more : Bytes) (decoded : Decoded)
      (next : Decoder), Decoder.decode { limits } buffer = (decoded, next) →
      decoded ≠ .incomplete →
      Decoder.decode { limits } (buffer ++ more) = (decoded, next)) ∧
    (∀ (limits : Limits), limits = .client ∨ limits = .unbounded →
      ∀ {σ : Type} [ByteSource σ] (inputs : List σ) (cause : Malformed),
      let reader : FrameReader := { decoder := { limits } }
      .ready (.error (.malformed cause)) ∈ (reader.readEach inputs).1 →
      (reader.readEach inputs).2.Barren cause) ∧
    ∀ {φ σ : Type} [ByteSink σ] (filter : Filter φ) (memory : φ)
      (before after : List (FilteredWriter.Use φ σ)) (data : Bytes)
      (output : σ) (cause : Malformed),
      let writer := before.foldl FilteredWriter.use { filter, memory }
      (writer.decoder.drain (writer.pending ++ data)).1 = .error cause →
      let (outcome, failed, left) := writer.write data output
      let later := after.foldl FilteredWriter.use failed
      outcome = (.failed (.badRequest cause.message), 0) ∧ left = output ∧
        (∀ (filter : Filter φ) (data : Bytes) (output : σ),
          FilteredWriter.write { later with filter } data output =
            ((.failed (.badRequest cause.message), 0),
              { later with filter, pending := later.pending ++ data }, output)) ∧
        later.finish = .error (.badRequest "Incomplete instruction.") := by
  refine ⟨?_, ?_, ?_⟩
  · intro limits buffer more decoded next found settled
    exact Decoder.decode_settled_append found settled more
  · intro limits side σ source inputs cause reader told
    have room : limits.elements ≠ some 0 := by
      rcases side with rfl | rfl <;> decide
    have sound : reader.Sound limits := (FrameReader.looks_fresh room).sound
    have stuck := sound.readEach_stuck room told
    exact stuck.barren room
  · intro φ σ sink filter memory before after data output cause writer failing
    have goesOn : writer.GoesOn :=
      (FilteredWriter.goesOn_fresh filter memory).uses before
    obtain ⟨refused, broken⟩ := (goesOn.accept data).2 cause failing
    rcases accepting : writer.accept data with ⟨outcome, failed⟩
    rw [accepting] at refused broken
    rw [FilteredWriter.write, accepting]
    cases refused
    have later := FilteredWriter.Broken.uses broken after
    refine ⟨rfl, rfl, ?_, later.finish⟩
    intro filter data output
    have other : FilteredWriter.Broken cause
        { after.foldl FilteredWriter.use failed with filter } :=
      ⟨later.decoder, later.fault⟩
    exact other.write data output

/-- A length that is none, with a good frame behind it, and the same inside data
for guacd. -/
theorem malformed_is_final_lengths :
    let decoder : Decoder := { limits := .client }
    let reader : FrameReader := { decoder := { limits := .client } }
    let inputs : List Source := [⟨[.ok (Bytes.ofText "x;3.nop;")]⟩, ⟨[]⟩]
    let writer : FilteredWriter (List Instruction) :=
      { filter := internalFilter, memory := [] }
    let before : List (FilteredWriter.Use (List Instruction) Sink) :=
      [.write (Bytes.ofText "4.sync;3.n") {}, .remember id]
    let data := Bytes.ofText "opx;3.nop;"
    (decoder.decode [0x78] = (.malformed .lengthNotNumeric, decoder) ∧
      Decoded.malformed .lengthNotNumeric ≠ .incomplete ∧
      decoder.decode ([0x78] ++ Bytes.ofText ";3.nop;") =
        (.malformed .lengthNotNumeric, decoder)) ∧
    ((Limits.client = .client ∨ Limits.client = .unbounded) ∧
      .ready (.error (.malformed .lengthNotNumeric)) ∈
        (reader.readEach inputs).1 ∧
      (reader.readEach inputs).2.Barren .lengthNotNumeric) ∧
    ((before.foldl FilteredWriter.use writer).decoder.drain
        ((before.foldl FilteredWriter.use writer).pending ++ data)).1 =
      .error .badTerminator ∧
      ((before.foldl FilteredWriter.use writer).write data
          ({} : Sink)).2.1.finish =
        .error (.badRequest "Incomplete instruction.") := by
  intro decoder reader inputs writer before data
  have found : decoder.decode [0x78] = (.malformed .lengthNotNumeric, decoder) := by
    decide +kernel
  have told : .ready (.error (.malformed .lengthNotNumeric)) ∈
      (reader.readEach inputs).1 := by
    decide +kernel
  have failing : ((before.foldl FilteredWriter.use writer).decoder.drain
      ((before.foldl FilteredWriter.use writer).pending ++ data)).1 =
        .error .badTerminator := by
    decide +kernel
  obtain ⟨longer, reads, writes⟩ := malformed_is_final
  have later := writes internalFilter [] before [] data {} _ failing
  exact ⟨⟨found, by decide, longer .client [0x78] _ _ _ found (by decide)⟩,
    ⟨.inl rfl, told, reads .client (.inl rfl) inputs _ told⟩, failing, later.2.2.2⟩

end TunnelRelay
