import TunnelRelay.Proofs.Frame.Faults

/-!
Draining a buffer again and again.

One decoder drains one buffer, and between two drains bytes join the buffer. Whatever has happened,
the progress of the decoder belongs to the buffer: going on from it is starting over. So a drain
loses no byte and gives none twice, and a drain that fails leaves everything as it was, ready to
fail again.
-/

namespace TunnelRelay

namespace Decoder

variable {limits : Limits} {decoder next : Decoder} {buffer : Bytes}

/-- The progress lies within the buffer. Going on from it, whatever joins the
buffer, is starting over. -/
structure BelongsTo (decoder : Decoder) (buffer : Bytes) : Prop where
  fits : decoder.progress.Fits buffer
  resumes : ∀ more, decoder.decode (buffer ++ more) =
    decoder.reset.decode (buffer ++ more)

theorem belongsTo_fresh (limits : Limits) (buffer : Bytes) :
    Decoder.BelongsTo { limits } buffer where
  fits := Progress.fits_initial buffer
  resumes _ := rfl

theorem BelongsTo.append (belongs : decoder.BelongsTo buffer) (more : Bytes) :
    decoder.BelongsTo (buffer ++ more) where
  fits := belongs.fits.append more
  resumes further := by
    rw [List.append_assoc]
    exact belongs.resumes (more ++ further)

theorem BelongsTo.decode (belongs : decoder.BelongsTo buffer) :
    decoder.decode buffer = decoder.reset.decode buffer := by
  have same := belongs.resumes []
  rw [List.append_nil] at same
  exact same

/-- What a fresh decoder has learnt about a buffer belongs to it, and it learns
nothing more from the same buffer. -/
theorem decode_waiting (waits : Decoder.decode { limits } buffer = (.incomplete, next)) :
    next.BelongsTo buffer ∧ next.limits = limits ∧
      next.decode buffer = (.incomplete, next) := by
  have fresh := Progress.fits_initial buffer
  have resumed := fun more => decode_resumed fresh waits more
  obtain ⟨-, fits, same, -⟩ := resumed []
  have resumes : ∀ more, next.decode (buffer ++ more) =
      next.reset.decode (buffer ++ more) := by
    intro more
    rw [← (resumed more).2.2.2, reset, same]
  refine ⟨⟨fits, resumes⟩, same, ?_⟩
  have again := resumes []
  rw [List.append_nil, reset, same] at again
  exact again.trans waits

theorem BelongsTo.takeFrames (belongs : decoder.BelongsTo buffer)
    (frames : List Frame) :
    Intake.takeFrames decoder buffer frames =
      Intake.takeFrames decoder.reset buffer frames := by
  rw [Intake.takeFrames, belongs.decode, ← Intake.takeFrames]

/-! ### One drain -/

theorem BelongsTo.drain_sound {frames : List Frame} {rest : Bytes}
    (belongs : decoder.BelongsTo buffer)
    (drained : decoder.drain buffer = (.ok frames, rest, next)) :
    Frame.received frames ++ rest = buffer ∧
      next.decode rest = (.incomplete, next) ∧ next.BelongsTo rest ∧
      next.limits = decoder.limits := by
  have same := belongs.takeFrames []
  cases fault : (Intake.takeFrames decoder buffer []).fault with
  | some cause =>
      rw [drain_of_fault fault] at drained
      cases drained
  | none =>
      rw [drain_of_sound fault] at drained
      simp only [Prod.mk.injEq, Except.ok.injEq] at drained
      obtain ⟨rfl, rfl, rfl⟩ := drained
      rw [same] at fault ⊢
      obtain ⟨kept, limits, again⟩ :=
        decode_waiting (Intake.takeFrames_decoder rfl fault)
      exact ⟨Intake.received_takeFrames decoder.limits buffer, again, kept,
        limits⟩

theorem BelongsTo.drain_fault {rest : Bytes} {cause : Malformed}
    (belongs : decoder.BelongsTo buffer)
    (drained : decoder.drain buffer = (.error cause, rest, next)) :
    rest = buffer ∧ next = decoder.reset ∧
      ∀ more, next.drain (rest ++ more) = (.error cause, rest ++ more, next) := by
  have same := belongs.takeFrames []
  cases fault : (Intake.takeFrames decoder buffer []).fault with
  | none =>
      rw [drain_of_sound fault] at drained
      cases drained
  | some found =>
      rw [drain_of_fault fault] at drained
      simp only [Prod.mk.injEq, Except.error.injEq] at drained
      obtain ⟨rfl, rfl, rfl⟩ := drained
      rw [same] at fault ⊢
      have fresh := FilteredWriter.takeFrames_decoder_of_fault fault
      refine ⟨rfl, fresh, ?_⟩
      intro more
      have faulty := (Intake.takeFrames_fault (Progress.fits_initial buffer)
        fault more).2
      rw [fresh]
      exact (drain_of_fault faulty).trans
        (by rw [FilteredWriter.takeFrames_decoder_of_fault faulty])

/-! ### Drains and appends in any order -/

/-- What is done with a decoder and its buffer. -/
inductive Handling where
  | append (bytes : Bytes)
  | drain
  deriving DecidableEq, Repr

def handle : Decoder × Bytes → Handling → Decoder × Bytes
  | (decoder, buffer), .append bytes => (decoder, buffer ++ bytes)
  | (decoder, buffer), .drain =>
      let (_, rest, next) := decoder.drain buffer
      (next, rest)

theorem BelongsTo.handle (belongs : decoder.BelongsTo buffer)
    (handling : Handling) :
    (Decoder.handle (decoder, buffer) handling).1.BelongsTo
      (Decoder.handle (decoder, buffer) handling).2 := by
  cases handling with
  | append bytes => exact belongs.append bytes
  | drain =>
      rcases drained : decoder.drain buffer with ⟨cause | frames, rest, next⟩
      · simp only [Decoder.handle, drained]
        obtain ⟨-, rfl, -⟩ := belongs.drain_fault drained
        exact belongsTo_fresh decoder.limits rest
      · simp only [Decoder.handle, drained]
        exact (belongs.drain_sound drained).2.2.1

theorem BelongsTo.handleAll (belongs : decoder.BelongsTo buffer)
    (handlings : List Handling) :
    (handlings.foldl Decoder.handle (decoder, buffer)).1.BelongsTo
      (handlings.foldl Decoder.handle (decoder, buffer)).2 := by
  induction handlings generalizing decoder buffer with
  | nil => exact belongs
  | cons handling handlings ih => exact ih (belongs.handle handling)

/-- Whatever was drained and appended before, the progress of the decoder belongs
to its buffer, and the next drain does one of two things. It gives frames, which
are with the bytes left the bytes there were; the rest holds no further frame, and
the progress belongs to it. Or it fails: then the buffer is as it was, also the
frames before the malformed one, the decoder has no progress, and with any bytes
appended the next drain fails in the same way. -/
theorem drain_conserves (limits : Limits) (handlings : List Handling) :
    let (decoder, buffer) := handlings.foldl handle ({ limits }, [])
    decoder.BelongsTo buffer ∧
      match decoder.drain buffer with
      | (.ok frames, rest, next) =>
          Frame.received frames ++ rest = buffer ∧
            next.decode rest = (.incomplete, next) ∧ next.BelongsTo rest
      | (.error cause, rest, next) =>
          rest = buffer ∧ next.scanned = 0 ∧ next.progress = {} ∧
            ∀ more, next.drain (rest ++ more) =
              (.error cause, rest ++ more, next) := by
  have belongs := (belongsTo_fresh limits []).handleAll handlings
  generalize handlings.foldl handle ({ limits }, []) = state at belongs ⊢
  obtain ⟨decoder, buffer⟩ := state
  refine ⟨belongs, ?_⟩
  rcases drained : decoder.drain buffer with ⟨cause | frames, rest, next⟩
  · obtain ⟨whole, rfl, again⟩ := belongs.drain_fault drained
    exact ⟨whole, rfl, rfl, again⟩
  · obtain ⟨whole, again, kept, -⟩ := belongs.drain_sound drained
    exact ⟨whole, again, kept⟩

example : client.drain (Bytes.ofText "3.nop;x;") =
    (.error .lengthNotNumeric, Bytes.ofText "3.nop;x;", client) := by
  decide +kernel

end Decoder

end TunnelRelay
