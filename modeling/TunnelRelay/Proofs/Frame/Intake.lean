import TunnelRelay.Proofs.Frame.Resumption

/-!
Taking frames from a byte string that arrives in chunks.

An `Intake` is one decoder and one buffer. Each chunk joins the buffer, and frames are taken off
its front until one is incomplete or malformed; a malformed frame ends the intake. How a byte
string is cut into chunks makes no difference to what is taken from it.
-/

namespace TunnelRelay

/-- A decoder and its buffer, with the frames taken so far and what ended the
intake. -/
structure Intake where
  decoder : Decoder
  left : Bytes := []
  frames : List Frame := []
  fault : Option Malformed := none
  deriving DecidableEq, Repr

namespace Intake

def takeFrames (decoder : Decoder) (buffer : Bytes) (frames : List Frame) :
    Intake :=
  match _step : decoder.decode buffer with
  | (.incomplete, decoder) => { decoder, left := buffer, frames }
  | (.malformed cause, decoder) =>
      { decoder, left := buffer, frames, fault := some cause }
  | (.frame frame length, decoder) =>
      takeFrames decoder (buffer.drop length) (frames ++ [frame])
termination_by buffer.length
decreasing_by
  have bounds := Decoder.decode_frame_length _step
  simp only [List.length_drop]
  omega

def append (intake : Intake) (chunk : Bytes) : Intake :=
  match intake.fault with
  | some _ => intake
  | none =>
      takeFrames intake.decoder (intake.left ++ chunk) intake.frames

/-- Everything taken from chunks that arrive one after another. -/
def ofChunks (limits : Limits) (chunks : List Bytes) : Intake :=
  chunks.foldl append { decoder := { limits } }

/-! ### One round of taking frames -/

theorem takeFrames_incomplete {decoder next : Decoder} {buffer : Bytes}
    (step : decoder.decode buffer = (.incomplete, next))
    (frames : List Frame) :
    takeFrames decoder buffer frames =
      { decoder := next, left := buffer, frames } := by
  rw [takeFrames, step]

theorem takeFrames_malformed {decoder next : Decoder} {buffer : Bytes}
    {cause : Malformed} (step : decoder.decode buffer = (.malformed cause, next))
    (frames : List Frame) :
    takeFrames decoder buffer frames =
      { decoder := next, left := buffer, frames, fault := some cause } := by
  rw [takeFrames, step]

theorem takeFrames_frame {decoder next : Decoder} {buffer : Bytes}
    {frame : Frame} {length : Nat}
    (step : decoder.decode buffer = (.frame frame length, next))
    (frames : List Frame) :
    takeFrames decoder buffer frames =
      takeFrames next (buffer.drop length) (frames ++ [frame]) := by
  rw [takeFrames, step]

/-! ### Taking frames from a longer buffer -/

theorem takeFrames_append {decoder : Decoder} {buffer : Bytes}
    {frames : List Frame} (fits : decoder.progress.Fits buffer)
    (sound : (takeFrames decoder buffer frames).fault = none)
    (more : Bytes) :
    takeFrames decoder (buffer ++ more) frames =
      (takeFrames decoder buffer frames).append more := by
  fun_induction takeFrames decoder buffer frames with
  | case1 decoder buffer frames next step =>
      have resumed := Decoder.decode_resumed fits step more
      simp only [append]
      rw [takeFrames, resumed.2.2.2, ← takeFrames]
  | case2 decoder buffer frames cause next step => cases sound
  | case3 decoder buffer frames frame length next step ih =>
      have bounds := Decoder.decode_frame_length step
      have same := Decoder.decode_append fits (by simp [step]) more
      rw [step] at same
      cases Decoder.decode_frame_fresh step
      rw [takeFrames_frame same, List.drop_append_of_le_length bounds.2]
      exact ih (Progress.fits_initial _) sound

theorem takeFrames_fault {decoder : Decoder} {buffer : Bytes}
    {frames : List Frame} {cause : Malformed}
    (fits : decoder.progress.Fits buffer)
    (faulty : (takeFrames decoder buffer frames).fault = some cause)
    (more : Bytes) :
    (takeFrames decoder (buffer ++ more) frames).frames =
        (takeFrames decoder buffer frames).frames ∧
      (takeFrames decoder (buffer ++ more) frames).fault = some cause := by
  fun_induction takeFrames decoder buffer frames with
  | case1 decoder buffer frames next step => cases faulty
  | case2 decoder buffer frames cause next step =>
      have same := Decoder.decode_append fits (by simp [step]) more
      rw [step] at same
      rw [takeFrames_malformed same]
      exact ⟨rfl, faulty⟩
  | case3 decoder buffer frames frame length next step ih =>
      have bounds := Decoder.decode_frame_length step
      have same := Decoder.decode_append fits (by simp [step]) more
      rw [step] at same
      cases Decoder.decode_frame_fresh step
      rw [takeFrames_frame same, List.drop_append_of_le_length bounds.2]
      exact ih (Progress.fits_initial _) faulty

/-! ### What an intake keeps -/

theorem takeFrames_frames_prefix (decoder : Decoder) (buffer : Bytes)
    (frames : List Frame) :
    frames <+: (takeFrames decoder buffer frames).frames := by
  fun_induction takeFrames decoder buffer frames with
  | case1 => exact List.prefix_rfl
  | case2 => exact List.prefix_rfl
  | case3 decoder buffer frames frame length next step ih =>
      exact (List.prefix_append frames [frame]).trans ih

theorem takeFrames_decoder {limits : Limits} {decoder : Decoder}
    {buffer : Bytes} {frames : List Frame} (fresh : decoder = { limits })
    (sound : (takeFrames decoder buffer frames).fault = none) :
    Decoder.decode { limits } (takeFrames decoder buffer frames).left =
      (.incomplete, (takeFrames decoder buffer frames).decoder) := by
  fun_induction takeFrames decoder buffer frames with
  | case1 decoder buffer frames next step =>
      rw [← fresh]
      exact step
  | case2 decoder buffer frames cause next step => cases sound
  | case3 decoder buffer frames frame length next step ih =>
      apply ih _ sound
      rw [Decoder.decode_frame_fresh step, fresh]
      rfl

theorem append_scanned {intake : Intake} {chunk : Bytes}
    (sound : intake.fault = none)
    (fits : intake.decoder.progress.Fits intake.left)
    (later : (intake.append chunk).fault = none)
    (same : (intake.append chunk).frames = intake.frames) :
    intake.decoder.scanned ≤ (intake.append chunk).decoder.scanned := by
  simp only [append, sound] at later same ⊢
  have longer := fits.append chunk
  cases step : intake.decoder.decode (intake.left ++ chunk) with
  | mk decoded next =>
      cases decoded with
      | incomplete =>
          rw [takeFrames_incomplete step]
          exact (Decoder.decode_resumed longer step []).1
      | malformed cause =>
          rw [takeFrames_malformed step] at later
          cases later
      | frame frame length =>
          rw [takeFrames_frame step] at same
          have kept := takeFrames_frames_prefix next
            ((intake.left ++ chunk).drop length) (intake.frames ++ [frame])
          rw [same] at kept
          have short := kept.length_le
          rw [List.length_append, List.length_singleton] at short
          omega

/-! ### Chunks -/

/-- Two intakes have taken the same; without a fault they are the same. -/
def Agrees (pieces whole : Intake) : Prop :=
  pieces.frames = whole.frames ∧ pieces.fault = whole.fault ∧
    (pieces.fault = none → pieces = whole)

/-- The intake of some bytes, continued with chunks, agrees with the intake of
all the bytes. -/
theorem foldl_append_agrees {limits : Limits} {intake : Intake}
    {buffer : Bytes} (chunks : List Bytes)
    (agrees : intake.Agrees (takeFrames { limits } buffer [])) :
    (chunks.foldl append intake).Agrees
      (takeFrames { limits } (buffer ++ chunks.flatten) []) := by
  induction chunks generalizing intake buffer with
  | nil =>
      rw [List.flatten_nil, List.append_nil]
      exact agrees
  | cons chunk chunks ih =>
      rw [List.foldl_cons, List.flatten_cons, ← List.append_assoc]
      apply ih
      have fits := Progress.fits_initial buffer
      cases faults : intake.fault with
      | none =>
          have same := agrees.2.2 faults
          have sound := faults
          rw [same] at sound
          rw [takeFrames_append fits sound chunk, ← same]
          exact ⟨rfl, rfl, fun _ => rfl⟩
      | some cause =>
          have faulty := agrees.2.1.symm.trans faults
          have kept := takeFrames_fault fits faulty chunk
          have unchanged : intake.append chunk = intake := by
            simp only [append, faults]
          rw [unchanged]
          refine ⟨agrees.1.trans kept.1.symm, faults.trans kept.2.symm, ?_⟩
          intro sound
          rw [faults] at sound
          cases sound

theorem ofChunks_singleton (limits : Limits) (bytes : Bytes) :
    ofChunks limits [bytes] = takeFrames { limits } bytes [] := rfl

theorem decode_empty {limits : Limits} (room : limits.elements ≠ some 0) :
    Decoder.decode { limits } [] = (.incomplete, { limits }) := by
  have few : ¬ limits.elements.any (· ≤ 0) = true := by
    cases bound : limits.elements with
    | none => simp
    | some most =>
        rw [bound] at room
        simpa using room
  have step : advanceElement limits [] {} [] = .incomplete {} := by
    simp only [advanceElement, nextElement, List.length_nil]
    rw [if_neg few]
    rfl
  have scan : scanFrom limits [] {} [] = .incomplete {} := by
    rw [scanFrom, step]
  simp [Decoder.decode, scan]

theorem ofChunks_agrees {limits : Limits} (room : limits.elements ≠ some 0)
    (chunks : List Bytes) :
    (ofChunks limits chunks).Agrees
      (takeFrames { limits } chunks.flatten []) := by
  have nothing : ({ decoder := { limits } } : Intake).Agrees
      (takeFrames { limits } [] []) := by
    rw [takeFrames_incomplete (decode_empty room)]
    exact ⟨rfl, rfl, fun _ => rfl⟩
  exact foldl_append_agrees chunks nothing

/-- However a byte string is cut into chunks, the same frames are taken from
it, the same fault ends the intake, and without a fault the same bytes are
left, with the progress that a fresh decoder makes in them. The progress lies
within them, and grows while no frame is taken. -/
theorem ofChunks_eq_whole (limits : Limits)
    (side : limits = .client ∨ limits = .unbounded) (chunks : List Bytes) :
    let pieces := ofChunks limits chunks
    let whole := ofChunks limits [chunks.flatten]
    pieces.frames = whole.frames ∧ pieces.fault = whole.fault ∧
      (pieces.fault = none →
        pieces.left = whole.left ∧
        Decoder.decode { limits } pieces.left =
          (.incomplete, pieces.decoder) ∧
        pieces.decoder.scanned ≤ pieces.left.length ∧
        ∀ chunk, (pieces.append chunk).fault = none →
          (pieces.append chunk).frames = pieces.frames →
          pieces.decoder.scanned ≤ (pieces.append chunk).decoder.scanned) := by
  have room : limits.elements ≠ some 0 := by
    rcases side with rfl | rfl <;> decide
  have agrees := ofChunks_agrees room chunks
  rw [← ofChunks_singleton] at agrees
  refine ⟨agrees.1, agrees.2.1, ?_⟩
  intro sound
  have same := agrees.2.2 sound
  have looked : Decoder.decode { limits } (ofChunks limits chunks).left =
      (.incomplete, (ofChunks limits chunks).decoder) := by
    rw [same, ofChunks_singleton] at sound ⊢
    exact takeFrames_decoder rfl sound
  have resumed := Decoder.decode_resumed (Progress.fits_initial _) looked []
  refine ⟨congrArg Intake.left same, looked, resumed.2.1.1, ?_⟩
  intro chunk later unchanged
  exact append_scanned sound resumed.2.1 later unchanged

/-- A cut inside a character, and a frame that is not complete at the end. -/
theorem ofChunks_eq_whole_multibyte :
    (Limits.client = .client ∨ Limits.client = .unbounded) ∧
      (ofChunks .client [[0x31, 0x2e, 0xe7], [0x8a], [], [0xac, 0x3b, 0x34]]).frames =
        (ofChunks .client [[0x31, 0x2e, 0xe7, 0x8a, 0xac, 0x3b, 0x34]]).frames :=
  ⟨Or.inl rfl, (ofChunks_eq_whole .client (Or.inl rfl) _).1⟩

end Intake

end TunnelRelay
