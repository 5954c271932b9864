import TunnelRelay.Proofs.Frame.Causes
import TunnelRelay.Proofs.Frame.Draining
import TunnelRelay.Proofs.Frame.Machine

/-!
Calls of one decoder on any buffers.

Whatever the buffers have to do with one another, no call is stopped on a machine, and a frame that
is given is the front of the buffer of its call. Where the bytes of an incomplete frame stay in
place, going on is starting over; then nothing is wrong with a frame whose elements are right.
-/

namespace TunnelRelay

namespace Decoder

variable {limits : Limits} {decoder next : Decoder} {buffer : Bytes}

/-- The answers to calls on one buffer after another. -/
def decodeEach (decoder : Decoder) : List Bytes → List Decoded
  | [] => []
  | buffer :: buffers =>
      let (decoded, next) := decoder.decode buffer
      decoded :: next.decodeEach buffers

/-! ### Any buffers -/

theorem decode_startIn (decoder : Decoder) (buffer : Bytes) :
    decoder.decode buffer =
      Decoder.decode { decoder with progress := decoder.startIn buffer } buffer := by
  by_cases stale : buffer.length < decoder.progress.position
  · simp only [decode, startIn, if_pos stale, Nat.not_lt_zero, if_false, reset]
  · simp only [startIn, if_neg stale]

theorem decode_ordered (ordered : decoder.progress.Ordered) (buffer : Bytes) :
    (decoder.decode buffer).2.progress.Ordered := by
  rcases step : decoder.decode buffer with ⟨decoded, next⟩
  by_cases waits : decoded = .incomplete
  · rw [decode_startIn, waits] at step
    exact (decode_resumed (fits_startIn ordered buffer) step []).2.1.2
  · rw [decode_settled_fresh step waits]
    exact nofun

theorem decode_frame_raw {frame : Frame} {length : Nat}
    (step : decoder.decode buffer = (.frame frame length, next)) :
    Bytes.ofText frame.raw = buffer.take length := by
  have found := congrArg Prod.fst step
  unfold decode at found
  simp only at found
  split at found
  · cases found
  · cases found
  · unfold frameOf at found
    split at found
    · cases found
    · rename_i raw text
      split at found
      · cases found
      · cases found
        exact (Bytes.toText?_eq_some_iff.mp text).symm

theorem machine_decodeEach (ordered : decoder.progress.Ordered)
    (spans : List Span) :
    Machine.decodeEach decoder spans =
      .ok (decoder.decodeEach (spans.map Span.bytes)) := by
  induction spans generalizing decoder with
  | nil => rfl
  | cons span spans ih =>
      have later := ih (decode_ordered ordered span.bytes)
      rw [Machine.decodeEach, Machine.decode_ok ordered]
      simp only [Machine.ok_bind, later]
      rfl

theorem decodeEach_raw (decoder : Decoder) (buffers : List Bytes) :
    List.Forall₂ (fun buffer decoded => ∀ frame length,
        decoded = .frame frame length →
          length ≤ buffer.length ∧
            Bytes.ofText frame.raw = buffer.take length)
      buffers (decoder.decodeEach buffers) := by
  induction buffers generalizing decoder with
  | nil => exact .nil
  | cons buffer buffers ih =>
      refine .cons ?_ (ih (decoder.decode buffer).2)
      intro frame length found
      have step : decoder.decode buffer =
          (.frame frame length, (decoder.decode buffer).2) := Prod.ext found rfl
      exact ⟨(decode_frame_length step).2, decode_frame_raw step⟩

/-! ### Buffers that grow -/

/-- The rule of growth: while a frame is incomplete, its buffer only grows at the end. A frame that
has been given may go from the front. The next call starts over behind it, as it does behind an
error, so nothing is asked of the buffer of that call. -/
def GrowsOnly (decoder : Decoder) : List Bytes → Prop
  | buffer :: following :: buffers =>
      ((decoder.decode buffer).1 = .incomplete → buffer <+: following) ∧
        GrowsOnly (decoder.decode buffer).2 (following :: buffers)
  | _ => True

theorem BelongsTo.following {following : Bytes}
    (belongs : decoder.BelongsTo buffer)
    (grows : (decoder.decode buffer).1 = .incomplete → buffer <+: following) :
    (decoder.decode buffer).2.BelongsTo following := by
  rcases step : decoder.decode buffer with ⟨decoded, next⟩
  by_cases waits : decoded = .incomplete
  · rw [step, waits] at grows
    obtain ⟨more, rfl⟩ := grows rfl
    rw [belongs.decode, waits] at step
    exact (decode_waiting step).1.append more
  · rw [decode_settled_fresh step waits]
    exact belongsTo_fresh decoder.limits following

theorem BelongsTo.cause {cause : Malformed} (belongs : decoder.BelongsTo buffer)
    (fails : (decoder.decode buffer).1 = .malformed cause) :
    cause ∈ Malformed.ofElement := by
  rw [belongs.decode] at fails
  exact decode_fresh_cause (Prod.ext fails rfl)

theorem decodeEach_cause {buffers : List Bytes} {cause : Malformed}
    (belongs : ∀ buffer ∈ buffers.head?, decoder.BelongsTo buffer)
    (grows : decoder.GrowsOnly buffers)
    (fails : .malformed cause ∈ decoder.decodeEach buffers) :
    cause ∈ Malformed.ofElement := by
  induction buffers generalizing decoder with
  | nil => cases fails
  | cons buffer buffers ih =>
      have here : decoder.BelongsTo buffer := belongs buffer rfl
      rcases List.mem_cons.mp fails with now | later
      · exact here.cause now.symm
      · cases buffers with
        | nil => cases later
        | cons following buffers =>
            refine ih ?_ grows.2 later
            rintro _ ⟨⟩
            exact here.following grows.1

/-- One decoder is called on one buffer after another. On a machine, whatever the buffers are, no
call is stopped by an overflow, a difference below zero or a slice out of range, each comes to its
end, and each answers as `Decoder.decode` does; a frame that is given is the front of the buffer
of its call. If the buffers only grow, a frame as a whole is always text and has elements. -/
theorem decodes_safely (limits : Limits) (spans : List Span) :
    let buffers := spans.map Span.bytes
    let answers := decodeEach { limits } buffers
    Machine.decodeEach { limits } spans = .ok answers ∧
      List.Forall₂ (fun buffer decoded => ∀ frame length,
          decoded = .frame frame length →
            length ≤ buffer.length ∧
              Bytes.ofText frame.raw = buffer.take length)
        buffers answers ∧
      (GrowsOnly { limits } buffers →
        ∀ cause, .malformed cause ∈ answers →
          cause.message ≠ "Instruction is not valid UTF-8." ∧
            cause.message ≠ "Instruction has no elements.") := by
  intro buffers answers
  have fresh : (⟨limits, {}⟩ : Decoder).progress.Ordered :=
    (Progress.fits_initial []).2
  refine ⟨machine_decodeEach fresh spans, decodeEach_raw { limits } buffers, ?_⟩
  intro grows cause fails
  have told : ∀ cause ∈ Malformed.ofElement,
      cause.message ≠ "Instruction is not valid UTF-8." ∧
        cause.message ≠ "Instruction has no elements." := by
    decide
  exact told cause
    (decodeEach_cause (fun buffer _ => belongsTo_fresh limits buffer) grows fails)

/-- A frame that comes in three pieces and goes when it has been given, another one behind it, and
then bytes that are no frame. -/
theorem decodes_safely_trickled :
    let spans : List Span :=
      [⟨Bytes.ofText "1.", by decide⟩, ⟨[0x31, 0x2e, 0xe7, 0x8a], by decide⟩,
        ⟨Bytes.ofText "1.\u72ac;3.n", by decide⟩, ⟨Bytes.ofText "3.nop;", by decide⟩,
        ⟨Bytes.ofText "nop;", by decide⟩]
    let buffers := spans.map Span.bytes
    GrowsOnly unbounded buffers ∧
      unbounded.decodeEach buffers =
        [.incomplete, .incomplete, .frame ⟨⟨"\u72ac", []⟩, "1.\u72ac;"⟩ 6,
          .frame ⟨⟨"nop", []⟩, "3.nop;"⟩ 6, .malformed .lengthNotNumeric] ∧
      Malformed.message .lengthNotNumeric ≠ "Instruction has no elements." := by
  intro spans buffers
  have answers : unbounded.decodeEach buffers =
      [.incomplete, .incomplete, .frame ⟨⟨"\u72ac", []⟩, "1.\u72ac;"⟩ 6,
        .frame ⟨⟨"nop", []⟩, "3.nop;"⟩ 6, .malformed .lengthNotNumeric] := by
    decide +kernel
  have grows : GrowsOnly unbounded buffers :=
    ⟨fun _ => by decide +kernel, fun _ => by decide +kernel,
      fun waits => absurd waits (by decide +kernel),
      fun waits => absurd waits (by decide +kernel), trivial⟩
  have safe := (decodes_safely .unbounded spans).2.2 grows .lengthNotNumeric
    (by rw [show decodeEach { limits := .unbounded } (spans.map Span.bytes) = _
      from answers]; simp)
  exact ⟨grows, answers, safe.2⟩

/-- Bytes that take the place of others can make a frame that is no text. -/
example : unbounded.decodeEach
    [Bytes.ofText "1.a,", [0xff, 0xff, 0xff, 0xff] ++ Bytes.ofText "1.b;"] =
      [.incomplete, .malformed .instructionNotText] := by
  decide +kernel

end Decoder

end TunnelRelay
