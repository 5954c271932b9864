import TunnelRelay.Instruction

/-!
Incremental decoding of wire frames.

A buffer holds zero, one or several frames, the last of which may be incomplete. A decoder looks
at the front of a buffer: it gives the first frame, or says that more bytes are needed, or why the
bytes can never become a frame. What it has learnt about an incomplete frame it keeps, so each
byte is looked at once while the buffer only grows.

`Decoder.decode_frame_length` bounds the length of a frame that is given: it is positive and lies
within the buffer.
-/

namespace TunnelRelay

/-- A complete frame from the front of a buffer. -/
structure Frame where
  instruction : Instruction
  raw : String
  deriving DecidableEq, Repr

/-- Bounds on one instruction; `none` is no bound. -/
structure Limits where
  elements : Option Nat
  elementLength : Option Nat
  deriving DecidableEq, Repr

/-- The bounds on what a browser sends. -/
def Limits.client : Limits := ⟨some 128, some 8192⟩

/-- What guacd sends is not bounded. -/
def Limits.unbounded : Limits := ⟨none, none⟩

/-- A longer length cannot belong to an element of any connection. -/
def maxLengthDigits : Nat := 10

/-- An element whose length is known and whose content has not all been passed. -/
structure Content where
  /-- Where the content starts in the frame. -/
  start : Nat
  /-- How many of its codepoints are still to come. -/
  missing : Nat
  deriving DecidableEq, Repr

/-- How far into an incomplete frame decoding has got. -/
structure Progress where
  /-- The next byte to look at, from the start of the frame. -/
  position : Nat := 0
  elements : List String := []
  content : Option Content := none
  deriving DecidableEq, Repr

inductive LengthResult where
  | incomplete
  /-- The length, and how many bytes it took with its full stop. -/
  | found (value size : Nat)
  | malformed (cause : Malformed)
  deriving DecidableEq, Repr

/-- Reads the length of an element up to its full stop, after `digits` digits worth `value`. -/
def readLength (value digits : Nat) : Bytes → LengthResult
  | [] => .incomplete
  | byte :: rest =>
    if 0x30 ≤ byte ∧ byte ≤ 0x39 then
      if digits < maxLengthDigits then
        readLength (value * 10 + (byte.toNat - 0x30)) (digits + 1) rest
      else .malformed .lengthTooLong
    else if byte = 0x2e then
      if digits = 0 then .malformed .lengthMissing else .found value (digits + 1)
    else .malformed .lengthNotNumeric

/-- How many bytes the codepoint with this first byte takes; `none` if no codepoint starts so. -/
def sequenceWidth? (lead : UInt8) : Option Nat :=
  if lead ≤ 0x7f then some 1
  else if 0xc2 ≤ lead ∧ lead ≤ 0xdf then some 2
  else if 0xe0 ≤ lead ∧ lead ≤ 0xef then some 3
  else if 0xf0 ≤ lead ∧ lead ≤ 0xf4 then some 4
  else none

theorem sequenceWidth?_pos {lead : UInt8} {width : Nat}
    (found : sequenceWidth? lead = some width) : 0 < width := by
  unfold sequenceWidth? at found
  repeat' split at found
  all_goals simp_all
  all_goals omega

/-- The outcome of passing over content: how many bytes were passed, how many codepoints are still
missing, and what follows. -/
structure Passed where
  size : Nat
  missing : Nat
  rest : Bytes

/-- Passes over `missing` codepoints, after `size` bytes already passed, as far as whole
codepoints reach. -/
def passContent (size : Nat) : (missing : Nat) → Bytes → Except Malformed Passed
  | 0, rest => .ok ⟨size, 0, rest⟩
  | missing + 1, [] => .ok ⟨size, missing + 1, []⟩
  | missing + 1, lead :: rest =>
    match sequenceWidth? lead with
    | none => .error .elementNotText
    | some width =>
      match Bytes.advance? (width - 1) rest with
      | none => .ok ⟨size, missing + 1, lead :: rest⟩
      | some after => passContent (size + width) missing after

inductive ElementResult where
  | incomplete (progress : Progress)
  /-- An element with more to follow, and the bytes after its comma. -/
  | comma (progress : Progress) (rest : Bytes)
  | semicolon (progress : Progress)
  | malformed (cause : Malformed)

/-- Passes over what is missing of the open element `content` and over its terminator. `body` are
the bytes from the start of the content, `rest` those from `progress.position`. -/
def closeElement (progress : Progress) (content : Content) (body rest : Bytes) : ElementResult :=
  match passContent 0 content.missing rest with
  | .error cause => .malformed cause
  | .ok passed =>
    let position := progress.position + passed.size
    if passed.missing = 0 then
      match passed.rest with
      -- the content is there, and its terminator is not
      | [] => .incomplete { progress with position, content := some { content with missing := 0 } }
      | terminator :: after =>
        match Bytes.toText? (body.take (position - content.start)) with
        | none => .malformed .elementNotText
        | some element =>
          let closed : Progress :=
            { position := position + 1, elements := progress.elements ++ [element], content := none }
          if terminator = 0x2c then .comma closed after
          else if terminator = 0x3b then .semicolon closed
          else .malformed .badTerminator
    else
      .incomplete { progress with position, content := some { content with missing := passed.missing } }

/-- Opens the element that starts at `progress.position` and passes over it. -/
def nextElement (limits : Limits) (progress : Progress) (rest : Bytes) : ElementResult :=
  if limits.elements.any (· ≤ progress.elements.length) then .malformed .tooManyElements
  else match readLength 0 0 rest with
    | .incomplete => .incomplete progress
    | .malformed cause => .malformed cause
    | .found length size =>
      if limits.elementLength.any (· < length) then .malformed .elementTooLong
      else
        let start := progress.position + size
        let body := rest.drop size
        closeElement { progress with position := start } ⟨start, length⟩ body body

/-- One element further, from wherever `progress` stands in `buffer`. -/
def advanceElement (limits : Limits) (buffer : Bytes) (progress : Progress) (rest : Bytes) :
    ElementResult :=
  match progress.content with
  | some content => closeElement progress content (buffer.drop content.start) rest
  | none => nextElement limits progress rest

theorem passContent_sizes {size missing : Nat} {rest : Bytes} {passed : Passed}
    (done : passContent size missing rest = .ok passed) :
    passed.size + passed.rest.length = size + rest.length := by
  induction missing generalizing size rest with
  | zero => simp only [passContent, Except.ok.injEq] at done; subst done; rfl
  | succ missing ih =>
    cases rest with
    | nil => simp only [passContent, Except.ok.injEq] at done; subst done; rfl
    | cons lead rest =>
      rw [passContent] at done
      cases width : sequenceWidth? lead with
      | none => simp [width] at done
      | some count =>
        have positive := sequenceWidth?_pos width
        simp only [width] at done
        cases cut : Bytes.advance? (count - 1) rest with
        | none => simp only [cut, Except.ok.injEq] at done; subst done; rfl
        | some after =>
          simp only [cut] at done
          rw [Bytes.advance?_eq] at cut
          split at cut
          next enough =>
            have shorter := ih done
            simp only [Option.some.injEq] at cut
            subst cut
            simp only [List.length_drop] at shorter
            simp only [List.length_cons]
            omega
          next => simp at cut

/-- What a step does to the position and to what follows it, where `left` bytes followed
`position`: a whole element takes at least one of them, and `after` are the others. -/
def ElementResult.Advances (position left : Nat) : ElementResult → Prop
  | .comma next after => next.position + after.length = position + left ∧ after.length < left
  | .semicolon next => position < next.position ∧ next.position ≤ position + left
  | .incomplete _ | .malformed _ => True

/-- What comes before the step only adds to what it does. -/
theorem ElementResult.Advances.after {result : ElementResult} {position left size : Nat}
    (advances : result.Advances (position + size) (left - size)) (within : size ≤ left) :
    result.Advances position left := by
  cases result with
  | comma next after =>
    obtain ⟨whole, shorter⟩ := advances
    exact ⟨by omega, by omega⟩
  | semicolon next =>
    obtain ⟨further, bound⟩ := advances
    exact ⟨by omega, by omega⟩
  | incomplete | malformed => trivial

theorem closeElement_advances (progress : Progress) (content : Content) (body rest : Bytes) :
    (closeElement progress content body rest).Advances progress.position rest.length := by
  unfold closeElement
  cases passing : passContent 0 content.missing rest with
  | error cause => trivial
  | ok passed =>
    have sizes := passContent_sizes passing
    simp only
    split
    next =>
      cases left : passed.rest with
      | nil => trivial
      | cons terminator others =>
        simp only [left, List.length_cons] at sizes ⊢
        split
        next => trivial
        next =>
          split
          next => exact ⟨by simp only; omega, by omega⟩
          next =>
            split
            next => exact ⟨by simp only; omega, by simp only; omega⟩
            next => trivial
    next => trivial

theorem readLength_found {value digits length size : Nat} {rest : Bytes}
    (done : readLength value digits rest = .found length size) :
    digits < size ∧ size ≤ digits + rest.length := by
  induction rest generalizing value digits with
  | nil => simp [readLength] at done
  | cons byte rest ih =>
    simp only [readLength] at done
    split at done
    next =>
      split at done
      next =>
        have bounds := ih done
        simp only [List.length_cons]
        omega
      next => simp at done
    next =>
      split at done
      next =>
        split at done
        next => simp at done
        next =>
          simp only [LengthResult.found.injEq] at done
          simp only [List.length_cons]
          omega
      next => simp at done

theorem nextElement_advances (limits : Limits) (progress : Progress) (rest : Bytes) :
    (nextElement limits progress rest).Advances progress.position rest.length := by
  unfold nextElement
  split
  next => trivial
  next =>
    cases reading : readLength 0 0 rest with
    | incomplete => trivial
    | malformed cause => trivial
    | found length size =>
      have bounds := readLength_found reading
      simp only
      split
      next => trivial
      next =>
        have closed := closeElement_advances { progress with position := progress.position + size }
          ⟨progress.position + size, length⟩ (rest.drop size) (rest.drop size)
        rw [List.length_drop] at closed
        exact closed.after (by omega)

theorem advanceElement_advances (limits : Limits) (buffer : Bytes) (progress : Progress)
    (rest : Bytes) :
    (advanceElement limits buffer progress rest).Advances progress.position rest.length := by
  unfold advanceElement
  split
  next => exact closeElement_advances _ _ _ _
  next => exact nextElement_advances _ _ _

theorem advanceElement_comma {limits : Limits} {buffer rest after : Bytes}
    {progress next : Progress} (done : advanceElement limits buffer progress rest = .comma next after) :
    next.position + after.length = progress.position + rest.length ∧ after.length < rest.length := by
  have advances := advanceElement_advances limits buffer progress rest
  rw [done] at advances
  exact advances

theorem advanceElement_semicolon {limits : Limits} {buffer rest : Bytes}
    {progress next : Progress} (done : advanceElement limits buffer progress rest = .semicolon next) :
    progress.position < next.position ∧ next.position ≤ progress.position + rest.length := by
  have advances := advanceElement_advances limits buffer progress rest
  rw [done] at advances
  exact advances

inductive ScanResult where
  | incomplete (progress : Progress)
  | complete (progress : Progress)
  | malformed (cause : Malformed)

/-- Scans on from `progress`; `rest` are the bytes of `buffer` from `progress.position`. -/
def scanFrom (limits : Limits) (buffer : Bytes) (progress : Progress) (rest : Bytes) : ScanResult :=
  match _step : advanceElement limits buffer progress rest with
  | .incomplete progress => .incomplete progress
  | .malformed cause => .malformed cause
  | .semicolon progress => .complete progress
  | .comma progress after => scanFrom limits buffer progress after
termination_by rest.length
decreasing_by exact (advanceElement_comma _step).2

theorem scanFrom_complete {limits : Limits} {buffer rest : Bytes} {progress next : Progress}
    (done : scanFrom limits buffer progress rest = .complete next) :
    progress.position < next.position ∧ next.position ≤ progress.position + rest.length := by
  fun_induction scanFrom limits buffer progress rest with
  | case1 => simp at done
  | case2 => simp at done
  | case3 progress rest ended step =>
    simp only [ScanResult.complete.injEq] at done
    subst done
    exact advanceElement_semicolon step
  | case4 progress rest after tail step ih =>
    have moved := advanceElement_comma step
    have later := ih done
    omega

/-- Bounds, and how far decoding has got with the frame at the front of a buffer. Between two uses
the buffer may grow at its end, or lose whole frames that were given. -/
structure Decoder where
  limits : Limits
  progress : Progress := {}
  deriving DecidableEq, Repr

inductive Decoded where
  | incomplete
  /-- A frame, and how many bytes it takes. -/
  | frame (frame : Frame) (length : Nat)
  | malformed (cause : Malformed)
  deriving DecidableEq, Repr

def Decoded.length : Decoded → Nat
  | frame _ length => length
  | incomplete | malformed _ => 0

namespace Decoder

def client : Decoder := { limits := .client }

def unbounded : Decoder := { limits := .unbounded }

/-- Bytes of the incomplete frame already looked at. -/
def scanned (decoder : Decoder) : Nat :=
  decoder.progress.position

def reset (decoder : Decoder) : Decoder :=
  { decoder with progress := {} }

/-- The frame that a finished scan has found in `buffer`. -/
def frameOf (buffer : Bytes) (progress : Progress) : Decoded :=
  match Bytes.toText? (buffer.take progress.position) with
  | none => .malformed .instructionNotText
  | some raw =>
    match Instruction.ofElements? progress.elements with
    | none => .malformed .noElements
    | some instruction => .frame ⟨instruction, raw⟩ progress.position

/-- Decodes the frame at the front of `buffer`. Only an incomplete frame leaves progress behind;
progress that does not fit into `buffer` is forgotten first. -/
def decode (decoder : Decoder) (buffer : Bytes) : Decoded × Decoder :=
  let progress := if buffer.length < decoder.progress.position then {} else decoder.progress
  match scanFrom decoder.limits buffer progress (buffer.drop progress.position) with
  | .incomplete progress => (.incomplete, { decoder with progress })
  | .malformed cause => (.malformed cause, decoder.reset)
  | .complete progress => (frameOf buffer progress, decoder.reset)

theorem decode_frame_length {decoder next : Decoder} {buffer : Bytes} {frame : Frame}
    {length : Nat} (done : decoder.decode buffer = (.frame frame length, next)) :
    0 < length ∧ length ≤ buffer.length := by
  unfold decode at done
  generalize start : (if buffer.length < decoder.progress.position then ({} : Progress)
    else decoder.progress) = progress at done
  have within : progress.position ≤ buffer.length := by
    subst start
    split
    next => exact Nat.zero_le _
    next fits => exact Nat.le_of_not_lt fits
  simp only at done
  split at done
  next => simp at done
  next => simp at done
  next ended scan =>
    have bounds := scanFrom_complete scan
    simp only [List.length_drop] at bounds
    simp only [Prod.mk.injEq] at done
    have found := done.1
    unfold frameOf at found
    split at found
    next => simp at found
    next =>
      split at found
      next => simp at found
      next =>
        simp only [Decoded.frame.injEq] at found
        omega

/-- Every frame at the front of `buffer` in order, and what is left behind them. -/
def drainFrom (decoder : Decoder) (buffer : Bytes) (frames : List Frame) :
    Except Malformed (List Frame × Bytes) × Decoder :=
  match _step : decoder.decode buffer with
  | (.incomplete, decoder) => (.ok (frames, buffer), decoder)
  | (.malformed cause, decoder) => (.error cause, decoder)
  | (.frame frame length, decoder) =>
    decoder.drainFrom (buffer.drop length) (frames ++ [frame])
termination_by buffer.length
decreasing_by
  have bounds := decode_frame_length _step
  simp only [List.length_drop]
  omega

/-- Takes every complete frame off the front of `buffer`. A malformed frame leaves the whole
buffer as it was, also the frames before it. -/
def drain (decoder : Decoder) (buffer : Bytes) : Except Malformed (List Frame) × Bytes × Decoder :=
  match decoder.drainFrom buffer [] with
  | (.ok (frames, rest), decoder) => (.ok frames, rest, decoder)
  | (.error cause, decoder) => (.error cause, buffer, decoder)

end Decoder

end TunnelRelay
