import TunnelRelay.Proofs.Frame.Grammar
import TunnelRelay.Proofs.Frame.Pending

/-!
The decoder on a machine.

A machine counts in words of 64 bits and finds bytes by their index. It looks at one byte a turn,
and it is stopped by a result that is no word, by a difference below zero and by a slice that is
not within the buffer. None of this happens to a decoder, whatever its progress was made in: the
progress that fits into a buffer keeps every index within it, and each turn comes closer to the
end. What the machine answers is what `Decoder.decode` answers.
-/

namespace TunnelRelay

/-- A byte string in the memory of a machine, which takes less than half of its addresses. -/
structure Span where
  bytes : Bytes
  short : bytes.length < 2 ^ 63

def Progress.Ordered (progress : Progress) : Prop :=
  ∀ content, progress.content = some content → content.start ≤ progress.position

def Progress.enter (progress : Progress) (start length : Nat) : Progress :=
  { progress with position := start, content := some ⟨start, length⟩ }

/-- The progress from which a decoder goes on in a buffer: its own, unless that is too far. -/
def Decoder.startIn (decoder : Decoder) (buffer : Bytes) : Progress :=
  if buffer.length < decoder.progress.position then {} else decoder.progress

theorem Decoder.fits_startIn {decoder : Decoder}
    (ordered : decoder.progress.Ordered) (buffer : Bytes) :
    (decoder.startIn buffer).Fits buffer := by
  unfold startIn
  split
  · exact Progress.fits_initial buffer
  · rename_i within
    exact ⟨Nat.le_of_not_lt within, ordered⟩

namespace Machine

/-- What stops a machine. -/
inductive Trap where
  | overflow
  | underflow
  | outOfRange
  /-- There was no answer within the turns that were given. -/
  | unfinished
  deriving DecidableEq, Repr

/-! ### Words and slices -/

def word (value : Nat) : Except Trap Nat :=
  if value < 2 ^ 64 then .ok value else .error .overflow

def add (left right : Nat) : Except Trap Nat :=
  word (left + right)

def mul (left right : Nat) : Except Trap Nat :=
  word (left * right)

def sub (left right : Nat) : Except Trap Nat :=
  if right ≤ left then .ok (left - right) else .error .underflow

def slice (bytes : Bytes) (start stop : Nat) : Except Trap Bytes :=
  if start ≤ stop ∧ stop ≤ bytes.length then .ok ((bytes.take stop).drop start)
  else .error .outOfRange

theorem add_ok {left right : Nat} (fits : left + right < 2 ^ 64) :
    add left right = .ok (left + right) :=
  if_pos fits

theorem mul_ok {left right : Nat} (fits : left * right < 2 ^ 64) :
    mul left right = .ok (left * right) :=
  if_pos fits

theorem sub_ok {left right : Nat} (enough : right ≤ left) :
    sub left right = .ok (left - right) :=
  if_pos enough

theorem slice_ok {bytes : Bytes} {start stop : Nat} (ordered : start ≤ stop)
    (within : stop ≤ bytes.length) :
    slice bytes start stop = .ok ((bytes.drop start).take (stop - start)) := by
  rw [← List.drop_take]
  exact if_pos ⟨ordered, within⟩

theorem ok_bind {α β : Type} (value : α) (next : α → Except Trap β) :
    (Except.ok value >>= next) = next value := rfl

/-! ### Turns -/

/-- What decoding comes to: it waits with some progress, or it has an answer and keeps no
progress. -/
inductive Verdict where
  | waits (progress : Progress)
  | answers (decoded : Decoded)

/-- Where a machine is in a frame. -/
inductive State where
  /-- Before an element, or within its content. -/
  | element (progress : Progress)
  /-- Within the length of an element, behind `digits` digits worth `value`. -/
  | numeral (progress : Progress) (cursor digits value : Nat)
  /-- Behind the last element. -/
  | frame (progress : Progress)

inductive Turn where
  | goOn (state : State)
  | stop (verdict : Verdict)

def fails (cause : Malformed) : Turn :=
  .stop (.answers (.malformed cause))

def openElement (limits : Limits) (progress : Progress) : Turn :=
  if limits.elements.any (· ≤ progress.elements.length) then fails .tooManyElements
  else .goOn (.numeral progress progress.position 0 0)

def countDigit (progress : Progress) (cursor digits value : Nat) (byte : UInt8) :
    Except Trap Turn := do
  let digits ← add digits 1
  if maxLengthDigits < digits then return fails .lengthTooLong
  else
    let value ← add (← mul value 10) (← sub byte.toNat 0x30)
    return .goOn (.numeral progress cursor digits value)

def endNumeral (limits : Limits) (progress : Progress) (cursor digits value : Nat) : Turn :=
  if digits = 0 then fails .lengthMissing
  else if limits.elementLength.any (· < value) then fails .elementTooLong
  else .goOn (.element (progress.enter cursor value))

def readNumeral (limits : Limits) (buffer : Bytes) (progress : Progress)
    (cursor digits value : Nat) : Except Trap Turn :=
  match buffer[cursor]? with
  | none => return .stop (.waits progress)
  | some byte => do
      let cursor ← add cursor 1
      if 0x30 ≤ byte ∧ byte ≤ 0x39 then countDigit progress cursor digits value byte
      else if byte = 0x2e then return endNumeral limits progress cursor digits value
      else return fails .lengthNotNumeric

def passCodepoint (buffer : Bytes) (progress : Progress) (content : Content) :
    Except Trap Turn :=
  match buffer[progress.position]? with
  | none => return .stop (.waits progress)
  | some lead =>
      match sequenceWidth? lead with
      | none => return fails .elementNotText
      | some width => do
          let position ← add progress.position width
          if buffer.length < position then return .stop (.waits progress)
          else
            let missing ← sub content.missing 1
            return .goOn (.element
              { progress with position, content := some { content with missing } })

def terminate (terminator : UInt8) (closed : Progress) : Turn :=
  if terminator = 0x2c then .goOn (.element closed)
  else if terminator = 0x3b then .goOn (.frame closed)
  else fails .badTerminator

def closeContent (buffer : Bytes) (progress : Progress) (content : Content) :
    Except Trap Turn :=
  match buffer[progress.position]? with
  | none => return .stop (.waits progress)
  | some terminator => do
      match Bytes.toText? (← slice buffer content.start progress.position) with
      | none => return fails .elementNotText
      | some element =>
          let position ← add progress.position 1
          return terminate terminator
            { position, elements := progress.elements ++ [element], content := none }

def takeFrame (buffer : Bytes) (progress : Progress) : Except Trap Turn := do
  match Bytes.toText? (← slice buffer 0 progress.position) with
  | none => return fails .instructionNotText
  | some raw =>
      match Instruction.ofElements? progress.elements with
      | none => return fails .noElements
      | some instruction =>
          return .stop (.answers (.frame ⟨instruction, raw⟩ progress.position))

def step (limits : Limits) (buffer : Bytes) : State → Except Trap Turn
  | .element progress =>
      match progress.content with
      | none => return openElement limits progress
      | some content =>
          if 0 < content.missing then passCodepoint buffer progress content
          else closeContent buffer progress content
  | .numeral progress cursor digits value =>
      readNumeral limits buffer progress cursor digits value
  | .frame progress => takeFrame buffer progress

def run (limits : Limits) (buffer : Bytes) : (turns : Nat) → State → Except Trap Verdict
  | 0, _ => .error .unfinished
  | turns + 1, state => do
      match ← step limits buffer state with
      | .goOn next => run limits buffer turns next
      | .stop verdict => return verdict

/-- One call of a decoder. It has three turns for each byte, and three more. -/
def decode (decoder : Decoder) (span : Span) : Except Trap (Decoded × Decoder) := do
  match ← run decoder.limits span.bytes (3 * span.bytes.length + 3)
      (.element (decoder.startIn span.bytes)) with
  | .waits progress => return (.incomplete, { decoder with progress })
  | .answers decoded => return (decoded, decoder.reset)

def decodeEach (decoder : Decoder) : List Span → Except Trap (List Decoded)
  | [] => return []
  | span :: spans => do
      let (decoded, next) ← decode decoder span
      return decoded :: (← decodeEach next spans)

/-! ### What a state comes to -/

variable {limits : Limits} {buffer : Bytes} {progress : Progress}
  {content : Content} {state : State} {cursor digits value : Nat}

def Verdict.ofScan (buffer : Bytes) : ScanResult → Verdict
  | .incomplete progress => .waits progress
  | .malformed cause => .answers (.malformed cause)
  | .complete progress => .answers (Decoder.frameOf buffer progress)

/-- Digits of a length that have been read, and what they are worth. -/
structure Counts (buffer : Bytes) (progress : Progress)
    (cursor digits value : Nat) : Prop where
  closed : progress.content = none
  reached : cursor = progress.position + digits
  within : cursor ≤ buffer.length
  few : digits ≤ maxLengthDigits
  small : value < 10 ^ digits

namespace State

/-- The indices of a state are within the buffer, and its numbers are small. -/
def Fits (buffer : Bytes) : State → Prop
  | .element progress => progress.Fits buffer
  | .numeral progress cursor digits value => Counts buffer progress cursor digits value
  | .frame progress => progress.position ≤ buffer.length

/-- At most so many turns are left behind this one. -/
def rank (buffer : Bytes) : State → Nat
  | .element progress =>
      3 * (buffer.length - progress.position) + if progress.content = none then 2 else 0
  | .numeral _ cursor _ _ => 3 * (buffer.length - cursor) + 1
  | .frame _ => 0

def scan (limits : Limits) (buffer : Bytes) : State → ScanResult
  | .element progress =>
      scanFrom limits buffer progress (buffer.drop progress.position)
  | .numeral progress cursor digits value =>
      match readLength value digits (buffer.drop cursor) with
      | .incomplete => .incomplete progress
      | .malformed cause => .malformed cause
      | .found length size =>
          if limits.elementLength.any (· < length) then .malformed .elementTooLong
          else
            let start := progress.position + size
            scanFrom limits buffer (progress.enter start length) (buffer.drop start)
  | .frame progress => .complete progress

end State

/-- A turn that is not stopped by the machine: it goes on towards the end of the same scan, or
stops with what the scan has found. -/
inductive Proceeds (limits : Limits) (buffer : Bytes) (state : State) :
    Except Trap Turn → Prop
  | goOn {next : State} (fits : next.Fits buffer)
      (closer : next.rank buffer < state.rank buffer)
      (same : next.scan limits buffer = state.scan limits buffer) :
      Proceeds limits buffer state (.ok (.goOn next))
  | stop {verdict : Verdict}
      (found : .ofScan buffer (state.scan limits buffer) = verdict) :
      Proceeds limits buffer state (.ok (.stop verdict))

theorem Proceeds.fails {cause : Malformed}
    (found : state.scan limits buffer = .malformed cause) :
    Proceeds limits buffer state (.ok (fails cause)) :=
  .stop (congrArg (Verdict.ofScan buffer) found)

theorem Proceeds.waits
    (found : state.scan limits buffer = .incomplete progress) :
    Proceeds limits buffer state (.ok (.stop (.waits progress))) :=
  .stop (congrArg (Verdict.ofScan buffer) found)

theorem drop_of_getElem? {index : Nat} {byte : UInt8}
    (here : buffer[index]? = some byte) :
    index < buffer.length ∧ buffer.drop index = byte :: buffer.drop (index + 1) := by
  obtain ⟨within, same⟩ := List.getElem?_eq_some_iff.mp here
  exact ⟨within, by rw [List.drop_eq_getElem_cons within, same]⟩

theorem drop_of_getElem?_none {index : Nat} (beyond : buffer[index]? = none) :
    buffer.drop index = [] :=
  List.drop_of_length_le (List.getElem?_eq_none_iff.mp beyond)

/-! ### One element of a scan -/

section

variable {next : Progress} {rest : Bytes}

theorem scanFrom_of_incomplete
    (step : advanceElement limits buffer progress rest = .incomplete next) :
    scanFrom limits buffer progress rest = .incomplete next := by
  rw [scanFrom, step]

theorem scanFrom_of_malformed {cause : Malformed}
    (step : advanceElement limits buffer progress rest = .malformed cause) :
    scanFrom limits buffer progress rest = .malformed cause := by
  rw [scanFrom, step]

theorem scanFrom_of_semicolon
    (step : advanceElement limits buffer progress rest = .semicolon next) :
    scanFrom limits buffer progress rest = .complete next := by
  rw [scanFrom, step]

theorem scanFrom_of_comma {after : Bytes}
    (step : advanceElement limits buffer progress rest = .comma next after) :
    scanFrom limits buffer progress rest = scanFrom limits buffer next after := by
  rw [scanFrom, step]

theorem scanFrom_congr {after : Bytes}
    (same : advanceElement limits buffer progress rest =
      advanceElement limits buffer next after) :
    scanFrom limits buffer progress rest = scanFrom limits buffer next after := by
  rw [scanFrom, same, ← scanFrom]

end

/-! ### Opening an element -/

theorem scanFrom_closed (closed : progress.content = none) :
    scanFrom limits buffer progress (buffer.drop progress.position) =
      if limits.elements.any (· ≤ progress.elements.length) then
        .malformed .tooManyElements
      else State.scan limits buffer (.numeral progress progress.position 0 0) := by
  have opens : advanceElement limits buffer progress
      (buffer.drop progress.position) = _ := advanceElement_closed closed buffer _
  rw [nextElement] at opens
  split
  · rename_i many
    rw [if_pos many] at opens
    exact scanFrom_of_malformed opens
  · rename_i few
    rw [if_neg few] at opens
    rw [State.scan]
    cases reading : readLength 0 0 (buffer.drop progress.position) with
    | incomplete =>
        rw [reading] at opens
        exact scanFrom_of_incomplete opens
    | malformed cause =>
        rw [reading] at opens
        exact scanFrom_of_malformed opens
    | found length size =>
        rw [reading] at opens
        simp only at opens ⊢
        split
        · rename_i long
          rw [if_pos long] at opens
          exact scanFrom_of_malformed opens
        · rename_i fits
          rw [if_neg fits, List.drop_drop] at opens
          exact scanFrom_congr opens

theorem openElement_proceeds (fits : progress.Fits buffer)
    (closed : progress.content = none) :
    Proceeds limits buffer (.element progress)
      (.ok (openElement limits progress)) := by
  have scan : State.scan limits buffer (.element progress) = _ :=
    scanFrom_closed closed
  unfold openElement
  split
  · rename_i many
    rw [if_pos many] at scan
    exact .fails scan
  · rename_i few
    rw [if_neg few] at scan
    refine .goOn ⟨closed, rfl, fits.1, Nat.zero_le _, by decide⟩ ?_ scan.symm
    rw [State.rank, State.rank, if_pos closed]
    omega

/-! ### Reading a length -/

section

variable {byte : UInt8} (counts : Counts buffer progress cursor digits value)
  (rest : buffer.drop cursor = byte :: buffer.drop (cursor + 1))
  (inside : cursor < buffer.length)

include counts rest inside

theorem countDigit_proceeds (digit : 0x30 ≤ byte ∧ byte ≤ 0x39) :
    Proceeds limits buffer (.numeral progress cursor digits value)
      (countDigit progress (cursor + 1) digits value byte) := by
  have range := Bytes.IsDigit.toNat_bounds digit
  have limit : maxLengthDigits = 10 := rfl
  have few := counts.few
  have small := counts.small
  -- ten digits at most have been read, so ten times their value is below 10 ^ 11
  have bounded : 10 ^ digits ≤ 10 ^ 10 := Nat.pow_le_pow_right (by decide) few
  unfold countDigit
  simp only [add_ok (show digits + 1 < 2 ^ 64 by omega), ok_bind]
  split
  · rename_i many
    apply Proceeds.fails
    rw [State.scan, rest, readLength, if_pos digit, if_neg (by omega)]
  · rename_i room
    simp only [mul_ok (show value * 10 < 2 ^ 64 by omega), sub_ok range.1, ok_bind,
      add_ok (show value * 10 + (byte.toNat - 48) < 2 ^ 64 by omega)]
    refine .goOn ⟨counts.closed, ?_, inside, by omega, ?_⟩ ?_ ?_
    · rw [counts.reached, Nat.add_assoc]
    · rw [Nat.pow_succ]
      omega
    · simp only [State.rank]
      omega
    · rw [State.scan, State.scan, rest, readLength, if_pos digit, if_pos (by omega)]

theorem endNumeral_proceeds (stop : byte = 0x2e) :
    Proceeds limits buffer (.numeral progress cursor digits value)
      (.ok (endNumeral limits progress (cursor + 1) digits value)) := by
  have other : ¬ (0x30 ≤ byte ∧ byte ≤ 0x39) := by
    rw [stop]
    decide
  unfold endNumeral
  split
  · rename_i missing
    apply Proceeds.fails
    rw [State.scan, rest, readLength, if_neg other, if_pos stop, if_pos missing]
  · rename_i nonempty
    have scan : State.scan limits buffer (.numeral progress cursor digits value) =
        if limits.elementLength.any (· < value) then .malformed .elementTooLong
        else
          scanFrom limits buffer (progress.enter (cursor + 1) value)
            (buffer.drop (cursor + 1)) := by
      rw [State.scan, rest, readLength, if_neg other, if_pos stop, if_neg nonempty,
        counts.reached]
      rfl
    split
    · rename_i long
      rw [if_pos long] at scan
      exact .fails scan
    · rename_i brief
      rw [if_neg brief] at scan
      refine .goOn ⟨inside, ?_⟩ ?_ scan.symm
      · rintro content ⟨⟩
        exact Nat.le_refl _
      · simp only [State.rank, Progress.enter, reduceCtorEq, if_false]
        omega

end

theorem readNumeral_proceeds (short : buffer.length < 2 ^ 63)
    (counts : Counts buffer progress cursor digits value) :
    Proceeds limits buffer (.numeral progress cursor digits value)
      (readNumeral limits buffer progress cursor digits value) := by
  unfold readNumeral
  cases here : buffer[cursor]? with
  | none =>
      apply Proceeds.waits
      rw [State.scan, drop_of_getElem?_none here, readLength]
  | some byte =>
      obtain ⟨inside, rest⟩ := drop_of_getElem? here
      simp only [add_ok (show cursor + 1 < 2 ^ 64 by omega), ok_bind]
      split
      · rename_i digit
        exact countDigit_proceeds counts rest inside digit
      · rename_i other
        split
        · rename_i stop
          exact endNumeral_proceeds counts rest inside stop
        · rename_i strange
          apply Proceeds.fails
          rw [State.scan, rest, readLength, if_neg other, if_neg strange]

/-! ### Passing over content -/

theorem advance?_behind {index width : Nat} (positive : 0 < width)
    (inside : index < buffer.length) :
    Bytes.advance? (width - 1) (buffer.drop (index + 1)) =
      if buffer.length < index + width then none
      else some (buffer.drop (index + width)) := by
  have behind : index + 1 + (width - 1) = index + width := by omega
  rw [Bytes.advance?_eq, List.length_drop, List.drop_drop, behind]
  split
  · rw [if_neg (by omega)]
  · rw [if_pos (by omega)]

theorem closeElement_codepoint {missing width : Nat} {lead : UInt8}
    {rest after body : Bytes} (lots : content.missing = missing + 1)
    (found : sequenceWidth? lead = some width)
    (advanced : Bytes.advance? (width - 1) rest = some after) :
    closeElement progress content body (lead :: rest) =
      closeElement
        { progress with
          position := progress.position + width
          content := some { content with missing } }
        { content with missing } body after := by
  have shifted := passContent_shift width 0 missing after
  rw [closeElement_eq, closeElement_eq, lots, passContent, found]
  simp only [advanced, Nat.zero_add, Nat.add_zero] at shifted ⊢
  rw [shifted]
  cases passContent 0 missing after with
  | error cause => rfl
  | ok passed =>
      exact (Passed.element_resumed ⟨width, missing, after⟩ passed progress
        content body).symm

section

variable (short : buffer.length < 2 ^ 63) (fits : progress.Fits buffer)
  (opened : progress.content = some content)

include opened

theorem advanceElement_open :
    advanceElement limits buffer progress (buffer.drop progress.position) =
      closeElement progress content (buffer.drop content.start)
        (buffer.drop progress.position) := by
  rw [advanceElement, opened]

theorem scan_waits
    (stopped : passContent 0 content.missing (buffer.drop progress.position) =
      .ok ⟨0, content.missing, buffer.drop progress.position⟩)
    (bare : content.missing = 0 → buffer.drop progress.position = []) :
    State.scan limits buffer (.element progress) = .incomplete progress := by
  have stays : ({ progress with
      position := progress.position + 0, content := some content } : Progress) =
        progress := by
    rw [← opened, Nat.add_zero]
  apply scanFrom_of_incomplete
  rw [advanceElement_open opened, closeElement_eq, stopped]
  obtain ⟨start, missing⟩ := content
  by_cases complete : missing = 0
  · subst complete
    simp only [Passed.element, if_true, bare rfl, stays]
  · simp only [Passed.element, if_neg complete, stays]

include short fits

theorem passCodepoint_proceeds (lots : 0 < content.missing) :
    Proceeds limits buffer (.element progress)
      (passCodepoint buffer progress content) := by
  obtain ⟨missing, more⟩ := Nat.exists_eq_add_one.mpr lots
  have opens : advanceElement limits buffer progress
      (buffer.drop progress.position) = _ := advanceElement_open opened
  unfold passCodepoint
  cases here : buffer[progress.position]? with
  | none =>
      have rest := drop_of_getElem?_none here
      exact .waits (scan_waits opened (by rw [rest, more]; rfl) fun _ => rest)
  | some lead =>
      obtain ⟨inside, rest⟩ := drop_of_getElem? here
      cases found : sequenceWidth? lead with
      | none =>
          simp only [found]
          rw [rest, closeElement_eq, more, passContent, found, ← rest] at opens
          exact .fails (scanFrom_of_malformed opens)
      | some width =>
          have narrow := sequenceWidth?_le found
          have positive := sequenceWidth?_pos found
          have cut := advance?_behind positive inside
          simp only [found, add_ok (show progress.position + width < 2 ^ 64 by omega),
            ok_bind]
          split
          · -- the sequence may be cut: the scan passes over none of it
            rename_i beyond
            rw [if_pos beyond] at cut
            refine .waits (scan_waits opened ?_ (by omega))
            rw [rest, more, passContent, found]
            simp only [cut]
          · rename_i within
            have fewer : content.missing - 1 = missing := by omega
            rw [if_neg within] at cut
            rw [rest, closeElement_codepoint more found cut, ← rest] at opens
            simp only [sub_ok (show 1 ≤ content.missing from lots), ok_bind, fewer]
            refine .goOn ⟨Nat.le_of_not_lt within, ?_⟩ ?_
              (scanFrom_congr (opens.trans (advanceElement_open rfl).symm)).symm
            · rintro other ⟨⟩
              exact Nat.le_trans (fits.2 content opened) (Nat.le_add_right _ _)
            · simp only [State.rank, reduceCtorEq, if_false]
              omega

/-! ### Closing an element -/

omit short fits in
theorem terminate_proceeds {terminator : UInt8} {closed : Progress}
    (inside : closed.position = progress.position + 1 ∧ closed.position ≤ buffer.length)
    (done : closed.content = none)
    (step : advanceElement limits buffer progress (buffer.drop progress.position) =
      if terminator = 0x2c then .comma closed (buffer.drop closed.position)
      else if terminator = 0x3b then .semicolon closed
      else .malformed .badTerminator) :
    Proceeds limits buffer (.element progress) (.ok (terminate terminator closed)) := by
  unfold terminate
  split
  · rename_i comma
    rw [if_pos comma] at step
    refine .goOn ⟨inside.2, ?_⟩ ?_ (scanFrom_of_comma step).symm
    · rw [done]
      exact nofun
    · simp only [State.rank, opened, done, reduceCtorEq, if_false, if_true]
      omega
  · rename_i others
    rw [if_neg others] at step
    split
    · rename_i semicolon
      rw [if_pos semicolon] at step
      refine .goOn inside.2 ?_ (scanFrom_of_semicolon step).symm
      simp only [State.rank]
      omega
    · rename_i strange
      rw [if_neg strange] at step
      exact .fails (scanFrom_of_malformed step)

theorem closeContent_proceeds (complete : content.missing = 0) :
    Proceeds limits buffer (.element progress)
      (closeContent buffer progress content) := by
  have opens : advanceElement limits buffer progress
      (buffer.drop progress.position) = _ := advanceElement_open opened
  unfold closeContent
  cases here : buffer[progress.position]? with
  | none =>
      have rest := drop_of_getElem?_none here
      exact .waits (scan_waits opened (by rw [complete]; rfl) fun _ => rest)
  | some terminator =>
      obtain ⟨inside, rest⟩ := drop_of_getElem? here
      rw [closeElement_eq, complete, passContent] at opens
      simp only [Passed.element, rest, if_true, Nat.add_zero] at opens
      simp only [slice_ok (fits.2 content opened) fits.1, ok_bind]
      cases text : Bytes.toText? ((buffer.drop content.start).take
          (progress.position - content.start)) with
      | none =>
          rw [text, ← rest] at opens
          exact .fails (scanFrom_of_malformed opens)
      | some element =>
          rw [text, ← rest] at opens
          simp only [add_ok (show progress.position + 1 < 2 ^ 64 by omega), ok_bind]
          exact terminate_proceeds opened ⟨rfl, inside⟩ rfl opens

end

theorem takeFrame_proceeds (within : progress.position ≤ buffer.length) :
    Proceeds limits buffer (.frame progress) (takeFrame buffer progress) := by
  have found : Verdict.ofScan buffer (State.scan limits buffer (.frame progress)) =
      .answers (Decoder.frameOf buffer progress) := rfl
  unfold takeFrame
  rw [Decoder.frameOf] at found
  simp only [slice_ok (Nat.zero_le _) within, ok_bind, List.drop_zero, Nat.sub_zero]
  cases text : Bytes.toText? (buffer.take progress.position) with
  | none =>
      rw [text] at found
      exact .stop found
  | some raw =>
      rw [text] at found
      cases whole : Instruction.ofElements? progress.elements with
      | none =>
          simp only [whole] at found ⊢
          exact .stop found
      | some instruction =>
          simp only [whole] at found ⊢
          exact .stop found

/-! ### Turns that follow one another -/

theorem step_proceeds (short : buffer.length < 2 ^ 63) (fits : state.Fits buffer) :
    Proceeds limits buffer state (step limits buffer state) := by
  cases state with
  | element progress =>
      cases opened : progress.content with
      | none =>
          simp only [step, opened]
          exact openElement_proceeds fits opened
      | some content =>
          simp only [step, opened]
          split
          · rename_i lots
            exact passCodepoint_proceeds short fits opened lots
          · rename_i complete
            exact closeContent_proceeds short fits opened (by omega)
  | numeral progress cursor digits value => exact readNumeral_proceeds short fits
  | frame progress => exact takeFrame_proceeds fits

theorem run_ok (short : buffer.length < 2 ^ 63) {turns : Nat}
    (fits : state.Fits buffer) (enough : state.rank buffer < turns) :
    run limits buffer turns state =
      .ok (.ofScan buffer (state.scan limits buffer)) := by
  induction turns generalizing state with
  | zero => omega
  | succ turns ih =>
      -- the rank falls at each turn that goes on, so the turns that are left are enough
      have proceeds : Proceeds limits buffer state (step limits buffer state) :=
        step_proceeds short fits
      rw [run]
      generalize step limits buffer state = taken at proceeds ⊢
      cases proceeds with
      | goOn fits closer same =>
          rw [← same]
          exact ih fits (by omega)
      | stop found =>
          rw [found]
          rfl

/-- A call on a machine is not stopped, and answers what `Decoder.decode` does. -/
theorem decode_ok {decoder : Decoder} (ordered : decoder.progress.Ordered)
    (span : Span) : decode decoder span = .ok (decoder.decode span.bytes) := by
  have fits := Decoder.fits_startIn ordered span.bytes
  have enough : (State.element (decoder.startIn span.bytes)).rank span.bytes <
      3 * span.bytes.length + 3 := by
    simp only [State.rank]
    split <;> omega
  have answered : run decoder.limits span.bytes (3 * span.bytes.length + 3)
      (.element (decoder.startIn span.bytes)) = _ := run_ok span.short fits enough
  unfold decode
  rw [answered, ok_bind]
  unfold Decoder.decode
  simp only [State.scan]
  rw [← Decoder.startIn]
  cases scanFrom decoder.limits span.bytes (decoder.startIn span.bytes)
    (span.bytes.drop (decoder.startIn span.bytes).position) <;> rfl

end Machine

end TunnelRelay
