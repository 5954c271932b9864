import TunnelRelay.Frame.Decoder

/-!
Resuming an incomplete frame.

A scan that stops inside a frame keeps its progress. Going on from there in a longer buffer gives
what a scan of the longer buffer from the start of the frame gives; a scan that does not stop
inside a frame says the same of every longer buffer.
-/

namespace TunnelRelay

/-! ### Lengths and content in a longer buffer -/

theorem readLength_append (value digits : Nat) (rest more : Bytes)
    (settled : readLength value digits rest ≠ .incomplete) :
    readLength value digits (rest ++ more) =
      readLength value digits rest := by
  induction rest generalizing value digits with
  | nil => exact absurd rfl settled
  | cons byte rest ih =>
      rw [List.cons_append]
      simp only [readLength] at settled ⊢
      split
      · rename_i digit
        rw [if_pos digit] at settled
        split
        · rename_i few
          rw [if_pos few] at settled
          exact ih _ _ settled
        · rfl
      · rfl

theorem Bytes.advance?_append {count : Nat} {bytes after : Bytes}
    (advanced : Bytes.advance? count bytes = some after) (more : Bytes) :
    Bytes.advance? count (bytes ++ more) = some (after ++ more) := by
  rw [Bytes.advance?_eq] at advanced ⊢
  split at advanced
  · rename_i enough
    cases advanced
    rw [if_pos (by rw [List.length_append]; omega),
      List.drop_append_of_le_length enough]
  · cases advanced

theorem passContent_append (size missing : Nat) (rest more : Bytes) :
    passContent size missing (rest ++ more) =
      (passContent size missing rest).bind
        (fun passed => passContent passed.size passed.missing
          (passed.rest ++ more)) := by
  fun_induction passContent size missing rest with
  | case1 size rest => rfl
  | case2 size missing => rfl
  | case3 size missing lead rest noWidth =>
      rw [List.cons_append, passContent, noWidth]
      rfl
  | case4 size missing lead rest width found short => rfl
  | case5 size missing lead rest width found after advanced ih =>
      rw [List.cons_append, passContent, found]
      simp only [Bytes.advance?_append advanced]
      exact ih

theorem passContent_shift (offset size missing : Nat) (rest : Bytes) :
    passContent (offset + size) missing rest =
      (passContent size missing rest).map
        (fun passed => { passed with size := offset + passed.size }) := by
  fun_induction passContent size missing rest with
  | case1 size rest => rfl
  | case2 size missing => rfl
  | case3 size missing lead rest noWidth =>
      rw [passContent, noWidth]
      rfl
  | case4 size missing lead rest width found short =>
      rw [passContent, found]
      simp only [short]
      rfl
  | case5 size missing lead rest width found after advanced ih =>
      rw [passContent, found]
      simp only [advanced, Nat.add_assoc]
      exact ih

theorem passContent_forward {size missing : Nat} {rest : Bytes}
    {passed : Passed} (done : passContent size missing rest = .ok passed) :
    missing + size ≤ passed.missing + passed.size ∧ size ≤ passed.size ∧
      passed.rest = rest.drop (passed.size - size) := by
  fun_induction passContent size missing rest with
  | case1 size rest =>
      cases done
      simp
  | case2 size missing =>
      cases done
      simp
  | case3 size missing lead rest noWidth => cases done
  | case4 size missing lead rest width found short =>
      cases done
      simp
  | case5 size missing lead rest width found after advanced ih =>
      have later := ih done
      have positive := sequenceWidth?_pos found
      rw [Bytes.advance?_eq] at advanced
      split at advanced
      · cases advanced
        refine ⟨by omega, by omega, ?_⟩
        rw [later.2.2, List.drop_drop]
        have counted : passed.size - size =
            width - 1 + (passed.size - (size + width)) + 1 := by omega
        rw [counted, List.drop_succ_cons]
      · cases advanced

theorem passContent_complete {size missing : Nat} {rest : Bytes}
    {passed : Passed} (done : passContent size missing rest = .ok passed)
    (complete : passed.missing = 0) (more : Bytes) :
    passContent size missing (rest ++ more) =
      .ok { passed with rest := passed.rest ++ more } := by
  rw [passContent_append, done]
  obtain ⟨size, missing, rest⟩ := passed
  cases complete
  rfl

/-! ### Progress that belongs to a buffer -/

/-- The progress points into the buffer, and an open element starts before it. -/
def Progress.Fits (progress : Progress) (buffer : Bytes) : Prop :=
  progress.position ≤ buffer.length ∧
    ∀ content, progress.content = some content →
      content.start ≤ progress.position

theorem Progress.fits_initial (buffer : Bytes) :
    ({} : Progress).Fits buffer := by
  constructor
  · exact Nat.zero_le _
  · intro content impossible
    cases impossible

theorem Progress.Fits.append {progress : Progress} {buffer : Bytes}
    (fits : progress.Fits buffer) (more : Bytes) :
    progress.Fits (buffer ++ more) := by
  constructor
  · rw [List.length_append]
    exact Nat.le_trans fits.1 (Nat.le_add_right _ _)
  · exact fits.2

/-! ### Elements in a longer buffer -/

def Passed.element (passed : Passed) (progress : Progress)
    (content : Content) (body : Bytes) : ElementResult :=
  let position := progress.position + passed.size
  if passed.missing = 0 then
    match passed.rest with
    | [] =>
        .incomplete { progress with
          position, content := some { content with missing := 0 } }
    | terminator :: after =>
        match Bytes.toText? (body.take (position - content.start)) with
        | none => .malformed .elementNotText
        | some element =>
            let closed : Progress :=
              { position := position + 1
                elements := progress.elements ++ [element]
                content := none }
            if terminator = 0x2c then .comma closed after
            else if terminator = 0x3b then .semicolon closed
            else .malformed .badTerminator
  else
    .incomplete { progress with
      position, content := some { content with missing := passed.missing } }

theorem closeElement_eq (progress : Progress) (content : Content)
    (body rest : Bytes) :
    closeElement progress content body rest =
      match passContent 0 content.missing rest with
      | .error cause => .malformed cause
      | .ok passed => passed.element progress content body := rfl

theorem Passed.element_resumed (before after : Passed)
    (progress : Progress) (content : Content) (body : Bytes) :
    after.element
        { progress with
          position := progress.position + before.size
          content := some { content with missing := before.missing } }
        { content with missing := before.missing } body =
      { after with size := before.size + after.size }.element
        progress content body := by
  unfold Passed.element
  simp only [Nat.add_assoc]

theorem Passed.element_incomplete {passed : Passed} {progress next : Progress}
    {content : Content} {body : Bytes}
    (open_ : passed.element progress content body = .incomplete next) :
    next = { progress with
      position := progress.position + passed.size
      content := some { content with missing := passed.missing } } := by
  unfold Passed.element at open_
  simp only at open_
  split at open_
  · rename_i complete
    split at open_
    · cases open_
      rw [complete]
    · split at open_
      · cases open_
      · split at open_
        · cases open_
        · split at open_ <;> cases open_
  · cases open_
    rfl

/-- The outcome of the same step with `more` behind the buffer, if the step
does not leave the element incomplete. -/
def ElementResult.extend (more : Bytes) : ElementResult → ElementResult
  | .comma progress rest => .comma progress (rest ++ more)
  | result => result

theorem Passed.element_append {passed : Passed} {progress : Progress}
    {content : Content} {body : Bytes}
    (inside : progress.position + passed.size ≤ content.start + body.length)
    (settled : ∀ next, passed.element progress content body ≠ .incomplete next)
    (more : Bytes) :
    passed.missing = 0 ∧
      { passed with rest := passed.rest ++ more }.element progress content
          (body ++ more) =
        (passed.element progress content body).extend more := by
  unfold Passed.element at settled ⊢
  by_cases complete : passed.missing = 0
  · refine ⟨complete, ?_⟩
    simp only [if_pos complete] at settled ⊢
    cases left : passed.rest with
    | nil =>
        simp only [left] at settled
        exact absurd rfl (settled _)
    | cons terminator after =>
        rw [List.cons_append, List.take_append_of_le_length (by omega)]
        simp only
        cases Bytes.toText?
            (body.take (progress.position + passed.size - content.start)) with
        | none => rfl
        | some element =>
            simp only
            split
            · rfl
            · split <;> rfl
  · simp only [if_neg complete] at settled
    exact absurd rfl (settled _)

theorem closeElement_resumed {progress next : Progress} {content : Content}
    {body rest : Bytes}
    (stopped : closeElement progress content body rest = .incomplete next)
    (more : Bytes) :
    progress.position ≤ next.position ∧
      next.position ≤ progress.position + rest.length ∧
      ∃ missing, next.content = some { content with missing } ∧
        closeElement progress content (body ++ more) (rest ++ more) =
          closeElement next { content with missing } (body ++ more)
            ((rest ++ more).drop (next.position - progress.position)) := by
  rw [closeElement_eq] at stopped
  cases passing : passContent 0 content.missing rest with
  | error cause =>
      rw [passing] at stopped
      cases stopped
  | ok passed =>
      rw [passing] at stopped
      have sizes := passContent_sizes passing
      have forward := (passContent_forward passing).2.2
      rw [Nat.sub_zero] at forward
      cases Passed.element_incomplete stopped
      refine ⟨Nat.le_add_right _ _, by simp only; omega,
        passed.missing, rfl, ?_⟩
      have left : (rest ++ more).drop passed.size = passed.rest ++ more := by
        rw [List.drop_append_of_le_length (by omega), forward]
      rw [closeElement_eq, closeElement_eq, passContent_append, passing,
        Nat.add_sub_cancel_left, left]
      simp only [Except.bind]
      have shifted := passContent_shift passed.size 0 passed.missing
        (passed.rest ++ more)
      rw [Nat.add_zero] at shifted
      rw [shifted]
      cases passContent 0 passed.missing (passed.rest ++ more) with
      | error cause => rfl
      | ok after =>
          exact (Passed.element_resumed passed after progress content
            (body ++ more)).symm

theorem closeElement_append {progress : Progress} {content : Content}
    {body rest : Bytes} {result : ElementResult}
    (inside : progress.position + rest.length ≤ content.start + body.length)
    (step : closeElement progress content body rest = result)
    (settled : ∀ next, result ≠ .incomplete next) (more : Bytes) :
    closeElement progress content (body ++ more) (rest ++ more) =
      result.extend more := by
  rw [closeElement_eq] at step ⊢
  cases passing : passContent 0 content.missing rest with
  | error cause =>
      rw [passing] at step
      rw [passContent_append, passing, ← step]
      rfl
  | ok passed =>
      have sizes := passContent_sizes passing
      rw [passing] at step
      simp only at step
      have reached :
          progress.position + passed.size ≤ content.start + body.length := by
        omega
      have unchanged :=
        Passed.element_append reached (by rw [step]; exact settled) more
      rw [passContent_complete passing unchanged.1, ← step]
      exact unchanged.2

theorem nextElement_append {limits : Limits} {progress : Progress}
    {rest : Bytes} {result : ElementResult}
    (step : nextElement limits progress rest = result)
    (settled : ∀ next, result ≠ .incomplete next) (more : Bytes) :
    nextElement limits progress (rest ++ more) = result.extend more := by
  unfold nextElement at step ⊢
  split
  · rename_i many
    rw [if_pos many] at step
    rw [← step]
    rfl
  · rename_i few
    rw [if_neg few] at step
    cases reading : readLength 0 0 rest with
    | incomplete =>
        rw [reading] at step
        exact absurd step.symm (settled progress)
    | malformed cause =>
        rw [reading] at step
        rw [readLength_append 0 0 rest more (by simp [reading]), reading,
          ← step]
        rfl
    | found length size =>
        have bounds := readLength_found reading
        rw [reading] at step
        rw [readLength_append 0 0 rest more (by simp [reading]), reading]
        simp only at step ⊢
        split
        · rename_i long
          rw [if_pos long] at step
          rw [← step]
          rfl
        · rename_i short
          rw [if_neg short] at step
          rw [List.drop_append_of_le_length (by omega)]
          exact closeElement_append (Nat.le_refl _) step settled more

theorem advanceElement_append {limits : Limits} {buffer rest : Bytes}
    {progress : Progress} {result : ElementResult}
    (fits : progress.Fits buffer)
    (here : rest = buffer.drop progress.position)
    (step : advanceElement limits buffer progress rest = result)
    (settled : ∀ next, result ≠ .incomplete next) (more : Bytes) :
    advanceElement limits (buffer ++ more) progress (rest ++ more) =
      result.extend more := by
  unfold advanceElement at step ⊢
  cases opened : progress.content with
  | some content =>
      have before := fits.2 content opened
      simp only [opened] at step ⊢
      rw [List.drop_append_of_le_length (Nat.le_trans before fits.1)]
      apply closeElement_append _ step settled
      rw [here, List.length_drop, List.length_drop]
      have within := fits.1
      omega
  | none =>
      simp only [opened] at step ⊢
      exact nextElement_append step settled more

theorem nextElement_resumed {limits : Limits} {progress next : Progress}
    {rest : Bytes}
    (stopped : nextElement limits progress rest = .incomplete next)
    (more : Bytes) :
    next = progress ∨
      ∃ start missing, progress.position ≤ start ∧ start ≤ next.position ∧
        next.position ≤ progress.position + rest.length ∧
        next.content = some ⟨start, missing⟩ ∧
        nextElement limits progress (rest ++ more) =
          closeElement next ⟨start, missing⟩
            ((rest ++ more).drop (start - progress.position))
            ((rest ++ more).drop (next.position - progress.position)) := by
  unfold nextElement at stopped ⊢
  split at stopped
  · cases stopped
  · rename_i few
    rw [if_neg few]
    cases reading : readLength 0 0 rest with
    | malformed cause => simp [reading] at stopped
    | incomplete =>
        rw [reading] at stopped
        cases stopped
        exact Or.inl rfl
    | found length size =>
        -- the length is complete, and the content of it is open from now on
        have bounds := readLength_found reading
        rw [reading] at stopped
        simp only at stopped
        split at stopped
        · cases stopped
        · rename_i short
          obtain ⟨forward, within, missing, kept, resumed⟩ :=
            closeElement_resumed stopped more
          simp only at forward within
          rw [List.length_drop] at within
          refine Or.inr ⟨progress.position + size, missing,
            Nat.le_add_right _ _, forward, by omega, kept, ?_⟩
          rw [readLength_append 0 0 rest more (by simp [reading]), reading]
          simp only
          rw [if_neg short, List.drop_append_of_le_length (by omega), resumed,
            Nat.add_sub_cancel_left,
            ← List.drop_append_of_le_length (by omega), List.drop_drop]
          congr 2
          simp only
          omega

/-- A step that leaves the element incomplete keeps progress of the buffer, and
going on from it in a longer buffer is the step in the longer buffer. -/
theorem advanceElement_resumed {limits : Limits} {buffer rest : Bytes}
    {progress next : Progress} (fits : progress.Fits buffer)
    (here : rest = buffer.drop progress.position)
    (stopped : advanceElement limits buffer progress rest = .incomplete next)
    (more : Bytes) :
    progress.position ≤ next.position ∧ next.Fits buffer ∧
      advanceElement limits (buffer ++ more) progress (rest ++ more) =
        advanceElement limits (buffer ++ more) next
          ((buffer ++ more).drop next.position) := by
  have longer : rest ++ more = (buffer ++ more).drop progress.position := by
    rw [here, List.drop_append_of_le_length fits.1]
  have inside := fits.1
  have extent : rest.length = buffer.length - progress.position := by
    rw [here, List.length_drop]
  unfold advanceElement at stopped ⊢
  cases opened : progress.content with
  | some content =>
      -- the content is open, so the length before it is not read again
      have before := fits.2 content opened
      simp only [opened] at stopped ⊢
      obtain ⟨forward, within, missing, kept, resumed⟩ :=
        closeElement_resumed stopped more
      refine ⟨forward, ⟨by omega, ?_⟩, ?_⟩
      · intro other found
        rw [kept] at found
        cases found
        exact Nat.le_trans before forward
      · rw [kept]
        simp only
        rw [List.drop_append_of_le_length (Nat.le_trans before inside),
          resumed, longer, List.drop_drop, Nat.add_sub_cancel' forward]
  | none =>
      simp only [opened] at stopped ⊢
      rcases nextElement_resumed stopped more with
        same | ⟨start, missing, opens, forward, within, kept, resumed⟩
      -- the length is not complete, so nothing of the element is kept
      · subst same
        refine ⟨Nat.le_refl _, fits, ?_⟩
        rw [opened, longer]
      · refine ⟨Nat.le_trans opens forward, ⟨by omega, ?_⟩, ?_⟩
        · intro other found
          rw [kept] at found
          cases found
          exact forward
        · rw [kept, resumed, longer, List.drop_drop, List.drop_drop,
            Nat.add_sub_cancel' opens,
            Nat.add_sub_cancel' (Nat.le_trans opens forward)]

/-! ### Frames in a longer buffer -/

theorem closeElement_comma_rest {progress next : Progress} {content : Content}
    {body rest after : Bytes}
    (done : closeElement progress content body rest = .comma next after) :
    next.content = none ∧ after <:+ rest := by
  rw [closeElement_eq] at done
  cases passing : passContent 0 content.missing rest with
  | error cause =>
      rw [passing] at done
      cases done
  | ok passed =>
      rw [passing] at done
      have forward := (passContent_forward passing).2.2
      unfold Passed.element at done
      simp only at done
      split at done
      · cases left : passed.rest with
        | nil => simp [left] at done
        | cons terminator others =>
            simp only [left] at done
            split at done
            · cases done
            · split at done
              · cases done
                refine ⟨rfl, ?_⟩
                have tail : after <:+ passed.rest := by
                  rw [left]
                  exact List.suffix_cons _ _
                rw [forward] at tail
                exact tail.trans (List.drop_suffix _ _)
              · split at done <;> cases done
      · cases done

theorem advanceElement_comma_fits {limits : Limits} {buffer rest after : Bytes}
    {progress next : Progress} (fits : progress.Fits buffer)
    (here : rest = buffer.drop progress.position)
    (done : advanceElement limits buffer progress rest = .comma next after) :
    next.Fits buffer ∧ after = buffer.drop next.position := by
  have moved := advanceElement_comma done
  have closed : next.content = none ∧ after <:+ rest := by
    unfold advanceElement at done
    split at done
    · exact closeElement_comma_rest done
    · unfold nextElement at done
      split at done
      · cases done
      · split at done
        · cases done
        · cases done
        · split at done
          · cases done
          · have reached := closeElement_comma_rest done
            exact ⟨reached.1, reached.2.trans (List.drop_suffix _ _)⟩
  have within := fits.1
  rw [here, List.length_drop] at moved
  constructor
  · refine ⟨by omega, ?_⟩
    intro content open_
    rw [closed.1] at open_
    cases open_
  · have suffix : after <:+ buffer := by
      rw [here] at closed
      exact closed.2.trans (List.drop_suffix _ _)
    rw [List.suffix_iff_eq_drop.mp suffix]
    congr 1
    omega

theorem scanFrom_append {limits : Limits} {buffer rest : Bytes}
    {progress : Progress} (fits : progress.Fits buffer)
    (here : rest = buffer.drop progress.position)
    (settled : ∀ next, scanFrom limits buffer progress rest ≠ .incomplete next)
    (more : Bytes) :
    scanFrom limits (buffer ++ more) progress (rest ++ more) =
      scanFrom limits buffer progress rest := by
  fun_induction scanFrom limits buffer progress rest with
  | case1 progress rest next step => exact absurd rfl (settled next)
  | case2 progress rest cause step =>
      have same := advanceElement_append fits here step (by simp) more
      rw [scanFrom, same]
      rfl
  | case3 progress rest next step =>
      have same := advanceElement_append fits here step (by simp) more
      rw [scanFrom, same]
      rfl
  | case4 progress rest next after step ih =>
      have same := advanceElement_append fits here step (by simp) more
      have later := advanceElement_comma_fits fits here step
      rw [scanFrom, same]
      exact ih later.1 later.2 settled

/-- A scan that stops inside a frame keeps progress of the buffer, and going on
from it in a longer buffer is the scan of the longer buffer. -/
theorem scanFrom_resumed {limits : Limits} {buffer rest : Bytes}
    {progress next : Progress} (fits : progress.Fits buffer)
    (here : rest = buffer.drop progress.position)
    (stopped : scanFrom limits buffer progress rest = .incomplete next)
    (more : Bytes) :
    progress.position ≤ next.position ∧ next.Fits buffer ∧
      scanFrom limits (buffer ++ more) progress (rest ++ more) =
        scanFrom limits (buffer ++ more) next
          ((buffer ++ more).drop next.position) := by
  fun_induction scanFrom limits buffer progress rest with
  | case1 progress rest reached step =>
      cases stopped
      have resumed := advanceElement_resumed fits here step more
      refine ⟨resumed.1, resumed.2.1, ?_⟩
      rw [scanFrom, resumed.2.2, ← scanFrom]
  | case2 progress rest cause step => cases stopped
  | case3 progress rest reached step => cases stopped
  | case4 progress rest reached after step ih =>
      have same := advanceElement_append fits here step (by simp) more
      have later := advanceElement_comma_fits fits here step
      have moved := advanceElement_comma step
      have resumed := ih later.1 later.2 stopped
      refine ⟨by omega, resumed.2.1, ?_⟩
      rw [scanFrom, same]
      exact resumed.2.2

/-! ### Decoding a longer buffer -/

namespace Decoder

theorem decode_of_fits {decoder : Decoder} {buffer : Bytes}
    (fits : decoder.progress.Fits buffer) :
    decoder.decode buffer =
      match scanFrom decoder.limits buffer decoder.progress
          (buffer.drop decoder.progress.position) with
      | .incomplete progress => (.incomplete, { decoder with progress })
      | .malformed cause => (.malformed cause, decoder.reset)
      | .complete progress => (frameOf buffer progress, decoder.reset) := by
  unfold decode
  generalize start : (if buffer.length < decoder.progress.position then
    ({} : Progress) else decoder.progress) = progress
  have kept : decoder.progress = progress := by
    rw [← start, if_neg (Nat.not_lt.mpr fits.1)]
  subst kept
  rfl

theorem frameOf_append {buffer : Bytes} {progress : Progress}
    (within : progress.position ≤ buffer.length) (more : Bytes) :
    frameOf (buffer ++ more) progress = frameOf buffer progress := by
  unfold frameOf
  rw [List.take_append_of_le_length within]

theorem decode_append {decoder : Decoder} {buffer : Bytes}
    (fits : decoder.progress.Fits buffer)
    (settled : (decoder.decode buffer).1 ≠ .incomplete) (more : Bytes) :
    decoder.decode (buffer ++ more) = decoder.decode buffer := by
  rw [decode_of_fits fits] at settled ⊢
  rw [decode_of_fits (fits.append more),
    List.drop_append_of_le_length fits.1]
  cases scan : scanFrom decoder.limits buffer decoder.progress
      (buffer.drop decoder.progress.position) with
  | incomplete progress =>
      rw [scan] at settled
      exact absurd rfl settled
  | malformed cause =>
      rw [scanFrom_append fits rfl (by simp [scan]) more, scan]
  | complete progress =>
      have bounds := scanFrom_complete scan
      have inside := fits.1
      rw [List.length_drop] at bounds
      rw [scanFrom_append fits rfl (by simp [scan]) more, scan]
      simp only
      rw [frameOf_append (by omega)]

/-- Decoding that stops inside a frame keeps progress of the buffer, and going
on with it is decoding the longer buffer from the start of the frame. -/
theorem decode_resumed {decoder next : Decoder} {buffer : Bytes}
    (fits : decoder.progress.Fits buffer)
    (stopped : decoder.decode buffer = (.incomplete, next)) (more : Bytes) :
    decoder.scanned ≤ next.scanned ∧ next.progress.Fits buffer ∧
      next.limits = decoder.limits ∧
      decoder.decode (buffer ++ more) = next.decode (buffer ++ more) := by
  rw [decode_of_fits fits] at stopped
  cases scan : scanFrom decoder.limits buffer decoder.progress
      (buffer.drop decoder.progress.position) with
  | malformed cause => simp [scan] at stopped
  | complete progress =>
      rw [scan] at stopped
      unfold frameOf at stopped
      simp only at stopped
      split at stopped
      · cases stopped
      · split at stopped <;> cases stopped
  | incomplete progress =>
      rw [scan] at stopped
      cases stopped
      have resumed := scanFrom_resumed fits rfl scan more
      refine ⟨resumed.1, resumed.2.1, rfl, ?_⟩
      rw [decode_of_fits (fits.append more),
        decode_of_fits (resumed.2.1.append more),
        List.drop_append_of_le_length fits.1, resumed.2.2]
      rfl

theorem decode_frame_fresh {decoder next : Decoder} {buffer : Bytes}
    {frame : Frame} {length : Nat}
    (step : decoder.decode buffer = (.frame frame length, next)) :
    next = decoder.reset := by
  unfold decode at step
  simp only at step
  split at step
  · cases step
  · cases step
  · exact (congrArg Prod.snd step).symm

end Decoder

end TunnelRelay
