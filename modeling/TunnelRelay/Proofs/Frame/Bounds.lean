import TunnelRelay.Proofs.Frame.Forwarding

/-!
Bounds only ever reject.

What a decoder says under bounds, unless it finds the bytes malformed, is what it says without
them: the same frame, or the same progress in an incomplete one. So bytes that are whole frames
never leave a bounded decoder waiting.
-/

namespace TunnelRelay

theorem nextElement_unbounded {limits : Limits} {progress : Progress}
    {rest : Bytes} {result : ElementResult}
    (step : nextElement limits progress rest = result)
    (sound : ∀ cause, result ≠ .malformed cause) :
    nextElement .unbounded progress rest = result := by
  unfold nextElement at step ⊢
  rw [if_neg (by simp [Limits.unbounded])]
  split at step
  · exact absurd step.symm (sound _)
  · cases reading : readLength 0 0 rest with
    | incomplete =>
        rw [reading] at step
        exact step
    | malformed cause =>
        rw [reading] at step
        exact absurd step.symm (sound cause)
    | found length size =>
        rw [reading] at step
        simp only at step ⊢
        rw [if_neg (by simp [Limits.unbounded])]
        split at step
        · exact absurd step.symm (sound _)
        · exact step

theorem advanceElement_unbounded {limits : Limits} {buffer rest : Bytes}
    {progress : Progress} {result : ElementResult}
    (step : advanceElement limits buffer progress rest = result)
    (sound : ∀ cause, result ≠ .malformed cause) :
    advanceElement .unbounded buffer progress rest = result := by
  unfold advanceElement at step ⊢
  cases opened : progress.content with
  | some content =>
      rw [opened] at step
      exact step
  | none =>
      rw [opened] at step
      exact nextElement_unbounded step sound

theorem scanFrom_unbounded {limits : Limits} {buffer rest : Bytes}
    {progress : Progress} {result : ScanResult}
    (scan : scanFrom limits buffer progress rest = result)
    (sound : ∀ cause, result ≠ .malformed cause) :
    scanFrom .unbounded buffer progress rest = result := by
  fun_induction scanFrom limits buffer progress rest with
  | case1 progress rest stopped step =>
      have same := advanceElement_unbounded step (by simp)
      rw [scanFrom, same]
      exact scan
  | case2 progress rest cause step => exact absurd scan.symm (sound cause)
  | case3 progress rest ended step =>
      have same := advanceElement_unbounded step (by simp)
      rw [scanFrom, same]
      exact scan
  | case4 progress rest further after step ih =>
      have same := advanceElement_unbounded step (by simp)
      rw [scanFrom, same]
      exact ih scan

namespace Decoder

theorem decode_unbounded {limits : Limits} {decoded : Decoded}
    {next : Decoder} {buffer : Bytes}
    (step : Decoder.decode { limits } buffer = (decoded, next))
    (sound : ∀ cause, decoded ≠ .malformed cause) :
    unbounded.decode buffer = (decoded, { next with limits := .unbounded }) := by
  have fits := Progress.fits_initial buffer
  unfold unbounded
  rw [decode_of_fits fits] at step ⊢
  simp only [List.drop_zero] at step ⊢
  cases scanning : scanFrom limits buffer {} buffer with
  | incomplete progress =>
      rw [scanning] at step
      cases step
      rw [scanFrom_unbounded scanning (by simp)]
  | malformed cause =>
      rw [scanning] at step
      cases step
      exact absurd rfl (sound cause)
  | complete progress =>
      rw [scanning] at step
      cases step
      rw [scanFrom_unbounded scanning (by simp)]
      rfl

end Decoder

theorem WholeFrames.eq_nil_of_waiting {limits : Limits} {bytes : Bytes}
    {next : Decoder} (whole : WholeFrames bytes)
    (waits : Decoder.decode { limits } bytes = (.incomplete, next)) :
    bytes = [] :=
  whole.eq_nil_of_incomplete (Decoder.decode_unbounded waits (by simp))

/-- Bytes that are not malformed leave nothing behind their frames exactly if
they are whole frames. -/
theorem Intake.left_eq_nil_iff {limits : Limits} {data : Bytes}
    (sound : (takeFrames { limits } data []).fault = none) :
    (takeFrames { limits } data []).left = [] ↔ WholeFrames data := by
  have conserved := received_takeFrames limits data
  have shaped : ∀ frame ∈ (takeFrames { limits } data []).frames,
      ∃ wire : WireFrame, Bytes.ofText frame.raw = wire.bytes := by
    intro frame member
    obtain ⟨wire, raw, -⟩ := takeFrames_shape member
    exact ⟨wire, raw⟩
  constructor
  · intro empty
    rw [← conserved, empty, List.append_nil]
    exact Frame.wholeFrames_received shaped
  · intro whole
    rw [← conserved] at whole
    exact (whole.behind_received shaped).eq_nil_of_waiting
      (takeFrames_decoder rfl sound)

end TunnelRelay
