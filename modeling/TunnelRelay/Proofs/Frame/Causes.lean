import TunnelRelay.Proofs.Frame.Grammar

/-!
Why bytes are no frame.

A scan finds fault with an element, or with there being one more. So a decoder never says that a
stream has ended; and one that starts at the front of a frame never says that the frame as a whole
is no text or has no elements, since what it has scanned is a frame.
-/

namespace TunnelRelay

/-- What can be wrong with an element of a frame. -/
def Malformed.ofElement : List Malformed :=
  [tooManyElements, elementTooLong, lengthTooLong, lengthMissing, lengthNotNumeric,
    elementNotText, badTerminator]

theorem readLength_cause {value digits : Nat} {bytes : Bytes}
    {cause : Malformed}
    (fails : readLength value digits bytes = .malformed cause) :
    cause ∈ Malformed.ofElement := by
  fun_induction readLength value digits bytes with
  | case1 => cases fails
  | case2 value digits byte rest digit short ih => exact ih fails
  | case3 => cases fails; decide
  | case4 => cases fails; decide
  | case5 => cases fails
  | case6 => cases fails; decide

theorem passContent_cause {size missing : Nat} {rest : Bytes}
    {cause : Malformed} (fails : passContent size missing rest = .error cause) :
    cause ∈ Malformed.ofElement := by
  fun_induction passContent size missing rest with
  | case1 => cases fails
  | case2 => cases fails
  | case3 => cases fails; decide
  | case4 => cases fails
  | case5 size missing lead rest width found after step ih => exact ih fails

theorem closeElement_cause {progress : Progress} {content : Content}
    {body rest : Bytes} {cause : Malformed}
    (fails : closeElement progress content body rest = .malformed cause) :
    cause ∈ Malformed.ofElement := by
  unfold closeElement at fails
  split at fails
  · rename_i other passing
    cases fails
    exact passContent_cause passing
  · simp only at fails
    split at fails
    · split at fails
      · cases fails
      · split at fails
        · cases fails
          decide
        · split at fails
          · cases fails
          · split at fails
            · cases fails
            · cases fails
              decide
    · cases fails

theorem advanceElement_cause {limits : Limits} {buffer rest : Bytes}
    {progress : Progress} {cause : Malformed}
    (fails : advanceElement limits buffer progress rest = .malformed cause) :
    cause ∈ Malformed.ofElement := by
  unfold advanceElement at fails
  split at fails
  · exact closeElement_cause fails
  · unfold nextElement at fails
    split at fails
    · cases fails
      decide
    · split at fails
      · cases fails
      · rename_i other reading
        cases fails
        exact readLength_cause reading
      · split at fails
        · cases fails
          decide
        · exact closeElement_cause fails

theorem scanFrom_cause {limits : Limits} {buffer rest : Bytes}
    {progress : Progress} {cause : Malformed}
    (fails : scanFrom limits buffer progress rest = .malformed cause) :
    cause ∈ Malformed.ofElement := by
  fun_induction scanFrom limits buffer progress rest with
  | case1 => cases fails
  | case2 progress rest other step =>
      cases fails
      exact advanceElement_cause step
  | case3 => cases fails
  | case4 progress rest further after step ih => exact ih fails

namespace Decoder

theorem decode_not_ended {decoder next : Decoder} {buffer : Bytes}
    {cause : Malformed}
    (fails : decoder.decode buffer = (.malformed cause, next)) :
    cause ≠ .streamEnded := by
  unfold decode at fails
  simp only at fails
  split at fails
  · cases fails
  · rename_i other scan
    cases fails
    intro ended
    have known := scanFrom_cause scan
    rw [ended] at known
    exact absurd known (by decide)
  · have finished := congrArg Prod.fst fails
    unfold frameOf at finished
    split at finished
    · cases finished
      decide
    · split at finished
      · cases finished
        decide
      · cases finished

theorem decode_fresh_cause {limits : Limits} {next : Decoder} {buffer : Bytes}
    {cause : Malformed}
    (fails : Decoder.decode { limits } buffer = (.malformed cause, next)) :
    cause ∈ Malformed.ofElement := by
  have scan := fails
  rw [decode_of_fits (Progress.fits_initial _)] at scan
  simp only [List.drop_zero] at scan
  cases scanning : scanFrom limits buffer {} buffer with
  | incomplete progress => simp [scanning] at scan
  | malformed other =>
      rw [scanning] at scan
      cases scan
      exact scanFrom_cause scanning
  | complete progress =>
      obtain ⟨wire, more, rfl, admitted⟩ := scanFrom_shape rfl scanning
      obtain ⟨raw, -, found⟩ := decode_wire wire admitted more
      rw [found] at fails
      cases fails

end Decoder

end TunnelRelay
