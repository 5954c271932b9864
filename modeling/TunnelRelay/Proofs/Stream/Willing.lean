import TunnelRelay.Frame.Writer
import TunnelRelay.Stream.Script

/-!
Streams that take everything.

A willing stream never fails a write or a flush and never makes a writer wait. It may take a write
in several parts; each part is remembered behind what was taken before, so a whole byte string
arrives in one piece.
-/

namespace TunnelRelay

/-- A stream that is `willing` takes at least one byte of each write and
remembers it among the bytes `taken`. -/
structure TakesAll {σ : Type} [ByteSink σ] (willing : σ → Prop)
    (taken : σ → Bytes) : Prop where
  write : ∀ {output : σ}, willing output → ∀ byte bytes, ∃ count next,
    ByteSink.write output (byte :: bytes) = (.ready (.ok (count + 1)), next) ∧
      willing next ∧
      taken next = taken output ++ (byte :: bytes).take (count + 1)
  flush : ∀ {output : σ}, willing output → ∃ next,
    ByteSink.flush output = (.ready (.ok ()), next) ∧ willing next ∧
      taken next = taken output

namespace TakesAll

variable {σ : Type} [ByteSink σ] {willing : σ → Prop} {taken : σ → Bytes}

theorem writeAll (takes : TakesAll willing taken) (rest : Bytes) (output : σ)
    (ready : willing output) :
    ∃ next, TunnelRelay.writeAll rest output = (.done, next) ∧ willing next ∧
      taken next = taken output ++ rest := by
  fun_induction TunnelRelay.writeAll rest output with
  | case1 output => exact ⟨output, rfl, ready, (List.append_nil _).symm⟩
  | case2 output byte bytes next step
  | case3 output byte bytes fault next step
  | case4 output byte bytes next step =>
      obtain ⟨count, other, written, -, -⟩ := takes.write ready byte bytes
      rw [written] at step
      cases step
  | case5 output byte bytes count next step ih =>
      obtain ⟨parts, other, written, still, grown⟩ :=
        takes.write ready byte bytes
      rw [written] at step
      cases step
      obtain ⟨last, done, willing, whole⟩ := ih still
      refine ⟨last, done, willing, ?_⟩
      rw [whole, grown, List.append_assoc, List.take_succ_cons,
        List.cons_append, List.take_append_drop]

theorem poll (takes : TakesAll willing taken) (data : Bytes) (output : σ)
    (ready : willing output) :
    ∃ next, (Sending.ofBytes data).poll output = (.done, next) ∧
      willing next ∧ taken next = taken output ++ data := by
  obtain ⟨written, done, still, grown⟩ := takes.writeAll data output ready
  obtain ⟨next, flushed, willing, same⟩ := takes.flush still
  refine ⟨next, ?_, willing, same.trans grown⟩
  unfold Sending.ofBytes Sending.poll Sending.flush
  simp only [done, flushed]

end TakesAll

theorem Sink.takesAll :
    TakesAll (fun sink : Sink => sink.accepts = none ∧ sink.flushFault = none)
      Sink.taken := by
  constructor
  · intro sink willing byte bytes
    refine ⟨bytes.length, { sink with taken := sink.taken ++ byte :: bytes },
      ?_, willing, ?_⟩
    · change sink.write (byte :: bytes) = _
      unfold Sink.write
      rw [willing.1]
      rfl
    · rw [← List.length_cons, List.take_length]
  · intro sink willing
    refine ⟨{ sink with calls := sink.calls ++ [.flush] }, ?_, willing, rfl⟩
    change (Poll.ready sink.settled, _) = _
    unfold Sink.settled
    rw [willing.2]

end TunnelRelay
