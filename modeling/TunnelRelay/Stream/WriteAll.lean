import TunnelRelay.Stream.Basic

/-!
Writing a whole byte string.

A stream may take a part of what it is given. `writeAll` goes on with the rest until everything is
taken, the stream fails, or it takes nothing for now.
-/

namespace TunnelRelay

inductive Written where
  | done
  | failed (fault : IoFault)
  /-- The bytes that are not taken yet. -/
  | parked (rest : Bytes)
  deriving DecidableEq, Repr

/-- Writes until all bytes are taken. A stream that takes none of them has failed. -/
def writeAll {σ : Type} [ByteSink σ] (rest : Bytes) (output : σ) : Written × σ :=
  match rest with
  | [] => (.done, output)
  | byte :: bytes =>
    match ByteSink.write output (byte :: bytes) with
    | (.parked, output) => (.parked (byte :: bytes), output)
    | (.ready (.error fault), output) => (.failed fault, output)
    | (.ready (.ok 0), output) => (.failed .wroteNothing, output)
    | (.ready (.ok (count + 1)), output) => writeAll (bytes.drop count) output
termination_by rest.length
decreasing_by simp only [List.length_cons, List.length_drop]; omega

end TunnelRelay
