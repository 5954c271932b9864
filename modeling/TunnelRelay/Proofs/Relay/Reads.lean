import TunnelRelay.Proofs.Frame.Reading
import TunnelRelay.Tunnel

/-!
Reading from a tunnel.

Only reads change the reader of a tunnel. They keep it sound and give whole frames, and what they
give and what they leave are the bytes that have arrived. A closed tunnel gives nothing any more.
-/

namespace TunnelRelay.Tunnel

variable {σ : Type} [Connection σ] {limits : Limits}

/-- A read from a tunnel is one of its reader, or finds the tunnel closed. -/
theorem readFrame_sound {tunnel next : Tunnel σ}
    {outcome : Poll (Except RelayError (Option Frame))}
    (sound : tunnel.reader.Sound limits)
    (done : tunnel.readFrame = (outcome, next)) :
    next.reader.Sound limits ∧
      (∀ frame, outcome = .ready (.ok (some frame)) →
        ∃ wire : WireFrame, Bytes.ofText frame.raw = wire.bytes ∧
          frame.instruction = wire.instruction) ∧
      ∃ got, Obtains tunnel.backend got next.backend ∧
        tunnel.reader.buffer ++ got =
          FrameReader.gone outcome ++ next.reader.buffer := by
  unfold readFrame at done
  split at done
  · cases done
    refine ⟨sound, ?_, [], .nothing tunnel.backend, List.append_nil _⟩
    intro frame impossible
    cases impossible
  · cases reading : tunnel.reader.readFrame tunnel.backend with
    | mk read rest =>
        obtain ⟨reader, backend⟩ := rest
        rw [reading] at done
        cases done
        exact FrameReader.readFrame_sound sound reading

theorem readFrame_rest {tunnel next : Tunnel σ}
    {outcome : Poll (Except RelayError (Option Frame))}
    (done : tunnel.readFrame = (outcome, next)) :
    next = { tunnel with reader := next.reader, backend := next.backend } := by
  unfold readFrame at done
  split at done
  · cases done
    rfl
  · cases done
    rfl

theorem close_reader (tunnel : Tunnel σ) : tunnel.close.reader = tunnel.reader := by
  unfold close
  split <;> rfl

theorem close_isOpen (tunnel : Tunnel σ) : tunnel.close.isOpen = false := by
  unfold close
  split
  · rfl
  · rename_i shut
    exact eq_false_of_ne_true shut

end TunnelRelay.Tunnel
