import TunnelRelay.Stream.Script
import TunnelRelay.Proofs.Frame.Causes
import TunnelRelay.Proofs.Frame.Reading

/-!
When a reader has something to give.

A reader looks at its buffer after every change of it. So it says that something is available
exactly if the stream has ended or a decoder that starts over with the bytes still to be given
finds more than an incomplete frame; a read then gives it without a look at the stream. Each time
a read does turn to the stream, there was nothing else it could have given.
-/

namespace TunnelRelay

/-! ### Streams that keep a record of their reads -/

/-- A stream with the outcome of each read of it. -/
structure Logged (σ : Type) where
  stream : σ
  /-- What the reads have come to, the earliest first. -/
  log : List (Poll (Except IoFault Bytes))

instance {σ : Type} [ByteSource σ] : ByteSource (Logged σ) where
  read logged room :=
    let (outcome, stream) := ByteSource.read logged.stream room
    (outcome, { stream, log := logged.log ++ [outcome] })
  held logged := ByteSource.held logged.stream
  held_read := by
    intro logged next room bytes done some
    simp only [Prod.mk.injEq] at done
    obtain ⟨given, rfl⟩ := done
    exact ByteSource.held_read (Prod.ext given rfl) some

theorem Logged.read_log {σ : Type} [ByteSource σ] {logged next : Logged σ}
    {room : Nat} {outcome : Poll (Except IoFault Bytes)}
    (done : ByteSource.read logged room = (outcome, next)) :
    next.log = logged.log ++ [outcome] := by
  obtain ⟨rfl, rfl⟩ := Prod.mk.inj done
  rfl

/-! ### What a reader has seen -/

namespace FrameReader

variable {σ : Type} [ByteSource σ] {limits : Limits} {reader next : FrameReader}
  {log : List (Poll (Except IoFault Bytes))} {returned : Bytes}
  {input rest : Logged σ} {outcome : Poll (Except RelayError (Option Frame))}

/-- The reader has given the bytes `returned` of a stream whose reads came to
`log`. It has looked at all the others, and knows whether the stream has ended. -/
structure Sees (limits : Limits) (log : List (Poll (Except IoFault Bytes)))
    (returned : Bytes) (reader : FrameReader) : Prop where
  looks : reader.Looks limits
  ended : reader.ended = true ↔ .ready (.ok []) ∈ log
  conserved : log.flatMap Poll.given = returned ++ reader.buffer

theorem sees_fresh (room : limits.elements ≠ some 0) :
    ({ decoder := { limits } } : FrameReader).Sees limits [] [] where
  looks := looks_fresh room
  ended := by simp
  conserved := rfl

theorem Sees.reserve (sees : reader.Sees limits log returned) :
    reader.reserve.Sees limits log returned where
  looks := sees.looks.reserve
  ended := by rw [reserve_ended, sees.ended]
  conserved := by rw [reserve_buffer, sees.conserved]

theorem Sees.chunk (sees : reader.Sees limits log returned) (byte : UInt8)
    (bytes : Bytes) :
    (reader.scan (reader.buffer ++ byte :: bytes)).Sees limits
      (log ++ [.ready (.ok (byte :: bytes))]) returned where
  looks := scan_looks (sees.looks.sound.goes_on _)
  ended := by
    change reader.ended = true ↔ _
    simp [sees.ended]
  conserved := by
    rw [List.flatMap_append, sees.conserved, List.append_assoc,
      List.flatMap_singleton]
    rfl

theorem Sees.nothing {answer : Poll (Except IoFault Bytes)}
    (sees : reader.Sees limits log returned) (open_ : answer ≠ .ready (.ok []))
    (empty : answer.given = []) :
    reader.Sees limits (log ++ [answer]) returned where
  looks := sees.looks
  ended := by simp [sees.ended, open_.symm]
  conserved := by
    rw [List.flatMap_append, sees.conserved, List.flatMap_singleton, empty,
      List.append_nil]

theorem Sees.finish (sees : reader.Sees limits log returned) :
    ({ reader with ended := true } : FrameReader).Sees limits
      (log ++ [.ready (.ok [])]) returned where
  looks := sees.looks
  ended := by simp
  conserved := by
    rw [List.flatMap_append, sees.conserved]
    exact List.append_nil _

theorem Sees.gave {frame : Frame} {length : Nat}
    (sees : reader.Sees limits log returned)
    (holds : reader.next = some (.ok (frame, length))) :
    (reader.forget.scan (reader.buffer.drop length)).Sees limits log
      (returned ++ gone (.ready (.ok (some frame)))) where
  looks := by
    apply scan_looks
    change reader.decoder.decode _ = _
    rw [(sees.looks.sound.frame holds).2]
  ended := sees.ended
  conserved := by
    obtain ⟨wire, more, split, extent, -, raw, -⟩ :=
      Decoder.decode_frame_shape (sees.looks.sound.frame holds).1
    rw [sees.conserved, scan_buffer, split, extent, List.drop_left, gone, raw,
      List.append_assoc]

theorem readFrame_sees (sees : reader.Sees limits input.log returned)
    (done : reader.readFrame input = (outcome, next, rest))
    (sound : ∀ cause, outcome = .ready (.error (.malformed cause)) →
      cause = .streamEnded) :
    next.Sees limits rest.log (returned ++ gone outcome) := by
  fun_induction readFrame reader input with
  | case1 reader input frame length holds =>
      cases done
      exact sees.gave holds
  | case2 reader input cause holds =>
      cases done
      have ended := sound cause rfl
      exact absurd ended
        (Decoder.decode_not_ended (sees.looks.sound.malformed holds))
  | case3 reader input waits ended =>
      cases done
      rw [gone_atEnd, List.append_nil]
      exact sees
  | case4 reader input waits open_ grown stream step =>
      simp only [Prod.mk.injEq] at done
      obtain ⟨rfl, rfl, rfl⟩ := done
      rw [Logged.read_log step, gone, List.append_nil]
      exact sees.reserve.nothing (by simp) rfl
  | case5 reader input waits open_ grown fault stream step =>
      simp only [Prod.mk.injEq] at done
      obtain ⟨rfl, rfl, rfl⟩ := done
      rw [Logged.read_log step, gone, List.append_nil]
      exact sees.reserve.nothing (by simp) rfl
  | case6 reader input waits open_ grown stream step last =>
      simp only [Prod.mk.injEq] at done
      obtain ⟨rfl, rfl, rfl⟩ := done
      rw [Logged.read_log step, gone_atEnd, List.append_nil]
      exact sees.reserve.finish
  | case7 reader input waits open_ grown byte bytes stream step ih =>
      have seen := sees.reserve.chunk byte bytes
      rw [← Logged.read_log step] at seen
      exact ih seen done

/-! ### Availability -/

theorem Sees.available_iff (sees : reader.Sees limits log returned) :
    reader.available = true ↔ .ready (.ok []) ∈ log ∨
      (Decoder.decode { limits } reader.buffer).1 ≠ .incomplete := by
  obtain ⟨decoded, looked, holds⟩ := sees.looks
  rw [available, Bool.or_eq_true, sees.ended, looked, holds]
  apply or_congr_right
  cases decoded with
  | incomplete => simp [pendingOf]
  | frame frame length => simp [pendingOf]
  | malformed cause => simp [pendingOf]

theorem Sees.waits (sees : reader.Sees limits log returned)
    (waits : reader.next = none) (open_ : ¬ reader.ended = true) :
    (Decoder.decode { limits } reader.buffer).1 = .incomplete ∧
      .ready (.ok []) ∉ log := by
  rw [sees.looks.incomplete waits, ← sees.ended]
  exact ⟨rfl, open_⟩

/-- Of a stream whose reads came to `log` the reads `made` are needed by a reader
that holds the bytes `buffer`: at each of them there is an incomplete frame, and
the stream has not ended. -/
def Needs (limits : Limits) (log : List (Poll (Except IoFault Bytes)))
    (buffer : Bytes) (made : List (Poll (Except IoFault Bytes))) : Prop :=
  ∀ before answer after, made = before ++ answer :: after →
    (Decoder.decode { limits } (buffer ++ before.flatMap Poll.given)).1 =
        .incomplete ∧
      .ready (.ok []) ∉ log ++ before

theorem needs_nil (buffer : Bytes) : Needs limits log buffer [] := by
  intro before answer after split
  cases before <;> cases split

theorem Needs.cons {buffer : Bytes} {answer : Poll (Except IoFault Bytes)}
    {made : List (Poll (Except IoFault Bytes))}
    (first : (Decoder.decode { limits } buffer).1 = .incomplete ∧
      .ready (.ok []) ∉ log)
    (others : Needs limits (log ++ [answer]) (buffer ++ answer.given) made) :
    Needs limits log buffer (answer :: made) := by
  intro before other after split
  cases before with
  | nil =>
      rw [List.flatMap_nil, List.append_nil, List.append_nil]
      exact first
  | cons earlier before =>
      obtain ⟨rfl, tails⟩ := List.cons.inj split
      have later := others before other after tails
      rw [List.append_assoc, List.append_assoc] at later
      exact later

theorem readFrame_needs (sees : reader.Sees limits input.log returned)
    (done : reader.readFrame input = (outcome, next, rest)) :
    ∃ made, rest.log = input.log ++ made ∧
      (reader.available = false → made ≠ []) ∧
      Needs limits input.log reader.buffer made := by
  fun_induction readFrame reader input with
  | case1 reader input frame length holds =>
      cases done
      refine ⟨[], (List.append_nil _).symm, ?_, needs_nil _⟩
      rw [available, holds]
      simp
  | case2 reader input cause holds =>
      cases done
      refine ⟨[], (List.append_nil _).symm, ?_, needs_nil _⟩
      rw [available, holds]
      simp
  | case3 reader input waits ended =>
      cases done
      refine ⟨[], (List.append_nil _).symm, ?_, needs_nil _⟩
      rw [available, ended]
      simp
  | case4 reader input waits open_ grown stream step =>
      simp only [Prod.mk.injEq] at done
      obtain ⟨-, -, rfl⟩ := done
      exact ⟨_, Logged.read_log step, fun _ => List.cons_ne_nil _ _,
        .cons (sees.waits waits open_) (needs_nil _)⟩
  | case5 reader input waits open_ grown fault stream step =>
      simp only [Prod.mk.injEq] at done
      obtain ⟨-, -, rfl⟩ := done
      exact ⟨_, Logged.read_log step, fun _ => List.cons_ne_nil _ _,
        .cons (sees.waits waits open_) (needs_nil _)⟩
  | case6 reader input waits open_ grown stream step last =>
      simp only [Prod.mk.injEq] at done
      obtain ⟨-, -, rfl⟩ := done
      exact ⟨_, Logged.read_log step, fun _ => List.cons_ne_nil _ _,
        .cons (sees.waits waits open_) (needs_nil _)⟩
  | case7 reader input waits open_ grown byte bytes stream step ih =>
      have seen := sees.reserve.chunk byte bytes
      rw [← Logged.read_log step] at seen
      obtain ⟨made, grows, -, needs⟩ := ih seen done
      rw [Logged.read_log step] at grows needs
      refine ⟨.ready (.ok (byte :: bytes)) :: made, ?_,
        fun _ => List.cons_ne_nil _ _, .cons (sees.waits waits open_) ?_⟩
      · rw [grows, List.append_assoc]
        rfl
      · rw [scan_buffer, reserve_buffer] at needs
        exact needs

/-! ### Reads one after another -/

/-- Reads one after another. Each finds the stream as it is by then, whatever has
happened to it in between; `log` are the reads of the stream so far. -/
def readLogged (reader : FrameReader)
    (log : List (Poll (Except IoFault Bytes))) : List σ →
      List (Poll (Except RelayError (Option Frame))) × FrameReader ×
        List (Poll (Except IoFault Bytes))
  | [] => ([], reader, log)
  | stream :: streams =>
      let (outcome, next, rest) :=
        reader.readFrame ({ stream, log } : Logged σ)
      let (outcomes, last, log) := next.readLogged rest.log streams
      (outcome :: outcomes, last, log)

theorem readLogged_sees (streams : List σ)
    (sees : reader.Sees limits log returned)
    (sound : ∀ cause, .ready (.error (.malformed cause)) ∈
      (reader.readLogged log streams).1 → cause = .streamEnded) :
    (reader.readLogged log streams).2.1.Sees limits
      (reader.readLogged log streams).2.2
      (returned ++ (reader.readLogged log streams).1.flatMap gone) := by
  induction streams generalizing reader log returned with
  | nil =>
      rw [readLogged, List.flatMap_nil, List.append_nil]
      exact sees
  | cons stream streams ih =>
      rcases reading : reader.readFrame ({ stream, log } : Logged σ) with
        ⟨outcome, next, rest⟩
      simp only [readLogged, reading] at sound ⊢
      have seen := readFrame_sees sees reading fun cause told =>
        sound cause (told ▸ List.mem_cons_self)
      have later := ih seen fun cause told =>
        sound cause (List.mem_cons_of_mem _ told)
      rw [List.append_assoc] at later
      exact later

/-- However a reader got to where it is, by reads of a stream that may do anything
in between: as long as it has not told that bytes are malformed, it says that
something is available exactly if the stream has ended or a decoder that starts
over finds a frame or a fault in the bytes that have arrived and not been given.
Then a read is ready without a read of the stream. Otherwise a read does turn to
the stream, and does so again only while there is an incomplete frame and the
stream has not ended. -/
theorem available_exact (limits : Limits)
    (side : limits = .client ∨ limits = .unbounded) (streams : List σ) :
    let (outcomes, reader, log) :=
      readLogged { decoder := { limits } } [] streams
    (∀ cause, .ready (.error (.malformed cause)) ∈ outcomes →
      cause = .streamEnded) →
    log.flatMap Poll.given = outcomes.flatMap gone ++ reader.buffer ∧
    (reader.available = true ↔ .ready (.ok []) ∈ log ∨
      (Decoder.decode { limits } reader.buffer).1 ≠ .incomplete) ∧
    (reader.available = true → ∃ outcome next, ∀ stream : σ,
      reader.readFrame ({ stream, log } : Logged σ) =
        (.ready outcome, next, { stream, log })) ∧
    ∀ stream : σ, ∃ made,
      (reader.readFrame ({ stream, log } : Logged σ)).2.2.log = log ++ made ∧
      (reader.available = false → made ≠ []) ∧
      Needs limits log reader.buffer made := by
  have room : limits.elements ≠ some 0 := by
    rcases side with rfl | rfl <;> decide
  rcases run : readLogged { decoder := { limits } } [] streams with
    ⟨outcomes, reader, log⟩
  intro sound
  have sees := readLogged_sees streams (sees_fresh room)
    (by rw [run]; exact sound)
  rw [run] at sees
  refine ⟨sees.conserved, sees.available_iff, ?_, ?_⟩
  · intro available
    obtain ⟨outcome, next, always⟩ := readFrame_of_available available
    exact ⟨outcome, next, fun stream => always _⟩
  · intro stream
    have logged : reader.Sees limits ({ stream, log } : Logged σ).log
        ([] ++ outcomes.flatMap gone) := sees
    exact readFrame_needs logged rfl

/-- A failure inside a frame, and behind it one frame more than is given. -/
theorem available_exact_resumed :
    let streams : List Source := [
      ⟨[.ok (Bytes.ofText "4.sync,"), .error ⟨.timedOut, none⟩]⟩,
      ⟨[.ok (Bytes.ofText "1.1;3.nop;4.sy")]⟩]
    let reads := readLogged .ofGuacd [] streams
    (Limits.unbounded = .client ∨ Limits.unbounded = .unbounded) ∧
      (∀ cause, .ready (.error (.malformed cause)) ∈ reads.1 →
        cause = .streamEnded) ∧
      reads.1.flatMap gone = Bytes.ofText "4.sync,1.1;" ∧
      reads.2.1.available = true ∧
      ∃ outcome next, ∀ stream : Source,
        reads.2.1.readFrame ({ stream, log := reads.2.2 } : Logged Source) =
          (.ready outcome, next, { stream, log := reads.2.2 }) := by
  intro streams reads
  have given : reads.1 = [
      .ready (.error
        (.upstream .upstreamTimeout "Connection to guacd timed out.")),
      .ready (.ok (some ⟨⟨"sync", ["1"]⟩, "4.sync,1.1;"⟩))] := by
    decide +kernel
  have sound : ∀ cause, .ready (.error (.malformed cause)) ∈ reads.1 →
      cause = .streamEnded := by
    intro cause told
    rw [given] at told
    simp at told
  have found : (Decoder.decode { limits := .unbounded } reads.2.1.buffer).1 ≠
      .incomplete := by
    decide +kernel
  obtain ⟨-, exactly, ready, -⟩ :=
    available_exact .unbounded (Or.inr rfl) streams sound
  have available := exactly.mpr (Or.inr found)
  refine ⟨Or.inr rfl, sound, ?_, available, ready available⟩
  rw [given]
  decide +kernel

end FrameReader

end TunnelRelay
