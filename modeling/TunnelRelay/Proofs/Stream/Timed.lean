import Mathlib.Algebra.Ring.Nat
import TunnelRelay.Backend
import TunnelRelay.Proofs.Frame.Interrupted

/-!
Streams that keep their readers waiting.

A timed stream follows a script: chunks of bytes and failures, with waits between them, and then the
end. Whatever the waits and the chunks are, a reader gives the frames of the bytes before the first
failure, one a read, and then says how the stream has ended.
-/

namespace TunnelRelay

/-- What reads find, in the order in which they find it. -/
abbrev Schedule := List (Poll (Except IoFault Bytes))

namespace Schedule

/-- The bytes before the first failure. -/
def front : Schedule → Bytes
  | [] => []
  | .parked :: items => front items
  | .ready (.ok chunk) :: items => chunk ++ front items
  | .ready (.error _) :: _ => []

/-- The first failure. -/
def failure? : Schedule → Option IoFault
  | [] => none
  | .parked :: items | .ready (.ok _) :: items => failure? items
  | .ready (.error fault) :: _ => some fault

/-- How often a reader has to wait. -/
def waits : Schedule → Nat
  | [] => 0
  | .parked :: items => waits items + 1
  | .ready _ :: items => waits items

def Full (items : Schedule) : Prop :=
  ∀ chunk, .ready (.ok chunk) ∈ items → chunk ≠ []

theorem Full.tail {item : Poll (Except IoFault Bytes)} {items : Schedule}
    (full : Full (item :: items)) : Full items :=
  fun chunk member => full chunk (List.mem_cons_of_mem item member)

end Schedule

/-- How the reading of some bytes ends when the stream fails behind them, or just
ends: `none` is the end of a stream of whole frames. -/
def Intake.ending? (intake : Intake) (failure : Option IoFault) :
    Option RelayError :=
  match intake.fault, failure with
  | some cause, _ => some (.malformed cause)
  | none, some fault => some (.ofSocket fault)
  | none, none =>
      if intake.left.isEmpty then none else some (.malformed .streamEnded)

/-- A stream whose reading side follows a schedule. -/
structure Timed (τ : Type) where
  items : Schedule
  output : τ

namespace Timed

variable {τ : Type}

def read (timed : Timed τ) (room : Nat) :
    Poll (Except IoFault Bytes) × Timed τ :=
  match timed.items with
  | [] => (.ready (.ok []), timed)
  | .parked :: items => (.parked, { timed with items })
  | .ready (.error fault) :: items =>
      (.ready (.error fault), { timed with items })
  | .ready (.ok chunk) :: items =>
      if chunk.length ≤ room then (.ready (.ok chunk), { timed with items })
      else (.ready (.ok (chunk.take room)),
        { timed with items := .ready (.ok (chunk.drop room)) :: items })

def held (timed : Timed τ) : Nat :=
  (timed.items.map fun
    | .ready (.ok chunk) => chunk.length + 1
    | .ready (.error _) | .parked => 1).sum

theorem held_read {timed next : Timed τ} {room : Nat} {bytes : Bytes}
    (done : timed.read room = (.ready (.ok bytes), next))
    (some : bytes ≠ []) : next.held < timed.held := by
  obtain ⟨items, output⟩ := timed
  unfold read at done
  split at done
  · cases done
    exact absurd rfl some
  · cases done
  · cases done
  · rename_i chunk rest script
    cases script
    split at done
    · cases done
      simp [held]
    · cases done
      have positive : room ≠ 0 := by
        rintro rfl
        exact some (List.take_zero)
      simp only [held, List.map_cons, List.sum_cons, List.length_drop]
      omega

variable [ByteSink τ]

instance : Connection (Timed τ) where
  read := read
  held := held
  held_read := held_read
  write timed bytes :=
    let (taken, output) := ByteSink.write timed.output bytes
    (taken, { timed with output })
  flush timed :=
    let (outcome, output) := ByteSink.flush timed.output
    (outcome, { timed with output })
  shutdown timed :=
    let (outcome, output) := ByteSink.shutdown timed.output
    (outcome, { timed with output })
  drop timed := timed

inductive Reads (items rest : Schedule) : Poll (Except IoFault Bytes) → Prop
  | waited (first : items = .parked :: rest) : Reads items rest .parked
  | ended (empty : items = []) : Reads items rest (.ready (.ok []))
  | failed (fault : IoFault) (first : items = .ready (.error fault) :: rest) :
      Reads items rest (.ready (.error fault))
  | gave (byte : UInt8) (part : Bytes) (full : rest.Full)
      (front : items.front = byte :: part ++ rest.front)
      (failure : rest.failure? = items.failure?)
      (waits : rest.waits = items.waits) :
      Reads items rest (.ready (.ok (byte :: part)))

omit [ByteSink τ] in
theorem read_reads {timed rest : Timed τ} {room : Nat}
    {outcome : Poll (Except IoFault Bytes)} (full : timed.items.Full)
    (space : 0 < room) (step : timed.read room = (outcome, rest)) :
    Reads timed.items rest.items outcome := by
  obtain ⟨items, output⟩ := timed
  unfold read at step
  split at step
  · rename_i script
    cases step
    exact .ended script
  · rename_i script
    cases step
    exact .waited script
  · rename_i script
    cases step
    exact .failed _ script
  · rename_i chunk items script
    simp only at script
    subst script
    cases chunk with
    | nil => exact absurd rfl (full [] List.mem_cons_self)
    | cons byte bytes =>
        split at step
        · cases step
          exact .gave byte bytes full.tail rfl rfl rfl
        · rename_i long
          obtain ⟨less, rfl⟩ := Nat.exists_eq_succ_of_ne_zero
            (Nat.pos_iff_ne_zero.mp space)
          cases step
          refine .gave byte (bytes.take less) ?_ ?_ rfl rfl
          · intro chunk member
            rcases List.mem_cons.mp member with same | later
            · cases same
              intro empty
              have short := List.drop_eq_nil_iff.mp empty
              omega
            · exact full.tail chunk later
          · simp only [Schedule.front, List.drop_succ_cons, List.cons_append,
              ← List.append_assoc, List.take_append_drop]

theorem backend_reads {backend rest : Backend (Timed τ)} {room : Nat}
    {outcome : Poll (Except IoFault Bytes)} (live : backend.live = true)
    (full : backend.stream.items.Full) (space : 0 < room)
    (step : backend.read room = (outcome, rest)) :
    rest.live = true ∧
      Reads backend.stream.items rest.stream.items outcome := by
  unfold Backend.read at step
  rw [if_pos live] at step
  cases reading : ByteSource.read backend.stream room with
  | mk given stream =>
      have reads := read_reads full space reading
      rw [reading] at step
      cases given with
      | parked =>
          cases step
          exact ⟨live, reads⟩
      | ready given =>
          cases step
          exact ⟨live, reads⟩

end Timed

namespace FrameReader

variable {τ : Type}

/-- The reader has still to give the frames, and then to say how the stream has
ended. -/
structure Expects (reader : FrameReader) (input : Backend (Timed τ))
    (frames : List Frame) (ending : Option RelayError) : Prop where
  looks : reader.Looks .unbounded
  running : reader.ended = false
  live : input.live = true
  full : input.stream.items.Full
  frames : (Intake.takeFrames .unbounded
    (reader.buffer ++ input.stream.items.front) []).frames = frames
  ending : (Intake.takeFrames .unbounded
    (reader.buffer ++ input.stream.items.front) []).ending?
      input.stream.items.failure? = ending

variable {reader : FrameReader} {input : Backend (Timed τ)}
  {frames : List Frame} {ending : Option RelayError}

theorem Expects.given (expects : reader.Expects input frames ending)
    {frame : Frame} {length : Nat}
    (holds : reader.next = some (.ok (frame, length))) :
    ∃ others, frames = frame :: others ∧
      (reader.forget.scan (reader.buffer.drop length)).Expects input others
        ending := by
  obtain ⟨found, fresh⟩ := expects.looks.sound.frame holds
  have within := (reader.next_within frame length holds).2
  have longer := Decoder.decode_settled_append found (by simp)
    input.stream.items.front
  have taken := Intake.takeFrames_cons longer
  rw [List.drop_append_of_le_length within] at taken
  have looks : (reader.forget.scan (reader.buffer.drop length)).Looks
      .unbounded := by
    apply scan_looks
    change reader.decoder.decode _ = _
    rw [fresh]
  refine ⟨_, ?_, looks, expects.running, expects.live, expects.full, rfl, ?_⟩
  · rw [← expects.frames]
    exact congrArg Intake.frames taken
  · rw [← expects.ending]
    exact (congrArg (Intake.ending? · _) taken).symm

theorem Expects.exhausted (expects : reader.Expects input frames ending)
    (waits : reader.next = none) (nothing : input.stream.items.front = []) :
    frames = [] ∧
      ending = Intake.ending?
        { decoder := reader.decoder, left := reader.buffer, frames := [] }
        input.stream.items.failure? := by
  have taken := Intake.takeFrames_incomplete (expects.looks.incomplete waits) []
  have frames := expects.frames
  have ending := expects.ending
  rw [nothing, List.append_nil] at frames ending
  exact ⟨frames.symm.trans (congrArg Intake.frames taken),
    ending.symm.trans (congrArg (Intake.ending? · _) taken)⟩

/-- What a read comes to where the frames and the ending are expected: it waits
and the same is expected, or it gives the next frame, or no frame is left and it
tells how the stream has ended. -/
def Tells (frames : List Frame) (ending : Option RelayError) (waits : Nat)
    (next : FrameReader) (rest : Backend (Timed τ)) :
    (outcome : Poll (Except RelayError (Option Frame))) → Prop
  | .parked => next.Expects rest frames ending ∧
      rest.stream.items.waits < waits
  | .ready (.ok (some frame)) => ∃ others, frames = frame :: others ∧
      next.Expects rest others ending ∧ rest.stream.items.waits ≤ waits
  | .ready (.ok none) => frames = [] ∧ ending = none
  | .ready (.error error) => frames = [] ∧ ending = some error

variable [ByteSink τ]

/-- Bytes that come in make no difference to what is expected, nor to the bytes
that are still to be read. -/
theorem Expects.grows (expects : reader.Expects input frames ending)
    {stream : Backend (Timed τ)} {byte : UInt8} {bytes : Bytes}
    (step : ByteSource.read input reader.reserve.room =
      (.ready (.ok (byte :: bytes)), stream)) :
    let grown := reader.reserve.scan (reader.reserve.buffer ++ byte :: bytes)
    grown.Expects stream frames ending ∧
      grown.buffer ++ stream.stream.items.front =
        reader.buffer ++ input.stream.items.front ∧
      stream.stream.items.waits = input.stream.items.waits := by
  intro grown
  obtain ⟨live, reads⟩ := Timed.backend_reads expects.live expects.full
    reserve_room_pos step
  cases reads with
  | gave byte bytes full front failure less =>
      have same : grown.buffer ++ stream.stream.items.front =
          reader.buffer ++ input.stream.items.front := by
        rw [scan_buffer, front, List.append_assoc]
        exact congrArg (· ++ _) reserve_buffer
      refine ⟨⟨scan_looks (expects.looks.reserve.sound.goes_on _),
        reserve_ended.trans expects.running, live, full, ?_, ?_⟩, same, less⟩
      · rw [same]
        exact expects.frames
      · rw [same, failure]
        exact expects.ending

theorem Expects.readFrame (expects : reader.Expects input frames ending)
    {next : FrameReader} {rest : Backend (Timed τ)}
    {outcome : Poll (Except RelayError (Option Frame))}
    (done : reader.readFrame input = (outcome, next, rest)) :
    Tells frames ending input.stream.items.waits next rest outcome := by
  fun_induction FrameReader.readFrame reader input with
  | case1 reader input frame length holds =>
      cases done
      obtain ⟨others, first, later⟩ := expects.given holds
      exact ⟨others, first, later, Nat.le_refl _⟩
  | case2 reader input cause holds =>
      -- what is malformed in the buffer is so with all that follows
      have longer := Decoder.decode_settled_append
        (expects.looks.sound.malformed holds) (by simp)
        input.stream.items.front
      have taken := Intake.takeFrames_malformed longer []
      cases done
      exact ⟨expects.frames.symm.trans (congrArg Intake.frames taken),
        expects.ending.symm.trans (congrArg (Intake.ending? · _) taken)⟩
  | case3 reader input waits ended =>
      rw [expects.running] at ended
      cases ended
  | case4 reader input waits ended grown stream step =>
      simp only [Prod.mk.injEq] at done
      obtain ⟨rfl, rfl, rfl⟩ := done
      obtain ⟨live, reads⟩ := Timed.backend_reads expects.live expects.full
        reserve_room_pos step
      cases reads with
      | waited first =>
          have full := expects.full
          have frames := expects.frames
          have ending := expects.ending
          rw [first] at full frames ending
          refine ⟨⟨expects.looks.reserve, reserve_ended.trans expects.running,
            live, full.tail, ?_, ?_⟩, ?_⟩
          · rw [reserve_buffer]
            exact frames
          · rw [reserve_buffer]
            exact ending
          · rw [first]
            exact Nat.lt_succ_self _
  | case5 reader input waits ended grown fault stream step =>
      simp only [Prod.mk.injEq] at done
      obtain ⟨rfl, rfl, rfl⟩ := done
      obtain ⟨live, reads⟩ := Timed.backend_reads expects.live expects.full
        reserve_room_pos step
      cases reads with
      | failed fault first =>
          have left := expects.exhausted waits (by rw [first]; rfl)
          rw [first] at left
          exact left
  | case6 reader input waits ended grown stream step last =>
      simp only [Prod.mk.injEq] at done
      obtain ⟨rfl, rfl, rfl⟩ := done
      obtain ⟨live, reads⟩ := Timed.backend_reads expects.live expects.full
        reserve_room_pos step
      cases reads with
      | ended empty =>
          obtain ⟨nothing, told⟩ :=
            expects.exhausted waits (by rw [empty]; rfl)
          have left : last.buffer = reader.buffer := reserve_buffer
          rw [empty] at told
          simp only [Intake.ending?, Schedule.failure?] at told
          unfold atEnd
          rw [left]
          split
          · rename_i empty
            rw [if_pos empty] at told
            exact ⟨nothing, told⟩
          · rename_i more
            rw [if_neg more] at told
            exact ⟨nothing, told⟩
  | case7 reader input waits ended grown byte bytes stream step ih =>
      -- the bytes that came in were expected, and the loop goes round
      rw [← (expects.grows step).2.2]
      exact ih (expects.grows step).1 done

end FrameReader

end TunnelRelay
