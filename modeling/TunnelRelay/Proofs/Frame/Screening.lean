import TunnelRelay.Proofs.Frame.Faults
import TunnelRelay.Proofs.Frame.Filtering
import TunnelRelay.Proofs.Frame.RoundTrip

/-!
Writing through any filter.

Each write completes some frames, and the filter is asked about them in order, up to the first on
which it fails. If it fails on none, what it lets pass is written in one piece, an instruction that
it leaves as it is with the bytes that were received. If it fails, nothing of the write is written
and the frames of the write are gone, but the bytes behind them stay, so the next write goes on
where a frame begins.
-/

namespace TunnelRelay

/-! ### Asking a filter -/

namespace Filter

variable {φ : Type}

/-- What a filter answers to instructions one after another, and what it
remembers then. -/
def run (filter : Filter φ) : φ → List Instruction →
    List (Except RelayError (Option Instruction)) × φ
  | memory, [] => ([], memory)
  | memory, instruction :: others =>
      let (answer, memory) := filter memory instruction
      let (answers, memory) := run filter memory others
      (answer :: answers, memory)

theorem run_cons {filter : Filter φ} {memory next : φ}
    {instruction : Instruction} {answer : Except RelayError (Option Instruction)}
    (answered : filter memory instruction = (answer, next))
    (others : List Instruction) :
    filter.run memory (instruction :: others) =
      (answer :: (filter.run next others).1, (filter.run next others).2) := by
  rw [run, answered]

theorem run_append (filter : Filter φ) (memory : φ)
    (first second : List Instruction) :
    filter.run memory (first ++ second) =
      ((filter.run memory first).1 ++
          (filter.run (filter.run memory first).2 second).1,
        (filter.run (filter.run memory first).2 second).2) := by
  induction first generalizing memory with
  | nil => rfl
  | cons instruction first ih => simp only [List.cons_append, run, ih]

theorem mem_run {filter : Filter φ} {memory : φ}
    {instructions : List Instruction}
    {answer : Except RelayError (Option Instruction)}
    (given : answer ∈ (filter.run memory instructions).1) :
    ∃ memory, ∃ instruction ∈ instructions,
      (filter memory instruction).1 = answer := by
  induction instructions generalizing memory with
  | nil => cases given
  | cons instruction instructions ih =>
      rcases List.mem_cons.mp given with rfl | later
      · exact ⟨memory, instruction, List.mem_cons_self, rfl⟩
      · obtain ⟨memory, other, among, same⟩ := ih later
        exact ⟨memory, other, List.mem_cons_of_mem instruction among, same⟩

/-- For what a client may send the filter lets nothing pass that is too long for
the wire. -/
def Narrow (filter : Filter φ) : Prop :=
  ∀ memory instruction output,
    Limits.client.Admit 0 instruction.elements →
    (filter memory instruction).1 = .ok (some output) →
    ∀ text ∈ output.elements, text.length < 10 ^ 10

end Filter

/-! ### What a filter makes of frames -/

/-- The frame that an instruction becomes where it takes the place of another
frame's instruction. -/
def Frame.forwardedAs (frame : Frame) (instruction : Instruction) : Frame :=
  if instruction = frame.instruction then frame else instruction.frame

theorem Frame.forwardedAs_instruction (frame : Frame) (instruction : Instruction) :
    (frame.forwardedAs instruction).instruction = instruction := by
  unfold Frame.forwardedAs
  split
  · rename_i same
    exact same.symm
  · rfl

theorem Frame.forwardedAs_raw (frame : Frame) (instruction : Instruction) :
    (frame.forwardedAs instruction).raw =
      if instruction = frame.instruction then frame.raw
      else instruction.encode := by
  unfold Frame.forwardedAs
  split <;> rfl

/-- What becomes of the frames that one write completes. -/
inductive Screening where
  /-- The filter has answered about each of them. -/
  | passed (answered : List (Frame × Option Instruction))
  /-- It has failed on `frame`, and is not asked about the rest. -/
  | refused (answered : List (Frame × Option Instruction)) (frame : Frame)
      (error : RelayError) (rest : List Frame)

namespace Screening

def completed : Screening → List Frame
  | passed answered => answered.map Prod.fst
  | refused answered frame _ rest => answered.map Prod.fst ++ frame :: rest

def asked : Screening → List Frame
  | passed answered => answered.map Prod.fst
  | refused answered frame _ _ => answered.map Prod.fst ++ [frame]

theorem asked_isPrefix (screening : Screening) :
    screening.asked <+: screening.completed := by
  cases screening with
  | passed answered => exact List.prefix_rfl
  | refused answered frame error rest =>
      exact List.prefix_append_right_inj _ |>.mpr (List.prefix_append [frame] rest)

def answers : Screening → List (Except RelayError (Option Instruction))
  | passed answered => answered.map (.ok ·.2)
  | refused answered _ error _ => answered.map (.ok ·.2) ++ [.error error]

def outputs : Screening → List Instruction
  | passed answered => answered.filterMap Prod.snd
  | refused _ _ _ _ => []

def forwarded : Screening → List Frame
  | passed answered =>
      answered.filterMap fun (frame, answer) => answer.map frame.forwardedAs
  | refused _ _ _ _ => []

def result (screening : Screening) : Sent × Nat :=
  match screening with
  | passed _ => (.done, screening.outputs.length)
  | refused _ _ error _ => (.failed error, 0)

theorem outputs_eq (screening : Screening) :
    screening.forwarded.map Frame.instruction = screening.outputs := by
  cases screening with
  | refused answered frame error rest => rfl
  | passed answered =>
      simp only [forwarded, outputs, List.map_filterMap, Option.map_map]
      congr 1
      funext ⟨frame, answer⟩
      cases answer with
      | none => rfl
      | some instruction =>
          exact congrArg some (frame.forwardedAs_instruction instruction)

def outcome (screening : Screening) (earlier : Forwarded) :
    Except RelayError Forwarded :=
  match screening with
  | passed _ =>
      .ok ⟨earlier.text ++ String.join (screening.forwarded.map Frame.raw),
        earlier.count + screening.forwarded.length⟩
  | refused _ _ error _ => .error error

def behind (screening : Screening) (frame : Frame)
    (answer : Option Instruction) : Screening :=
  match screening with
  | passed answered => passed ((frame, answer) :: answered)
  | refused answered failing error rest =>
      refused ((frame, answer) :: answered) failing error rest

variable (screening : Screening) (frame : Frame) (answer : Option Instruction)

@[simp] theorem completed_behind :
    (screening.behind frame answer).completed = frame :: screening.completed := by
  cases screening <;> rfl

@[simp] theorem asked_behind :
    (screening.behind frame answer).asked = frame :: screening.asked := by
  cases screening <;> rfl

@[simp] theorem answers_behind :
    (screening.behind frame answer).answers = .ok answer :: screening.answers := by
  cases screening <;> rfl

theorem outcome_behind_none (earlier : Forwarded) :
    (screening.behind frame none).outcome earlier = screening.outcome earlier := by
  cases screening <;> rfl

theorem outcome_behind_some (instruction : Instruction) (earlier : Forwarded) :
    (screening.behind frame (some instruction)).outcome earlier =
      screening.outcome ⟨earlier.text ++ (frame.forwardedAs instruction).raw,
        earlier.count + 1⟩ := by
  cases screening with
  | refused answered failing error rest => rfl
  | passed answered =>
      simp only [outcome, behind, forwarded, List.filterMap_cons,
        Option.map_some, List.map_cons, String.join_cons, List.length_cons,
        String.append_assoc]
      congr 2
      omega

end Screening

/-! ### One write -/

namespace FilteredWriter

variable {φ : Type}

theorem passFrame_some {filter : Filter φ} {memory next : φ} {frame : Frame}
    {instruction : Instruction}
    (answered : filter memory frame.instruction = (.ok (some instruction), next)) :
    passFrame filter memory frame =
      (.ok (some (frame.forwardedAs instruction).raw), next) := by
  rw [passFrame, answered, Frame.forwardedAs_raw]

/-- Passing frames on is asking the filter about them, up to its first failure. -/
theorem passFrames_screening (filter : Filter φ) (memory : φ)
    (frames : List Frame) (earlier : Forwarded) :
    ∃ screening : Screening, screening.completed = frames ∧
      filter.run memory (screening.asked.map Frame.instruction) =
        (screening.answers, (passFrames filter memory frames earlier).2) ∧
      (passFrames filter memory frames earlier).1 =
        screening.outcome earlier := by
  induction frames generalizing memory earlier with
  | nil =>
      refine ⟨.passed [], rfl, rfl, ?_⟩
      simp [passFrames, Screening.outcome, Screening.forwarded]
  | cons frame frames ih =>
      rcases answered : filter memory frame.instruction with
        ⟨error | (_ | instruction), next⟩
      · refine ⟨.refused [] frame error frames, rfl, ?_, ?_⟩
        · simp [Screening.asked, Screening.answers, Filter.run, passFrames,
            passFrame, answered]
        · simp [Screening.outcome, passFrames, passFrame, answered]
      · obtain ⟨screening, completed, ran, outcome⟩ := ih next earlier
        have passed : passFrames filter memory (frame :: frames) earlier =
            passFrames filter next frames earlier := by
          rw [passFrames, passFrame, answered]
        refine ⟨screening.behind frame none, ?_, ?_, ?_⟩
        · rw [Screening.completed_behind, completed]
        · rw [Screening.asked_behind, List.map_cons, Filter.run_cons answered,
            ran, Screening.answers_behind, passed]
        · rw [passed, outcome, Screening.outcome_behind_none]
      · obtain ⟨screening, completed, ran, outcome⟩ := ih next
          ⟨earlier.text ++ (frame.forwardedAs instruction).raw,
            earlier.count + 1⟩
        have passed : passFrames filter memory (frame :: frames) earlier =
            passFrames filter next frames
              ⟨earlier.text ++ (frame.forwardedAs instruction).raw,
                earlier.count + 1⟩ := by
          rw [passFrames, passFrame_some answered]
        refine ⟨screening.behind frame (some instruction), ?_, ?_, ?_⟩
        · rw [Screening.completed_behind, completed]
        · rw [Screening.asked_behind, List.map_cons, Filter.run_cons answered,
            ran, Screening.answers_behind, passed]
        · rw [passed, outcome, Screening.outcome_behind_some]

structure HoldsRest (writer : FilteredWriter φ) (seen : Bytes) : Prop where
  goesOn : writer.GoesOn
  pending : writer.pending = (Intake.takeFrames .client seen []).left

theorem holdsRest_fresh (filter : Filter φ) (memory : φ) :
    HoldsRest { filter, memory } [] := by
  have waits : Decoder.client.decode [] = (.incomplete, .client) :=
    Intake.decode_empty (by decide)
  refine ⟨goesOn_fresh filter memory, ?_⟩
  rw [Intake.takeFrames_incomplete waits]

variable {writer : FilteredWriter φ} {seen data : Bytes}

theorem HoldsRest.accept (holds : writer.HoldsRest seen)
    (sound : (Intake.takeFrames .client (seen ++ data) []).fault = none) :
    ∃ new next, (Intake.takeFrames .client (seen ++ data) []).frames =
        (Intake.takeFrames .client seen []).frames ++ new ∧
      next.HoldsRest (seen ++ data) ∧ next.filter = writer.filter ∧
      next.memory = (passFrames writer.filter writer.memory new {}).2 ∧
      writer.accept data =
        ((passFrames writer.filter writer.memory new {}).1, next) := by
  have earlier := Intake.sound_of_append sound
  have restart : Intake.takeFrames .client (seen ++ data) [] =
      { Intake.takeFrames .client (writer.pending ++ data) [] with
        frames := (Intake.takeFrames .client seen []).frames ++
          (Intake.takeFrames .client (writer.pending ++ data) []).frames } := by
    rw [holds.pending]
    exact Intake.takeFrames_restart earlier data
  have goesOn := (holds.goesOn.accept data).1
  have whole := holds.goesOn data
  rw [restart] at sound ⊢
  rw [← whole] at sound ⊢
  have drained := Decoder.drain_of_sound sound
  have accepted : writer.accept data =
      ((passFrames writer.filter writer.memory
          (Intake.takeFrames writer.decoder (writer.pending ++ data) []).frames
          {}).1,
        (writer.accept data).2) := by
    rw [FilteredWriter.accept, drained]
  refine ⟨_, (writer.accept data).2, rfl, ⟨goesOn, ?_⟩, ?_, ?_, accepted⟩
  · rw [restart, ← whole, FilteredWriter.accept, drained]
  · rw [FilteredWriter.accept, drained]
  · rw [FilteredWriter.accept, drained]

variable {σ : Type} [ByteSink σ] {willing : σ → Prop} {taken : σ → Bytes}
  {output : σ}

theorem HoldsRest.write (holds : writer.HoldsRest seen)
    (takes : TakesAll willing taken) (ready : willing output)
    (sound : (Intake.takeFrames .client (seen ++ data) []).fault = none) :
    ∃ (screening : Screening) (next : FilteredWriter φ) (after : σ),
      writer.write data output = (screening.result, next, after) ∧
      (Intake.takeFrames .client (seen ++ data) []).frames =
        (Intake.takeFrames .client seen []).frames ++ screening.completed ∧
      next.HoldsRest (seen ++ data) ∧ next.filter = writer.filter ∧
      writer.filter.run writer.memory
          (screening.asked.map Frame.instruction) =
        (screening.answers, next.memory) ∧
      willing after ∧
      taken after = taken output ++ Frame.received screening.forwarded := by
  obtain ⟨new, next, frames, rest, filter, memory, accepted⟩ :=
    holds.accept sound
  obtain ⟨screening, completed, ran, outcome⟩ :=
    passFrames_screening writer.filter writer.memory new {}
  rw [outcome] at accepted
  rw [← memory] at ran
  rw [← completed] at frames
  cases screening with
  | refused answered frame error others =>
      refine ⟨_, next, output, ?_, frames, rest, filter, ran, ready, ?_⟩
      · rw [FilteredWriter.write, accepted]
        rfl
      · exact (List.append_nil _).symm
  | passed answered =>
      obtain ⟨after, written, still, grown⟩ :=
        takes.write_accepted accepted ready
      refine ⟨_, next, after, ?_, frames, rest, filter, ran, still, ?_⟩
      · rw [written, Screening.result, ← Screening.outputs_eq,
          List.length_map]
        simp only [Nat.zero_add]
      · rw [grown, String.empty_append, Frame.received_eq_join]

/-! ### Writes one after another -/

def writeEach {σ : Type} [ByteSink σ] (writer : FilteredWriter φ) (output : σ) :
    List Bytes → List (Sent × Nat) × FilteredWriter φ × σ
  | [] => ([], writer, output)
  | data :: others =>
      let (result, writer, output) := writer.write data output
      let (results, writer, output) := writer.writeEach output others
      (result :: results, writer, output)

/-- The writes of these chunks are these screenings. -/
structure Screens (taken : σ → Bytes) (writer : FilteredWriter φ) (output : σ)
    (seen : Bytes) (chunks : List Bytes) (past : List Screening) : Prop where
  results : (writer.writeEach output chunks).1 = past.map Screening.result
  completed : (Intake.takeFrames .client (seen ++ chunks.flatten) []).frames =
    (Intake.takeFrames .client seen []).frames ++
      past.flatMap Screening.completed
  rest : (writer.writeEach output chunks).2.1.HoldsRest (seen ++ chunks.flatten)
  answers : writer.filter.run writer.memory
      ((past.flatMap Screening.asked).map Frame.instruction) =
    (past.flatMap Screening.answers, (writer.writeEach output chunks).2.1.memory)
  taken : taken (writer.writeEach output chunks).2.2 =
    taken output ++ Frame.received (past.flatMap Screening.forwarded)

theorem HoldsRest.screens_nil (holds : writer.HoldsRest seen) :
    writer.Screens taken output seen [] [] where
  results := rfl
  completed := by
    rw [List.flatten_nil, List.append_nil, List.flatMap_nil, List.append_nil]
  rest := by
    rw [List.flatten_nil, List.append_nil]
    exact holds
  answers := rfl
  taken := (List.append_nil _).symm

theorem Screens.cons {next : FilteredWriter φ} {after : σ}
    {screening : Screening} {chunks : List Bytes} {past : List Screening}
    (screens : next.Screens taken after (seen ++ data) chunks past)
    (written : writer.write data output = (screening.result, next, after))
    (frames : (Intake.takeFrames .client (seen ++ data) []).frames =
      (Intake.takeFrames .client seen []).frames ++ screening.completed)
    (filter : next.filter = writer.filter)
    (ran : writer.filter.run writer.memory
        (screening.asked.map Frame.instruction) =
      (screening.answers, next.memory))
    (grown : taken after = taken output ++ Frame.received screening.forwarded) :
    writer.Screens taken output seen (data :: chunks) (screening :: past) := by
  have each : writer.writeEach output (data :: chunks) =
      (screening.result :: (next.writeEach after chunks).1,
        (next.writeEach after chunks).2) := by
    rw [writeEach, written]
  constructor
  · rw [each, screens.results]
    rfl
  · rw [List.flatten_cons, ← List.append_assoc, screens.completed, frames,
      List.append_assoc, List.flatMap_cons]
  · rw [each, List.flatten_cons, ← List.append_assoc]
    exact screens.rest
  · rw [each, List.flatMap_cons, List.map_append, Filter.run_append, ran,
      ← filter, screens.answers, List.flatMap_cons]
  · rw [each, screens.taken, grown, List.append_assoc, List.flatMap_cons,
      Frame.received_append]

/-- As long as data is not malformed each write is one screening, and the first
writes are the first screenings. -/
theorem HoldsRest.screens (takes : TakesAll willing taken)
    (holds : writer.HoldsRest seen) (ready : willing output)
    (chunks : List Bytes)
    (sound : (Intake.takeFrames .client (seen ++ chunks.flatten) []).fault =
      none) :
    ∃ screenings : List Screening, screenings.length = chunks.length ∧
      ∀ count, writer.Screens taken output seen (chunks.take count)
        (screenings.take count) := by
  induction chunks generalizing writer output seen with
  | nil =>
      refine ⟨[], rfl, fun count => ?_⟩
      rw [List.take_nil, List.take_nil]
      exact holds.screens_nil
  | cons data chunks ih =>
      rw [List.flatten_cons, ← List.append_assoc] at sound
      obtain ⟨screening, next, after, written, frames, rest, filter, ran,
        still, grown⟩ := holds.write takes ready (Intake.sound_of_append sound)
      obtain ⟨screenings, length, screens⟩ := ih rest still sound
      refine ⟨screening :: screenings, congrArg (· + 1) length, ?_⟩
      intro count
      cases count with
      | zero => exact holds.screens_nil
      | succ count =>
          exact (screens count).cons written frames filter ran grown

end FilteredWriter

/-! ### Reading what was written -/

theorem Instruction.frame_shape {instruction : Instruction}
    (narrow : ∀ text ∈ instruction.elements, text.length ≤ maxElementLength) :
    ∃ wire : WireFrame, Bytes.ofText instruction.frame.raw = wire.bytes ∧
      instruction.frame.instruction = wire.instruction :=
  ⟨.ofInstruction instruction narrow, (WireFrame.bytes_ofInstruction narrow).symm,
    (WireFrame.instruction_ofInstruction narrow).symm⟩

theorem Screening.forwarded_shape {screening : Screening}
    (shaped : ∀ frame ∈ screening.completed, ∃ wire : WireFrame,
      Bytes.ofText frame.raw = wire.bytes ∧
        frame.instruction = wire.instruction)
    (narrow : ∀ instruction, .ok (some instruction) ∈ screening.answers →
      ∀ text ∈ instruction.elements, text.length ≤ maxElementLength) :
    ∀ frame ∈ screening.forwarded, ∃ wire : WireFrame,
      Bytes.ofText frame.raw = wire.bytes ∧
        frame.instruction = wire.instruction := by
  intro frame member
  cases screening with
  | refused answered failing error rest => cases member
  | passed answered =>
      obtain ⟨⟨received, answer⟩, among, becomes⟩ := List.mem_filterMap.mp member
      obtain ⟨instruction, rfl, rfl⟩ := Option.map_eq_some_iff.mp becomes
      unfold Frame.forwardedAs
      split
      · exact shaped received (List.mem_map_of_mem among)
      · exact Instruction.frame_shape
          (narrow instruction (List.mem_map_of_mem among))

theorem Decoder.drain_received {frames : List Frame}
    (shaped : ∀ frame ∈ frames, ∃ wire : WireFrame,
      Bytes.ofText frame.raw = wire.bytes ∧
        frame.instruction = wire.instruction) :
    unbounded.drain (Frame.received frames) = (.ok frames, [], unbounded) := by
  have waits : unbounded.decode [] = (.incomplete, unbounded) :=
    Intake.decode_empty (by decide)
  have taken := Intake.takeFrames_received shaped [] []
  rw [List.append_nil, List.nil_append,
    Intake.takeFrames_incomplete waits frames] at taken
  have drained := drain_of_sound
    (show (Intake.takeFrames unbounded (Frame.received frames) []).fault = none
      by rw [taken])
  rw [drained, taken]

namespace FilteredWriter

section

variable {φ σ : Type} [ByteSink σ] {taken : σ → Bytes} {filter : Filter φ}
  {memory : φ} {output : σ} {chunks : List Bytes} {past : List Screening}

theorem Screens.completed_eq
    (screens : Screens taken { filter, memory } output [] chunks past) :
    past.flatMap Screening.completed =
      (Intake.takeFrames .client chunks.flatten []).frames := by
  have waits : Decoder.client.decode [] = (.incomplete, .client) :=
    Intake.decode_empty (by decide)
  have completed := screens.completed
  rw [Intake.takeFrames_incomplete waits, List.nil_append, List.nil_append]
    at completed
  exact completed.symm

theorem Screens.forwarded_shape (narrow : filter.Narrow)
    (screens : Screens taken { filter, memory } output [] chunks past) :
    ∀ frame ∈ past.flatMap Screening.forwarded, ∃ wire : WireFrame,
      Bytes.ofText frame.raw = wire.bytes ∧
        frame.instruction = wire.instruction := by
  have wires : ∀ screening ∈ past, ∀ frame ∈ screening.completed,
      ∃ wire : WireFrame, Bytes.ofText frame.raw = wire.bytes ∧
        frame.instruction = wire.instruction ∧
        Limits.client.Admit 0 wire.texts := by
    intro screening among frame member
    apply Intake.takeFrames_shape
    have all := List.mem_flatMap.mpr ⟨screening, among, member⟩
    rw [screens.completed_eq] at all
    exact all
  intro frame member
  obtain ⟨screening, among, member⟩ := List.mem_flatMap.mp member
  refine Screening.forwarded_shape ?_ ?_ frame member
  · intro frame member
    obtain ⟨wire, raw, instruction, -⟩ := wires screening among frame member
    exact ⟨wire, raw, instruction⟩
  · -- an answer belongs to some frame that was completed, so to a bounded one
    intro passed member text element
    have answers : (filter.run memory
        ((past.flatMap Screening.asked).map Frame.instruction)).1 =
          past.flatMap Screening.answers := congrArg Prod.fst screens.answers
    have all := List.mem_flatMap.mpr ⟨screening, among, member⟩
    rw [← answers] at all
    obtain ⟨memory, instruction, given, answered⟩ := Filter.mem_run all
    obtain ⟨frame, asked, rfl⟩ := List.mem_map.mp given
    obtain ⟨other, also, asked⟩ := List.mem_flatMap.mp asked
    obtain ⟨wire, -, same, admitted⟩ :=
      wires other also frame (other.asked_isPrefix.subset asked)
    rw [← WireFrame.elements_instruction, ← same] at admitted
    exact Nat.le_of_lt_succ
      (narrow memory frame.instruction passed admitted answered text element)

end

/-- Whatever a filter remembers and does, and however data that is not malformed
is cut, each write is one screening: the filter is asked once about each frame
that the write completes, in order, until it fails. A write on which it does not
fail has given the stream what the filter let pass, unchanged instructions as they
were received, and answers how many they are; a write on which it fails has given
nothing. At every point the stream can be decoded to the outputs of the writes
that were done, and what is pending are the bytes behind the frames completed so
far. -/
theorem screens_writes {φ σ : Type} [ByteSink σ] {willing : σ → Prop}
    {taken : σ → Bytes} (takes : TakesAll willing taken) (filter : Filter φ)
    (narrow : filter.Narrow) (memory : φ) (output : σ) (ready : willing output)
    (chunks : List Bytes)
    (sound : (Intake.ofChunks .client [chunks.flatten]).fault = none) :
    ∃ screenings : List Screening, screenings.length = chunks.length ∧
      ∀ count,
        let data := (chunks.take count).flatten
        let past := screenings.take count
        let completed := past.flatMap Screening.completed
        let forwarded := past.flatMap Screening.forwarded
        let (results, writer, after) :=
          writeEach { filter, memory } output (chunks.take count)
        results = past.map Screening.result ∧
          completed = (Intake.ofChunks .client [data]).frames ∧
          Frame.received completed ++ writer.pending = data ∧
          filter.run memory ((past.flatMap Screening.asked).map
              Frame.instruction) =
            (past.flatMap Screening.answers, writer.memory) ∧
          taken after = taken output ++ Frame.received forwarded ∧
          Decoder.unbounded.drain (Frame.received forwarded) =
            (.ok forwarded, [], .unbounded) ∧
          forwarded.map Frame.instruction =
            past.flatMap Screening.outputs := by
  obtain ⟨screenings, length, screens⟩ :=
    (holdsRest_fresh filter memory).screens takes ready chunks sound
  refine ⟨screenings, length, fun count => ?_⟩
  have now := screens count
  refine ⟨now.results, now.completed_eq, ?_, now.answers, now.taken,
    Decoder.drain_received (now.forwarded_shape narrow), ?_⟩
  · rw [now.completed_eq, now.rest.pending]
    exact Intake.received_takeFrames .client (chunks.take count).flatten
  · rw [List.map_flatMap]
    congr 1
    funext screening
    exact screening.outputs_eq

/-- A filter that counts what it is asked about. One instruction is rewritten, one
keeps the length that it was sent with, one is dropped, and a failure in the
middle of a write takes the instruction in front of it with it. -/
theorem screens_writes_failing :
    let filter : Filter Nat := fun count instruction =>
      (if instruction.opcode = "quit" then .error (.badRequest "No.")
        else if instruction.opcode = "nop" then .ok none
        else if instruction.opcode = "size" then .ok (some ⟨"SIZE", []⟩)
        else .ok (some instruction), count + 1)
    let chunks := ["4.size;03.key,1.1;3.n", "op;4.sync;4.quit;3.nop;4.e",
      "nd.;"].map Bytes.ofText
    let writes := writeEach { filter, memory := 0 } ({} : Sink) chunks
    (filter.Narrow ∧ (({} : Sink).accepts = none ∧
        ({} : Sink).flushFault = none) ∧
      (Intake.ofChunks .client [chunks.flatten]).fault = none) ∧
    writes.2.1.memory = 6 ∧ writes.2.1.pending = [] ∧
    ∃ screenings : List Screening, screenings.length = 3 ∧
      writes.1 = screenings.map Screening.result ∧
      screenings.flatMap Screening.outputs =
        [⟨"SIZE", []⟩, ⟨"key", ["1"]⟩, ⟨"end.", []⟩] := by
  intro filter chunks writes
  have narrow : filter.Narrow := by
    intro count instruction output admitted passed text among
    simp only [filter] at passed
    split at passed
    · cases passed
    · split at passed
      · cases passed
      · split at passed
        · cases passed
          rw [List.mem_singleton.mp among]
          decide
        · cases passed
          have short := admitted.2 8192 rfl text among
          omega
  have sound : (Intake.ofChunks .client [chunks.flatten]).fault = none := by
    decide +kernel
  obtain ⟨screenings, length, screens⟩ :=
    screens_writes Sink.takesAll filter narrow 0 {} ⟨rfl, rfl⟩ chunks sound
  obtain ⟨results, -, -, -, grown, drained, outputs⟩ := screens 3
  have all : screenings.take 3 = screenings :=
    List.take_of_length_le (Nat.le_of_eq length)
  rw [all] at results grown drained outputs
  have written : writes.2.2.taken = Bytes.ofText "4.SIZE;03.key,1.1;4.end.;" := by
    decide +kernel
  have bytes : Frame.received (screenings.flatMap Screening.forwarded) =
      Bytes.ofText "4.SIZE;03.key,1.1;4.end.;" := grown.symm.trans written
  have decoded : Decoder.unbounded.drain
      (Bytes.ofText "4.SIZE;03.key,1.1;4.end.;") =
        (.ok [⟨⟨"SIZE", []⟩, "4.SIZE;"⟩, ⟨⟨"key", ["1"]⟩, "03.key,1.1;"⟩,
          ⟨⟨"end.", []⟩, "4.end.;"⟩], [], .unbounded) := by
    decide +kernel
  rw [bytes, decoded, Prod.mk.injEq, Except.ok.injEq] at drained
  rw [← drained.1] at outputs
  exact ⟨⟨narrow, ⟨rfl, rfl⟩, sound⟩, by decide +kernel, by decide +kernel,
    screenings, length, results, outputs.symm⟩

end FilteredWriter

end TunnelRelay
