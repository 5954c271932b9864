import TunnelRelay.Proofs.Stream.Recorded

/-!
A connection and the stream inside it, side by side.

Any number of attempts is made at a connection, its other end does something in between, and it is
released from anywhere at any time. Until the first release, what comes of each attempt is what
the stream alone would have made of it. The release drops the stream, and no later attempt reaches
it: reads find the end, writes and flushes a broken pipe.
-/

namespace TunnelRelay

namespace Backend

/-! ### Attempts -/

/-- One attempt at something. -/
inductive Operation where
  | read (room : Nat)
  | write (bytes : Bytes)
  | flush
  | shutdown

/-- What an attempt comes to. -/
inductive Outcome where
  | given (outcome : Poll (Except IoFault Bytes))
  | counted (outcome : Poll (Except IoFault Nat))
  | settled (outcome : Poll (Except IoFault Unit))

namespace Outcome

def isParked : Outcome → Bool
  | given .parked | counted .parked | settled .parked => true
  | _ => false

end Outcome

namespace Operation

def perform {τ : Type} [Connection τ] (stream : τ) :
    Operation → Outcome × τ
  | read room => (ByteSource.read stream room).map .given id
  | write bytes => (ByteSink.write stream bytes).map .counted id
  | flush => (ByteSink.flush stream).map .settled id
  | shutdown => (ByteSink.shutdown stream).map .settled id

/-- Who is to be woken by a release if the attempt has to wait. -/
def asks : Operation → Option Half
  | read _ => some .reading
  | write _ | flush => some .writing
  | shutdown => none

/-- What it comes to once the connection is released. -/
def refused : Operation → Outcome
  | read _ => .given (.ready (.ok []))
  | write _ => .counted (.ready (.error released))
  | flush => .settled (.ready (.error released))
  | shutdown => .settled (.ready (.ok ()))

end Operation

/-- A connection that was released. -/
def gone {σ : Type} (stream : σ) : Backend σ :=
  { stream, live := false }

variable {σ : Type} [Connection σ]

/-- An attempt at the stream, seen from a connection around it: a half that has
to wait is put down for waking, if it asks for that. -/
def follow (backend : Backend σ) (operation : Operation) :
    Outcome × Backend σ :=
  let (outcome, stream) := operation.perform backend.stream
  (outcome, {
    stream
    readingParked := backend.readingParked ||
      operation.asks == some .reading && outcome.isParked
    writingParked := backend.writingParked ||
      operation.asks == some .writing && outcome.isParked })

/-- A connection does what its stream does. -/
theorem perform_live {backend : Backend σ} (live : backend.live = true)
    (operation : Operation) :
    operation.perform backend = backend.follow operation := by
  cases operation with
  | read room =>
      have own : (Operation.read room).perform backend =
          (backend.read room).map .given id := rfl
      rw [own, Backend.read, if_pos live]
      rcases reading : ByteSource.read backend.stream room with ⟨_ | _, next⟩ <;>
        simp [follow, Operation.perform, Operation.asks, Outcome.isParked,
          reading, live]
  | write bytes =>
      have own : (Operation.write bytes).perform backend =
          (backend.write bytes).map .counted id := rfl
      rw [own, Backend.write, if_pos live]
      rcases writing : ByteSink.write backend.stream bytes with ⟨_ | _, next⟩ <;>
        simp [follow, Operation.perform, Operation.asks, Outcome.isParked,
          writing, live]
  | flush =>
      have own : Operation.flush.perform backend =
          backend.flush.map .settled id := rfl
      rw [own, Backend.flush, if_pos live]
      rcases flushing : ByteSink.flush backend.stream with ⟨_ | _, next⟩ <;>
        simp [follow, Operation.perform, Operation.asks, Outcome.isParked,
          flushing, live]
  | shutdown =>
      have own : Operation.shutdown.perform backend =
          backend.shutdown.map .settled id := rfl
      rw [own, Backend.shutdown, if_pos live]
      simp [follow, Operation.perform, Operation.asks, live]

/-- Nothing reaches the stream of a connection that was released. -/
theorem perform_gone (stream : σ) (operation : Operation) :
    operation.perform (gone stream) = (operation.refused, gone stream) := by
  cases operation <;> rfl

theorem release_live {backend : Backend σ} (live : backend.live = true) :
    backend.release.2 = gone (Connection.drop backend.stream) := by
  unfold Backend.release
  rw [if_pos live]
  rfl

theorem release_gone (stream : σ) :
    (gone stream).release = ([], gone stream) := rfl

/-! ### Runs -/

/-- Something that has nothing to do with releases: an attempt, or what the
other end does. -/
inductive Use (σ : Type) where
  | attempt (operation : Operation)
  | beyond (change : σ → σ)

inductive Step (σ : Type) where
  | use (use : Use σ)
  /-- Whoever can releases the connection. -/
  | release

/-- What can be told of a step. -/
inductive Entry where
  | answered (operation : Operation) (outcome : Outcome)
  | released (woken : List Half)

/-- What becomes of a stream alone. -/
def Use.run : List (Use σ) → σ → List Entry × σ
  | [], stream => ([], stream)
  | attempt operation :: uses, stream =>
      let (outcome, stream) := operation.perform stream
      let (entries, stream) := run uses stream
      (.answered operation outcome :: entries, stream)
  | beyond change :: uses, stream => run uses (change stream)

/-- What becomes of a connection. -/
def Step.run : List (Step σ) → Backend σ → List Entry × Backend σ
  | [], backend => ([], backend)
  | use (.attempt operation) :: steps, backend =>
      let (outcome, backend) := operation.perform backend
      let (entries, backend) := run steps backend
      (.answered operation outcome :: entries, backend)
  | use (.beyond change) :: steps, backend =>
      run steps { backend with stream := change backend.stream }
  | release :: steps, backend =>
      let (woken, backend) := backend.release
      let (entries, backend) := run steps backend
      (.released woken :: entries, backend)

/-- What is told of a step behind a release. -/
def Step.refused : Step σ → List Entry
  | use (.attempt operation) => [.answered operation operation.refused]
  | use (.beyond _) => []
  | release => [.released []]

/-- What a step does to a stream without attempting anything at it. -/
def Step.beyond (stream : σ) : Step σ → σ
  | use (.beyond change) => change stream
  | use (.attempt _) | release => stream

theorem Step.run_release (steps : List (Step σ)) (backend : Backend σ) :
    run (release :: steps) backend =
      (.released backend.release.1 :: (run steps backend.release.2).1,
        (run steps backend.release.2).2) := rfl

theorem Step.run_append (early late : List (Step σ)) (backend : Backend σ) :
    run (early ++ late) backend =
      ((run early backend).1 ++ (run late (run early backend).2).1,
        (run late (run early backend).2).2) := by
  induction early generalizing backend with
  | nil => rfl
  | cons step early ih =>
      rcases step with (operation | change) | _
      · simp only [List.cons_append, run, ih]
      · simp only [List.cons_append, run, ih]
      · simp only [List.cons_append, run, ih]

omit [Connection σ] in
/-- Every run is without a release, or goes on behind a first one. -/
theorem Step.first_release (steps : List (Step σ)) :
    ∃ early : List (Use σ), steps = early.map .use ∨
      ∃ late, steps = early.map .use ++ release :: late := by
  induction steps with
  | nil => exact ⟨[], .inl rfl⟩
  | cons step steps ih =>
      cases step with
      | use use =>
          obtain ⟨early, whole | ⟨late, split⟩⟩ := ih
          · exact ⟨use :: early, .inl (by rw [whole, List.map_cons])⟩
          · exact ⟨use :: early, .inr ⟨late, by
              rw [split, List.map_cons, List.cons_append]⟩⟩
      | release => exact ⟨[], .inr ⟨steps, rfl⟩⟩

/-- Without a release a connection is its stream. -/
theorem Step.run_uses (uses : List (Use σ)) (backend : Backend σ)
    (live : backend.live = true) :
    (run (uses.map .use) backend).1 = (Use.run uses backend.stream).1 ∧
      (run (uses.map .use) backend).2.stream =
        (Use.run uses backend.stream).2 ∧
      (run (uses.map .use) backend).2.live = true := by
  induction uses generalizing backend with
  | nil => exact ⟨rfl, rfl, live⟩
  | cons use uses ih =>
      cases use with
      | attempt operation =>
          obtain ⟨entries, stream, lives⟩ :=
            ih (backend.follow operation).2 rfl
          simp only [List.map_cons, run, Use.run, perform_live live]
          exact ⟨congrArg _ entries, stream, lives⟩
      | beyond change =>
          exact ih { backend with stream := change backend.stream } live

/-- Behind a release nothing reaches the stream. -/
theorem Step.run_gone (steps : List (Step σ)) (stream : σ) :
    run steps (gone stream) =
      (steps.flatMap refused, gone (steps.foldl beyond stream)) := by
  induction steps generalizing stream with
  | nil => rfl
  | cons step steps ih =>
      rcases step with (operation | change) | _
      · simp only [run, perform_gone, ih]
        rfl
      · exact ih (change stream)
      · simp only [run, release_gone, ih]
        rfl

theorem Step.run_released (early : List (Use σ)) (late : List (Step σ))
    (backend : Backend σ) (live : backend.live = true) :
    run (early.map .use ++ release :: late) backend =
      ((Use.run early backend.stream).1 ++
          .released (run (early.map .use) backend).2.release.1 ::
            late.flatMap refused,
        gone (late.foldl beyond
          (Connection.drop (Use.run early backend.stream).2))) := by
  obtain ⟨entries, stream, lives⟩ := run_uses early backend live
  rw [run_append, run_release, release_live lives, run_gone, entries, stream]

/-! ### Bytes -/

/-- The bytes that were taken in a run. -/
def accepted : List Entry → Bytes :=
  List.flatMap fun
    | .answered (.write bytes) (.counted (.ready (.ok count))) =>
        bytes.take count
    | _ => []

theorem accepted_append (early late : List Entry) :
    accepted (early ++ late) = accepted early ++ accepted late :=
  List.flatMap_append

omit [Connection σ] in
theorem accepted_refused (steps : List (Step σ)) :
    accepted (steps.flatMap Step.refused) = [] := by
  induction steps with
  | nil => rfl
  | cons step steps ih =>
      rw [List.flatMap_cons, accepted_append, ih, List.append_nil]
      rcases step with ((_ | _ | _ | _) | _) | _ <;> rfl

/-- The same at a stream that keeps a record of what it takes. -/
def Use.recorded : Use σ → Use (Recorded σ)
  | attempt operation => attempt operation
  | beyond change => beyond (Recorded.onStream change)

def Step.recorded : Step σ → Step (Recorded σ)
  | .use used => .use used.recorded
  | .release => .release

theorem perform_recorded (recorded : Recorded σ) (operation : Operation) :
    (operation.perform recorded).1 =
        (operation.perform recorded.stream).1 ∧
      (operation.perform recorded).2.stream =
        (operation.perform recorded.stream).2 ∧
      (operation.perform recorded).2.taken = recorded.taken ++
        accepted [.answered operation (operation.perform recorded.stream).1] := by
  cases operation with
  | read room => exact ⟨rfl, rfl, (List.append_nil _).symm⟩
  | shutdown => exact ⟨rfl, rfl, (List.append_nil _).symm⟩
  | write bytes =>
      have own : (Operation.write bytes).perform recorded =
          (recorded.write bytes).map .counted id := rfl
      rw [own, Recorded.write]
      rcases writing : ByteSink.write recorded.stream bytes with
        ⟨(_ | _) | _, next⟩ <;>
        simp [Operation.perform, accepted, writing]
  | flush =>
      have own : Operation.flush.perform recorded =
          recorded.flush.map .settled id := rfl
      rw [own, Recorded.flush]
      rcases flushing : ByteSink.flush recorded.stream with
        ⟨(_ | _) | _, next⟩ <;>
        simp [Operation.perform, accepted, flushing]

theorem Use.run_recorded (uses : List (Use σ)) (recorded : Recorded σ) :
    (run (uses.map Use.recorded) recorded).1 = (run uses recorded.stream).1 ∧
      (run (uses.map Use.recorded) recorded).2.taken =
        recorded.taken ++ accepted (run uses recorded.stream).1 := by
  induction uses generalizing recorded with
  | nil => exact ⟨rfl, (List.append_nil _).symm⟩
  | cons use uses ih =>
      cases use with
      | attempt operation =>
          obtain ⟨outcome, stream, taken⟩ := perform_recorded recorded operation
          obtain ⟨entries, more⟩ := ih (operation.perform recorded).2
          simp only [List.map_cons, Use.recorded, run]
          rw [entries, more, outcome, stream, taken, List.append_assoc,
            ← accepted_append]
          exact ⟨rfl, rfl⟩
      | beyond change => exact ih (recorded.onStream change)

omit [Connection σ] in
/-- What is left of a stream keeps its record. -/
theorem taken_beyond (steps : List (Step σ)) (recorded : Recorded σ) :
    ((steps.map Step.recorded).foldl Step.beyond recorded).taken =
      recorded.taken := by
  induction steps generalizing recorded with
  | nil => rfl
  | cons step steps ih =>
      rw [List.map_cons, List.foldl_cons, ih]
      rcases step with (_ | _) | _ <;> rfl

/-! ### Severing -/

/-- A connection is severed for good. Up to the first release it does what its
stream does alone. The release drops the stream, to which nothing happens from
then on but by its other end: every read finds the end of the stream, every
write and every flush fails, every shutdown is done, and further releases
change nothing. So what the stream has taken is what it had accepted before
the first release. -/
theorem severed_for_good (stream : σ) (steps : List (Step σ)) :
    ∃ early : List (Use σ),
      let alone := Use.run early stream
      let ran := Step.run steps { stream }
      (steps = early.map .use ∧ ran.1 = alone.1 ∧ ran.2.live = true ∧
          ran.2.stream = alone.2 ∨
        ∃ late woken, steps = early.map .use ++ .release :: late ∧
          ran.1 = alone.1 ++ .released woken :: late.flatMap Step.refused ∧
          ran.2 = gone (late.foldl Step.beyond (Connection.drop alone.2))) ∧
      accepted ran.1 = accepted alone.1 ∧
      (Step.run (steps.map Step.recorded)
        { stream := { stream } }).2.stream.taken = accepted alone.1 := by
  -- what stands before the first release, if there is one
  obtain ⟨early, same⟩ := Step.first_release steps
  refine ⟨early, ?_⟩
  intro alone ran
  have recorded : (early.map Step.use).map Step.recorded =
      (early.map Use.recorded).map .use := by
    rw [List.map_map, List.map_map]
    rfl
  have taken : (Use.run (early.map Use.recorded) { stream }).2.taken =
      accepted alone.1 := (Use.run_recorded early { stream }).2
  obtain whole | ⟨late, split⟩ := same
  · obtain ⟨entries, left, live⟩ := Step.run_uses early { stream } rfl
    rw [← whole] at entries left live
    refine ⟨.inl ⟨whole, entries, live, left⟩, congrArg accepted entries, ?_⟩
    rw [whole, recorded, (Step.run_uses _ _ rfl).2.1, taken]
  · have severed := Step.run_released early late { stream } rfl
    rw [← split] at severed
    refine ⟨.inr ⟨late, _, split, congrArg Prod.fst severed,
      congrArg Prod.snd severed⟩, ?_, ?_⟩
    · rw [congrArg Prod.fst severed, accepted_append]
      -- a release itself takes nothing
      have nothing := accepted_refused late
      exact (congrArg (accepted alone.1 ++ ·) nothing).trans
        (List.append_nil _)
    · rw [split, List.map_append, recorded, List.map_cons, Step.recorded,
        Step.run_released _ _ _ rfl]
      exact (taken_beyond late _).trans taken

end Backend

end TunnelRelay
