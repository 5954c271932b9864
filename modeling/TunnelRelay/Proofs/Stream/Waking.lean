import TunnelRelay.Proofs.Stream.Severing
import TunnelRelay.Stream.Link
import TunnelRelay.Stream.WriteAll

/-!
Who is woken by a release.

The first release wakes the halves that have had to wait in a read, a write or a flush. A half
that waits in a shutdown asks nobody to be woken: unless it has waited in a write or a flush
before, it goes on waiting for a stream that is no longer there.
-/

namespace TunnelRelay

namespace Backend

/-! ### Who asks -/

def Operation.half : Operation → Half
  | read _ => .reading
  | write _ | flush | shutdown => .writing

/-- The half is woken by the next release. -/
def awaits {σ : Type} (backend : Backend σ) : Half → Bool
  | .reading => backend.readingParked
  | .writing => backend.writingParked

def Entry.parks (half : Half) : Entry → Bool
  | answered operation outcome =>
      operation.asks == some half && outcome.isParked
  | released _ => false

theorem Operation.asks_eq_some_iff {operation : Operation} {half : Half} :
    operation.asks = some half ↔
      operation.half = half ∧ operation ≠ .shutdown := by
  cases operation <;> simp [asks, Operation.half]

theorem any_parks (entries : List Entry) (half : Half) :
    entries.any (Entry.parks half) = true ↔ ∃ operation outcome,
      .answered operation outcome ∈ entries ∧ outcome.isParked = true ∧
        operation.half = half ∧ operation ≠ .shutdown := by
  rw [List.any_eq_true]
  constructor
  · rintro ⟨entry, member, parks⟩
    cases entry with
    | released woken => cases parks
    | answered operation outcome =>
        simp only [Entry.parks, Bool.and_eq_true, beq_iff_eq] at parks
        exact ⟨operation, outcome, member, parks.2,
          Operation.asks_eq_some_iff.mp parks.1⟩
  · rintro ⟨operation, outcome, member, parked, lasting⟩
    refine ⟨_, member, ?_⟩
    simp only [Entry.parks, Bool.and_eq_true, beq_iff_eq]
    exact ⟨Operation.asks_eq_some_iff.mpr lasting, parked⟩

theorem mem_release {σ : Type} [Connection σ] (backend : Backend σ)
    (half : Half) :
    half ∈ backend.release.1 ↔ backend.awaits half = true := by
  unfold Backend.release
  cases half <;> cases reading : backend.readingParked <;>
    cases writing : backend.writingParked <;>
    simp [awaits, reading, writing]

variable {σ : Type} [Connection σ]

theorem follow_awaits (backend : Backend σ) (operation : Operation)
    (half : Half) :
    (backend.follow operation).2.awaits half = (backend.awaits half ||
      Entry.parks half
        (.answered operation (operation.perform backend.stream).1)) := by
  cases half <;> rfl

theorem Step.run_awaits (uses : List (Use σ)) (half : Half)
    (backend : Backend σ) (live : backend.live = true) :
    (run (uses.map .use) backend).2.awaits half = (backend.awaits half ||
      (Use.run uses backend.stream).1.any (Entry.parks half)) := by
  induction uses generalizing backend with
  | nil => exact (Bool.or_false _).symm
  | cons use uses ih =>
      cases use with
      | attempt operation =>
          have later := ih (backend.follow operation).2 rfl
          simp only [List.map_cons, run, Use.run, perform_live live,
            List.any_cons]
          rw [later, follow_awaits, Bool.or_assoc]
          rfl
      | beyond change =>
          exact ih { backend with stream := change backend.stream } live

theorem Use.run_answered (uses : List (Use σ)) (stream : σ) :
    ∀ woken, .released woken ∉ (run uses stream).1 := by
  induction uses generalizing stream with
  | nil => exact fun _ => List.not_mem_nil
  | cons use uses ih =>
      cases use with
      | attempt operation =>
          intro woken member
          cases member with
          | tail _ later => exact ih _ woken later
      | beyond change => exact ih (change stream)

omit [Connection σ] in
/-- Behind a release nobody has to wait, and nobody is woken. -/
theorem Step.refused_rests (steps : List (Step σ)) :
    (∀ operation outcome,
        .answered operation outcome ∈ steps.flatMap refused →
          outcome.isParked = false) ∧
      ∀ woken, .released woken ∈ steps.flatMap refused → woken = [] := by
  constructor
  · intro operation outcome member
    obtain ⟨step, -, told⟩ := List.mem_flatMap.mp member
    rcases step with (operation | change) | _
    · cases List.mem_singleton.mp told
      cases operation <;> rfl
    · cases told
    · cases List.mem_singleton.mp told
  · intro woken member
    obtain ⟨step, -, told⟩ := List.mem_flatMap.mp member
    rcases step with (operation | change) | _
    · cases List.mem_singleton.mp told
    · cases told
    · cases List.mem_singleton.mp told
      rfl

theorem first_or_later {early late before after : List Entry}
    {first woken : List Half} (answered : ∀ others, .released others ∉ early)
    (same : early ++ .released first :: late =
      before ++ .released woken :: after) :
    (before = early ∧ woken = first ∧ after = late) ∨
      ∃ between, before = early ++ .released first :: between ∧
        late = between ++ .released woken :: after := by
  obtain ⟨more, split, rest⟩ | ⟨more, split, rest⟩ :=
    List.append_eq_append_iff.mp same
  · cases more with
    | nil =>
        cases rest
        exact .inl ⟨split.trans (List.append_nil _), rfl, rfl⟩
    | cons entry between =>
        obtain ⟨rfl, behind⟩ := List.cons.inj rest
        exact .inr ⟨between, split, behind⟩
  · cases more with
    | nil =>
        cases rest
        exact .inl ⟨(split.trans (List.append_nil _)).symm, rfl, rfl⟩
    | cons entry between =>
        obtain ⟨rfl, -⟩ := List.cons.inj rest
        refine absurd ?_ (answered woken)
        rw [split]
        exact List.mem_append_right _ List.mem_cons_self

theorem Step.run_told {stream : σ} {steps : List (Step σ)}
    {before after : List Entry} {woken : List Half}
    (told : (run steps { stream }).1 = before ++ .released woken :: after) :
    ((∀ others, .released others ∉ before) ∧
        (∀ half, half ∈ woken ↔ before.any (Entry.parks half) = true) ∨
      (∃ others, .released others ∈ before) ∧ woken = []) ∧
    ∀ operation outcome, .answered operation outcome ∈ after →
      outcome.isParked = false := by
  obtain ⟨early, whole | ⟨late, split⟩⟩ := Step.first_release steps
  · obtain ⟨entries, -, -⟩ := run_uses early { stream } rfl
    rw [← whole, told] at entries
    have member : Entry.released woken ∈ (Use.run early stream).1 := by
      rw [← entries]
      exact List.mem_append_right _ List.mem_cons_self
    exact absurd member (Use.run_answered early stream woken)
  · have severed := run_released early late { stream } rfl
    rw [← split] at severed
    rw [severed] at told
    obtain ⟨calm, silent⟩ := refused_rests late
    have answered := Use.run_answered early stream
    have asked : ∀ half, half ∈ (run (early.map .use) { stream }).2.release.1 ↔
        (Use.run early stream).1.any (Entry.parks half) = true := by
      intro half
      rw [mem_release, run_awaits _ _ _ rfl]
      cases half <;> rfl
    obtain ⟨rfl, rfl, rfl⟩ | ⟨between, same, silence⟩ :=
      first_or_later answered told
    · exact ⟨.inl ⟨answered, asked⟩, calm⟩
    · have first : Entry.released
          (run (early.map .use) { stream }).2.release.1 ∈ before := by
        rw [same]
        exact List.mem_append_right _ List.mem_cons_self
      rw [silence] at calm silent
      refine ⟨.inr ⟨⟨_, first⟩, silent woken ?_⟩, ?_⟩
      · exact List.mem_append_right _ List.mem_cons_self
      · intro operation outcome behind
        refine calm operation outcome ?_
        exact List.mem_append_right _ (List.mem_cons_of_mem _ behind)

/-- A release wakes exactly the halves that have had to wait in a read, a write
or a flush, if it is the first one. A half whose last attempt was one of these
and had to wait is therefore woken by the release that comes next. If its last
attempt was a shutdown that had to wait, then it is woken only for a write or a
flush that had to wait before. Behind the release nobody has to wait any
more. -/
theorem woken_by_release {stream : σ} {steps : List (Step σ)}
    {before after : List Entry} {woken : List Half}
    (told : (Step.run steps { stream }).1 =
      before ++ .released woken :: after) :
    (∀ half, half ∈ woken ↔ (∀ others, .released others ∉ before) ∧
        ∃ operation outcome, .answered operation outcome ∈ before ∧
          outcome.isParked = true ∧ operation.half = half ∧
          operation ≠ .shutdown) ∧
      (∀ earlier operation outcome later,
        before = earlier ++ .answered operation outcome :: later →
        outcome.isParked = true → (∀ others, .released others ∉ later) →
        operation ≠ .shutdown → operation.half ∈ woken) ∧
      ∀ operation outcome, .answered operation outcome ∈ after →
        outcome.isParked = false := by
  obtain ⟨first | ⟨⟨others, member⟩, nobody⟩, calm⟩ := Step.run_told told
  · refine ⟨?_, ?_, calm⟩
    · intro half
      rw [first.2 half, any_parks]
      exact ⟨fun parked => ⟨first.1, parked⟩, fun both => both.2⟩
    · intro earlier operation outcome later split parked _ lasting
      rw [first.2, any_parks]
      refine ⟨operation, outcome, ?_, parked, rfl, lasting⟩
      rw [split]
      exact List.mem_append_right _ List.mem_cons_self
  · refine ⟨?_, ?_, calm⟩
    · intro half
      rw [nobody]
      exact ⟨nofun, fun both => absurd member (both.1 others)⟩
    · intro earlier operation outcome later split parked quiet _
      -- the earlier release would have answered the attempt
      rw [split, List.mem_append, List.mem_cons] at member
      obtain member | same | member := member
      · obtain ⟨ahead, between, split'⟩ := List.append_of_mem member
        rw [split, split', List.append_assoc, List.cons_append,
          List.append_assoc] at told
        have answered := (Step.run_told told).2 operation outcome
          (List.mem_append_right _ List.mem_cons_self)
        rw [parked] at answered
        cases answered
      · cases same
      · exact absurd member (quiet others)

end Backend

/-! ### A half that goes on waiting -/

/-- A stream that holds back what is written to it until it is flushed or shut
down, as one does that encrypts. -/
structure Buffered (σ : Type) where
  stream : σ
  pending : Bytes := []

namespace Buffered

variable {σ : Type} [Connection σ]

def flush (buffered : Buffered σ) :
    Poll (Except IoFault Unit) × Buffered σ :=
  match writeAll buffered.pending buffered.stream with
  | (.done, stream) => (.ready (.ok ()), { stream })
  | (.failed fault, stream) =>
      (.ready (.error fault), { buffered with stream })
  | (.parked pending, stream) => (.parked, { stream, pending })

instance : Connection (Buffered σ) where
  read buffered room :=
    let (given, stream) := ByteSource.read buffered.stream room
    (given, { buffered with stream })
  held buffered := ByteSource.held buffered.stream
  held_read := by
    intro buffered next room bytes done some
    simp only [Prod.mk.injEq] at done
    obtain ⟨given, rfl⟩ := done
    exact ByteSource.held_read (Prod.ext given rfl) some
  write buffered bytes := (.ready (.ok bytes.length),
    { buffered with pending := buffered.pending ++ bytes })
  flush := flush
  shutdown buffered :=
    match buffered.flush with
    | (.ready (.ok ()), buffered) =>
        let (outcome, stream) := ByteSink.shutdown buffered.stream
        (outcome, { buffered with stream })
    | waiting => waiting
  drop buffered := { stream := Connection.drop buffered.stream }

end Buffered

namespace Backend

/-- There is room for one byte of two. Whoever waits for the other in a flush is
woken by the release, whoever does in a shutdown is not. -/
theorem woken_by_release_shutdown :
    let wrote : Entry :=
      .answered (.write [0x31, 0x3b]) (.counted (.ready (.ok 2)))
    let waiting := fun (operation : Operation) (woken : List Half) =>
      (Step.run [.use (.attempt (.write [0x31, 0x3b])),
          .use (.attempt operation), .release]
        { stream := { stream := Link.ofCapacity 1 : Buffered Link } }).1 =
      [wrote, .answered operation (.settled .parked)] ++
        .released woken :: []
    (∃ woken, waiting .flush woken ∧ .writing ∈ woken) ∧
      ∃ woken, waiting .shutdown woken ∧ .writing ∉ woken := by
  intro wrote waiting
  have full : writeAll [0x31, 0x3b] (Link.ofCapacity 1) =
      (.parked [0x3b],
        ⟨{ capacity := 1, buffer := [0x31] }, { capacity := 1 }⟩) := by
    rw [writeAll]
    change writeAll [0x3b] _ = _
    rw [writeAll]
    rfl
  have flushed : Buffered.flush ⟨Link.ofCapacity 1, [0x31, 0x3b]⟩ =
      (.parked, ⟨⟨{ capacity := 1, buffer := [0x31] }, { capacity := 1 }⟩,
        [0x3b]⟩) := by
    rw [Buffered.flush, full]
  have inFlush : waiting .flush [.writing] := by
    simp only [waiting, Step.run, perform_live, follow]
    simp [wrote, Operation.perform, ByteSink.write, ByteSink.flush, flushed,
      Operation.asks, Outcome.isParked, Backend.release]
  have inShutdown : waiting .shutdown [] := by
    simp only [waiting, Step.run, perform_live, follow]
    simp [wrote, Operation.perform, ByteSink.write, ByteSink.shutdown, flushed,
      Operation.asks, Outcome.isParked, Backend.release]
  constructor
  · refine ⟨_, inFlush, ?_⟩
    refine (woken_by_release inFlush).2.1 [wrote] .flush _ [] rfl rfl ?_ ?_
    · exact fun _ => List.not_mem_nil
    · intro same
      cases same
  · refine ⟨_, inShutdown, ?_⟩
    rw [(woken_by_release inShutdown).1 .writing]
    rintro ⟨-, operation, outcome, member, parked, -, lasting⟩
    simp only [List.mem_cons, List.not_mem_nil, or_false] at member
    obtain same | same := member
    · obtain ⟨rfl, rfl⟩ := Entry.answered.inj same
      cases parked
    · obtain ⟨rfl, rfl⟩ := Entry.answered.inj same
      exact lasting rfl

end Backend

end TunnelRelay
