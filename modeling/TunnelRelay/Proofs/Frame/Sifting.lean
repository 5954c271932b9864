import TunnelRelay.Frame.FilteredReader
import TunnelRelay.Proofs.Frame.Interrupted
import TunnelRelay.Proofs.Frame.Screening

/-!
Reading through any filter.

A read through a filter is one read or more of the reader below it, all but the last of which give a
frame that the filter drops. So what a caller is told, read by read, is what the reader below gives
with the answers of the filter in place of the frames, and no instruction and no error is lost or
told twice. On a source each dropped frame uses up bytes, so every read comes to an end.
-/

namespace TunnelRelay

/-! ### Reads of the reader below -/

namespace FrameReader

theorem readFrames_append {σ : Type} [ByteSource σ] (first second : Nat)
    (reader : FrameReader) (input : σ) :
    readFrames (first + second) reader input =
      ((readFrames first reader input).1 ++
          (readFrames second (readFrames first reader input).2.1
            (readFrames first reader input).2.2).1,
        (readFrames second (readFrames first reader input).2.1
          (readFrames first reader input).2.2).2) := by
  induction first generalizing reader input with
  | zero => rw [Nat.zero_add]; rfl
  | succ first ih =>
      rcases step : reader.readFrame input with ⟨outcome, next, rest⟩
      rw [Nat.succ_add, readFrames_cons step, readFrames_cons step, ih]
      rfl

end FrameReader

def Poll.item? {α : Type} : Poll (Except RelayError (Option α)) → Option α
  | ready (.ok item) => item
  | ready (.error _) | parked => none

/-- One read of the reader below a filter, with the answer of the filter if it has
given a frame. -/
inductive Sifting where
  | frame (frame : Frame) (answer : Except RelayError (Option Instruction))
  | ended
  | failed (error : RelayError)
  | parked

namespace Sifting

def below : Sifting → Poll (Except RelayError (Option Frame))
  | frame given _ => .ready (.ok (some given))
  | ended => .ready (.ok none)
  | failed error => .ready (.error error)
  | parked => .parked

def answer? : Sifting → Option (Except RelayError (Option Instruction))
  | frame _ answer => some answer
  | ended | failed _ | parked => none

/-- What a caller is told, who hears nothing of what the filter drops. -/
def told? : Sifting → Option (Poll (Except RelayError (Option Instruction)))
  | frame _ (.ok none) => none
  | frame _ answer => some (.ready answer)
  | ended => some (.ready (.ok none))
  | failed error => some (.ready (.error error))
  | parked => some .parked

def asked (siftings : List Sifting) : List Instruction :=
  ((siftings.map below).filterMap Poll.item?).map Frame.instruction

theorem asked_append (first second : List Sifting) :
    asked (first ++ second) = asked first ++ asked second := by
  simp only [asked, List.map_append, List.filterMap_append]

theorem told_items (siftings : List Sifting) :
    (siftings.filterMap told?).filterMap Poll.item? =
      (siftings.filterMap answer?).filterMap fun
        | .ok answer => answer
        | .error _ => none := by
  induction siftings with
  | nil => rfl
  | cons sifting siftings ih =>
      rcases sifting with ⟨frame, error | (_ | instruction)⟩ | _ | error | _
      · exact ih
      · exact ih
      · exact congrArg (instruction :: ·) ih
      · exact ih
      · exact ih
      · exact ih

end Sifting

/-! ### Reads through a filter -/

namespace FilteredReader

variable {φ σ : Type} [ByteSource σ] {filtered next : FilteredReader φ}
  {input rest : σ}

/-- These siftings lead from one state of a filtered reader and its stream to
another: they are what the reader below has given and the filter has answered. -/
structure Sifts (filtered : FilteredReader φ) (input : σ)
    (siftings : List Sifting) (next : FilteredReader φ) (rest : σ) : Prop where
  below : FrameReader.readFrames siftings.length filtered.reader input =
    (siftings.map Sifting.below, next.reader, rest)
  answers : filtered.filter.run filtered.memory (Sifting.asked siftings) =
    (siftings.filterMap Sifting.answer?, next.memory)
  filter : next.filter = filtered.filter

theorem Sifts.refl (filtered : FilteredReader φ) (input : σ) :
    filtered.Sifts input [] filtered input :=
  ⟨rfl, rfl, rfl⟩

theorem Sifts.trans {middle : FilteredReader φ} {between : σ}
    {first second : List Sifting}
    (before : filtered.Sifts input first middle between)
    (after : middle.Sifts between second next rest) :
    filtered.Sifts input (first ++ second) next rest := by
  constructor
  · rw [List.length_append, FrameReader.readFrames_append, before.below,
      after.below, List.map_append]
  · rw [Sifting.asked_append, Filter.run_append, before.answers,
      ← before.filter, after.answers, List.filterMap_append]
  · exact after.filter.trans before.filter

theorem Sifts.single {reader : FrameReader} {sifting : Sifting} {memory : φ}
    (given : filtered.reader.readFrame input = (sifting.below, reader, rest))
    (answers : filtered.filter.run filtered.memory (Sifting.asked [sifting]) =
      ([sifting].filterMap Sifting.answer?, memory)) :
    filtered.Sifts input [sifting] { filtered with reader, memory } rest where
  below := FrameReader.readFrames_cons given 0
  answers := answers
  filter := rfl

theorem Sifts.frame {reader : FrameReader} {frame : Frame}
    {answer : Except RelayError (Option Instruction)} {memory : φ}
    (given : filtered.reader.readFrame input =
      (.ready (.ok (some frame)), reader, rest))
    (answered : filtered.filter filtered.memory frame.instruction =
      (answer, memory)) :
    filtered.Sifts input [.frame frame answer] { filtered with reader, memory }
      rest :=
  .single given (Filter.run_cons answered [])

theorem read_sifts {outcome : Poll (Except RelayError (Option Instruction))}
    (done : filtered.read input = (outcome, next, rest)) :
    ∃ (dropped : List Sifting) (last : Sifting),
      filtered.Sifts input (dropped ++ [last]) next rest ∧
      dropped.filterMap Sifting.told? = [] ∧ last.told? = some outcome := by
  fun_induction FilteredReader.read filtered input with
  | case1 filtered input reader stream given =>
      cases done
      exact ⟨[], .parked, .single given rfl, rfl, rfl⟩
  | case2 filtered input error reader stream given =>
      cases done
      exact ⟨[], .failed error, .single given rfl, rfl, rfl⟩
  | case3 filtered input reader stream given =>
      cases done
      exact ⟨[], .ended, .single given rfl, rfl, rfl⟩
  | case4 filtered input frame reader stream given error memory answered =>
      cases done
      exact ⟨[], .frame frame (.error error), .frame given answered, rfl, rfl⟩
  | case5 filtered input frame reader stream given instruction memory answered =>
      cases done
      exact ⟨[], .frame frame (.ok (some instruction)), .frame given answered,
        rfl, rfl⟩
  | case6 filtered input frame reader stream given memory answered ih =>
      obtain ⟨dropped, last, sifts, silent, told⟩ := ih done
      exact ⟨.frame frame (.ok none) :: dropped, last,
        (Sifts.frame given answered).trans sifts, silent, told⟩

def reads {σ : Type} [ByteSource σ] : (count : Nat) → FilteredReader φ → σ →
    List (Poll (Except RelayError (Option Instruction))) × FilteredReader φ × σ
  | 0, filtered, input => ([], filtered, input)
  | count + 1, filtered, input =>
      let (outcome, filtered, input) := filtered.read input
      let (outcomes, filtered, input) := reads count filtered input
      (outcome :: outcomes, filtered, input)

theorem reads_sift (count : Nat) (filtered : FilteredReader φ) (input : σ) :
    ∃ siftings : List Sifting,
      filtered.Sifts input siftings (reads count filtered input).2.1
        (reads count filtered input).2.2 ∧
      (reads count filtered input).1 = siftings.filterMap Sifting.told? ∧
      ∀ last ∈ siftings.getLast?, last.told? ≠ none := by
  induction count generalizing filtered input with
  | zero => exact ⟨[], .refl filtered input, rfl, fun last none => by cases none⟩
  | succ count ih =>
      rcases done : filtered.read input with ⟨outcome, next, rest⟩
      obtain ⟨dropped, last, sifts, silent, told⟩ := read_sifts done
      obtain ⟨siftings, others, outcomes, ends⟩ := ih next rest
      have all : reads (count + 1) filtered input =
          (outcome :: (reads count next rest).1, (reads count next rest).2) := by
        rw [reads, done]
      refine ⟨dropped ++ [last] ++ siftings, ?_, ?_, ?_⟩
      · rw [all]
        exact sifts.trans others
      · rw [all, outcomes, List.filterMap_append, List.filterMap_append, silent,
          List.filterMap_cons, told]
        rfl
      · intro final member
        rw [List.getLast?_append, List.getLast?_concat] at member
        cases behind : siftings.getLast? with
        | none =>
            rw [behind] at member
            cases member
            rw [told]
            exact Option.some_ne_none outcome
        | some other =>
            rw [behind] at member
            cases member
            exact ends final behind

end FilteredReader

/-! ### Sources -/

namespace Source

variable {source rest : Source} {room : Nat}
  {answer : Poll (Except IoFault Bytes)}

/-- A read uses up at least the bytes that it gives. -/
theorem read_held (done : source.read room = (answer, rest)) :
    rest.held + answer.given.length ≤ source.held := by
  obtain ⟨chunks⟩ := source
  cases chunks with
  | nil =>
      cases done
      exact Nat.le_refl 0
  | cons item items =>
      cases item with
      | error fault =>
          cases done
          simp only [Poll.given, held, List.foldr_cons, List.length_nil]
          omega
      | ok chunk =>
          simp only [read] at done
          split at done
          · cases done
            simp only [Poll.given, held, List.foldr_cons]
            omega
          · cases done
            simp only [Poll.given, held, List.foldr_cons, List.length_drop,
              List.length_take]
            omega

theorem read_ready (done : source.read room = (answer, rest)) :
    ∃ given, answer = .ready given := by
  obtain ⟨chunks⟩ := source
  cases chunks with
  | nil =>
      cases done
      exact ⟨_, rfl⟩
  | cons item items =>
      cases item with
      | error fault =>
          cases done
          exact ⟨_, rfl⟩
      | ok chunk =>
          simp only [read] at done
          split at done <;> cases done <;> exact ⟨_, rfl⟩

end Source

namespace FrameReader

variable {reader next : FrameReader} {source rest : Source}
  {outcome : Poll (Except RelayError (Option Frame))}

theorem atEnd_item (reader : FrameReader) :
    (Poll.ready reader.atEnd).item? = none := by
  unfold atEnd
  split <;> rfl

theorem readFrame_source
    (done : reader.readFrame source = (outcome, next, rest)) :
    (∃ given, outcome = .ready given) ∧
      next.buffer.length + rest.held + outcome.item?.toList.length ≤
        reader.buffer.length + source.held := by
  fun_induction readFrame reader source with
  | case1 reader source frame length holds =>
      cases done
      obtain ⟨positive, within⟩ := reader.next_within frame length holds
      refine ⟨⟨_, rfl⟩, ?_⟩
      simp only [scan_buffer, List.length_drop, Poll.item?,
        Option.toList_some, List.length_singleton]
      omega
  | case2 reader source cause holds =>
      cases done
      exact ⟨⟨_, rfl⟩, Nat.le_refl _⟩
  | case3 reader source waits ended =>
      cases done
      refine ⟨⟨_, rfl⟩, ?_⟩
      rw [atEnd_item]
      exact Nat.le_refl _
  | case4 reader source waits ended grown stream step =>
      obtain ⟨given, impossible⟩ := Source.read_ready step
      cases impossible
  | case5 reader source waits ended grown fault stream step =>
      simp only [Prod.mk.injEq] at done
      obtain ⟨rfl, rfl, rfl⟩ := done
      have used := Source.read_held step
      have kept : grown.buffer = reader.buffer := reserve_buffer
      refine ⟨⟨_, rfl⟩, ?_⟩
      rw [kept]
      exact Nat.add_le_add_left used _
  | case6 reader source waits ended grown stream step last =>
      simp only [Prod.mk.injEq] at done
      obtain ⟨rfl, rfl, rfl⟩ := done
      have used := Source.read_held step
      have kept : last.buffer = reader.buffer := reserve_buffer
      refine ⟨⟨_, rfl⟩, ?_⟩
      rw [kept, atEnd_item]
      exact Nat.add_le_add_left used _
  | case7 reader source waits ended grown byte bytes stream step ih =>
      have used := Source.read_held step
      have kept : grown.buffer = reader.buffer := reserve_buffer
      obtain ⟨ready, later⟩ := ih done
      refine ⟨ready, ?_⟩
      simp only [scan_buffer, kept, List.length_append, Poll.given]
        at later used
      omega

theorem readFrames_source (count : Nat) (reader : FrameReader)
    (source : Source) :
    (∀ outcome ∈ (readFrames count reader source).1,
        ∃ given, outcome = .ready given) ∧
      ((readFrames count reader source).1.filterMap Poll.item?).length ≤
        reader.buffer.length + source.held := by
  induction count generalizing reader source with
  | zero =>
      refine ⟨?_, Nat.zero_le _⟩
      intro outcome none
      cases none
  | succ count ih =>
      rcases first : reader.readFrame source with ⟨outcome, next, rest⟩
      obtain ⟨ready, used⟩ := readFrame_source first
      obtain ⟨others, bounded⟩ := ih next rest
      rw [readFrames_cons first]
      refine ⟨?_, ?_⟩
      · intro other member
        rcases List.mem_cons.mp member with rfl | later
        · exact ready
        · exact others other later
      · cases item : outcome.item? with
        | none =>
            rw [item, Option.toList_none, List.length_nil] at used
            rw [List.filterMap_cons_none item]
            omega
        | some frame =>
            rw [item, Option.toList_some, List.length_singleton] at used
            rw [List.filterMap_cons_some item, List.length_cons]
            omega

end FrameReader

/-! ### The stream through the filter -/

namespace Sifting

theorem told_ready {sifting : Sifting}
    {outcome : Poll (Except RelayError (Option Instruction))}
    (told : sifting.told? = some outcome)
    (ready : ∃ given, sifting.below = .ready given) :
    ∃ given, outcome = .ready given := by
  obtain ⟨given, ready⟩ := ready
  rcases sifting with ⟨frame, error | (_ | instruction)⟩ | _ | error | _
  · cases told
    exact ⟨_, rfl⟩
  · cases told
  · cases told
    exact ⟨_, rfl⟩
  · cases told
    exact ⟨_, rfl⟩
  · cases told
    exact ⟨_, rfl⟩
  · cases ready

theorem length_le (siftings : List Sifting) :
    siftings.length ≤ (siftings.filterMap told?).length +
      ((siftings.map below).filterMap Poll.item?).length := by
  induction siftings with
  | nil => exact Nat.le_refl 0
  | cons sifting siftings ih =>
      rcases sifting with ⟨frame, error | (_ | instruction)⟩ | _ | error | _
      all_goals
        simp only [List.map_cons, List.filterMap_cons, told?, below,
          Poll.item?, List.length_cons]
        omega

end Sifting

namespace FilteredReader

theorem length_reads {φ σ : Type} [ByteSource σ] (count : Nat)
    (filtered : FilteredReader φ) (input : σ) :
    (reads count filtered input).1.length = count := by
  induction count generalizing filtered input with
  | zero => rfl
  | succ count ih => exact congrArg (· + 1) (ih _ _)

/-- Whatever chunks and failures a source has, whatever a filter remembers and
does, and however many reads are made through it: they are reads of the reader
below, with the filter asked once about each instruction that these give, in
order. Each read through the filter tells one thing, in the order below: an
instruction that the filter lets pass, its failure, a failure of the reader below,
or the end where the reader below has found it; only instructions that the filter
drops are passed over. Afterwards the reader below and the source are where these
reads have left them, and none was made beyond the last thing told. Each read
comes to an end: besides those that are asked for, at most one read is made below
for each byte in the reader and each byte and chunk of the source. -/
theorem reads_sifted {φ : Type} (filtered : FilteredReader φ) (source : Source)
    (count : Nat) :
    ∃ siftings : List Sifting,
      let (given, reader, left) :=
        FrameReader.readFrames siftings.length filtered.reader source
      let (answers, memory) := filtered.filter.run filtered.memory
        ((given.filterMap Poll.item?).map Frame.instruction)
      let (told, next, rest) := reads count filtered source
      given = siftings.map Sifting.below ∧
        answers = siftings.filterMap Sifting.answer? ∧
        told = siftings.filterMap Sifting.told? ∧
        (told.filterMap Poll.item? = answers.filterMap fun
          | .ok answer => answer
          | .error _ => none) ∧
        next = { filtered with reader, memory } ∧ rest = left ∧
        (∀ last ∈ siftings.getLast?, last.told? ≠ none) ∧
        told.length = count ∧ (∀ outcome ∈ told, ∃ given, outcome = .ready given) ∧
        siftings.length ≤
          count + (filtered.reader.buffer.length + source.held) := by
  obtain ⟨siftings, sifts, told, ends⟩ := reads_sift count filtered source
  obtain ⟨ready, bounded⟩ :=
    FrameReader.readFrames_source siftings.length filtered.reader source
  have length := length_reads count filtered source
  rcases through : reads count filtered source with ⟨outcomes, next, rest⟩
  rw [through] at sifts told length
  obtain ⟨below, answers, filter⟩ := sifts
  rw [below] at ready bounded
  refine ⟨siftings, ?_⟩
  rw [below]
  dsimp only [Sifting.asked] at answers ready bounded told length ⊢
  rw [answers]
  refine ⟨rfl, rfl, told, ?_, ?_, rfl, ends, length, ?_, ?_⟩
  · rw [told]
    exact Sifting.told_items siftings
  · rcases next with ⟨reader, other, memory⟩
    cases filter
    rfl
  · intro outcome member
    rw [told] at member
    obtain ⟨sifting, among, tells⟩ := List.mem_filterMap.mp member
    exact Sifting.told_ready tells
      (ready sifting.below (List.mem_map_of_mem among))
  -- as many siftings as answers, and one for each frame that is kept from the caller
  · have all := Sifting.length_le siftings
    rw [← told, length] at all
    exact Nat.le_trans all (Nat.add_le_add_left bounded count)

end FilteredReader

end TunnelRelay
