import TunnelRelay.Proofs.Frame.Reading
import TunnelRelay.Stream.Script

/-!
Reading a stream that is interrupted by failures.

A source gives chunks of bytes with failures between them and then ends. Reading on after each
failure gives the frames of all its bytes, and each failure behind the frames that the chunks
before it complete. Only malformed bytes put an end to this.
-/

namespace TunnelRelay

/-- What a reader has given, one answer a read. -/
abbrev Answers := List (Except RelayError Frame)

abbrev Arrivals := List (Except IoFault Bytes)

/-! ### Going on behind what was left -/

namespace Intake

theorem takeFrames_restart {limits : Limits} {buffer : Bytes}
    (sound : (takeFrames { limits } buffer []).fault = none) (more : Bytes) :
    takeFrames { limits } (buffer ++ more) [] =
      { takeFrames { limits }
          ((takeFrames { limits } buffer []).left ++ more) [] with
        frames := (takeFrames { limits } buffer []).frames ++
          (takeFrames { limits }
            ((takeFrames { limits } buffer []).left ++ more) []).frames } := by
  have looked := takeFrames_decoder rfl sound
  have resumed := (Decoder.decode_resumed (Progress.fits_initial _) looked
    more).2.2.2
  have longer := takeFrames_append (Progress.fits_initial buffer) sound more
  have prepended := takeFrames_prepend { limits }
    ((takeFrames { limits } buffer []).left ++ more)
    (takeFrames { limits } buffer []).frames []
  rw [List.append_nil] at prepended
  simp only [append, sound] at longer
  rw [longer, ← prepended]
  rw [takeFrames, ← resumed, ← takeFrames]

theorem takeFrames_cons {limits : Limits} {buffer : Bytes} {frame : Frame}
    {length : Nat} {next : Decoder}
    (found : Decoder.decode { limits } buffer = (.frame frame length, next)) :
    takeFrames { limits } buffer [] =
      { takeFrames { limits } (buffer.drop length) [] with
        frames := frame ::
          (takeFrames { limits } (buffer.drop length) []).frames } := by
  have prepended := takeFrames_prepend { limits } (buffer.drop length)
    [frame] []
  rw [takeFrames_frame found, Decoder.decode_frame_fresh found]
  exact prepended

def answers (intake : Intake) (onwards : Answers) : Answers :=
  intake.frames.map .ok ++
    match intake.fault with
    | some cause => [.error (.malformed cause)]
    | none => onwards

end Intake

/-! ### Chunks and failures -/

namespace Arrivals

def bytes (items : Arrivals) : Bytes :=
  items.flatMap fun
    | .ok chunk => chunk
    | .error _ => []

def faults (items : Arrivals) : List IoFault :=
  items.filterMap fun
    | .ok _ => none
    | .error fault => some fault

/-- No chunk is empty, which would be the end of the stream. -/
def Full (items : Arrivals) : Prop :=
  ∀ chunk, .ok chunk ∈ items → chunk ≠ []

theorem bytes_nil : bytes [] = [] := rfl

theorem bytes_ok (chunk : Bytes) (items : Arrivals) :
    bytes (.ok chunk :: items) = chunk ++ bytes items :=
  List.flatMap_cons

theorem bytes_error (fault : IoFault) (items : Arrivals) :
    bytes (.error fault :: items) = bytes items :=
  List.flatMap_cons

theorem Full.tail {item : Except IoFault Bytes} {items : Arrivals}
    (full : Full (item :: items)) : Full items :=
  fun chunk member => full chunk (List.mem_cons_of_mem item member)

/-- What reading gives for a buffer and what is still to arrive. -/
def answers (limits : Limits) (buffer : Bytes) : Arrivals → Answers
  | [] => (Intake.takeFrames { limits } buffer []).answers []
  | .ok chunk :: items => answers limits (buffer ++ chunk) items
  | .error fault :: items =>
      (Intake.takeFrames { limits } buffer []).answers
        (.error (.ofSocket fault) ::
          answers limits (Intake.takeFrames { limits } buffer []).left items)

theorem answers_frame {limits : Limits} {buffer : Bytes} {frame : Frame}
    {length : Nat} {next : Decoder}
    (found : Decoder.decode { limits } buffer = (.frame frame length, next))
    (items : Arrivals) :
    answers limits buffer items =
      .ok frame :: answers limits (buffer.drop length) items := by
  induction items generalizing buffer with
  | nil =>
      simp only [answers, Intake.takeFrames_cons found]
      rfl
  | cons item items ih =>
      cases item with
      | error fault =>
          simp only [answers, Intake.takeFrames_cons found]
          rfl
      | ok chunk =>
          have bounds := Decoder.decode_frame_length found
          have same := Decoder.decode_settled_append found (by simp) chunk
          simp only [answers]
          rw [ih same, List.drop_append_of_le_length bounds.2]

theorem answers_malformed {limits : Limits} {buffer : Bytes}
    {cause : Malformed} {next : Decoder}
    (found : Decoder.decode { limits } buffer = (.malformed cause, next))
    (items : Arrivals) :
    answers limits buffer items = [.error (.malformed cause)] := by
  induction items generalizing buffer with
  | nil =>
      simp only [answers, Intake.takeFrames_malformed found]
      rfl
  | cons item items ih =>
      cases item with
      | error fault =>
          simp only [answers, Intake.takeFrames_malformed found]
          rfl
      | ok chunk =>
          exact ih (Decoder.decode_settled_append found (by simp) chunk)

theorem answers_waiting {limits : Limits} {buffer : Bytes} {next : Decoder}
    (waits : Decoder.decode { limits } buffer = (.incomplete, next)) :
    answers limits buffer [] = [] ∧
      ∀ fault items, answers limits buffer (.error fault :: items) =
        .error (.ofSocket fault) :: answers limits buffer items := by
  simp only [answers, Intake.takeFrames_incomplete waits]
  exact ⟨rfl, fun _ _ => rfl⟩

end Arrivals

/-! ### What the answers are -/

namespace Answers

def frames (answers : Answers) : List Frame :=
  answers.filterMap fun
    | .ok frame => some frame
    | .error _ => none

def errors (answers : Answers) : List RelayError :=
  answers.filterMap fun
    | .ok _ => none
    | .error error => some error

theorem frames_append (front back : Answers) :
    frames (front ++ back) = frames front ++ frames back :=
  List.filterMap_append

theorem errors_append (front back : Answers) :
    errors (front ++ back) = errors front ++ errors back :=
  List.filterMap_append

theorem frames_ok (given : List Frame) : frames (given.map .ok) = given := by
  induction given with
  | nil => rfl
  | cons frame given ih => exact congrArg (frame :: ·) ih

theorem errors_ok (given : List Frame) : errors (given.map .ok) = [] := by
  induction given with
  | nil => rfl
  | cons frame given ih => exact ih

end Answers

namespace Intake

theorem sound_of_append {limits : Limits} {buffer more : Bytes}
    (sound : (takeFrames { limits } (buffer ++ more) []).fault = none) :
    (takeFrames { limits } buffer []).fault = none := by
  cases fault : (takeFrames { limits } buffer []).fault with
  | none => rfl
  | some cause =>
      have same := (takeFrames_fault (Progress.fits_initial buffer) fault
        more).2
      exact absurd (sound.symm.trans same) (by simp)

theorem fault_restart {limits : Limits} {buffer : Bytes}
    (sound : (takeFrames { limits } buffer []).fault = none) (more : Bytes) :
    (takeFrames { limits } (buffer ++ more) []).fault =
      (takeFrames { limits }
        ((takeFrames { limits } buffer []).left ++ more) []).fault := by
  rw [takeFrames_restart sound]

end Intake

namespace Arrivals

theorem answers_frames (limits : Limits) (buffer : Bytes) (items : Arrivals) :
    (answers limits buffer items).frames =
      (Intake.takeFrames { limits } (buffer ++ items.bytes) []).frames := by
  induction items generalizing buffer with
  | nil =>
      rw [answers, Intake.answers, Answers.frames_append, Answers.frames_ok,
        bytes_nil, List.append_nil]
      cases (Intake.takeFrames { limits } buffer []).fault with
      | none => exact List.append_nil _
      | some cause => exact List.append_nil _
  | cons item items ih =>
      cases item with
      | ok chunk => rw [answers, ih, bytes_ok, List.append_assoc]
      | error fault =>
          rw [answers, Intake.answers, Answers.frames_append,
            Answers.frames_ok, bytes_error]
          cases taken : (Intake.takeFrames { limits } buffer []).fault with
          | none =>
              rw [Intake.takeFrames_restart taken, ← ih]
              rfl
          | some cause =>
              rw [(Intake.takeFrames_fault (Progress.fits_initial buffer) taken
                (bytes items)).1]
              exact List.append_nil _

theorem answers_errors {limits : Limits} {buffer : Bytes} {items : Arrivals}
    (sound : (Intake.takeFrames { limits } (buffer ++ items.bytes) []).fault =
      none) :
    (answers limits buffer items).errors =
      items.faults.map RelayError.ofSocket := by
  induction items generalizing buffer with
  | nil =>
      rw [bytes_nil, List.append_nil] at sound
      rw [answers, Intake.answers, Answers.errors_append, Answers.errors_ok,
        sound]
      rfl
  | cons item items ih =>
      cases item with
      | ok chunk =>
          rw [bytes_ok, ← List.append_assoc] at sound
          exact ih sound
      | error fault =>
          rw [bytes_error] at sound
          have earlier := Intake.sound_of_append sound
          rw [Intake.fault_restart earlier] at sound
          rw [answers, Intake.answers, Answers.errors_append,
            Answers.errors_ok, earlier]
          exact congrArg (RelayError.ofSocket fault :: ·) (ih sound)

/-- A fault in the bytes is the last answer. Before it stand only failures of
the stream that came first. -/
theorem answers_of_fault {limits : Limits} {buffer : Bytes} {items : Arrivals}
    {cause : Malformed}
    (faulty : (Intake.takeFrames { limits } (buffer ++ items.bytes) []).fault =
      some cause) :
    ∃ front : Answers, ∃ earlier : Arrivals,
      answers limits buffer items = front ++ [.error (.malformed cause)] ∧
        earlier <+: items ∧
        front.errors = earlier.faults.map RelayError.ofSocket := by
  induction items generalizing buffer with
  | nil =>
      rw [bytes_nil, List.append_nil] at faulty
      rw [answers, Intake.answers, faulty]
      exact ⟨_, [], rfl, List.prefix_rfl, Answers.errors_ok _⟩
  | cons item items ih =>
      cases item with
      | ok chunk =>
          rw [bytes_ok, ← List.append_assoc] at faulty
          obtain ⟨front, earlier, split, before, errors⟩ := ih faulty
          exact ⟨front, .ok chunk :: earlier, split,
            (List.prefix_cons_inj _).mpr before, errors⟩
      | error fault =>
          rw [bytes_error] at faulty
          rw [answers, Intake.answers]
          -- the failure is answered if nothing before it was malformed
          cases taken : (Intake.takeFrames { limits } buffer []).fault with
          | none =>
              rw [Intake.fault_restart taken] at faulty
              obtain ⟨front, earlier, split, before, errors⟩ := ih faulty
              refine ⟨(Intake.takeFrames { limits } buffer []).frames.map .ok ++
                .error (.ofSocket fault) :: front, .error fault :: earlier, ?_,
                (List.prefix_cons_inj _).mpr before, ?_⟩
              · rw [split, List.append_assoc]
                rfl
              · rw [Answers.errors_append, Answers.errors_ok]
                exact congrArg (RelayError.ofSocket fault :: ·) errors
          | some other =>
              have same := (Intake.takeFrames_fault
                (Progress.fits_initial buffer) taken (bytes items)).2
              cases same.symm.trans faulty
              exact ⟨_, [], rfl, List.nil_prefix, Answers.errors_ok _⟩

/-- A failure of the stream is answered behind everything that the chunks before
it are good for. -/
theorem answers_split {limits : Limits} {buffer : Bytes} {earlier : Arrivals}
    (sound : (Intake.takeFrames { limits } (buffer ++ earlier.bytes) []).fault =
      none)
    (fault : IoFault) (later : Arrivals) :
    ∃ back, answers limits buffer (earlier ++ .error fault :: later) =
      answers limits buffer earlier ++ .error (.ofSocket fault) :: back := by
  induction earlier generalizing buffer with
  | nil =>
      rw [bytes_nil, List.append_nil] at sound
      rw [List.nil_append, answers, answers, Intake.answers, Intake.answers,
        sound, List.append_nil]
      exact ⟨_, rfl⟩
  | cons item earlier ih =>
      cases item with
      | ok chunk =>
          rw [bytes_ok, ← List.append_assoc] at sound
          exact ih sound
      | error other =>
          rw [bytes_error] at sound
          have before := Intake.sound_of_append sound
          rw [Intake.fault_restart before] at sound
          obtain ⟨back, split⟩ := ih sound
          refine ⟨back, ?_⟩
          rw [List.cons_append, answers, answers, Intake.answers,
            Intake.answers, before, split, List.append_assoc]
          rfl

end Arrivals

/-! ### A source gives its chunks -/

namespace Source

/-- What one read does with a source that has no empty chunk: it finds the end,
it fails, or it gives bytes off the front. -/
inductive Reads (source rest : Source) : Poll (Except IoFault Bytes) → Prop
  | ended (empty : source.chunks = []) (same : rest = source) :
      Reads source rest (.ready (.ok []))
  | failed (fault : IoFault)
      (first : source.chunks = .error fault :: rest.chunks) :
      Reads source rest (.ready (.error fault))
  | gave (byte : UInt8) (part : Bytes) (full : Arrivals.Full rest.chunks)
      (front : Arrivals.bytes source.chunks =
        byte :: part ++ Arrivals.bytes rest.chunks)
      (answered : ∀ limits buffer,
        Arrivals.answers limits buffer source.chunks =
          Arrivals.answers limits (buffer ++ byte :: part) rest.chunks) :
      Reads source rest (.ready (.ok (byte :: part)))

theorem read_reads {source rest : Source} {room : Nat}
    {outcome : Poll (Except IoFault Bytes)}
    (full : Arrivals.Full source.chunks) (space : 0 < room)
    (step : ByteSource.read source room = (outcome, rest)) :
    Reads source rest outcome := by
  change source.read room = (outcome, rest) at step
  obtain ⟨chunks⟩ := source
  cases chunks with
  | nil =>
      cases step
      exact .ended rfl rfl
  | cons item items =>
      cases item with
      | error fault =>
          cases step
          exact .failed fault rfl
      | ok chunk =>
          cases chunk with
          | nil => exact absurd rfl (full [] List.mem_cons_self)
          | cons byte bytes =>
              simp only [read] at step
              split at step
              · cases step
                exact .gave byte bytes full.tail (Arrivals.bytes_ok _ _)
                  fun limits buffer => rfl
              · rename_i long
                obtain ⟨less, rfl⟩ := Nat.exists_eq_succ_of_ne_zero
                  (Nat.pos_iff_ne_zero.mp space)
                cases step
                have cut : byte :: bytes =
                    byte :: bytes.take less ++ bytes.drop less := by
                  rw [List.cons_append, List.take_append_drop]
                refine .gave byte (bytes.take less) ?_ ?_ ?_
                · intro chunk member
                  rcases List.mem_cons.mp member with same | later
                  · cases same
                    intro empty
                    rw [List.length_cons] at long
                    have short := List.drop_eq_nil_iff.mp empty
                    rw [List.length_cons] at short
                    omega
                  · exact full.tail chunk later
                · rw [Arrivals.bytes_ok, Arrivals.bytes_ok, ← List.append_assoc]
                  exact congrArg (· ++ Arrivals.bytes items) cut
                · intro limits buffer
                  simp only [Arrivals.answers]
                  rw [List.append_assoc]
                  exact congrArg
                    (fun chunk => Arrivals.answers limits (buffer ++ chunk) items)
                    cut

theorem read_bytes (source : Source) (room : Nat) :
    Arrivals.bytes source.chunks = (source.read room).1.given ++
      Arrivals.bytes (source.read room).2.chunks := by
  obtain ⟨chunks⟩ := source
  cases chunks with
  | nil => rfl
  | cons item items =>
      cases item with
      | error fault => rfl
      | ok chunk =>
          simp only [read]
          split
          · rfl
          · rw [Poll.given, Arrivals.bytes_ok, Arrivals.bytes_ok,
              ← List.append_assoc, List.take_append_drop]

theorem obtains_bytes {source rest : Source} {got : Bytes}
    (obtained : Obtains source got rest) :
    Arrivals.bytes source.chunks = got ++ Arrivals.bytes rest.chunks := by
  induction obtained with
  | nothing source => rfl
  | read room others ih =>
      rename_i source rest got
      rw [List.append_assoc, ← ih]
      exact read_bytes source room

end Source

/-! ### Reading on -/

namespace FrameReader

variable {limits : Limits} {reader : FrameReader}

/-- One read gives the first of the answers and leaves the others, unless it was
the last one. When there is none it finds the end. -/
theorem readFrame_answers {source : Source} (looks : reader.Looks limits)
    (running : reader.ended = false) (full : Arrivals.Full source.chunks) :
    match Arrivals.answers limits reader.buffer source.chunks with
    | [] => ∃ next rest, reader.readFrame source =
          (.ready next.atEnd, next, rest) ∧
        next.next = none ∧ next.ended = true ∧ rest.chunks = []
    | answer :: others => ∃ next rest, reader.readFrame source =
          (.ready (answer.map some), next, rest) ∧
        ((∃ cause, answer = .error (.malformed cause)) ∧ others = [] ∨
          next.Looks limits ∧ next.ended = false ∧
            Arrivals.Full rest.chunks ∧
            others = Arrivals.answers limits next.buffer rest.chunks) := by
  fun_induction readFrame reader source with
  -- one case for each way out of the loop, and `case7` for one more round
  | case1 reader source frame length holds =>
      obtain ⟨found, fresh⟩ := looks.sound.frame holds
      simp only [Arrivals.answers_frame found]
      refine ⟨_, _, rfl, Or.inr ⟨?_, running, full, rfl⟩⟩
      apply scan_looks
      change reader.decoder.decode _ = _
      rw [fresh]
  | case2 reader source cause holds =>
      rw [Arrivals.answers_malformed (looks.sound.malformed holds)]
      exact ⟨_, _, rfl, Or.inl ⟨⟨cause, rfl⟩, rfl⟩⟩
  | case3 reader source waits ended =>
      rw [running] at ended
      cases ended
  | case4 reader source waits ended grown rest step =>
      cases Source.read_reads full reserve_room_pos step
  | case5 reader source waits ended grown fault rest step =>
      cases Source.read_reads full reserve_room_pos step with
      | failed fault first =>
          have waiting := looks.incomplete waits
          rw [first, (Arrivals.answers_waiting waiting).2]
          refine ⟨_, _, rfl, Or.inr ⟨looks.reserve, ?_, ?_, ?_⟩⟩
          · exact reserve_ended.trans running
          · rw [first] at full
            exact full.tail
          · rw [reserve_buffer]
  | case6 reader source waits ended grown rest step last =>
      cases Source.read_reads full reserve_room_pos step with
      | ended empty same =>
          have waiting := looks.incomplete waits
          rw [empty, (Arrivals.answers_waiting waiting).1]
          refine ⟨_, _, rfl, ?_, rfl, ?_⟩
          · exact reserve_next.trans waits
          · rw [same, empty]
  | case7 reader source waits ended grown byte bytes rest step ih =>
      cases Source.read_reads full reserve_room_pos step with
      | gave byte bytes still front answered =>
          have looked : (grown.scan (grown.buffer ++ byte :: bytes)).Looks
              limits := scan_looks (looks.reserve.sound.goes_on _)
          have later := ih looked (reserve_ended.trans running) still
          rw [answered, ← reserve_buffer]
          exact later

/-- The outcomes of several reads, one after another. -/
def readFrames {σ : Type} [ByteSource σ] : (count : Nat) → FrameReader → σ →
    List (Poll (Except RelayError (Option Frame))) × FrameReader × σ
  | 0, reader, input => ([], reader, input)
  | count + 1, reader, input =>
      let (outcome, reader, input) := reader.readFrame input
      let (outcomes, reader, input) := readFrames count reader input
      (outcome :: outcomes, reader, input)

theorem readFrames_cons {σ : Type} [ByteSource σ] {input rest : σ}
    {next : FrameReader} {outcome : Poll (Except RelayError (Option Frame))}
    (first : reader.readFrame input = (outcome, next, rest)) (count : Nat) :
    readFrames (count + 1) reader input =
      (outcome :: (readFrames count next rest).1,
        (readFrames count next rest).2) := by
  rw [readFrames, first]

theorem readFrames_sound {σ : Type} [ByteSource σ] (count : Nat) (input : σ)
    (sound : reader.Sound limits) :
    ∃ got, Obtains input got (readFrames count reader input).2.2 ∧
      reader.buffer ++ got = (readFrames count reader input).1.flatMap gone ++
        (readFrames count reader input).2.1.buffer := by
  induction count generalizing reader input with
  | zero => exact ⟨[], .nothing input, List.append_nil _⟩
  | succ count ih =>
      rcases first : reader.readFrame input with ⟨outcome, next, rest⟩
      obtain ⟨kept, -, early, before, given⟩ := readFrame_sound sound first
      obtain ⟨late, after, others⟩ := ih rest kept
      rw [readFrames_cons first]
      refine ⟨early ++ late, before.trans after, ?_⟩
      rw [← List.append_assoc, given, List.append_assoc, others,
        List.flatMap_cons, List.append_assoc]

/-- The outcome of a read that gives an answer. -/
def outcomeOf (answer : Except RelayError Frame) :
    Poll (Except RelayError (Option Frame)) :=
  .ready (answer.map some)

theorem readFrames_answers {count : Nat} {source : Source}
    (looks : reader.Looks limits) (running : reader.ended = false)
    (full : Arrivals.Full source.chunks)
    (within : count ≤
      (Arrivals.answers limits reader.buffer source.chunks).length) :
    (readFrames count reader source).1 =
      ((Arrivals.answers limits reader.buffer source.chunks).take count).map
        outcomeOf := by
  induction count generalizing reader source with
  | zero => rfl
  | succ count ih =>
      have first := readFrame_answers looks running full
      cases expected : Arrivals.answers limits reader.buffer source.chunks with
      | nil =>
          rw [expected] at within
          exact absurd within (Nat.not_succ_le_zero count)
      | cons answer others =>
          simp only [expected] at first
          rw [expected, List.length_cons] at within
          obtain ⟨next, rest, done, last | ⟨looked, on, still, later⟩⟩ := first
          · obtain ⟨-, rfl⟩ := last
            obtain rfl : count = 0 := Nat.le_zero.mp (Nat.le_of_succ_le_succ within)
            rw [readFrames_cons done]
            rfl
          · have behind := ih looked on still
              (by rw [← later]; exact Nat.le_of_succ_le_succ within)
            rw [readFrames_cons done, behind, ← later]
            rfl

theorem readFrames_ended {σ : Type} [ByteSource σ] (count : Nat) (input : σ)
    (empty : reader.next = none) (ended : reader.ended = true) :
    readFrames count reader input =
      (List.replicate count (.ready reader.atEnd), reader, input) := by
  have once : reader.readFrame input = (.ready reader.atEnd, reader, input) := by
    rw [readFrame.eq_def]
    simp only [empty, ended, if_true]
  induction count with
  | zero => rfl
  | succ count ih =>
      rw [readFrames_cons once, ih]
      rfl

theorem readFrames_answers_end {source : Source}
    (looks : reader.Looks limits) (running : reader.ended = false)
    (full : Arrivals.Full source.chunks)
    (sound : ∀ cause, .error (.malformed cause) ∉
      Arrivals.answers limits reader.buffer source.chunks) :
    ∃ next rest, rest.chunks = [] ∧ ∀ more, readFrames
        ((Arrivals.answers limits reader.buffer source.chunks).length +
          (more + 1)) reader source =
        ((Arrivals.answers limits reader.buffer source.chunks).map outcomeOf ++
          List.replicate (more + 1) (.ready next.atEnd), next, rest) := by
  generalize expected : Arrivals.answers limits reader.buffer source.chunks =
    answers at sound ⊢
  induction answers generalizing reader source with
  | nil =>
      have first := readFrame_answers looks running full
      simp only [expected] at first
      obtain ⟨next, rest, done, empty, ended, nothing⟩ := first
      refine ⟨next, rest, nothing, ?_⟩
      intro more
      rw [List.length_nil, Nat.zero_add, readFrames_cons done,
        readFrames_ended more rest empty ended]
      rfl
  | cons answer others ih =>
      have first := readFrame_answers looks running full
      simp only [expected] at first
      obtain ⟨next, rest, done, last | ⟨looked, on, still, later⟩⟩ := first
      · obtain ⟨⟨cause, rfl⟩, -⟩ := last
        exact absurd List.mem_cons_self (sound cause)
      · obtain ⟨final, after, nothing, run⟩ := ih looked on still later.symm
          fun cause member => sound cause (List.mem_cons_of_mem answer member)
        refine ⟨final, after, nothing, ?_⟩
        intro more
        rw [List.length_cons, Nat.succ_add, readFrames_cons done, run]
        rfl

theorem gone_outcomes (answers : Answers) :
    (answers.map outcomeOf).flatMap gone = Frame.received answers.frames := by
  induction answers with
  | nil => rfl
  | cons answer answers ih =>
      rw [List.map_cons, List.flatMap_cons, ih]
      cases answer with
      | ok frame => rfl
      | error error => rfl

theorem RelayError.ofSocket_ne_malformed (fault : IoFault) (cause : Malformed) :
    RelayError.ofSocket fault ≠ .malformed cause := by
  unfold RelayError.ofSocket
  cases fault.kind <;> simp

theorem answers_sound {items : Arrivals} {buffer : Bytes}
    (sound : (Intake.takeFrames { limits } (buffer ++ items.bytes) []).fault =
      none) (cause : Malformed) :
    .error (.malformed cause) ∉ Arrivals.answers limits buffer items := by
  intro member
  have among : RelayError.malformed cause ∈
      (Arrivals.answers limits buffer items).errors :=
    List.mem_filterMap.mpr ⟨_, member, rfl⟩
  rw [Arrivals.answers_errors sound] at among
  obtain ⟨fault, -, same⟩ := List.mem_map.mp among
  exact RelayError.ofSocket_ne_malformed fault cause same

theorem readFrames_left {items : Arrivals} {last : FrameReader} {rest : Source}
    {answers : Answers} {count : Nat} (looks : reader.Looks limits)
    (fresh : reader.buffer = []) (nothing : rest.chunks = [])
    (frames : answers.frames =
      (Intake.takeFrames { limits } items.bytes []).frames)
    (run : readFrames count reader (⟨items⟩ : Source) =
      (answers.map outcomeOf ++ [.ready last.atEnd], last, rest)) :
    last.buffer = (Intake.takeFrames { limits } items.bytes []).left := by
  obtain ⟨got, obtained, conserved⟩ :=
    readFrames_sound count (⟨items⟩ : Source) looks.sound
  have split := Intake.received_takeFrames limits items.bytes
  rw [run] at conserved obtained
  have all : items.bytes = got := by
    have behind := Source.obtains_bytes obtained
    rw [nothing, Arrivals.bytes_nil, List.append_nil] at behind
    exact behind
  rw [fresh, List.nil_append, List.flatMap_append, gone_outcomes, frames,
    List.flatMap_singleton, gone_atEnd, List.append_nil, ← all] at conserved
  exact List.append_cancel_left (conserved.symm.trans split.symm)

theorem atEnd_cases {data : Bytes}
    (sound : (Intake.takeFrames { limits } data []).fault = none)
    (left : reader.buffer = (Intake.takeFrames { limits } data []).left) :
    WholeFrames data ∧ reader.atEnd = .ok none ∨
      ¬ WholeFrames data ∧ reader.atEnd = .error (.malformed .streamEnded) := by
  rw [← Intake.left_eq_nil_iff sound, ← left, atEnd]
  by_cases empty : reader.buffer = []
  · exact Or.inl ⟨empty, if_pos (List.isEmpty_iff.mpr empty)⟩
  · exact Or.inr ⟨empty, if_neg (empty ∘ List.isEmpty_iff.mp)⟩

/-- Reads give the frames of all bytes in order, each once, and no byte is lost
between what they gave, the reader and the stream. Each failure of the stream is
told once, behind the frames of the chunks before it. Behind the last answer
every read finds the end, or says that it came too early; only malformed bytes
put an earlier end to the answers. -/
theorem reads_deliver (limits : Limits)
    (side : limits = .client ∨ limits = .unbounded) (items : Arrivals)
    (full : items.Full) :
    let reads := fun count => readFrames count { decoder := { limits } }
      (⟨items⟩ : Source)
    let whole := fun items : Arrivals => Intake.ofChunks limits [items.bytes]
    ∃ answers : Answers,
      answers.frames = (whole items).frames ∧
      (∀ count ≤ answers.length,
        (reads count).1 = (answers.take count).map outcomeOf ∧
        items.bytes = Frame.received (Answers.frames (answers.take count)) ++
          (reads count).2.1.buffer ++
            Arrivals.bytes (reads count).2.2.chunks) ∧
      (∀ earlier fault later, items = earlier ++ .error fault :: later →
        (whole earlier).fault = none →
        ∃ front back : Answers,
          answers = front ++ .error (.ofSocket fault) :: back ∧
          front.frames = (whole earlier).frames ∧
          front.errors =
            (Arrivals.faults earlier).map RelayError.ofSocket) ∧
      ((whole items).fault = none →
        answers.errors = items.faults.map RelayError.ofSocket ∧
        ∃ ending, (∀ more, (reads (answers.length + more)).1 =
            answers.map outcomeOf ++ List.replicate more (.ready ending)) ∧
          (WholeFrames items.bytes ∧ ending = .ok none ∨
            ¬ WholeFrames items.bytes ∧
              ending = .error (.malformed .streamEnded))) ∧
      ∀ cause, (whole items).fault = some cause →
        ∃ front : Answers, ∃ earlier : Arrivals,
          answers = front ++ [.error (.malformed cause)] ∧
          earlier <+: items ∧
          front.errors = earlier.faults.map RelayError.ofSocket := by
  intro reads whole
  -- both bounds allow a first element, so an empty buffer waits
  have room : limits.elements ≠ some 0 := by
    rcases side with rfl | rfl <;> decide
  have looks := looks_fresh room
  have full : Arrivals.Full (⟨items⟩ : Source).chunks := full
  refine ⟨Arrivals.answers limits [] items, Arrivals.answers_frames limits []
    items, ?_, ?_, ?_, ?_⟩
  · intro count within
    have given := readFrames_answers looks rfl full within
    obtain ⟨got, obtained, conserved⟩ :=
      readFrames_sound count (⟨items⟩ : Source) looks.sound
    refine ⟨given, ?_⟩
    rw [given, gone_outcomes] at conserved
    rw [Source.obtains_bytes obtained]
    exact congrArg (· ++ Arrivals.bytes _) conserved
  · rintro earlier fault later rfl sound
    have front : (Intake.takeFrames { limits } ([] ++ Arrivals.bytes earlier)
      []).fault = none := sound
    obtain ⟨back, split⟩ := Arrivals.answers_split front fault later
    exact ⟨_, back, split, Arrivals.answers_frames limits [] earlier,
      Arrivals.answers_errors sound⟩
  · intro sound
    -- the read behind the last answer comes to the end, and so does every one after it
    obtain ⟨last, rest, nothing, ended⟩ :=
      readFrames_answers_end looks rfl full (answers_sound sound)
    refine ⟨Arrivals.answers_errors sound, last.atEnd, ?_, ?_⟩
    · intro more
      cases more with
      | zero =>
          have all := readFrames_answers looks rfl full (Nat.le_refl _)
          rw [List.take_length] at all
          rw [List.replicate_zero, List.append_nil]
          exact all
      | succ more => exact congrArg Prod.fst (ended more)
    · apply atEnd_cases sound
      exact readFrames_left looks rfl nothing
        (Arrivals.answers_frames limits [] items) (ended 0)
  · intro cause faulty
    exact Arrivals.answers_of_fault faulty

/-- A failure inside a frame, and an end inside the next. -/
theorem reads_deliver_truncated :
    let items : Arrivals := [.ok (Bytes.ofText "3.n"),
      .error ⟨.timedOut, none⟩, .ok (Bytes.ofText "op;4.si")]
    (Limits.unbounded = .client ∨ Limits.unbounded = .unbounded) ∧
      items.Full ∧
      (∃ answers : Answers, answers.frames = [⟨⟨"nop", []⟩, "3.nop;"⟩] ∧
        answers.errors =
          [.upstream .upstreamTimeout "Connection to guacd timed out."]) ∧
      (readFrames 4 .ofGuacd (⟨items⟩ : Source)).1 =
        [.ready (.error
            (.upstream .upstreamTimeout "Connection to guacd timed out.")),
          .ready (.ok (some ⟨⟨"nop", []⟩, "3.nop;"⟩)),
          .ready (.error (.malformed .streamEnded)),
          .ready (.error (.malformed .streamEnded))] := by
  intro items
  have full : items.Full := by
    intro chunk member
    simp only [items, List.mem_cons, List.not_mem_nil, Except.ok.injEq,
      reduceCtorEq, false_or, or_false] at member
    rcases member with rfl | rfl <;> decide
  obtain ⟨answers, frames, -, -, sound, -⟩ :=
    reads_deliver .unbounded (Or.inr rfl) items full
  refine ⟨Or.inr rfl, full, ⟨answers, ?_, ?_⟩, ?_⟩
  · rw [frames]
    decide +kernel
  · exact (sound (by decide +kernel)).1
  · decide +kernel

end FrameReader

end TunnelRelay
