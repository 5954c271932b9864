import TunnelRelay.Frame.FilteredWriter
import TunnelRelay.Proofs.Frame.Grammar
import TunnelRelay.Proofs.Frame.Intake

/-!
What becomes of the bytes that a browser sends.

From each source, the body of one request or one message, a first part of its frames is conveyed to
guacd: those that lie within the bounds of clients and are not the tunnel's own. The sources follow
one another, so what is conveyed is in the order of the sources.
-/

namespace TunnelRelay

/-! ### Draining and taking frames -/

namespace Intake

theorem takeFrames_prepend (decoder : Decoder) (buffer : Bytes)
    (earlier frames : List Frame) :
    takeFrames decoder buffer (earlier ++ frames) =
      { takeFrames decoder buffer frames with
        frames := earlier ++ (takeFrames decoder buffer frames).frames } := by
  fun_induction takeFrames decoder buffer frames with
  | case1 decoder buffer frames next step =>
      rw [takeFrames_incomplete step]
  | case2 decoder buffer frames cause next step =>
      rw [takeFrames_malformed step]
  | case3 decoder buffer frames frame length next step ih =>
      rw [takeFrames_frame step, List.append_assoc]
      exact ih

theorem takeFrames_shape {limits : Limits} {buffer : Bytes} {frame : Frame}
    (taken : frame ∈ (takeFrames { limits } buffer []).frames) :
    ∃ wire : WireFrame, Bytes.ofText frame.raw = wire.bytes ∧
      frame.instruction = wire.instruction ∧ limits.Admit 0 wire.texts := by
  generalize fresh : ({ limits } : Decoder) = decoder at taken
  have general : ∀ frames : List Frame,
      frame ∈ (takeFrames decoder buffer frames).frames →
        frame ∈ frames ∨ ∃ wire : WireFrame,
          Bytes.ofText frame.raw = wire.bytes ∧
            frame.instruction = wire.instruction ∧
              limits.Admit 0 wire.texts := by
    clear taken
    intro frames
    fun_induction takeFrames decoder buffer frames with
    | case1 decoder buffer frames next step => exact Or.inl
    | case2 decoder buffer frames cause next step => exact Or.inl
    | case3 decoder buffer frames found length next step ih =>
        intro member
        have reset := Decoder.decode_frame_fresh step
        rw [← fresh] at step reset
        rcases ih reset.symm member with earlier | shape
        · rcases List.mem_append.mp earlier with before | last
          · exact Or.inl before
          · obtain ⟨wire, more, -, -, instruction, raw, admitted⟩ :=
              Decoder.decode_frame_shape step
            rw [List.mem_singleton.mp last]
            exact Or.inr ⟨wire, raw, instruction, admitted⟩
        · exact Or.inr shape
  rcases general [] taken with impossible | shape
  · cases impossible
  · exact shape

end Intake

namespace Decoder

theorem drainFrom_eq_takeFrames (decoder : Decoder) (buffer : Bytes)
    (frames : List Frame) :
    decoder.drainFrom buffer frames =
      (match (Intake.takeFrames decoder buffer frames).fault with
        | none => .ok ((Intake.takeFrames decoder buffer frames).frames,
            (Intake.takeFrames decoder buffer frames).left)
        | some cause => .error cause,
        (Intake.takeFrames decoder buffer frames).decoder) := by
  fun_induction Intake.takeFrames decoder buffer frames with
  | case1 decoder buffer frames next step =>
      rw [drainFrom, step]
  | case2 decoder buffer frames cause next step =>
      rw [drainFrom, step]
  | case3 decoder buffer frames frame length next step ih =>
      rw [drainFrom, step]
      exact ih

theorem drain_of_sound {decoder : Decoder} {buffer : Bytes}
    (sound : (Intake.takeFrames decoder buffer []).fault = none) :
    decoder.drain buffer =
      (.ok (Intake.takeFrames decoder buffer []).frames,
        (Intake.takeFrames decoder buffer []).left,
        (Intake.takeFrames decoder buffer []).decoder) := by
  unfold drain
  rw [drainFrom_eq_takeFrames, sound]

theorem drain_of_fault {decoder : Decoder} {buffer : Bytes}
    {cause : Malformed}
    (faulty : (Intake.takeFrames decoder buffer []).fault = some cause) :
    decoder.drain buffer = (.error cause, buffer,
      (Intake.takeFrames decoder buffer []).decoder) := by
  unfold drain
  rw [drainFrom_eq_takeFrames, faulty]

end Decoder

/-! ### Frames for guacd -/

/-- The bytes of frames, as they were received. -/
def Frame.received (frames : List Frame) : Bytes :=
  frames.flatMap fun frame => Bytes.ofText frame.raw

theorem Frame.received_append (first second : List Frame) :
    received (first ++ second) = received first ++ received second :=
  List.flatMap_append

theorem Intake.received_takeFrames (limits : Limits) (buffer : Bytes) :
    Frame.received (takeFrames { limits } buffer []).frames ++
      (takeFrames { limits } buffer []).left = buffer := by
  generalize fresh : ({ limits } : Decoder) = decoder
  have general : ∀ frames : List Frame,
      Frame.received (takeFrames decoder buffer frames).frames ++
        (takeFrames decoder buffer frames).left =
          Frame.received frames ++ buffer := by
    intro frames
    fun_induction takeFrames decoder buffer frames with
    | case1 decoder buffer frames next step
    | case2 decoder buffer frames cause next step => rfl
    | case3 decoder buffer frames frame length next step ih =>
        have reset := Decoder.decode_frame_fresh step
        rw [← fresh] at step reset
        obtain ⟨wire, more, split, extent, -, raw, -⟩ :=
          Decoder.decode_frame_shape step
        rw [ih reset.symm, split, extent, List.drop_left,
          Frame.received_append, List.append_assoc, ← raw]
        simp [Frame.received]
  exact general []

theorem Intake.takeFrames_received {frames : List Frame}
    (shaped : ∀ frame ∈ frames, ∃ wire : WireFrame,
      Bytes.ofText frame.raw = wire.bytes ∧
        frame.instruction = wire.instruction)
    (rest : Bytes) (earlier : List Frame) :
    takeFrames .unbounded (Frame.received frames ++ rest) earlier =
      takeFrames .unbounded rest (earlier ++ frames) := by
  induction frames generalizing earlier with
  | nil =>
      rw [List.append_nil]
      rfl
  | cons frame frames ih =>
      obtain ⟨wire, bytes, instruction⟩ := shaped frame List.mem_cons_self
      have others := ih fun other member =>
        shaped other (List.mem_cons_of_mem frame member)
      obtain ⟨raw, same, found⟩ := Decoder.decode_wire wire
        (Limits.admit_unbounded 0 wire.texts) (Frame.received frames ++ rest)
      have whole : frame = ⟨wire.instruction, raw⟩ := by
        rw [Bytes.ofText_injective (same.trans bytes.symm), ← instruction]
      have split : Frame.received (frame :: frames) ++ rest =
          wire.bytes ++ (Frame.received frames ++ rest) := by
        rw [← bytes, ← List.append_assoc]
        rfl
      have step : Decoder.unbounded.decode
          (wire.bytes ++ (Frame.received frames ++ rest)) =
            (.frame frame wire.bytes.length, .unbounded) := by
        rw [whole]
        exact found
      rw [split, takeFrames_frame step, List.drop_left, others,
        List.append_assoc]
      rfl

/-- The frames of a source that are for guacd. -/
def forwardable (data : Bytes) : List Frame :=
  (Intake.takeFrames .client data []).frames.filter
    (!·.instruction.isInternal)

def Frame.ForGuacd (frame : Frame) : Prop :=
  ∃ wire : WireFrame, Bytes.ofText frame.raw = wire.bytes ∧
    frame.instruction = wire.instruction ∧ wire.elements.length ≤ 128 ∧
    (∀ element ∈ wire.elements, element.text.length ≤ 8192) ∧
    wire.first.text ≠ ""

theorem forGuacd_of_forwardable {data : Bytes} {frame : Frame}
    (member : frame ∈ forwardable data) : frame.ForGuacd := by
  obtain ⟨taken, foreign⟩ := List.mem_filter.mp member
  obtain ⟨wire, raw, instruction, admitted⟩ := Intake.takeFrames_shape taken
  refine ⟨wire, raw, instruction, ?_, ?_, ?_⟩
  · have few := admitted.1 128 rfl
    rw [WireFrame.texts, List.length_map] at few
    omega
  · intro element among
    exact admitted.2 8192 rfl element.text (List.mem_map_of_mem among)
  · intro empty
    rw [instruction] at foreign
    simp [Instruction.isInternal, WireFrame.instruction, empty,
      Instruction.internalOpcode] at foreign

theorem Intake.takeFrames_isPrefix (limits : Limits) (data more : Bytes) :
    (takeFrames { limits } data []).frames <+:
      (takeFrames { limits } (data ++ more) []).frames := by
  have fits := Progress.fits_initial data
  cases fault : (takeFrames { limits } data []).fault with
  | none =>
      rw [takeFrames_append fits fault more]
      simp only [append, fault]
      exact takeFrames_frames_prefix _ _ _
  | some cause =>
      have same := (takeFrames_fault fits fault more).1
      simp only [same, List.prefix_rfl]

theorem forwardable_isPrefix (data more : Bytes) :
    forwardable data <+: forwardable (data ++ more) :=
  (Intake.takeFrames_isPrefix .client data more).filter _

theorem forwardable_nil : forwardable [] = [] := by
  have waiting : Decoder.client.decode [] = (.incomplete, .client) :=
    Intake.decode_empty (by decide)
  unfold forwardable
  rw [Intake.takeFrames_incomplete waiting]
  rfl

/-! ### Frames from several sources -/

/-- The frames come from the sources in order, from each source a first part of
what it has for guacd. -/
inductive Conveys : (sources : List Bytes) → (frames : List Frame) → Prop
  | nil : Conveys [] []
  | cons {source : Bytes} {sources : List Bytes} {part frames : List Frame}
      (first : part <+: forwardable source) (others : Conveys sources frames) :
      Conveys (source :: sources) (part ++ frames)

namespace Conveys

theorem silent (sources : List Bytes) : Conveys sources [] := by
  induction sources with
  | nil => exact nil
  | cons source sources ih => exact cons (List.nil_prefix) ih

theorem append {early late : List Bytes} {first second : List Frame}
    (before : Conveys early first) (after : Conveys late second) :
    Conveys (early ++ late) (first ++ second) := by
  induction before with
  | nil => exact after
  | cons prefix_ others ih =>
      rw [List.cons_append, List.append_assoc]
      exact cons prefix_ ih

theorem single {source : Bytes} {part : List Frame}
    (first : part <+: forwardable source) : Conveys [source] part := by
  have conveyed := cons first nil
  rw [List.append_nil] at conveyed
  exact conveyed

theorem mono {sources later : List Bytes} {frames : List Frame}
    (conveyed : Conveys sources frames)
    (longer : List.Forall₂ (· <+: ·) sources later) :
    Conveys later frames := by
  induction longer generalizing frames with
  | nil => exact conveyed
  | cons extends_ others ih =>
      cases conveyed with
      | cons first rest =>
          obtain ⟨more, rfl⟩ := extends_
          exact cons (first.trans (forwardable_isPrefix _ more)) (ih rest)

theorem take {sources : List Bytes} {frames : List Frame}
    (conveyed : Conveys sources frames) (count : Nat) :
    Conveys sources (frames.take count) := by
  induction conveyed generalizing count with
  | nil =>
      rw [List.take_nil]
      exact nil
  | cons first others ih =>
      rw [List.take_append]
      exact cons ((List.take_prefix _ _).trans first) (ih _)

theorem forGuacd {sources : List Bytes} {frames : List Frame}
    (conveyed : Conveys sources frames) :
    ∀ frame ∈ frames, frame.ForGuacd := by
  induction conveyed with
  | nil =>
      intro frame impossible
      cases impossible
  | cons first others ih =>
      intro frame member
      rcases List.mem_append.mp member with here | later
      · exact forGuacd_of_forwardable (first.subset here)
      · exact ih frame later

end Conveys

/-! ### Cutting behind whole frames -/

/-- Bytes that are a sequence of whole frames. -/
def WholeFrames (bytes : Bytes) : Prop :=
  ∃ wires : List WireFrame, bytes = wires.flatMap WireFrame.bytes

theorem WholeFrames.nil : WholeFrames [] := ⟨[], rfl⟩

theorem WireFrame.wholeFrames (wire : WireFrame) : WholeFrames wire.bytes :=
  ⟨[wire], (List.flatMap_singleton _ _).symm⟩

theorem WholeFrames.append {first second : Bytes} (before : WholeFrames first)
    (after : WholeFrames second) : WholeFrames (first ++ second) := by
  obtain ⟨early, rfl⟩ := before
  obtain ⟨late, rfl⟩ := after
  exact ⟨early ++ late, List.flatMap_append.symm⟩

theorem Frame.wholeFrames_received {frames : List Frame}
    (shaped : ∀ frame ∈ frames, ∃ wire : WireFrame,
      Bytes.ofText frame.raw = wire.bytes) :
    WholeFrames (received frames) := by
  induction frames with
  | nil => exact WholeFrames.nil
  | cons frame frames ih =>
      obtain ⟨wire, raw⟩ := shaped frame List.mem_cons_self
      have others :=
        ih fun other member => shaped other (List.mem_cons_of_mem frame member)
      rw [received, List.flatMap_cons, raw]
      exact wire.wholeFrames.append others

theorem Conveys.wholeFrames {sources : List Bytes} {frames : List Frame}
    (conveyed : Conveys sources frames) :
    WholeFrames (Frame.received frames) := by
  apply Frame.wholeFrames_received
  intro frame member
  obtain ⟨wire, raw, -⟩ := conveyed.forGuacd frame member
  exact ⟨wire, raw⟩

/-- The bytes are whole frames that the sources have for guacd, in order, and
from each source none but its first ones. -/
def Delivers (sources : List Bytes) (bytes : Bytes) : Prop :=
  ∃ frames, Conveys sources frames ∧ (∀ frame ∈ frames, frame.ForGuacd) ∧
    bytes = Frame.received frames

theorem Conveys.delivers {sources : List Bytes} {frames : List Frame}
    {bytes : Bytes} (conveyed : Conveys sources frames)
    (same : bytes = Frame.received frames) : Delivers sources bytes :=
  ⟨frames, conveyed, conveyed.forGuacd, same⟩

theorem Delivers.append {sources : List Bytes} {bytes : Bytes}
    (delivered : Delivers sources bytes) (more : List Bytes) :
    Delivers (sources ++ more) bytes := by
  obtain ⟨frames, conveyed, -, same⟩ := delivered
  have extended := conveyed.append (Conveys.silent more)
  rw [List.append_nil] at extended
  exact extended.delivers same

theorem Delivers.wholeFrames {sources : List Bytes} {bytes : Bytes}
    (delivered : Delivers sources bytes) : WholeFrames bytes := by
  obtain ⟨frames, conveyed, -, rfl⟩ := delivered
  exact conveyed.wholeFrames

theorem WireFrame.bytes_append_injective {first second : WireFrame}
    {left right : Bytes} (same : first.bytes ++ left = second.bytes ++ right) :
    first.bytes = second.bytes ∧ left = right := by
  obtain ⟨raw, -, found⟩ := Decoder.decode_wire first
    (Limits.admit_unbounded 0 first.texts) left
  obtain ⟨other, -, also⟩ := Decoder.decode_wire second
    (Limits.admit_unbounded 0 second.texts) right
  rw [same, also] at found
  have lengths : second.bytes.length = first.bytes.length :=
    (Decoded.frame.inj (Prod.mk.inj found).1).2
  exact List.append_inj same lengths.symm

theorem WireFrame.bytes_ne_nil (wire : WireFrame) : wire.bytes ≠ [] := by
  intro empty
  have first := (List.append_eq_nil_iff.mp empty).1
  have stop := (List.append_eq_nil_iff.mp first).2
  cases stop

/-- A decoder that has whole frames does not wait for more. -/
theorem WholeFrames.eq_nil_of_incomplete {bytes : Bytes} {next : Decoder}
    (whole : WholeFrames bytes)
    (waits : Decoder.unbounded.decode bytes = (.incomplete, next)) :
    bytes = [] := by
  obtain ⟨wires, rfl⟩ := whole
  cases wires with
  | nil => rfl
  | cons wire wires =>
      obtain ⟨raw, -, found⟩ := Decoder.decode_wire wire
        (Limits.admit_unbounded 0 wire.texts) (wires.flatMap WireFrame.bytes)
      have impossible := waits.symm.trans found
      cases (Prod.mk.inj impossible).1

theorem WholeFrames.behind {wire : WireFrame} {rest : Bytes}
    (whole : WholeFrames (wire.bytes ++ rest)) : WholeFrames rest := by
  obtain ⟨wires, split⟩ := whole
  cases wires with
  | nil => exact absurd (List.append_eq_nil_iff.mp split).1 wire.bytes_ne_nil
  | cons first wires =>
      rw [List.flatMap_cons] at split
      exact ⟨wires, (WireFrame.bytes_append_injective split).2⟩

theorem WholeFrames.behind_received {frames : List Frame} {rest : Bytes}
    (shaped : ∀ frame ∈ frames, ∃ wire : WireFrame,
      Bytes.ofText frame.raw = wire.bytes)
    (whole : WholeFrames (Frame.received frames ++ rest)) :
    WholeFrames rest := by
  induction frames with
  | nil => exact whole
  | cons frame frames ih =>
      obtain ⟨wire, raw⟩ := shaped frame List.mem_cons_self
      apply ih fun other member =>
        shaped other (List.mem_cons_of_mem frame member)
      have split : Frame.received (frame :: frames) ++ rest =
          wire.bytes ++ (Frame.received frames ++ rest) := by
        rw [← raw, ← List.append_assoc]
        rfl
      rw [split] at whole
      exact whole.behind

theorem WholeFrames.take {bytes : Bytes} {frames : List Frame}
    (whole : WholeFrames bytes) (forGuacd : ∀ frame ∈ frames, frame.ForGuacd)
    (front : bytes <+: Frame.received frames) :
    ∃ count, bytes = Frame.received (frames.take count) := by
  obtain ⟨wires, rfl⟩ := whole
  induction wires generalizing frames with
  | nil => exact ⟨0, rfl⟩
  | cons wire wires ih =>
      obtain ⟨rest, split⟩ := front
      rw [List.flatMap_cons, List.append_assoc] at split
      cases frames with
      | nil =>
          have empty := (List.append_eq_nil_iff.mp split).1
          exact absurd empty wire.bytes_ne_nil
      | cons frame frames =>
          obtain ⟨shape, raw, -⟩ := forGuacd frame List.mem_cons_self
          have unfolded : Frame.received (frame :: frames) =
              shape.bytes ++ Frame.received frames := by
            rw [← raw]
            rfl
          rw [unfolded] at split
          obtain ⟨head, tail⟩ := WireFrame.bytes_append_injective split
          obtain ⟨count, cut⟩ := ih
            (fun other member => forGuacd other (List.mem_cons_of_mem _ member))
            ⟨rest, tail⟩
          refine ⟨count + 1, ?_⟩
          rw [List.flatMap_cons, cut, head, ← raw]
          rfl

/-! ### One source through the filter -/

/-- The answer that an instruction asks of the tunnel. -/
def Instruction.pong? (instruction : Instruction) : Option Instruction :=
  match instruction.isInternal, instruction.args with
  | true, command :: nonce :: _ =>
      if command = pingCommand then some (pong nonce) else none
  | _, _ => none

theorem internalFilter_eq (replies : List Instruction)
    (instruction : Instruction) :
    internalFilter replies instruction =
      (.ok (if instruction.isInternal then none else some instruction),
        replies ++ instruction.pong?.toList) := by
  unfold internalFilter Instruction.pong?
  cases instruction.isInternal with
  | false => simp
  | true =>
      cases instruction.args with
      | nil => simp
      | cons command others =>
          cases others with
          | nil => simp
          | cons nonce rest =>
              simp only [if_true]
              split <;> simp

theorem passFrames_internal (memory : List Instruction) (frames : List Frame)
    (passed : Forwarded) :
    FilteredWriter.passFrames internalFilter memory frames passed =
      (.ok ⟨passed.text ++ String.join
          ((frames.filter (!·.instruction.isInternal)).map Frame.raw),
        passed.count + (frames.filter (!·.instruction.isInternal)).length⟩,
        memory ++ frames.filterMap (·.instruction.pong?)) := by
  induction frames generalizing memory passed with
  | nil => simp [FilteredWriter.passFrames]
  | cons frame frames ih =>
      simp only [FilteredWriter.passFrames, FilteredWriter.passFrame,
        internalFilter_eq]
      cases internal : frame.instruction.isInternal with
      | true =>
          simp only [if_true, ih, List.filter_cons, internal,
            List.filterMap_cons, Bool.not_true, Bool.false_eq_true, if_false]
          cases frame.instruction.pong? <;> simp
      | false =>
          have silent : frame.instruction.pong? = none := by
            simp [Instruction.pong?, internal]
          simp only [Bool.false_eq_true, if_false, if_true, ih,
            List.filter_cons, internal, List.filterMap_cons, silent,
            Bool.not_false, List.map_cons, String.join_cons,
            List.length_cons, Option.toList_none, List.append_nil,
            String.append_assoc]
          congr 3
          omega

theorem Frame.received_eq_join (frames : List Frame) :
    Bytes.ofText (String.join (frames.map Frame.raw)) = received frames := by
  induction frames with
  | nil =>
      rw [List.map_nil, String.join_nil]
      simp [Bytes.ofText, received]
  | cons frame frames ih =>
      rw [List.map_cons, String.join_cons, Bytes.ofText_append, ih]
      rfl

namespace FilteredWriter

/-- The writer has taken the bytes `seen` of one source, and they are not
malformed. -/
structure HasSeen (filtered : FilteredWriter (List Instruction))
    (seen : Bytes) : Prop where
  filter : filtered.filter = internalFilter
  sound : (Intake.takeFrames .client seen []).fault = none
  decoder : filtered.decoder = (Intake.takeFrames .client seen []).decoder
  pending : filtered.pending = (Intake.takeFrames .client seen []).left

theorem hasSeen_nil :
    HasSeen { filter := internalFilter, memory := [] } [] := by
  have waiting : Decoder.client.decode [] = (.incomplete, .client) :=
    Intake.decode_empty (by decide)
  have nothing := Intake.takeFrames_incomplete waiting []
  exact ⟨rfl, by rw [nothing], by rw [nothing], by rw [nothing]⟩

theorem HasSeen.remember {filtered : FilteredWriter (List Instruction)}
    {seen : Bytes} (has : filtered.HasSeen seen) (memory : List Instruction) :
    HasSeen { filtered with memory } seen :=
  ⟨has.filter, has.sound, has.decoder, has.pending⟩

/-- What becomes of frames that pass the filter of internal instructions. -/
def passedOn (frames : List Frame) : Forwarded where
  text := String.join
    ((frames.filter (!·.instruction.isInternal)).map Frame.raw)
  count := (frames.filter (!·.instruction.isInternal)).length

theorem passFrames_passedOn (memory : List Instruction) (frames : List Frame) :
    passFrames internalFilter memory frames {} =
      (.ok (passedOn frames),
        memory ++ frames.filterMap (·.instruction.pong?)) := by
  rw [passFrames_internal, String.empty_append, Nat.zero_add]
  rfl

/-- One more piece of data completes some frames. If it is malformed, it is
refused as a whole; otherwise the frames pass the filter. -/
theorem HasSeen.completes {filtered : FilteredWriter (List Instruction)}
    {seen : Bytes} (has : filtered.HasSeen seen) (data : Bytes) :
    ∃ new next,
      (Intake.takeFrames .client (seen ++ data) []).frames =
        (Intake.takeFrames .client seen []).frames ++ new ∧
      match (Intake.takeFrames .client (seen ++ data) []).fault with
      | some cause =>
          filtered.accept data = (.error (.badRequest cause.message), next) ∧
            next.memory = filtered.memory
      | none =>
          filtered.accept data = (.ok (passedOn new), next) ∧
            next.HasSeen (seen ++ data) ∧
            next.memory =
              filtered.memory ++ new.filterMap (·.instruction.pong?) := by
  have longer := Intake.takeFrames_append (Progress.fits_initial seen)
    has.sound data
  simp only [Intake.append, has.sound] at longer
  have accumulated := Intake.takeFrames_prepend
    (Intake.takeFrames .client seen []).decoder
    ((Intake.takeFrames .client seen []).left ++ data)
    (Intake.takeFrames .client seen []).frames []
  rw [List.append_nil] at accumulated
  rw [accumulated, ← has.decoder, ← has.pending] at longer
  rw [longer]
  unfold FilteredWriter.accept
  cases fault : (Intake.takeFrames filtered.decoder
      (filtered.pending ++ data) []).fault with
  | some cause =>
      rw [Decoder.drain_of_fault fault]
      exact ⟨_, _, rfl, rfl, rfl⟩
  | none =>
      rw [Decoder.drain_of_sound fault, has.filter]
      simp only [passFrames_passedOn]
      refine ⟨_, _, rfl, rfl, ?_, rfl⟩
      exact ⟨rfl, by rw [longer]; exact fault, by rw [longer],
        by rw [longer]⟩

/-- A piece of data is refused, which is the browser's own fault, or it is
forwarded: exactly the frames for guacd that it completes. -/
theorem HasSeen.accept {filtered : FilteredWriter (List Instruction)}
    {seen : Bytes} (has : filtered.HasSeen seen) (data : Bytes) :
    (∃ error, (filtered.accept data).1 = .error error ∧
      error.isClientError = true) ∨
    ∃ passed new, (filtered.accept data).1 = .ok passed ∧
      (filtered.accept data).2.HasSeen (seen ++ data) ∧
      forwardable (seen ++ data) = forwardable seen ++ new ∧
      Bytes.ofText passed.text = Frame.received new := by
  obtain ⟨new, next, frames, outcome⟩ := has.completes data
  cases fault : (Intake.takeFrames .client (seen ++ data) []).fault with
  | some cause =>
      simp only [fault] at outcome
      rw [outcome.1]
      exact Or.inl ⟨_, rfl, rfl⟩
  | none =>
      simp only [fault] at outcome
      rw [outcome.1]
      refine Or.inr ⟨_, new.filter (!·.instruction.isInternal), rfl,
        outcome.2.1, ?_, Frame.received_eq_join _⟩
      unfold forwardable
      rw [frames, List.filter_append]

end FilteredWriter

end TunnelRelay
