import TunnelRelay.Proofs.Frame.Bounds
import TunnelRelay.Proofs.Frame.Draining

/-!
What a decoder answers with bounds and without them.

While chunks arrive, a decoder answers with frames, with its waiting for more, and at last perhaps
with an error. With bounds it answers the same as without, up to its first error; and it takes a
frame exactly if the bounds allow the instruction.
-/

namespace TunnelRelay

def Frame.ForClients (frame : Frame) : Prop :=
  frame.instruction.elements.length ≤ 128 ∧
    ∀ text ∈ frame.instruction.elements, text.length ≤ 8192

theorem Frame.forClients_iff (frame : Frame) :
    frame.ForClients ↔ Limits.client.Admit 0 frame.instruction.elements := by
  simp [ForClients, Limits.Admit, Limits.client]

namespace Decoder

variable {limits : Limits} {decoder next : Decoder} {buffer : Bytes}
  {frame : Frame} {length : Nat}

theorem decode_admitted
    (step : Decoder.decode { limits } buffer = (.frame frame length, next)) :
    limits.Admit 0 frame.instruction.elements := by
  obtain ⟨wire, -, -, -, instruction, -, admitted⟩ := decode_frame_shape step
  rw [instruction]
  exact admitted

theorem decode_of_admitted
    (step : unbounded.decode buffer = (.frame frame length, next))
    (admitted : limits.Admit 0 frame.instruction.elements) :
    Decoder.decode { limits } buffer = (.frame frame length, { limits }) := by
  obtain ⟨wire, more, split, extent, instruction, raw, -⟩ :=
    decode_frame_shape step
  rw [instruction] at admitted
  obtain ⟨other, same, found⟩ := decode_wire wire admitted more
  rw [split, found, extent]
  obtain ⟨_, text⟩ := frame
  cases instruction
  rw [Bytes.ofText_injective (same.trans raw.symm)]
  rfl

/-! ### Answers to one buffer -/

/-- The answers while frames are taken off the front of a buffer, up to the first
that is no frame. -/
def verdicts (decoder : Decoder) (buffer : Bytes) : List Decoded :=
  match _step : decoder.decode buffer with
  | (.incomplete, _) => [.incomplete]
  | (.malformed cause, _) => [.malformed cause]
  | (.frame frame length, next) =>
      .frame frame length :: next.verdicts (buffer.drop length)
termination_by buffer.length
decreasing_by
  have bounds := decode_frame_length _step
  simp only [List.length_drop]
  omega

theorem verdicts_head (decoder : Decoder) (buffer : Bytes) :
    ∃ later, decoder.verdicts buffer = (decoder.decode buffer).1 :: later := by
  rw [verdicts]
  split
  · rename_i step
    exact ⟨[], by rw [step]⟩
  · rename_i step
    exact ⟨[], by rw [step]⟩
  · rename_i step
    exact ⟨_, by rw [step]⟩

theorem verdicts_incomplete
    (step : decoder.decode buffer = (.incomplete, next)) :
    decoder.verdicts buffer = [.incomplete] := by
  rw [verdicts, step]

theorem verdicts_malformed {cause : Malformed}
    (step : decoder.decode buffer = (.malformed cause, next)) :
    decoder.verdicts buffer = [.malformed cause] := by
  rw [verdicts, step]

theorem verdicts_frame
    (step : decoder.decode buffer = (.frame frame length, next)) :
    decoder.verdicts buffer =
      .frame frame length :: next.verdicts (buffer.drop length) := by
  rw [verdicts, step]

theorem BelongsTo.verdicts (belongs : decoder.BelongsTo buffer) :
    decoder.verdicts buffer = decoder.reset.verdicts buffer := by
  rw [Decoder.verdicts, belongs.decode, ← Decoder.verdicts]

end Decoder

/-! ### Answers under bounds -/

/-- Answers that a decoder without bounds and one with those of clients may give
to the same bytes. -/
inductive Decoded.Restrained : (free bounded : Decoded) → Prop
  | waiting : Restrained .incomplete .incomplete
  /-- A length can be too large before its element is there, and so can the number
  of elements. -/
  | early (cause : Malformed) : Restrained .incomplete (.malformed cause)
  | within {frame : Frame} (small : frame.ForClients) (length : Nat) :
      Restrained (.frame frame length) (.frame frame length)
  | beyond {frame : Frame} (large : ¬ frame.ForClients) (length : Nat)
      (cause : Malformed) : Restrained (.frame frame length) (.malformed cause)
  | faulty (cause other : Malformed) :
      Restrained (.malformed cause) (.malformed other)

/-- Answers in a row: the same with bounds as without, up to the first error. -/
inductive Decoded.Follow : (free bounded : List Decoded) → Prop
  | nil : Follow [] []
  | same {answer : Decoded} {free bounded : List Decoded}
      (restrained : answer.Restrained answer)
      (sound : ∀ cause, answer ≠ .malformed cause)
      (others : Follow free bounded) :
      Follow (answer :: free) (answer :: bounded)
  | stops {answer : Decoded} {cause : Malformed}
      (restrained : answer.Restrained (.malformed cause))
      (later : List Decoded) : Follow (answer :: later) [.malformed cause]

theorem Decoded.Follow.append {common free bounded : List Decoded}
    (same : ∀ answer ∈ common, answer.Restrained answer ∧
      ∀ cause, answer ≠ .malformed cause)
    (others : Follow free bounded) :
    Follow (common ++ free) (common ++ bounded) := by
  induction common with
  | nil => exact others
  | cons answer common ih =>
      obtain ⟨restrained, sound⟩ := same answer List.mem_cons_self
      exact .same restrained sound
        (ih fun other member => same other (List.mem_cons_of_mem answer member))

namespace Decoder

theorem decode_restrained (buffer : Bytes) :
    (unbounded.decode buffer).1.Restrained (client.decode buffer).1 := by
  rcases bounded : client.decode buffer with ⟨answer, next⟩
  cases answer with
  | incomplete =>
      rw [decode_unbounded bounded (by simp)]
      exact .waiting
  | frame frame length =>
      rw [decode_unbounded bounded (by simp)]
      exact .within (frame.forClients_iff.mpr (decode_admitted bounded)) length
  | malformed cause =>
      rcases free : unbounded.decode buffer with ⟨answer, next⟩
      cases answer with
      | incomplete => exact .early cause
      | malformed other => exact .faulty other cause
      | frame frame length =>
          apply Decoded.Restrained.beyond
          intro small
          have found : client.decode buffer = _ :=
            decode_of_admitted free (frame.forClients_iff.mp small)
          rw [bounded] at found
          cases found

theorem verdicts_sound {buffer : Bytes} {frames : List Frame}
    (sound : (Intake.takeFrames client buffer frames).fault = none) :
    unbounded.verdicts buffer = client.verdicts buffer ∧
      (∀ answer ∈ client.verdicts buffer, answer.Restrained answer ∧
        ∀ cause, answer ≠ .malformed cause) ∧
      ∀ others, (Intake.takeFrames unbounded buffer others).fault = none ∧
        (Intake.takeFrames unbounded buffer others).left =
          (Intake.takeFrames client buffer frames).left := by
  -- by induction over the frames taken under bounds, each of which the other decoder takes too
  generalize fresh : client = decoder at sound ⊢
  fun_induction Intake.takeFrames decoder buffer frames with
  | case1 decoder buffer frames next step =>
      subst fresh
      have free := decode_unbounded step (by simp)
      have restrained := decode_restrained buffer
      rw [free, step] at restrained
      rw [verdicts_incomplete free, verdicts_incomplete step]
      refine ⟨rfl, ?_, ?_⟩
      · intro answer member
        rw [List.mem_singleton.mp member]
        exact ⟨restrained, by simp⟩
      · intro others
        rw [Intake.takeFrames_incomplete free]
        exact ⟨rfl, rfl⟩
  | case2 decoder buffer frames cause next step => cases sound
  | case3 decoder buffer frames frame length next step ih =>
      subst fresh
      have free := decode_unbounded step (by simp)
      have restrained := decode_restrained buffer
      rw [free, step] at restrained
      cases decode_frame_fresh step
      obtain ⟨same, further, left⟩ := ih rfl sound
      rw [verdicts_frame free, verdicts_frame step]
      refine ⟨congrArg _ same, ?_, ?_⟩
      · intro answer member
        rcases List.mem_cons.mp member with rfl | later
        · exact ⟨restrained, by simp⟩
        · exact further answer later
      · intro others
        rw [Intake.takeFrames_frame free]
        exact left _

/-- The answers up to the first error under bounds. -/
theorem verdicts_fault {buffer : Bytes} {frames : List Frame} {cause : Malformed}
    (faulty : (Intake.takeFrames client buffer frames).fault = some cause) :
    ∃ common answer later,
      client.verdicts buffer = common ++ [.malformed cause] ∧
      unbounded.verdicts buffer = common ++ answer :: later ∧
      answer.Restrained (.malformed cause) ∧
      ∀ answer ∈ common, answer.Restrained answer ∧
        ∀ cause, answer ≠ .malformed cause := by
  generalize fresh : client = decoder at faulty ⊢
  fun_induction Intake.takeFrames decoder buffer frames with
  | case1 decoder buffer frames next step => cases faulty
  | case2 decoder buffer frames found next step =>
      subst fresh
      cases faulty
      obtain ⟨later, first⟩ := unbounded.verdicts_head buffer
      have restrained := decode_restrained buffer
      rw [step] at restrained
      refine ⟨[], _, later, verdicts_malformed step, first, restrained, ?_⟩
      intro answer impossible
      cases impossible
  | case3 decoder buffer frames frame length next step ih =>
      subst fresh
      have free := decode_unbounded step (by simp)
      have restrained := decode_restrained buffer
      rw [free, step] at restrained
      cases decode_frame_fresh step
      obtain ⟨common, answer, later, bounded, unbound, last, others⟩ := ih rfl faulty
      refine ⟨.frame frame length :: common, answer, later, ?_, ?_, last, ?_⟩
      · rw [verdicts_frame step]
        exact congrArg _ bounded
      · rw [verdicts_frame free]
        exact congrArg _ unbound
      · intro other member
        rcases List.mem_cons.mp member with rfl | further
        · exact ⟨restrained, by simp⟩
        · exact others other further

end Decoder

/-! ### Answers to chunks -/

namespace Intake

/-- All answers to chunks that arrive one after another. After each chunk frames
are taken off, and the first error ends it. -/
def verdicts (intake : Intake) : List Bytes → List Decoded
  | [] => []
  | chunk :: chunks =>
      match intake.fault with
      | some _ => []
      | none =>
          intake.decoder.verdicts (intake.left ++ chunk) ++
            (intake.append chunk).verdicts chunks

theorem verdicts_of_fault {intake : Intake} {cause : Malformed}
    (faulty : intake.fault = some cause) (chunks : List Bytes) :
    intake.verdicts chunks = [] := by
  cases chunks with
  | nil => rfl
  | cons chunk chunks => rw [verdicts, faulty]

structure Ready (limits : Limits) (intake : Intake) : Prop where
  sound : intake.fault = none
  limits : intake.decoder.limits = limits
  belongs : intake.decoder.BelongsTo intake.left

variable {limits : Limits} {intake : Intake}

theorem ready_fresh (limits : Limits) : Ready limits { decoder := { limits } } :=
  ⟨rfl, rfl, Decoder.belongsTo_fresh limits []⟩

theorem Ready.append_eq (ready : intake.Ready limits) (chunk : Bytes) :
    intake.append chunk =
      takeFrames { limits } (intake.left ++ chunk) intake.frames := by
  simp only [Intake.append, ready.sound]
  rw [(ready.belongs.append chunk).takeFrames, ← ready.limits]
  rfl

theorem Ready.verdicts_cons (ready : intake.Ready limits) (chunk : Bytes)
    (chunks : List Bytes) :
    intake.verdicts (chunk :: chunks) =
      Decoder.verdicts { limits } (intake.left ++ chunk) ++
        (intake.append chunk).verdicts chunks := by
  rw [Intake.verdicts, ready.sound]
  simp only
  rw [(ready.belongs.append chunk).verdicts, ← ready.limits]
  rfl

theorem Ready.append (ready : intake.Ready limits) {chunk : Bytes}
    (sound : (intake.append chunk).fault = none) :
    (intake.append chunk).Ready limits := by
  rw [ready.append_eq] at sound ⊢
  obtain ⟨belongs, same, -⟩ := Decoder.decode_waiting (takeFrames_decoder rfl sound)
  exact ⟨sound, same, belongs⟩

theorem Ready.verdicts_follow {free bounded : Intake}
    (unbound : free.Ready .unbounded) (bound : bounded.Ready .client)
    (left : free.left = bounded.left) (chunks : List Bytes) :
    Decoded.Follow (free.verdicts chunks) (bounded.verdicts chunks) := by
  induction chunks generalizing free bounded with
  | nil => exact .nil
  | cons chunk chunks ih =>
      have taken := bound.append_eq chunk
      have also := unbound.append_eq chunk
      rw [unbound.verdicts_cons, bound.verdicts_cons, left]
      rw [left] at also
      cases fault : (bounded.append chunk).fault with
      | some cause =>
          -- the error ends the answers under bounds, whatever follows
          have ended := fault
          rw [taken] at fault
          obtain ⟨common, answer, later, few, many, restrained, same⟩ :=
            Decoder.verdicts_fault fault
          rw [verdicts_of_fault ended, List.append_nil]
          change Decoded.Follow (Decoder.unbounded.verdicts _ ++ _)
            (Decoder.client.verdicts _)
          rw [few, many, List.append_assoc]
          exact .append same (.stops restrained _)
      | none =>
          have going := bound.append fault
          rw [taken] at fault
          obtain ⟨same, restrained, leaves⟩ := Decoder.verdicts_sound fault
          obtain ⟨sound, leaves⟩ := leaves free.frames
          have further : (free.append chunk).fault = none := by
            rw [also]
            exact sound
          have lefts : (free.append chunk).left = (bounded.append chunk).left := by
            rw [also, taken]
            exact leaves
          change Decoded.Follow (Decoder.unbounded.verdicts _ ++ _)
            (Decoder.client.verdicts _ ++ _)
          rw [same]
          exact .append restrained (ih (unbound.append further) going lefts)

end Intake

/-- Bounds only ever reject. Next to a decoder without bounds, one with those of
clients gives each frame that they allow and an error for each other one; it gives
an error for malformed bytes; and it waits only where the other one waits. While
chunks arrive this holds of all answers, up to the first error under bounds. -/
theorem bounds_only_reject :
    (∀ buffer, (Decoder.unbounded.decode buffer).1.Restrained
      (Decoder.client.decode buffer).1) ∧
    ∀ chunks, Decoded.Follow
      (Intake.verdicts { decoder := .unbounded } chunks)
      (Intake.verdicts { decoder := .client } chunks) := by
  constructor
  · exact Decoder.decode_restrained
  · intro chunks
    exact (Intake.ready_fresh .unbounded).verdicts_follow
      (Intake.ready_fresh .client) rfl chunks

end TunnelRelay
