import Mathlib.Algebra.Ring.Nat
import TunnelRelay.Proofs.Frame.Bounds
import TunnelRelay.Proofs.Stream.Recorded
import TunnelRelay.Proofs.Stream.Willing

/-!
Filtered writing of data that may be cut anywhere.

One writer takes pieces of data and may be asked for the replies it owes in between. What it
forwards to a stream that takes everything, and what it owes for pings, are functions of the frames
that the pieces complete, up to the piece that turns out to be malformed.
-/

namespace TunnelRelay

inductive FilterCall where
  | write (data : Bytes)
  | takeReplies

def FilterCall.data : FilterCall → Bytes
  | write data => data
  | takeReplies => []

/-- A filtered writer in use, with what it has answered so far. -/
structure FilteredWriting (σ : Type) where
  writer : FilteredWriter (List Instruction) :=
    { filter := internalFilter, memory := [] }
  output : σ
  counts : List Nat := []
  replies : List Instruction := []
  /-- The outcome of the first write that was not done; no write follows it. -/
  halted : Option Sent := none

theorem TakesAll.write_accepted {σ : Type} [ByteSink σ] {willing : σ → Prop}
    {taken : σ → Bytes} (takes : TakesAll willing taken) {φ : Type}
    {writer next : FilteredWriter φ} {data : Bytes} {passed : Forwarded}
    {output : σ} (accepted : writer.accept data = (.ok passed, next))
    (ready : willing output) :
    ∃ after, writer.write data output = ((.done, passed.count), next, after) ∧
      willing after ∧ taken after = taken output ++ Bytes.ofText passed.text := by
  unfold FilteredWriter.write
  simp only [accepted]
  cases sends : FilteredWriter.sending? passed with
  | none =>
      refine ⟨output, rfl, ready, ?_⟩
      rw [FilteredWriter.sending?_none sends, List.append_nil]
  | some sending =>
      unfold FilteredWriter.sending? at sends
      split at sends
      · cases sends
      · cases sends
        obtain ⟨after, sent, still, grown⟩ :=
          takes.poll (Bytes.ofText passed.text) output ready
        exact ⟨after, by simp only [sent], still, grown⟩

namespace FilteredWriting

variable {σ : Type}

def perform [ByteSink σ] (writing : FilteredWriting σ) : FilterCall → FilteredWriting σ
  | .takeReplies =>
      { writing with
        writer := { writing.writer with memory := [] }
        replies := writing.replies ++ writing.writer.memory }
  | .write data =>
      match writing.halted with
      | some _ => writing
      | none =>
          match writing.writer.write data writing.output with
          | ((.done, count), writer, output) =>
              { writing with
                writer, output, counts := writing.counts ++ [count] }
          | ((sent, _), writer, output) =>
              { writing with writer, output, halted := some sent }

/-- The writing of the bytes `given` has forwarded what the bytes `seen` of the
calls that were done ask for, on a stream that had taken `before`. -/
structure Accounts (willing : σ → Prop) (taken : σ → Bytes)
    (before seen given : Bytes) (writing : FilteredWriting σ) : Prop where
  within : seen <+: given
  willing : willing writing.output
  taken : taken writing.output =
    before ++ Frame.received (forwardable seen)
  counts : writing.counts.sum = (forwardable seen).length
  replies : writing.replies ++ writing.writer.memory =
    (Intake.takeFrames .client seen []).frames.filterMap
      (·.instruction.pong?)
  halted : writing.halted =
    (Intake.takeFrames .client given []).fault.map
      fun cause => .failed (.badRequest cause.message)
  going : writing.halted = none → seen = given ∧ writing.writer.HasSeen seen

variable {willing : σ → Prop} {taken : σ → Bytes}
  {before seen given : Bytes} {writing : FilteredWriting σ}

theorem accounts_start (output : σ) (ready : willing output) :
    Accounts willing taken (taken output) [] [] { output } := by
  have has := FilteredWriter.hasSeen_nil
  have waiting : Decoder.client.decode [] = (.incomplete, .client) :=
    Intake.decode_empty (by decide)
  have nothing : (Intake.takeFrames .client [] []).frames = [] := by
    rw [Intake.takeFrames_incomplete waiting]
  constructor
  · exact List.prefix_rfl
  · exact ready
  · rw [forwardable_nil]
    exact (List.append_nil _).symm
  · rw [forwardable_nil]
    rfl
  · rw [nothing]
    rfl
  · rw [has.sound]
    rfl
  · intro _
    exact ⟨rfl, has⟩

theorem Accounts.finish_iff
    (accounts : writing.Accounts willing taken before seen given)
    (going : writing.halted = none) :
    (∃ memory, writing.writer.finish = .ok memory) ↔ WholeFrames given := by
  obtain ⟨rfl, has⟩ := accounts.going going
  rw [← Intake.left_eq_nil_iff has.sound, FilteredWriter.finish, has.pending]
  constructor
  · rintro ⟨memory, finished⟩
    split at finished
    · rename_i empty
      exact List.isEmpty_iff.mp empty
    · cases finished
  · intro empty
    exact ⟨writing.writer.memory, if_pos (List.isEmpty_iff.mpr empty)⟩

variable [ByteSink σ]

theorem Accounts.takeReplies
    (accounts : writing.Accounts willing taken before seen given) :
    (writing.perform .takeReplies).Accounts willing taken before seen given :=
  { accounts with
    replies := by
      rw [← accounts.replies]
      exact List.append_nil _
    going := by
      intro on
      obtain ⟨whole, has⟩ := accounts.going on
      exact ⟨whole, has.remember []⟩ }

theorem Accounts.write_halted {sent : Sent}
    (accounts : writing.Accounts willing taken before seen given)
    (halted : writing.halted = some sent) (data : Bytes) :
    (writing.perform (.write data)).Accounts willing taken before seen
      (given ++ data) := by
  have kept : writing.perform (.write data) = writing := by
    simp only [perform, halted]
  rw [kept]
  have outcome := accounts.halted
  rw [halted] at outcome
  cases fault : (Intake.takeFrames .client given []).fault with
  | none => simp [fault] at outcome
  | some cause =>
      -- more data behind a fault does not change it
      have same := (Intake.takeFrames_fault (Progress.fits_initial given)
        fault data).2
      exact { accounts with
        within := accounts.within.trans (List.prefix_append given data)
        halted := by rw [accounts.halted, fault, same]
        going := by
          intro on
          rw [halted] at on
          cases on }

theorem Accounts.write_going
    (takes : TakesAll willing taken)
    (accounts : writing.Accounts willing taken before seen given)
    (going : writing.halted = none) (data : Bytes) :
    ∃ seen, (writing.perform (.write data)).Accounts willing taken before seen
      (given ++ data) := by
  obtain ⟨rfl, has⟩ := accounts.going going
  obtain ⟨new, next, frames, outcome⟩ := has.completes data
  cases fault : (Intake.takeFrames .client (seen ++ data) []).fault with
  | some cause =>
      simp only [fault] at outcome
      have refused : writing.writer.write data writing.output =
          ((.failed (.badRequest cause.message), 0), next, writing.output) := by
        simp only [FilteredWriter.write, outcome.1]
      have performed : writing.perform (.write data) =
          { writing with
            writer := next
            halted := some (.failed (.badRequest cause.message)) } := by
        simp only [perform, going, refused]
      rw [performed]
      exact ⟨seen, {
        within := List.prefix_append seen data
        willing := accounts.willing
        taken := accounts.taken
        counts := accounts.counts
        replies := by rw [← accounts.replies, ← outcome.2]
        halted := by
          rw [fault]
          rfl
        going := nofun }⟩
  | none =>
      simp only [fault] at outcome
      obtain ⟨accepted, seenAll, replies⟩ := outcome
      obtain ⟨output, written, willing, grown⟩ :=
        takes.write_accepted accepted accounts.willing
      have performed : writing.perform (.write data) =
          { writing with
            writer := next
            output
            counts :=
              writing.counts ++ [(FilteredWriter.passedOn new).count] } := by
        simp only [perform, going, written]
      have forwarded : forwardable (seen ++ data) =
          forwardable seen ++ new.filter (!·.instruction.isInternal) := by
        unfold forwardable
        rw [frames, List.filter_append]
      rw [performed]
      exact ⟨seen ++ data, {
        within := List.prefix_rfl
        willing
        taken := by
          rw [grown, accounts.taken, forwarded, Frame.received_append,
            List.append_assoc, FilteredWriter.passedOn, Frame.received_eq_join]
        counts := by
          rw [List.sum_append, List.sum_singleton, accounts.counts, forwarded,
            List.length_append]
          rfl
        replies := by
          rw [replies, ← List.append_assoc, accounts.replies, frames,
            List.filterMap_append]
        halted := by
          rw [fault]
          exact going
        going := fun _ => ⟨rfl, seenAll⟩ }⟩

theorem Accounts.perform (takes : TakesAll willing taken)
    (accounts : writing.Accounts willing taken before seen given)
    (call : FilterCall) :
    ∃ seen, (writing.perform call).Accounts willing taken before seen
      (given ++ call.data) := by
  cases call with
  | takeReplies =>
      rw [FilterCall.data, List.append_nil]
      exact ⟨seen, accounts.takeReplies⟩
  | write data =>
      cases halted : writing.halted with
      | none => exact accounts.write_going takes halted data
      | some sent => exact ⟨seen, accounts.write_halted halted data⟩

theorem Accounts.foldl (takes : TakesAll willing taken)
    (accounts : writing.Accounts willing taken before seen given)
    (calls : List FilterCall) :
    ∃ seen, (calls.foldl FilteredWriting.perform writing).Accounts willing taken before
      seen (given ++ calls.flatMap FilterCall.data) := by
  induction calls generalizing writing seen given with
  | nil =>
      rw [List.flatMap_nil, List.append_nil]
      exact ⟨seen, accounts⟩
  | cons call calls ih =>
      obtain ⟨further, next⟩ := accounts.perform takes call
      rw [List.foldl_cons, List.flatMap_cons, ← List.append_assoc]
      exact ih next

/-- However data is cut into writes, and whenever replies are taken in between,
the first write that is not done is the one that the decoder finds malformed. A
stream that takes everything has then the frames completed before it that are
not the tunnel's own, each ping among them has one reply, and data that is not
malformed can be finished exactly if it is whole frames. -/
theorem forwards_frames_answers_pings (takes : TakesAll willing taken)
    (output : σ) (ready : willing output) (calls : List FilterCall) :
    let data := calls.flatMap FilterCall.data
    let whole := Intake.ofChunks .client [data]
    let writing := calls.foldl perform { output }
    writing.halted = whole.fault.map
        (fun cause => .failed (.badRequest cause.message)) ∧
      (∃ passed, passed <+: whole.frames ∧
        (writing.halted = none → passed = whole.frames) ∧
        taken writing.output = taken output ++
          Frame.received (passed.filter (!·.instruction.isInternal)) ∧
        writing.counts.sum =
          (passed.filter (!·.instruction.isInternal)).length ∧
        writing.replies ++ writing.writer.memory =
          passed.filterMap (·.instruction.pong?)) ∧
      (writing.halted = none →
        ((∃ memory, writing.writer.finish = .ok memory) ↔
          WholeFrames data)) := by
  intro data whole writing
  obtain ⟨seen, accounts⟩ :=
    Accounts.foldl takes (accounts_start output ready) calls
  obtain ⟨rest, split⟩ := accounts.within
  refine ⟨accounts.halted,
    ⟨(Intake.takeFrames .client seen []).frames, ?_, ?_, accounts.taken,
      accounts.counts, accounts.replies⟩, accounts.finish_iff⟩
  · have front := Intake.takeFrames_isPrefix .client seen rest
    rw [split] at front
    exact front
  · intro going
    rw [(accounts.going going).1]
    rfl

/-- A ping with a cut inside it, its reply taken, and a piece that completes a
frame and is malformed behind it. -/
theorem forwards_frames_answers_pings_cut :
    let calls := [.write (Bytes.ofText "3.nop;0.,4.pi"),
      .write (Bytes.ofText "ng,1.7;"), .takeReplies,
      .write (Bytes.ofText "3.nop;x")]
    let writing := calls.foldl perform { output := ({} : Sink) }
    (({} : Sink).accepts = none ∧ ({} : Sink).flushFault = none) ∧
      writing.halted = some (.failed
        (.badRequest "Non-numeric character in element length.")) ∧
      writing.output.taken = Bytes.ofText "3.nop;" ∧
      writing.counts = [1, 0] ∧ writing.replies = [.pong "7"] := by
  intro calls writing
  have fault : (Intake.ofChunks .client
      [calls.flatMap FilterCall.data]).fault = some .lengthNotNumeric := by
    decide +kernel
  have halted := (forwards_frames_answers_pings Sink.takesAll {} ⟨rfl, rfl⟩
    calls).1
  rw [fault] at halted
  exact ⟨⟨rfl, rfl⟩, halted, by decide +kernel, by decide +kernel,
    by decide +kernel⟩

end FilteredWriting

end TunnelRelay
