import TunnelRelay.Backend
import TunnelRelay.Frame.FilteredWriter
import TunnelRelay.Frame.Reader
import TunnelRelay.Frame.Writer

/-!
Streams that remember what they have taken.

A recorded stream behaves as the stream inside it. It keeps the bytes that the stream has accepted,
whether it ever made a writer wait, and whether it ever failed one. Nothing is taken by a
connection that has been released.
-/

namespace TunnelRelay

/-- A stream with a record of what was written to it. -/
structure Recorded (σ : Type) where
  stream : σ
  /-- All bytes accepted so far. -/
  taken : Bytes := []
  /-- A write or a flush had to wait. -/
  waited : Bool := false
  /-- A write or a flush failed. -/
  failed : Bool := false

namespace Recorded

variable {σ : Type} [Connection σ]

def write (recorded : Recorded σ) (bytes : Bytes) :
    Poll (Except IoFault Nat) × Recorded σ :=
  match ByteSink.write recorded.stream bytes with
  | (.parked, stream) =>
      (.parked, { recorded with stream, waited := true })
  | (.ready (.error fault), stream) =>
      (.ready (.error fault), { recorded with stream, failed := true })
  | (.ready (.ok count), stream) =>
      (.ready (.ok count), { recorded with
        stream
        taken := recorded.taken ++ bytes.take count
        failed := recorded.failed || count == 0 })

def flush (recorded : Recorded σ) :
    Poll (Except IoFault Unit) × Recorded σ :=
  match ByteSink.flush recorded.stream with
  | (.parked, stream) =>
      (.parked, { recorded with stream, waited := true })
  | (.ready (.error fault), stream) =>
      (.ready (.error fault), { recorded with stream, failed := true })
  | (.ready (.ok ()), stream) => (.ready (.ok ()), { recorded with stream })

instance : Connection (Recorded σ) where
  read recorded room :=
    let (given, stream) := ByteSource.read recorded.stream room
    (given, { recorded with stream })
  held recorded := ByteSource.held recorded.stream
  held_read := by
    intro recorded next room bytes done some
    simp only [Prod.mk.injEq] at done
    obtain ⟨given, rfl⟩ := done
    exact ByteSource.held_read (Prod.ext given rfl) some
  write := write
  flush := flush
  shutdown recorded :=
    let (outcome, stream) := ByteSink.shutdown recorded.stream
    (outcome, { recorded with stream })
  drop recorded := { recorded with stream := Connection.drop recorded.stream }

def onStream (change : σ → σ) (recorded : Recorded σ) : Recorded σ :=
  { recorded with stream := change recorded.stream }

end Recorded

/-! ### What an operation changes -/

namespace Backend

variable {σ : Type}

/-- Between two moments the connection has taken the bytes `gone`, and its flags
have at most been set. A connection that was released before has taken nothing. -/
structure Advances (before after : Backend (Recorded σ)) (gone : Bytes) :
    Prop where
  live : after.live = before.live
  taken : after.stream.taken = before.stream.taken ++ gone
  waited : before.stream.waited = true → after.stream.waited = true
  failed : before.stream.failed = true → after.stream.failed = true
  severed : before.live = false → gone = []

theorem Advances.refl (backend : Backend (Recorded σ)) :
    backend.Advances backend [] :=
  ⟨rfl, (List.append_nil _).symm, id, id, fun _ => rfl⟩

theorem Advances.trans {first second third : Backend (Recorded σ)}
    {early late : Bytes} (before : first.Advances second early)
    (after : second.Advances third late) :
    first.Advances third (early ++ late) := by
  refine ⟨after.live.trans before.live, ?_, after.waited ∘ before.waited,
    after.failed ∘ before.failed, ?_⟩
  · rw [after.taken, before.taken, List.append_assoc]
  · intro released
    rw [before.severed released, after.severed (before.live.trans released)]
    rfl

/-- Between two moments nothing was written. -/
structure Rests (before after : Backend (Recorded σ)) : Prop where
  live : after.live = before.live
  taken : after.stream.taken = before.stream.taken
  waited : after.stream.waited = before.stream.waited
  failed : after.stream.failed = before.stream.failed

theorem Rests.refl (backend : Backend (Recorded σ)) : backend.Rests backend :=
  ⟨rfl, rfl, rfl, rfl⟩

theorem Rests.trans {first second third : Backend (Recorded σ)}
    (before : first.Rests second) (after : second.Rests third) :
    first.Rests third :=
  ⟨after.live.trans before.live, after.taken.trans before.taken,
    after.waited.trans before.waited, after.failed.trans before.failed⟩

variable [Connection σ]

theorem read_rests {backend next : Backend (Recorded σ)} {room : Nat}
    {given : Poll (Except IoFault Bytes)}
    (done : backend.read room = (given, next)) : backend.Rests next := by
  unfold Backend.read at done
  split at done
  · have kept : ∀ stream, (ByteSource.read backend.stream room).2 = stream →
        stream.taken = backend.stream.taken ∧
          stream.waited = backend.stream.waited ∧
          stream.failed = backend.stream.failed := by
      rintro stream rfl
      exact ⟨rfl, rfl, rfl⟩
    split at done
    · rename_i stream reading
      cases done
      have same := kept stream (by rw [reading])
      exact ⟨rfl, same.1, same.2.1, same.2.2⟩
    · rename_i outcome stream reading
      cases done
      have same := kept stream (by rw [reading])
      exact ⟨rfl, same.1, same.2.1, same.2.2⟩
  · cases done
    exact Rests.refl backend

def WriteEnds (before after : Backend (Recorded σ)) (bytes : Bytes) :
    Poll (Except IoFault Nat) → Prop
  | .parked => before.Advances after [] ∧ after.stream.waited = true ∧
      after.stream.failed = before.stream.failed
  | .ready (.error _) => before.Advances after [] ∧
      (after.stream.failed = true ∨ before.live = false)
  | .ready (.ok count) => before.Advances after (bytes.take count) ∧
      after.stream.failed = (before.stream.failed || count == 0)

theorem write_advances {backend next : Backend (Recorded σ)} {bytes : Bytes}
    {outcome : Poll (Except IoFault Nat)}
    (done : backend.write bytes = (outcome, next)) :
    backend.WriteEnds next bytes outcome := by
  unfold Backend.write at done
  split at done
  · rename_i live
    have recorded : ByteSink.write backend.stream bytes =
        backend.stream.write bytes := rfl
    rw [recorded] at done
    unfold Recorded.write at done
    cases writing : ByteSink.write backend.stream.stream bytes with
    | mk result stream =>
        rw [writing] at done
        cases result with
        | parked =>
            cases done
            exact ⟨⟨rfl, (List.append_nil _).symm, fun _ => rfl, id,
              fun _ => rfl⟩, rfl, rfl⟩
        | ready result =>
            cases result with
            | error fault =>
                cases done
                exact ⟨⟨rfl, (List.append_nil _).symm, id, fun _ => rfl,
                  fun _ => rfl⟩, Or.inl rfl⟩
            | ok count =>
                cases done
                refine ⟨⟨rfl, rfl, id, ?_, ?_⟩, rfl⟩
                · intro set
                  simp only [set, Bool.true_or]
                · intro released
                  rw [live] at released
                  cases released
  · rename_i released
    cases done
    exact ⟨Advances.refl backend, Or.inr (eq_false_of_ne_true released)⟩

def FlushEnds (before after : Backend (Recorded σ)) :
    Poll (Except IoFault Unit) → Prop
  | .parked => after.stream.waited = true ∧
      after.stream.failed = before.stream.failed
  | .ready (.error _) => after.stream.failed = true ∨ before.live = false
  | .ready (.ok ()) => after.stream.failed = before.stream.failed

theorem flush_advances {backend next : Backend (Recorded σ)}
    {outcome : Poll (Except IoFault Unit)}
    (done : backend.flush = (outcome, next)) :
    backend.Advances next [] ∧ backend.FlushEnds next outcome := by
  unfold Backend.flush at done
  split at done
  · have recorded : ByteSink.flush backend.stream =
        backend.stream.flush := rfl
    rw [recorded] at done
    unfold Recorded.flush at done
    cases flushing : ByteSink.flush backend.stream.stream with
    | mk result stream =>
        rw [flushing] at done
        cases result with
        | parked =>
            cases done
            exact ⟨⟨rfl, (List.append_nil _).symm, fun _ => rfl, id,
              fun _ => rfl⟩, rfl, rfl⟩
        | ready result =>
            cases result with
            | error fault =>
                cases done
                exact ⟨⟨rfl, (List.append_nil _).symm, id, fun _ => rfl,
                  fun _ => rfl⟩, Or.inl rfl⟩
            | ok value =>
                cases done
                exact ⟨⟨rfl, (List.append_nil _).symm, id, id,
                  fun _ => rfl⟩, rfl⟩
  · rename_i released
    cases done
    exact ⟨Advances.refl backend, Or.inr (eq_false_of_ne_true released)⟩

theorem release_record (backend : Backend (Recorded σ)) :
    backend.release.2.live = false ∧
      backend.release.2.stream.taken = backend.stream.taken ∧
      backend.release.2.stream.waited = backend.stream.waited ∧
      backend.release.2.stream.failed = backend.stream.failed := by
  refine ⟨rfl, ?_⟩
  unfold Backend.release
  cases backend.live with
  | false => exact ⟨rfl, rfl, rfl⟩
  | true => exact ⟨rfl, rfl, rfl⟩

end Backend

/-! ### Reading and writing over a recorded connection -/

variable {σ : Type} [Connection σ]

theorem FrameReader.readFrame_rests {reader next : FrameReader}
    {input rest : Backend (Recorded σ)}
    {outcome : Poll (Except RelayError (Option Frame))}
    (done : reader.readFrame input = (outcome, next, rest)) :
    input.Rests rest := by
  fun_induction FrameReader.readFrame reader input with
  | case1 | case2 | case3 =>
      simp only [Prod.mk.injEq] at done
      rw [← done.2.2]
      exact Backend.Rests.refl _
  | case4 reader input empty open_ ready stream given
  | case5 reader input empty open_ ready fault stream given
  | case6 reader input empty open_ ready stream given last =>
      simp only [Prod.mk.injEq] at done
      rw [← done.2.2]
      exact Backend.read_rests given
  | case7 reader input empty open_ ready stream byte bytes given ih =>
      exact (Backend.read_rests given).trans (ih done)

def Written.Ends (before after : Backend (Recorded σ)) (left : Bytes) :
    Written → Prop
  | .done => left = [] ∧ after.stream.failed = before.stream.failed
  | .parked more => more = left ∧ after.stream.waited = true ∧
      after.stream.failed = before.stream.failed
  | .failed _ => after.stream.failed = true ∨ before.live = false

/-- Writing a byte string takes a first part of it: all of it, or a part before
the connection makes the writer wait, or a part before it fails. -/
theorem writeAll_advances {rest : Bytes} {output next : Backend (Recorded σ)}
    {outcome : Written} (done : writeAll rest output = (outcome, next)) :
    ∃ gone left, rest = gone ++ left ∧ output.Advances next gone ∧
      outcome.Ends output next left := by
  fun_induction writeAll rest output with
  | case1 output =>
      cases done
      exact ⟨[], [], rfl, Backend.Advances.refl _, rfl, rfl⟩
  | case2 output byte bytes stream writing =>
      cases done
      have step := Backend.write_advances writing
      exact ⟨[], byte :: bytes, rfl, step.1, rfl, step.2⟩
  | case3 output byte bytes fault stream writing =>
      cases done
      have step := Backend.write_advances writing
      exact ⟨[], byte :: bytes, rfl, step.1, step.2⟩
  | case4 output byte bytes stream writing =>
      cases done
      have step := Backend.write_advances writing
      have failed := step.2
      rw [beq_self_eq_true, Bool.or_true] at failed
      exact ⟨[], byte :: bytes, rfl, step.1, Or.inl failed⟩
  | case5 output byte bytes count stream writing ih =>
      have step := Backend.write_advances writing
      have sound : stream.stream.failed = output.stream.failed := by
        rw [step.2, Bool.or_eq_left_iff_imp]
        intro none
        cases none
      obtain ⟨gone, left, split, later, result⟩ := ih done
      refine ⟨(byte :: bytes).take (count + 1) ++ gone, left, ?_,
        step.1.trans later, ?_⟩
      · rw [List.append_assoc, ← split, List.take_succ_cons, List.cons_append,
          List.take_append_drop]
      · cases outcome with
        | done => exact ⟨result.1, result.2.trans sound⟩
        | parked more => exact ⟨result.1, result.2.1, result.2.2.trans sound⟩
        | failed fault => exact result.imp_right step.1.live.symm.trans

def Sending.unsent : Sending → Bytes
  | .writing rest => rest
  | .flushing => []

theorem FilteredWriter.sending?_none {passed : Forwarded}
    (silent : sending? passed = none) : Bytes.ofText passed.text = [] := by
  unfold sending? at silent
  split at silent
  · rename_i empty
    have nothing : passed.text = "" := by simpa using empty
    rw [nothing]
    rfl
  · cases silent

theorem FilteredWriter.sending?_some {passed : Forwarded} {sending : Sending}
    (starts : sending? passed = some sending) :
    sending.unsent = Bytes.ofText passed.text := by
  unfold sending? at starts
  split at starts
  · cases starts
  · cases starts
    rfl

theorem RelayError.ofSocket_isClientError (fault : IoFault) :
    (RelayError.ofSocket fault).isClientError = false := by
  unfold RelayError.ofSocket
  cases fault.kind <;> rfl

def Sent.Ends (before after : Backend (Recorded σ)) (left : Bytes) :
    Sent → Prop
  | .done => left = [] ∧ after.stream.failed = before.stream.failed
  | .parked more => more.unsent = left ∧ after.stream.waited = true ∧
      after.stream.failed = before.stream.failed
  | .failed error => error.isClientError = false ∧
      (after.stream.failed = true ∨ before.live = false)

theorem Sending.flush_advances {output next : Backend (Recorded σ)}
    {sent : Sent} (done : Sending.flush output = (sent, next)) :
    output.Advances next [] ∧ sent.Ends output next [] := by
  unfold Sending.flush at done
  split at done
  · rename_i stream flushing
    cases done
    have step := Backend.flush_advances flushing
    exact ⟨step.1, rfl, step.2⟩
  · rename_i stream flushing
    cases done
    have step := Backend.flush_advances flushing
    exact ⟨step.1, rfl, step.2⟩
  · rename_i fault stream flushing
    cases done
    have step := Backend.flush_advances flushing
    exact ⟨step.1, RelayError.ofSocket_isClientError fault, step.2⟩

/-- Going on with a write takes a first part of what was unsent. A write that
does not go through has made its writer wait, or has failed on the stream, or
finds the connection released. -/
theorem Sending.poll_advances {sending : Sending}
    {output next : Backend (Recorded σ)} {sent : Sent}
    (done : sending.poll output = (sent, next)) :
    ∃ gone left, sending.unsent = gone ++ left ∧ output.Advances next gone ∧
      sent.Ends output next left := by
  cases sending with
  | flushing =>
      have step := Sending.flush_advances done
      exact ⟨[], [], rfl, step.1, step.2⟩
  | writing rest =>
      simp only [Sending.poll] at done
      cases writing : writeAll rest output with
      | mk outcome middle =>
          obtain ⟨gone, left, split, early, result⟩ := writeAll_advances writing
          rw [writing] at done
          cases outcome with
          | done =>
              have step := Sending.flush_advances done
              have both := early.trans step.1
              rw [List.append_nil] at both
              refine ⟨gone, left, split, both, ?_⟩
              cases sent with
              | done => exact ⟨result.1, step.2.2.trans result.2⟩
              | parked more =>
                  exact ⟨step.2.1.trans result.1.symm, step.2.2.1,
                    step.2.2.2.trans result.2⟩
              | failed error =>
                  exact ⟨step.2.1, step.2.2.imp_right early.live.symm.trans⟩
          | parked more =>
              cases done
              exact ⟨gone, left, split, early, result⟩
          | failed fault =>
              cases done
              exact ⟨gone, left, split, early,
                RelayError.ofSocket_isClientError fault, result⟩

end TunnelRelay
