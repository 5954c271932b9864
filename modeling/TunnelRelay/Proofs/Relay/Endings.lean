import TunnelRelay.Proofs.Relay.Marks
import TunnelRelay.Proofs.Relay.Turns
import TunnelRelay.Proofs.Text.Decimal

/-!
How requests end.

The answer to a request that has failed tells the browser a status. A read that ends well leaves its
tunnel open; otherwise guacd has ended the stream, or something has failed before or while messages
were given. Which of these a step of a read meets can be told before the step, and it is what makes
the read close its tunnel.
-/

namespace TunnelRelay

open Http LongPoll

/-! ### The codes of an answer -/

namespace Http.Answer

def codes (answer : Answer) : Option (Nat × Option Bytes) :=
  answer.head.map fun head =>
    (head.status, Headers.get? head.headers "guacamole-status-code")

/-- The answer is that of a failure with a status. -/
def Tells (answer : Answer) (status : Status) : Prop :=
  answer.codes =
    some (status.httpCode, some (Bytes.ofNat status.guacamoleCode))

def IsClientError (answer : Answer) : Prop :=
  ∃ status : Status, status.isClientError = true ∧ answer.Tells status

theorem whole_head (answer : Answer) (code : Nat) (headers : Headers)
    (body : Bytes) :
    (answer.whole code headers body).head = some ⟨code, headers⟩ := by
  unfold whole finish give
  simp only
  split
  · rfl
  · split <;> rfl

theorem failure_tells (answer : Answer) (error : RelayError) :
    (answer.failure error).Tells error.status := by
  unfold Tells codes failure plain
  rw [whole_head]
  simp [Headers.failure, Headers.noCache, Headers.setText, Headers.set,
    Headers.get?, Bytes.ofNat]

theorem Tells.unique {answer : Answer} {first second : Status}
    (one : answer.Tells first) (other : answer.Tells second) :
    first = second := by
  have same : Bytes.ofNat first.guacamoleCode =
      Bytes.ofNat second.guacamoleCode := by
    have codes := one.symm.trans other
    simp only [Option.some.injEq, Prod.mk.injEq] at codes
    exact codes.2
  have code : first.guacamoleCode = second.guacamoleCode := by
    rw [← (Bytes.ofNat_numeral first.guacamoleCode).2, same]
    exact (Bytes.ofNat_numeral second.guacamoleCode).2
  have found := Status.ofGuacamoleCode?_guacamoleCode first
  rw [code, Status.ofGuacamoleCode?_guacamoleCode] at found
  exact (Option.some.inj found).symm

theorem failure_isClientError (answer : Answer) (error : RelayError) :
    (answer.failure error).IsClientError ↔ error.isClientError = true := by
  have tells := answer.failure_tells error
  constructor
  · rintro ⟨status, client, told⟩
    rw [told.unique tells] at client
    exact client
  · exact fun client => ⟨error.status, client, tells⟩

end Http.Answer

/-! ### Writes -/

namespace LongPoll.Write

variable {σ : Type}

theorem finish_fails {φ : Type} {filtered : FilteredWriter φ}
    {error : RelayError} (given : refusal? filtered.finish = some error) :
    error.status.httpCode ≠ Status.success.httpCode := by
  unfold FilteredWriter.finish at given
  split at given
  · cases given
  · cases given
    decide

variable [Connection σ]

theorem send_fails {tunnel next : Tunnel σ} {sending : Sending}
    {error : RelayError} (done : tunnel.send sending = (.failed error, next)) :
    error.status.httpCode ≠ Status.success.httpCode := by
  have flushing : ∀ output rest : Backend σ,
      Sending.flush output = (.failed error, rest) →
      error.status.httpCode ≠ Status.success.httpCode := by
    intro output rest flushed
    unfold Sending.flush at flushed
    split at flushed
    · cases flushed
    · cases flushed
    · cases flushed
      exact RelayError.ofSocket_fails _
  unfold Tunnel.send Sending.poll at done
  cases sending with
  | flushing =>
      simp only [Prod.mk.injEq] at done
      exact flushing _ _ (Prod.ext done.1 rfl)
  | writing rest =>
      simp only [Prod.mk.injEq] at done
      obtain ⟨failed, -⟩ := done
      split at failed
      · exact flushing _ _ (Prod.ext failed rfl)
      · cases failed
        exact RelayError.ofSocket_fails _
      · cases failed

theorem failure?_fails {write : Write} {seen : Bytes} {body : List BodyEvent}
    {tunnel : Tunnel σ} {error : RelayError}
    (has : write.filtered.HasSeen seen)
    (failed : write.failure? body tunnel = some error) :
    error.status.httpCode ≠ Status.success.httpCode := by
  unfold failure? at failed
  cases stage : write.stage with
  | acquiring =>
      simp only [stage, Tunnel.claimWriter] at failed
      split at failed
      · rename_i outcome ready
        split at ready
        · split at ready
          · cases ready
            cases failed
          · cases ready
            cases failed
            exact (by decide :
              Status.resourceClosed.httpCode ≠ Status.success.httpCode)
        · cases ready
      · cases failed
  | receiving =>
      simp only [stage] at failed
      cases body with
      | nil => cases failed
      | cons event rest =>
          cases event with
          | failed reason =>
              cases failed
              exact (by decide :
                Status.clientBadRequest.httpCode ≠ Status.success.httpCode)
          | finished => exact finish_fails failed
          | chunk data =>
              simp only at failed
              split at failed
              · obtain ⟨new, next, -, accepted⟩ := has.completes data
                split at accepted
                · rw [accepted.1] at failed
                  cases failed
                  exact (by decide :
                    Status.clientBadRequest.httpCode ≠ Status.success.httpCode)
                · rw [accepted.1] at failed
                  cases failed
              · exact finish_fails failed
  | sending sending count size =>
      simp only [stage] at failed
      split at failed
      · rename_i sent
        cases failed
        exact send_fails (Prod.ext sent rfl)
      · cases failed
      · cases failed
  | finished =>
      simp only [stage] at failed
      cases failed

end LongPoll.Write

/-! ### Reads -/

/-- How the response to a read ends, if it does not end well. -/
inductive Ending where
  /-- guacd has ended the stream. It also counts as ended when the connection is
  closed before the response has begun. -/
  | endOfStream
  /-- The answer is an HTTP error. -/
  | refused (error : RelayError)
  /-- Something has failed after the response has begun. -/
  | broken (error : RelayError)
  deriving DecidableEq

/-- What the answer shows of its ending. In a response that has begun, the
browser is told of an error unless a connection was only closed. -/
def Ending.Shows (ending : Ending) (answer : Answer) : Prop :=
  match ending with
  | .endOfStream => True
  | .refused error => answer.Tells error.status ∧ answer.isOk = false
  | .broken error =>
      error.isConnectionClosed = false → answer.wanted = true →
        (Instruction.error (Answer.publicMessage error) error.status).wire ++
          Bytes.ofText endOfInstructions <:+ answer.pieces.flatten

namespace LongPoll.Read

variable {σ : Type}

def endingOf (read : Read) (outcome : Except RelayError (Option Message)) :
    Option Ending :=
  match outcome with
  | .ok (some _) => none
  | .ok none => some .endOfStream
  | .error error =>
      if read.begun then some (.broken error)
      else if error.isConnectionClosed then some .endOfStream
      else some (.refused error)

/-- What a step of a read has done, when it has met `ending` or nothing. The
read that gives the end of the stream has met it before. -/
structure Proceeds (read : Read) (ending : Option Ending)
    (closes : Option Status) (result : Pace × Read × Answer × Registry σ) :
    Prop where
  goes : result.1 ≠ .ended →
    result.2.1.tunnel = read.tunnel ∧ closes = none ∧
      (∀ other, ending = some other → other = .endOfStream) ∧
      (result.2.1.stage = .giving none ↔
        read.stage = .giving none ∨ ending.isSome = true)
  ends : result.1 = .ended →
    (closes.isSome = true ↔
      read.stage = .giving none ∨ ending.isSome = true) ∧
    ∀ other, ending = some other → other.Shows result.2.2.1

theorem proceeds_on {read later : Read} {pace : Pace} {answer : Answer}
    {registry : Registry σ} (more : pace ≠ .ended)
    (tunnel : later.tunnel = read.tunnel) (was : read.stage ≠ .giving none)
    (is : later.stage ≠ .giving none) :
    Proceeds read none none (pace, later, answer, registry) where
  goes _ := ⟨tunnel, rfl, nofun, by simp [was, is]⟩
  ends done := absurd done more

theorem proceeds_well {read : Read} {later : Read × Answer × Registry σ}
    (was : read.stage ≠ .giving none) :
    Proceeds read none none (.ended, later) where
  goes more := absurd rfl more
  ends _ := ⟨by simp [was], nofun⟩

theorem proceeds_badly {read : Read} {ending : Ending} {status : Status}
    {later : Read × Answer × Registry σ} (shown : ending.Shows later.2.1) :
    Proceeds read (some ending) (some status) (.ended, later) where
  goes more := absurd rfl more
  ends _ := by
    refine ⟨by simp, ?_⟩
    rintro other same
    cases same
    exact shown

theorem finish_pieces (read : Read) (answer : Answer) (registry : Registry σ) :
    (read.finish answer registry).2.1.wanted = true →
      (read.finish answer registry).2.1.pieces =
        answer.pieces ++ [read.unsent ++ Bytes.ofText endOfInstructions] := by
  unfold finish Answer.give Answer.finish
  simp only
  split
  · exact fun _ => rfl
  · rename_i gone
    exact fun wanted => absurd wanted gone

variable [Connection σ]

def ending? (read : Read) (answer : Answer)
    (registered : RegisteredTunnel σ) : Option Ending :=
  match read.stage with
  | .waiting =>
      match (await registered).1 with
      | .found outcome => read.endingOf outcome
      | .again | .nothing => none
  | .giving (some _) =>
      if registered.tunnel.available || answer.wanted then none
      else some (.broken give.browserGone)
  | .acquiring | .looking | .giving none | .finished => none

theorem fail_shows (read : Read) (uuid : Uuid) (error : RelayError)
    (answer : Answer) (registry : Registry σ) :
    (Ending.broken error).Shows (read.fail uuid error answer registry).2.1 := by
  intro open_ wanted
  unfold fail at wanted ⊢
  simp only [open_, Bool.false_eq_true, if_false] at wanted ⊢
  rw [finish_pieces _ _ _ wanted, List.flatten_append, List.flatten_singleton]
  refine ⟨answer.pieces.flatten ++ read.unsent, ?_⟩
  simp only [List.append_assoc]

theorem receive_proceeds (read : Read) (uuid : Uuid)
    (outcome : Except RelayError (Option Message)) (answer : Answer)
    (registry : Registry σ) (was : read.stage ≠ .giving none)
    (fails : ∀ error, outcome = .error error →
      error.status.httpCode ≠ Status.success.httpCode) :
    Proceeds read (read.endingOf outcome) (read.closesAfter? outcome)
      (read.receive uuid outcome answer registry) := by
  have given : ∀ message pace start, pace ≠ .ended →
      Proceeds read (read.endingOf (.ok message)) none
        (pace, { read with stage := .giving message, begun := true }, start,
          registry) := by
    intro message pace start more
    refine ⟨fun _ => ⟨rfl, rfl, ?_, ?_⟩, fun done => absurd done more⟩
    · cases message <;> simp [endingOf]
    · cases message <;> simp [endingOf, was]
  unfold receive closesAfter?
  cases begun : read.begun with
  | true =>
      cases outcome with
      | ok message => exact given message .goesOn answer (by decide)
      | error error =>
          simp only [endingOf, begun, if_true, Bool.true_or]
          exact proceeds_badly (read.fail_shows uuid error answer registry)
  | false =>
      cases outcome with
      | ok message => exact given message .yields _ (by decide)
      | error error =>
          cases closed : error.isConnectionClosed with
          | true =>
              simp only [firstMessage, endingOf, begun, closed, Bool.false_eq_true,
                if_false, if_true, Bool.not_true, Bool.or_self]
              exact given none .yields _ (by decide)
          | false =>
              simp only [firstMessage, endingOf, begun, closed, Bool.false_eq_true,
                if_false, Bool.not_false, Bool.or_true, if_true]
              exact proceeds_badly ⟨answer.failure_tells error,
                answer.failure_isOk (fails error rfl)⟩

theorem give_proceeds (read : Read) (registered : RegisteredTunnel σ)
    (message : Message) (answer : Answer) (registry : Registry σ)
    (stage : read.stage = .giving (some message)) :
    Proceeds read
      (if registered.tunnel.available || answer.wanted then none
        else some (.broken give.browserGone))
      (if registered.tunnel.available || answer.wanted then none
        else some .resourceClosed)
      (read.give registered message answer registry) := by
  have was : read.stage ≠ .giving none := by
    rw [stage]
    exact nofun
  unfold give
  simp only
  cases registered.tunnel.available with
  | true =>
      simp only [Bool.true_or, if_true]
      split
      · exact proceeds_well was
      · exact proceeds_on nofun rfl was nofun
  | false =>
      unfold Answer.give
      cases answer.wanted with
      | true => exact proceeds_well was
      | false =>
          simp only [Bool.false_eq_true, if_false]
          exact proceeds_badly (fail_shows _ _ _ _ _)

theorem await_fails {registered later : RegisteredTunnel σ}
    {error : RelayError}
    (awaited : await registered = (.found (.error error), later)) :
    error.status.httpCode ≠ Status.success.httpCode := by
  unfold await at awaited
  split at awaited
  · cases awaited
  · split at awaited
    · cases awaited
    · cases awaited
    · rename_i reading
      cases awaited
      exact readFrame_fails reading

theorem step_proceeds (read : Read) (answer : Answer) (registry : Registry σ)
    {registered : RegisteredTunnel σ}
    (found : registry.tunnel? read.tunnel = some registered) :
    Proceeds read (read.ending? answer registered)
      (read.closes? answer registered) (read.step answer registry) := by
  unfold step ending? closes?
  rw [found]
  simp only
  cases stage : read.stage with
  | acquiring =>
      have was : read.stage ≠ .giving none := by simp [stage]
      simp only
      split
      · exact proceeds_on (by simp) rfl was was
      · exact proceeds_on (by simp) rfl was (by simp)
  | looking =>
      have was : read.stage ≠ .giving none := by simp [stage]
      simp only
      split
      · rename_i outcome later looked
        -- what is found inside is a message
        unfold lookInside at looked
        simp only at looked
        split at looked
        · cases looked
        · cases looked
          exact read.receive_proceeds registered.tunnel.uuid
            (.ok (some (Message.ofInstructions registered.outbox.take.1)))
            answer (registry.update read.tunnel fun _ =>
              { registered with outbox := registered.outbox.take.2 }) was (by simp)
      · exact proceeds_on (by simp) rfl was (by simp)
  | waiting =>
      have was : read.stage ≠ .giving none := by simp [stage]
      cases awaited : await registered with
      | mk look later =>
          cases look with
          | found outcome =>
              apply read.receive_proceeds _ outcome answer _ was
              rintro error rfl
              exact await_fails awaited
          | again => exact proceeds_on (by simp) rfl was (by simp)
          | nothing => exact proceeds_on (by simp) rfl was was
  | giving message =>
      cases message with
      | none =>
          refine ⟨fun more => absurd rfl more, fun _ => ⟨?_, by simp⟩⟩
          simp [stage]
      | some message => exact read.give_proceeds registered message answer registry stage
  | finished => exact proceeds_well (by simp [stage])

end LongPoll.Read

end TunnelRelay
