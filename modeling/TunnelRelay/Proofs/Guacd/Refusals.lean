import TunnelRelay.Proofs.Guacd.Hearing
import TunnelRelay.Proofs.Text.Unsigned

/-!
Handshakes that fail.

The relay waits for guacd twice. Whatever it hears there instead of what it waits for, or if it hears
nothing, is told as one kind of error; and by the point where the handshake stops, guacd has been
sent either the selection alone or the whole transcript.
-/

namespace TunnelRelay

def RelayError.reason? : RelayError → Option String
  | .connectionClosed reason | .client _ reason | .notFound reason
  | .server reason | .upstream _ reason => some reason
  | .malformed _ | .io _ => none

theorem Status.toError_spec (status : Status) (reason : String) :
    (status.toError reason).reason? = some reason ∧
      (status.toError reason).status =
        if status = .success then .serverError else status := by
  cases status <;> exact ⟨rfl, rfl⟩

theorem Status.ofGuacamoleCode?_iff (code : Nat) (status : Status) :
    ofGuacamoleCode? code = some status ↔ status.guacamoleCode = code := by
  constructor
  · intro found
    unfold ofGuacamoleCode? at found
    have same := List.find?_some found
    exact eq_of_beq same
  · rintro rfl
    exact ofGuacamoleCode?_guacamoleCode status

namespace Guacd

/-- The status that the second argument of an `error` stands for: one whose
number it is, where the number has sixteen bits and is not that of success. -/
def Means (code : Option String) (status : Status) : Prop :=
  ∃ text number, code = some text ∧ Denotes text number ∧ number ≤ 65535 ∧
    number ≠ 0 ∧ status.guacamoleCode = number

/-- What the relay makes of what it is told while it waits for an instruction. -/
inductive Refused (awaited : String) :
    (told : Except RelayError (Option Frame)) → RelayError → Prop
  | unread (error : RelayError) : Refused awaited (.error error) error
  | ended : Refused awaited (.ok none) (.server
      ("End of stream while waiting for \"" ++ awaited ++ "\"."))
  | left (args : List String) (raw : String) :
      Refused awaited (.ok (some ⟨⟨"disconnect", args⟩, raw⟩))
        (.connectionClosed
          ("Server disconnected while waiting for \"" ++ awaited ++ "\"."))
  | reported (args : List String) (raw : String) (error : RelayError)
      (reason : error.reason? = some (args.head?.getD
        "Internal error within guacd / protocol handling."))
      (status : Means args[1]? error.status ∨
        (¬ ∃ status, Means args[1]? status) ∧ error.status = .serverError) :
      Refused awaited (.ok (some ⟨⟨"error", args⟩, raw⟩)) error
  | other (instruction : Instruction) (raw : String)
      (different : instruction.opcode ∉ [awaited, "error", "disconnect"]) :
      Refused awaited (.ok (some ⟨instruction, raw⟩)) (.server
        ("Expected \"" ++ awaited ++ "\" instruction but instead received \""
          ++ instruction.opcode ++ "\"."))
  | nameless (raw : String) (ready : awaited = "ready") :
      Refused awaited (.ok (some ⟨⟨"ready", []⟩, raw⟩))
        (.server "No connection ID received")

theorem Means.ne_success {code : Option String} {status : Status}
    (means : Means code status) : status ≠ .success := by
  rintro rfl
  obtain ⟨text, number, -, -, -, some, rfl⟩ := means
  exact some rfl

theorem means_iff (code : Option String) (status : Status) :
    Means code status ↔
      (code.bind fun text => (parseUnsigned? 65535 text).bind
        Status.ofGuacamoleCode?) = some status ∧ status ≠ .success := by
  constructor
  · intro means
    refine ⟨?_, means.ne_success⟩
    obtain ⟨text, number, rfl, denotes, within, -, same⟩ := means
    rw [Option.bind_some,
      (parseUnsigned?_iff 65535 text number).mpr ⟨denotes, within⟩,
      Option.bind_some, Status.ofGuacamoleCode?_iff]
    exact same
  · rintro ⟨found, failure⟩
    obtain ⟨text, given, found⟩ := Option.bind_eq_some_iff.mp found
    obtain ⟨number, read, found⟩ := Option.bind_eq_some_iff.mp found
    obtain ⟨denotes, within⟩ := (parseUnsigned?_iff 65535 text number).mp read
    have same := (Status.ofGuacamoleCode?_iff number status).mp found
    refine ⟨text, number, given, denotes, within, ?_, same⟩
    rintro rfl
    apply failure
    cases status <;> first | rfl | cases same

theorem reportedFailure_spec (args : List String) :
    (reportedFailure args).reason? = some (args.head?.getD
        "Internal error within guacd / protocol handling.") ∧
      (Means args[1]? (reportedFailure args).status ∨
        (¬ ∃ status, Means args[1]? status) ∧
          (reportedFailure args).status = .serverError) := by
  have made := Status.toError_spec
    ((args[1]?.bind fun text => (parseUnsigned? 65535 text).bind
      Status.ofGuacamoleCode?).getD .serverError)
    (args.head?.getD "Internal error within guacd / protocol handling.")
  change (reportedFailure args).reason? = _ ∧
    (reportedFailure args).status = _ at made
  refine ⟨made.1, ?_⟩
  rw [made.2]
  have unmeant : (∀ status, (args[1]?.bind fun text =>
      (parseUnsigned? 65535 text).bind Status.ofGuacamoleCode?) = some status →
        status = .success) → ¬ ∃ status, Means args[1]? status := by
    rintro all ⟨status, means⟩
    exact means.ne_success (all status ((means_iff _ _).mp means).1)
  cases found : args[1]?.bind fun text =>
      (parseUnsigned? 65535 text).bind Status.ofGuacamoleCode? with
  | none =>
      rw [found] at unmeant
      exact .inr ⟨unmeant nofun, rfl⟩
  | some status =>
      rw [Option.getD_some]
      by_cases success : status = .success
      · rw [if_pos success]
        refine .inr ⟨unmeant ?_, rfl⟩
        rintro other same
        rw [found] at same
        cases same
        exact success
      · rw [if_neg success]
        exact .inl ((means_iff _ _).mpr ⟨found, success⟩)

theorem refused_expect {awaited : String}
    {told : Except RelayError (Option Frame)} {error : RelayError}
    (failed : (Handshake.instruction? told).bind (expect awaited) =
      .error error) :
    Refused awaited told error := by
  cases told with
  | error cause =>
      cases failed
      exact .unread _
  | ok read =>
      cases read with
      | none =>
          cases failed
          exact .ended
      | some frame =>
          obtain ⟨⟨opcode, args⟩, raw⟩ := frame
          change expect awaited (some ⟨opcode, args⟩) = .error error at failed
          simp only [expect] at failed
          split at failed
          · cases failed
          · rename_i unlike
            split at failed
            · rename_i leaving
              cases leaving
              cases failed
              exact .left args raw
            · rename_i stays
              split at failed
              · rename_i reporting
                cases reporting
                cases failed
                obtain ⟨reason, status⟩ := reportedFailure_spec args
                exact .reported args raw _ reason status
              · rename_i silent
                cases failed
                refine .other ⟨opcode, args⟩ raw ?_
                simp only [List.mem_cons, List.not_mem_nil, or_false, not_or]
                exact ⟨unlike, silent, stays⟩

/-- A handshake that fails behind the arguments has heard something else than
`ready`, or no identifier in it. -/
theorem refused_afterReady {version : ProtocolVersion}
    {told : Except RelayError (Option Frame)} {error : RelayError}
    (failed : Handshake.afterReady version (Handshake.instruction? told) =
      .finished (.error error)) :
    Refused "ready" told error := by
  have outcome := Stage.finished.inj failed
  cases answered : (Handshake.instruction? told).bind (expect "ready") with
  | error cause =>
      have same : cause = error := by
        cases heard : Handshake.instruction? told with
        | error cause =>
            rw [heard] at outcome answered
            cases answered
            exact Except.error.inj outcome
        | ok read =>
            rw [heard] at outcome answered
            have answered : expect "ready" read = .error cause := answered
            simp only [bind, Except.bind, answered] at outcome
            exact Except.error.inj outcome
      rw [← same]
      exact refused_expect answered
  | ok args =>
      cases told with
      | error cause => cases answered
      | ok read =>
          have answered : expect "ready" (read.map (·.instruction)) =
            .ok args := answered
          have heard := expect_ok answered
          cases read with
          | none => cases heard
          | some frame =>
              obtain ⟨instruction, raw⟩ := frame
              cases heard
              cases args with
              | nil =>
                  cases outcome
                  exact .nameless raw rfl
              | cons id more => cases outcome

variable {τ : Type} [ByteSink τ] {willing : τ → Prop} {taken : τ → Bytes}

/-- A handshake that fails has stopped at the first thing that guacd told, with
the selection alone written, or behind the arguments at the second, with the
whole transcript written. What was told there decides the error, in whichever
chunks it came and however often the relay had to wait. -/
theorem refusal_classified (takes : TakesAll willing taken)
    (spec : ConnectionSpec) (info : ClientInfo) (items : Schedule)
    (full : items.Full) (output : τ) (ready : willing output) (times : Nat)
    (error : RelayError) (reader : FrameReader) (backend : Backend (Timed τ))
    (failed : (Handshake.start spec info).resume times .ofGuacd
      { stream := ⟨items, output⟩ } =
        (.finished (.error error), reader, backend)) :
    (taken backend.stream.output = taken output ++ (select spec).wire ∧
        Refused "args" (told items.heard.frames items.ending?) error) ∨
      ∃ names raw others,
        items.heard.frames = ⟨⟨"args", names⟩, raw⟩ :: others ∧
        taken backend.stream.output = taken output ++
          (transcript spec info names).flatMap Instruction.wire ∧
        Refused "ready" (told others items.ending?) error := by
  have longer := Handshake.resume_more failed items.waits
  obtain ⟨later, next, ⟨cause, refused, ran, wrote⟩ |
    ⟨⟨instruction, raw⟩, names, others, first, rfl, ran, wrote, -⟩⟩ :=
      resume_start spec info takes full ready
        (.inl (Nat.le_add_left _ times))
  · rw [longer] at ran
    cases ran
    exact .inl ⟨wrote, refused_expect refused⟩
  · rw [longer] at ran
    have stage := congrArg Prod.fst ran
    have place := congrArg (·.2.2) ran
    simp only at stage place
    rw [← place] at wrote
    exact .inr ⟨names, raw, others, first, wrote,
      refused_afterReady stage.symm⟩

theorem Refused.reports {awaited : String} {args : List String} {raw : String}
    {error : RelayError}
    (refused : Refused awaited (.ok (some ⟨⟨"error", args⟩, raw⟩)) error) :
    error.reason? = some (args.head?.getD
        "Internal error within guacd / protocol handling.") ∧
      (Means args[1]? error.status ∨
        (¬ ∃ status, Means args[1]? status) ∧ error.status = .serverError) := by
  generalize heard : Except.ok (some (⟨⟨"error", args⟩, raw⟩ : Frame)) =
    told at refused
  cases refused with
  | unread | ended => cases heard
  | left others text => simp at heard
  | nameless text ready => simp at heard
  | reported others text error reason status =>
      simp only [Except.ok.injEq, Option.some.injEq, Frame.mk.injEq,
        Instruction.mk.injEq, true_and] at heard
      rw [heard.1]
      exact ⟨reason, status⟩
  | other instruction text different =>
      cases heard
      simp at different

/-- A failure that guacd reports in two parts, and a wait between them. -/
theorem refusal_classified_reported :
    let items : Schedule := [.ready (.ok (Bytes.ofText "5.error,3.b")),
      .parked, .ready (.ok (Bytes.ofText "ad,4.+519;"))]
    let result := (Handshake.start ⟨"vnc", []⟩ {}).resume 1 .ofGuacd
      ({ stream := ⟨items, {}⟩ } : Backend (Timed Sink))
    result.1 = .finished (.error (.upstream .upstreamNotFound "bad")) ∧
      result.2.2.stream.output.taken = (select ⟨"vnc", []⟩).wire ∧
      Means (some "+519") .upstreamNotFound := by
  intro items result
  have full : items.Full := by
    intro chunk member
    simp only [items, List.mem_cons, List.not_mem_nil, Poll.ready.injEq,
      Except.ok.injEq, reduceCtorEq, false_or, or_false] at member
    rcases member with rfl | rfl <;> decide
  have first : told items.heard.frames items.ending? =
      .ok (some ⟨⟨"error", ["bad", "+519"]⟩, "5.error,3.bad,4.+519;"⟩) := by
    decide +kernel
  have willing : ({} : Sink).accepts = none ∧ ({} : Sink).flushFault = none :=
    ⟨rfl, rfl⟩
  have enough : items.waits ≤ 1 := by decide
  obtain ⟨later, next, ⟨error, refused, ran, -⟩ | ⟨frame, names, others,
    split, asked, -⟩⟩ := resume_start ⟨"vnc", []⟩ {} Sink.takesAll full willing
      (.inl enough)
  · obtain rfl : error = .upstream .upstreamNotFound "bad" := by
      rw [first] at refused
      exact (Except.error.inj (refused.symm.trans (by decide +kernel)))
    obtain ⟨wrote, told⟩ | ⟨names, raw, others, asked, -⟩ :=
      refusal_classified Sink.takesAll ⟨"vnc", []⟩ {} items full {} willing
        1 _ _ _ ran
    · refine ⟨congrArg Prod.fst ran,
        (congrArg (·.2.2.stream.output.taken) ran).trans wrote, ?_⟩
      rw [first] at told
      obtain ⟨-, means | ⟨-, same⟩⟩ := told.reports
      · exact means
      · cases same
    · rw [asked] at first
      simp [told] at first
  · rw [split] at first
    cases first
    simp at asked

end Guacd

end TunnelRelay
