import TunnelRelay.Proofs.Relay.Closures
import TunnelRelay.Proofs.Relay.Endings

/-!
One request at a time.

While a single request is under way, its own steps are all that can close its tunnel. A write that
was let in keeps its tunnel open until it is answered, and from then on the tunnel is open if and
only if the answer is a success or a client error. A read that was let in keeps its tunnel open
until it is answered, and from then on the tunnel is open if and only if no step of the read has met
a bad ending.
-/

namespace TunnelRelay

open Http LongPoll WebSocket

variable {σ : Type}

/-- While one request is under way, the others do nothing and none arrives or
goes away. guacd, the sessions and the clock go on. -/
def Move.IsDuring (index : Nat) : Move σ → Prop
  | .task (.exchange other) => other = index
  | .receive _ _ _ | .abandon _ | .closeIdle => False
  | .task (.pump _) | .task (.handler _ _) | .deliver _ _ | .advance _
  | .openSession _ | .say _ _ | .lose _ | .guacd _ _ | .guacdSession _ _ => True

variable [Connection σ]

namespace Course

/-! ### What goes on beside a request -/

section Beside

variable (environment : Environment σ) (relay : Relay (Recorded σ))
  {index : Nat} {move : Move σ}

theorem fate_beside (during : move.IsDuring index)
    (other : move ≠ .task (.exchange index)) (uuid : Uuid) :
    Marks.fate (relay.marks environment (.move move)) (.registered uuid) =
      none := by
  cases move with
  | task task =>
      cases task with
      | exchange number =>
          cases during
          exact absurd rfl other
      | pump number =>
          simp only [Relay.marks]
          cases relay.sessions[number]? with
          | none => rfl
          | some session =>
              simp only [Option.elim_some, Session.pumpMarks]
              split <;> rfl
      | handler number heeds =>
          have departs : ∀ later, Marks.fate (Session.departure number later)
              (.registered uuid) = none := by
            intro later
            unfold Session.departure
            split <;> rfl
          simp only [Relay.marks]
          cases relay.sessions[number]? with
          | none => rfl
          | some session =>
              simp only [Option.elim_some, Session.handlerMarks]
              split
              · rfl
              · rfl
              · rfl
              · split <;> rfl
              all_goals exact departs _
  | openSession query =>
      simp only [Relay.marks, Relay.joinMarks]
      split <;> rfl
  | receive | abandon | closeIdle => exact during.elim
  | deliver | advance | say | lose | guacd | guacdSession => rfl

theorem exchange_beside (during : move.IsDuring index)
    (other : move ≠ .task (.exchange index)) {exchange : Exchange}
    (there : relay.exchanges[index]? = some exchange) :
    ∃ later, (relay.perform environment move).exchanges[index]? = some later ∧
      later.activity = exchange.activity ∧ later.answer = exchange.answer := by
  have still : (relay.perform environment move).exchanges = relay.exchanges →
      ∃ later, (relay.perform environment move).exchanges[index]? =
        some later ∧
      later.activity = exchange.activity ∧ later.answer = exchange.answer := by
    intro same
    rw [same]
    exact ⟨exchange, there, rfl, rfl⟩
  cases move with
  | task task =>
      cases task with
      | exchange number =>
          cases during
          exact absurd rfl other
      | pump number | handler number heeds =>
          apply still
          simp only [Relay.perform, Relay.step, Relay.stepSession]
          split <;> rfl
  | deliver number body =>
      simp only [Relay.perform, List.getElem?_modify, there]
      by_cases same : number = index
      · simp [same]
      · simp [same]
  | receive | abandon | closeIdle => exact during.elim
  | openSession | advance | say | lose | guacd | guacdSession => exact still rfl

end Beside

end Course

/-! ### Steps of a request -/

namespace LongPoll.Exchange

theorem step_writes {exchange : Exchange} (registry : Registry (Recorded σ))
    {write : Write} (writing : exchange.activity = .writing write) :
    ((write.step exchange.body exchange.answer registry).1.1 = .ended →
        (exchange.step registry).2.1.activity = .answered ∧
          (exchange.step registry).2.1.answer =
            (write.step exchange.body exchange.answer registry).1.2.2.1) ∧
      ((write.step exchange.body exchange.answer registry).1.1 ≠ .ended →
        (exchange.step registry).2.1.activity = .writing
          (write.step exchange.body exchange.answer registry).1.2.1) := by
  unfold step
  rw [writing]
  simp only
  split
  · rename_i stepped
    rw [stepped]
    exact ⟨fun _ => ⟨rfl, rfl⟩, fun more => absurd rfl more⟩
  · rename_i ended stepped
    rw [stepped]
    refine ⟨fun done => ?_, fun _ => rfl⟩
    cases done
    exact (ended rfl).elim

theorem step_reads {exchange : Exchange} (registry : Registry (Recorded σ))
    {read : Read} (reading : exchange.activity = .reading read) :
    ((read.step exchange.answer registry).1 = .ended →
        (exchange.step registry).2.1.activity = .answered ∧
          (exchange.step registry).2.1.answer =
            (read.step exchange.answer registry).2.2.1) ∧
      ((read.step exchange.answer registry).1 ≠ .ended →
        (exchange.step registry).2.1.activity = .reading
          (read.step exchange.answer registry).2.1) := by
  unfold step
  rw [reading]
  simp only
  split
  · rename_i stepped
    rw [stepped]
    exact ⟨fun _ => ⟨rfl, rfl⟩, fun more => absurd rfl more⟩
  · rename_i ended stepped
    rw [stepped]
    refine ⟨fun done => ?_, fun _ => rfl⟩
    cases done
    exact (ended rfl).elim

end LongPoll.Exchange

omit [Connection σ] in
theorem Mark.fate_closing (uuid : Uuid) (status : Option Status) :
    Marks.fate (Mark.closing uuid status) (.registered uuid) = status := by
  cases status with
  | none => rfl
  | some status => simp [Mark.closing, Marks.fate, Mark.closing?]

namespace Course

section Step

variable (environment : Environment σ) (course : Course σ) {index : Nat}
  {exchange : Exchange}

theorem perform_own
    (there : course.relay.exchanges[index]? = some exchange)
    (settled : ∀ parameters, exchange.activity ≠ .connecting parameters) :
    (course.perform environment (.move (.task (.exchange index)))).relay =
        course.relay.setExchange index
          (exchange.step course.relay.registry).2.1
          (exchange.step course.relay.registry).2.2 ∧
      (course.perform environment (.move (.task (.exchange index)))).marks =
        course.marks ++ exchange.marks course.relay.registry := by
  constructor
  · simp only [perform, Relay.undergo, Relay.perform, Relay.step,
      Relay.stepExchange, there]
  · simp only [perform, Relay.marks, there, Option.elim_some,
      Relay.exchangeMarks]

omit [Connection σ] in
theorem setExchange_own (relay : Relay (Recorded σ))
    (there : relay.exchanges[index]? = some exchange) (later : Exchange)
    (registry : Registry (Recorded σ)) :
    (relay.setExchange index later registry).exchanges[index]? =
      some later := by
  obtain ⟨within, -⟩ := List.getElem?_eq_some_iff.mp there
  exact List.getElem?_set_self within

theorem own_answered
    (there : course.relay.exchanges[index]? = some exchange)
    (done : exchange.activity = .answered) :
    (course.perform environment
        (.move (.task (.exchange index)))).relay.exchanges[index]? =
        some exchange ∧
      (course.perform environment (.move (.task (.exchange index)))).marks =
        course.marks := by
  obtain ⟨relay, marks⟩ :=
    course.perform_own environment there (by simp [done])
  have still : exchange.step course.relay.registry =
      (.ended, exchange, course.relay.registry) := by
    unfold Exchange.step
    rw [done]
  have nothing : exchange.marks course.relay.registry = [] := by
    unfold Exchange.marks
    rw [done]
  rw [relay, marks, still, nothing, List.append_nil]
  exact ⟨setExchange_own _ there exchange _, rfl⟩

end Step

/-! ### Writes -/

theorem fate_perform (environment : Environment σ) (course : Course σ)
    {index : Nat} {move : Move σ} (during : move.IsDuring index)
    (other : move ≠ .task (.exchange index)) (uuid : Uuid) :
    (course.perform environment (.move move)).marks.fate (.registered uuid) =
      course.marks.fate (.registered uuid) := by
  change Marks.fate (_ ++ _) _ = _
  rw [Marks.fate_append, fate_beside environment course.relay during other,
    Option.or_none]

/-- How far a write on a tunnel is that was let in: its tunnel is open as long
as the write is under way, and in the end it is open unless the answer says
otherwise. -/
inductive Writes (course : Course σ) (index number : Nat) (uuid : Uuid) : Prop
  | underway {exchange : Exchange} {write : Write}
      (there : course.relay.exchanges[index]? = some exchange)
      (writing : exchange.activity = .writing write)
      (tunnel : write.tunnel = number) (goes : write.stage ≠ .finished)
      (running : course.marks.fate (.registered uuid) = none)
  | answered {exchange : Exchange}
      (there : course.relay.exchanges[index]? = some exchange)
      (done : exchange.activity = .answered)
      (outcome : course.marks.fate (.registered uuid) = none ↔
        exchange.answer.isOk = true ∨ exchange.answer.IsClientError)

section Writes

variable {environment : Environment σ} {course : Course σ}
  {index number : Nat} {uuid : Uuid} {move : Move σ}

theorem Writes.beside (writes : course.Writes index number uuid)
    (during : move.IsDuring index) (other : move ≠ .task (.exchange index)) :
    (course.perform environment (.move move)).Writes index number uuid := by
  have fate := fate_perform environment course during other uuid
  cases writes with
  | underway there writing tunnel goes running =>
      obtain ⟨later, is, activity, -⟩ :=
        exchange_beside environment course.relay during other there
      exact .underway is (activity.trans writing) tunnel goes
        (fate.trans running)
  | answered there done outcome =>
      obtain ⟨later, is, activity, answer⟩ :=
        exchange_beside environment course.relay during other there
      refine .answered is (activity.trans done) ?_
      rw [fate, answer]
      exact outcome

theorem Writes.own {registered : RegisteredTunnel (Recorded σ)}
    (found : course.relay.registry.tunnel? number = some registered)
    (same : registered.tunnel.uuid = uuid)
    (seen : ∀ write body, writesOn course.relay.exchanges number index =
      some (write, body) → ∃ bytes, write.filtered.HasSeen bytes)
    (writes : course.Writes index number uuid) :
    (course.perform environment (.move (.task (.exchange index)))).Writes index
      number uuid := by
  cases writes with
  | answered there done outcome =>
      obtain ⟨still, marks⟩ :=
        course.own_answered environment there done
      refine .answered still done ?_
      rw [marks]
      exact outcome
  | underway there writing tunnel goes running =>
      rename_i exchange write
      subst tunnel same
      obtain ⟨relay, marks⟩ :=
        course.perform_own environment there (by simp [writing])
      have comes := write.step_comes exchange.body exchange.answer
        course.relay.registry found goes
      have is := setExchange_own course.relay there
        (exchange.step course.relay.registry).2.1
        (exchange.step course.relay.registry).2.2
      rw [← relay] at is
      have fate : (course.perform environment
          (.move (.task (.exchange index)))).marks.fate
          (.registered registered.tunnel.uuid) =
            (write.failure? exchange.body registered.tunnel).bind
              Write.closesAfter? := by
        rw [marks, Marks.fate_append, running, Option.none_or, Exchange.marks,
          writing]
        simp only [found, Option.elim_some]
        exact Mark.fate_closing _ _
      obtain ⟨ends, goesOn⟩ :=
        Exchange.step_writes course.relay.registry writing
      -- either the write is answered with this step, or it cannot have failed
      by_cases done : (write.step exchange.body exchange.answer
          course.relay.registry).1.1 = .ended
      · obtain ⟨answered, answer⟩ := ends done
        refine .answered is answered ?_
        rw [fate, answer]
        cases failure : write.failure? exchange.body registered.tunnel with
        | none =>
            rw [comes.done failure done, Answer.whole_isOk]
            simp
        | some error =>
            obtain ⟨bytes, has⟩ := seen write exchange.body
              (writesOn_of_writing there writing)
            rw [(comes.failed error failure).2, Answer.failure_isClientError,
              Answer.failure_isOk _ (Write.failure?_fails has failure)]
            simp [Write.closesAfter?]
      · refine .underway is (goesOn done) ?_ (comes.goes done) ?_
        · exact write.step_tunnel exchange.body exchange.answer _
        · rw [fate]
          cases failure : write.failure? exchange.body registered.tunnel with
          | none => rfl
          | some error => exact absurd (comes.failed error failure).1 done

end Writes

end Course

/-! ### Reads -/

def LongPoll.Exchange.ending? (exchange : Exchange)
    (registry : Registry (Recorded σ)) : Option Ending :=
  match exchange.activity with
  | .reading read =>
      (registry.tunnel? read.tunnel).bind (read.ending? exchange.answer)
  | .collecting _ | .connecting _ | .writing _ | .answered => none

def Relay.ending? (relay : Relay (Recorded σ)) (index : Nat) :
    Move σ → Option Ending
  | .task (.exchange other) =>
      if other = index then
        relay.exchanges[index]?.bind (·.ending? relay.registry)
      else none
  | _ => none

namespace Course

theorem ending?_beside (relay : Relay (Recorded σ)) {index : Nat}
    {move : Move σ} (other : move ≠ .task (.exchange index)) :
    relay.ending? index move = none := by
  unfold Relay.ending?
  split
  · rename_i number
    rw [if_neg]
    rintro rfl
    exact other rfl
  · rfl

/-- How far a read on a tunnel is that was let in, and that has met some
endings. -/
inductive Reads (course : Course σ) (index number : Nat) (uuid : Uuid)
    (met : Ending → Prop) : Prop
  | underway {exchange : Exchange} {read : Read}
      (there : course.relay.exchanges[index]? = some exchange)
      (reading : exchange.activity = .reading read)
      (tunnel : read.tunnel = number)
      (running : course.marks.fate (.registered uuid) = none)
      (mild : ∀ ending, met ending → ending = .endOfStream)
      (giving : read.stage = .giving none ↔ ∃ ending, met ending)
  | answered {exchange : Exchange}
      (there : course.relay.exchanges[index]? = some exchange)
      (done : exchange.activity = .answered)
      (outcome : course.marks.fate (.registered uuid) = none ↔
        ¬ ∃ ending, met ending)
      (shown : ∀ ending, met ending → ending.Shows exchange.answer)

section Reads

variable {environment : Environment σ} {course : Course σ}
  {index number : Nat} {uuid : Uuid} {move : Move σ} {met : Ending → Prop}

theorem Reads.beside (reads : course.Reads index number uuid met)
    (during : move.IsDuring index) (other : move ≠ .task (.exchange index)) :
    (course.perform environment (.move move)).Reads index number uuid met := by
  have fate := fate_perform environment course during other uuid
  cases reads with
  | underway there reading tunnel running mild giving =>
      obtain ⟨later, is, activity, -⟩ :=
        exchange_beside environment course.relay during other there
      exact .underway is (activity.trans reading) tunnel (fate.trans running)
        mild giving
  | answered there done outcome shown =>
      obtain ⟨later, is, activity, answer⟩ :=
        exchange_beside environment course.relay during other there
      refine .answered is (activity.trans done) ?_ ?_
      · rw [fate]
        exact outcome
      · rw [answer]
        exact shown

theorem Reads.own {registered : RegisteredTunnel (Recorded σ)}
    (found : course.relay.registry.tunnel? number = some registered)
    (same : registered.tunnel.uuid = uuid)
    (reads : course.Reads index number uuid met) :
    (course.perform environment (.move (.task (.exchange index)))).Reads index
      number uuid fun ending => met ending ∨
        course.relay.ending? index (.task (.exchange index)) =
          some ending := by
  cases reads with
  | answered there done outcome shown =>
      rename_i exchange
      obtain ⟨still, marks⟩ :=
        course.own_answered environment there done
      have nothing : course.relay.ending? index (.task (.exchange index)) =
          none := by
        simp [Relay.ending?, there, Exchange.ending?, done]
      simp only [nothing, reduceCtorEq, or_false]
      refine .answered still done ?_ shown
      rw [marks]
      exact outcome
  | underway there reading tunnel running mild giving =>
      rename_i exchange read
      subst tunnel same
      obtain ⟨relay, marks⟩ :=
        course.perform_own environment there (by simp [reading])
      have proceeds := read.step_proceeds exchange.answer
        course.relay.registry found
      have is := setExchange_own course.relay there
        (exchange.step course.relay.registry).2.1
        (exchange.step course.relay.registry).2.2
      rw [← relay] at is
      have meets : course.relay.ending? index (.task (.exchange index)) =
          read.ending? exchange.answer registered := by
        simp [Relay.ending?, there, Exchange.ending?, reading, found]
      have fate : (course.perform environment
          (.move (.task (.exchange index)))).marks.fate
          (.registered registered.tunnel.uuid) =
            read.closes? exchange.answer registered := by
        rw [marks, Marks.fate_append, running, Option.none_or, Exchange.marks,
          reading]
        simp only [found, Option.elim_some]
        exact Mark.fate_closing _ _
      -- an ending was met before, which is told by now, or is met with this step
      have either : (∃ ending, met ending ∨
          read.ending? exchange.answer registered = some ending) ↔
          read.stage = .giving none ∨
            (read.ending? exchange.answer registered).isSome = true := by
        rw [exists_or, giving, Option.isSome_iff_exists]
      rw [meets]
      obtain ⟨ends, goesOn⟩ :=
        Exchange.step_reads course.relay.registry reading
      by_cases done : (read.step exchange.answer course.relay.registry).1 =
          .ended
      · obtain ⟨answered, answer⟩ := ends done
        obtain ⟨closes, shown⟩ := proceeds.ends done
        refine .answered is answered ?_ ?_
        · rw [fate, either, ← closes]
          simp
        · rw [answer]
          rintro ending (before | now)
          · rw [mild ending before]
            trivial
          · exact shown ending now
      · obtain ⟨tunnel, open_, mildly, gives⟩ := proceeds.goes done
        refine .underway is (goesOn done) tunnel (fate.trans open_) ?_ ?_
        · rintro ending (before | now)
          · exact mild ending before
          · exact mildly ending now
        · rw [gives, either]

end Reads

end Course

end TunnelRelay
