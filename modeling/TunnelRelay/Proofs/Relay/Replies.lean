import TunnelRelay.Proofs.Relay.Turns
import TunnelRelay.Stream.Link

/-!
Replies on their way to a browser.

A push queues its replies, and stores a permit in a second step. Many pushes may be under way while
a read looks into the queue, finds nothing, and waits. Queue and permit are then out of step in both
directions: replies are taken before their permit comes, and one permit stands for several pushes.
Still no reply is left behind by a read that waits: as long as a reply is queued, a permit is there
or on its way.
-/

namespace TunnelRelay

open Http LongPoll

/-! ### Outboxes -/

namespace Registry

variable {σ : Type}

def outboxes (registry : Registry σ) : List Outbox :=
  registry.tunnels.map (·.outbox)

variable (registry : Registry σ)

theorem outboxes_getElem? (number : Nat) :
    registry.outboxes[number]? = (registry.tunnel? number).map (·.outbox) :=
  List.getElem?_map

variable {registry} in
theorem outboxes_found {number : Nat} {registered : RegisteredTunnel σ}
    (found : registry.tunnel? number = some registered) :
    registry.outboxes[number]? = some registered.outbox := by
  rw [outboxes_getElem?, found]
  rfl

theorem outboxes_onOutbox (number : Nat) (change : Outbox → Outbox) :
    (registry.onOutbox number change).outboxes =
      registry.outboxes.modify number change :=
  registry.map_update number fun _ _ => rfl

theorem outboxes_rest (number : Nat)
    {change : RegisteredTunnel σ → RegisteredTunnel σ}
    (rests : ∀ registered, registry.tunnel? number = some registered →
      (change registered).outbox = registered.outbox) :
    (registry.update number change).outboxes = registry.outboxes :=
  registry.map_update_rest number rests

theorem outboxes_onTunnel (number : Nat) (change : Tunnel σ → Tunnel σ) :
    (registry.onTunnel number change).outboxes = registry.outboxes :=
  registry.outboxes_rest number fun _ _ => rfl

theorem outboxes_close [Connection σ] (uuid : Uuid) (status : Status) :
    (registry.close uuid status).2.outboxes = registry.outboxes := by
  unfold close
  split
  · rfl
  · rename_i number _
    exact registry.outboxes_rest number fun _ _ => rfl

variable {registry} in
theorem store_onOutbox {number : Nat} {registered : RegisteredTunnel σ}
    (found : registry.tunnel? number = some registered)
    (change : Outbox → Outbox) :
    (registry.update number fun _ =>
        { registered with outbox := change registered.outbox }) =
      registry.onOutbox number change := by
  refine registry.update_congr number ?_
  intro other there
  rw [found] at there
  cases there
  rfl

end Registry

/-! ### Turns of a read -/

namespace LongPoll.Read

variable {σ : Type} [Connection σ]

/-- A read has gone on without a look at the outbox, and does not wait. -/
structure Passes (read : Read) (registry : Registry σ)
    (turned : Pace × Read × Answer × Registry σ) : Prop where
  tunnel : turned.2.1.tunnel = read.tunnel
  stage : turned.2.1.stage ≠ .waiting
  outboxes : turned.2.2.2.outboxes = registry.outboxes

variable (read : Read) (registry : Registry σ)

omit [Connection σ] in
theorem finish_passes {last : Read} {next : Registry σ}
    (same : last.tunnel = read.tunnel)
    (kept : next.outboxes = registry.outboxes) (answer : Answer) :
    read.Passes registry (.ended, last.finish answer next) := by
  refine ⟨same, by simp [finish], ?_⟩
  exact (next.outboxes_onTunnel _ _).trans kept

theorem fail_passes {last : Read} {next : Registry σ}
    (same : last.tunnel = read.tunnel)
    (kept : next.outboxes = registry.outboxes) (uuid : Uuid)
    (error : RelayError) (answer : Answer) :
    read.Passes registry (.ended, last.fail uuid error answer next) := by
  unfold fail
  split
  · refine read.finish_passes registry same ?_ answer
    exact (next.outboxes_close uuid _).trans kept
  · refine read.finish_passes registry ?_ ?_ answer
    · exact same
    · exact (next.outboxes_close uuid _).trans kept

theorem receive_passes (uuid : Uuid)
    (outcome : Except RelayError (Option Message)) (answer : Answer) :
    read.Passes registry (read.receive uuid outcome answer registry) := by
  unfold receive
  split
  · split
    · exact ⟨rfl, nofun, rfl⟩
    · exact read.fail_passes registry rfl rfl uuid _ answer
  · split
    · exact ⟨rfl, nofun, rfl⟩
    · rename_i error _
      refine ⟨rfl, nofun, ?_⟩
      exact (Registry.outboxes_onTunnel _ _ _).trans
        (registry.outboxes_close uuid error.status)

theorem give_passes (registered : RegisteredTunnel σ) (message : Message)
    (answer : Answer) :
    read.Passes registry (read.give registered message answer registry) := by
  unfold give
  simp only
  split
  · split
    · exact read.finish_passes registry (by rfl) (by rfl) answer
    · exact ⟨rfl, nofun, rfl⟩
  · split
    · exact read.finish_passes registry (by rfl) (by rfl) _
    · exact read.fail_passes registry (by rfl) (by rfl) _ _ _

variable {read registry} {registered : RegisteredTunnel σ}

theorem step_passes (found : registry.tunnel? read.tunnel = some registered)
    (looks : read.stage ≠ .looking) (waits : read.stage ≠ .waiting)
    (answer : Answer) :
    read.Passes registry (read.step answer registry) := by
  unfold step
  simp only [found]
  split
  · split
    · exact ⟨rfl, waits, rfl⟩
    · refine ⟨rfl, nofun, registry.outboxes_rest _ ?_⟩
      intro other there
      rw [found] at there
      cases there
      rfl
  · rename_i stage
    exact absurd stage looks
  · rename_i stage
    exact absurd stage waits
  · exact read.finish_passes registry rfl (registry.outboxes_close _ _) answer
  · exact read.give_passes registry registered _ answer
  · exact ⟨rfl, waits, rfl⟩

theorem step_looks (found : registry.tunnel? read.tunnel = some registered)
    (looking : read.stage = .looking) (answer : Answer) :
    (read.step answer registry).2.1.tunnel = read.tunnel ∧
      (read.step answer registry).2.1.stage =
        (if registered.outbox.queue = [] then .waiting
        else .giving (some (.ofInstructions registered.outbox.queue))) ∧
      (read.step answer registry).2.2.2.outboxes =
        registry.outboxes.modify read.tunnel ({ · with queue := [] }) := by
  have stored := registry.outboxes_onOutbox read.tunnel ({ · with queue := [] })
  rw [← Registry.store_onOutbox found] at stored
  by_cases queued : registered.outbox.queue = []
  · simp only [step, found, looking, lookInside_nothing queued, if_pos queued]
    refine ⟨trivial, trivial, ?_⟩
    rw [← stored]
    obtain ⟨tunnel, token, registeredAt, lastAccess, listed, queue, permit⟩ :=
      registered
    cases queued
    rfl
  · simp only [step, found, looking, lookInside_found queued, if_neg queued]
    unfold receive
    split
    · exact ⟨rfl, rfl, stored⟩
    · exact ⟨rfl, rfl, stored⟩

theorem step_roused (found : registry.tunnel? read.tunnel = some registered)
    (waiting : read.stage = .waiting)
    (permit : registered.outbox.permit = true) (answer : Answer) :
    read.step answer registry = (.goesOn, { read with stage := .looking },
      answer, registry.onOutbox read.tunnel ({ · with permit := false })) := by
  simp only [step, found, waiting, await_again permit]
  rw [← Registry.store_onOutbox found]

theorem step_asks (found : registry.tunnel? read.tunnel = some registered)
    (waiting : read.stage = .waiting)
    (permit : registered.outbox.permit = false) (answer : Answer) :
    (read.step answer registry).2.1.tunnel = read.tunnel ∧
      (read.step answer registry).2.2.2.outboxes = registry.outboxes := by
  cases reading : registered.tunnel.readFrame with
  | mk outcome tunnel =>
      have stored : (registry.update read.tunnel fun _ =>
          { registered with tunnel }).outboxes = registry.outboxes := by
        refine registry.outboxes_rest _ ?_
        intro other there
        rw [found] at there
        cases there
        rfl
      simp only [step, found, waiting, await_readFrame permit reading]
      cases outcome with
      | parked => exact ⟨rfl, stored⟩
      | ready outcome =>
          have passes := read.receive_passes (registry.update read.tunnel
            fun _ => { registered with tunnel }) registered.tunnel.uuid
            (outcome.map (·.map Message.ofFrame)) answer
          exact ⟨passes.tunnel, passes.outboxes.trans stored⟩

end LongPoll.Read

/-! ### Pushes under way -/

/-- The read that has the reader of a tunnel, and the pushes to that tunnel that
have queued their replies and not yet stored their permit. -/
structure Desk (σ : Type) where
  registry : Registry σ
  read : Read
  answer : Answer := {}
  unannounced : Nat := 0

namespace Desk

inductive Happening where
  | queued (replies : List Instruction)
  | announced
  /-- The read takes what it finds in the queue. -/
  | looked (found : List Instruction)
  /-- The read, which waits, consumes a permit. -/
  | roused
  /-- The read, which waits, asks guacd for a frame. -/
  | asked (outcome : Poll (Except RelayError (Option Frame)))
  | worked
  /-- Another read gets the reader. -/
  | relieved
  | elsewhere

namespace Happening

def queue : Happening → List Instruction
  | queued replies => replies
  | _ => []

def taken : Happening → List Instruction
  | looked found => found
  | _ => []

def isTurn : Happening → Bool
  | looked _ | roused | asked _ | worked => true
  | queued _ | announced | relieved | elsewhere => false

end Happening

variable {σ : Type} [Connection σ]

def outbox? (desk : Desk σ) : Option Outbox :=
  desk.registry.outboxes[desk.read.tunnel]?

def turn (desk : Desk σ) : Happening :=
  match desk.registry.tunnel? desk.read.tunnel, desk.read.stage with
  | some registered, .looking => .looked registered.outbox.queue
  | some registered, .waiting =>
      if registered.outbox.permit then .roused
      else .asked registered.tunnel.readFrame.1
  | _, _ => .worked

def turned (desk : Desk σ) : Desk σ :=
  let (_, read, answer, registry) := desk.read.step desk.answer desk.registry
  { desk with registry, read, answer }

/-- The two halves of a push stand for themselves. Whatever else happens to the
relay leaves the outbox alone. -/
inductive Step (desk : Desk σ) : Happening → Desk σ → Prop
  | queue {replies : List Instruction} (some : replies ≠ []) :
      Step desk (.queued replies) { desk with
        registry := desk.registry.onOutbox desk.read.tunnel (·.extend replies)
        unannounced := desk.unannounced + 1 }
  | announce {others : Nat} (begun : desk.unannounced = others + 1) :
      Step desk .announced { desk with
        registry := desk.registry.onOutbox desk.read.tunnel (·.notify)
        unannounced := others }
  | turn : Step desk desk.turn desk.turned
  | relieve {read : Read} (answer : Answer)
      (tunnel : read.tunnel = desk.read.tunnel)
      (fresh : read.stage = .acquiring) :
      Step desk .relieved { desk with read, answer }
  | elsewhere {registry : Registry σ}
      (same : registry.outboxes[desk.read.tunnel]? = desk.outbox?) :
      Step desk .elsewhere { desk with registry }

inductive Run : Desk σ → List Happening → Desk σ → Prop
  | nil (desk : Desk σ) : Run desk [] desk
  | cons {desk middle last : Desk σ} {happening : Happening}
      {happenings : List Happening} (step : desk.Step happening middle)
      (run : Run middle happenings last) :
      Run desk (happening :: happenings) last

omit [Connection σ] in
theorem push_halves (registry : Registry σ) (number : Nat)
    {replies : List Instruction} (some : replies ≠ []) :
    registry.onOutbox number (·.push replies) =
      (registry.onOutbox number (·.extend replies)).onOutbox number
        (·.notify) := by
  have push : (fun outbox : Outbox => outbox.push replies) =
      fun outbox => (outbox.extend replies).notify := by
    funext outbox
    rw [Outbox.push, if_neg]
    rwa [List.isEmpty_iff]
  unfold Registry.onOutbox Registry.update
  rw [push, List.modify_modify_eq]
  rfl

/-! ### Turns -/

variable {desk next last : Desk σ} {outbox : Outbox} {happening : Happening}

omit [Connection σ] in
theorem outbox?_found (there : desk.outbox? = some outbox) :
    ∃ registered, desk.registry.tunnel? desk.read.tunnel = some registered ∧
      registered.outbox = outbox := by
  rw [outbox?, Registry.outboxes_getElem?, Option.map_eq_some_iff] at there
  exact there

theorem turned_outbox? (desk : Desk σ) :
    desk.turned.outbox? =
      (desk.read.step desk.answer desk.registry).2.2.2.outboxes[
        (desk.read.step desk.answer desk.registry).2.1.tunnel]? := rfl

theorem turn_looking (there : desk.outbox? = some outbox)
    (looking : desk.read.stage = .looking) :
    desk.turn = .looked outbox.queue ∧
      desk.turned.outbox? = some { outbox with queue := [] } ∧
      desk.turned.read.stage = if outbox.queue = [] then .waiting
        else .giving (some (.ofInstructions outbox.queue)) := by
  obtain ⟨registered, found, rfl⟩ := outbox?_found there
  obtain ⟨tunnel, stage, outboxes⟩ := Read.step_looks found looking desk.answer
  refine ⟨by simp only [turn, found, looking], ?_, stage⟩
  rw [turned_outbox?, tunnel, outboxes, List.getElem?_modify_eq,
    Registry.outboxes_found found]
  rfl

theorem turn_roused (there : desk.outbox? = some outbox)
    (waiting : desk.read.stage = .waiting) (permit : outbox.permit = true) :
    desk.turn = .roused ∧ desk.turned = { desk with
      registry := desk.registry.onOutbox desk.read.tunnel
        ({ · with permit := false })
      read := { desk.read with stage := .looking } } := by
  obtain ⟨registered, found, rfl⟩ := outbox?_found there
  refine ⟨?_, ?_⟩
  · simp only [turn, found, waiting, permit, if_true]
  · rw [turned, Read.step_roused found waiting permit]

theorem turn_asks (there : desk.outbox? = some outbox)
    (waiting : desk.read.stage = .waiting) (permit : outbox.permit = false) :
    (∃ outcome, desk.turn = .asked outcome) ∧
      desk.turned.outbox? = some outbox := by
  obtain ⟨registered, found, rfl⟩ := outbox?_found there
  obtain ⟨tunnel, outboxes⟩ := Read.step_asks found waiting permit desk.answer
  refine ⟨⟨registered.tunnel.readFrame.1, ?_⟩, ?_⟩
  · simp only [turn, found, waiting, permit, Bool.false_eq_true, if_false]
  · rw [turned_outbox?, tunnel, outboxes, Registry.outboxes_found found]

theorem turn_passes (there : desk.outbox? = some outbox)
    (looks : desk.read.stage ≠ .looking) (waits : desk.read.stage ≠ .waiting) :
    desk.turn = .worked ∧ desk.turned.outbox? = some outbox ∧
      desk.turned.read.stage ≠ .waiting := by
  obtain ⟨registered, found, rfl⟩ := outbox?_found there
  have passes := Read.step_passes found looks waits desk.answer
  refine ⟨?_, ?_, passes.stage⟩
  · unfold turn
    rw [found]
    split
    · rename_i stage
      exact absurd stage looks
    · rename_i stage
      exact absurd stage waits
    · rfl
  · rw [turned_outbox?, passes.tunnel, passes.outboxes,
      Registry.outboxes_found found]

/-! ### No reply is left behind -/

/-- While the read waits, a reply in the queue has a permit, or a push that is
about to store one. -/
structure Keeps (desk : Desk σ) (outbox : Outbox) : Prop where
  there : desk.outbox? = some outbox
  told : desk.read.stage = .waiting → outbox.queue ≠ [] →
    0 < desk.unannounced ∨ outbox.permit = true

omit [Connection σ] in
theorem outbox?_onOutbox (there : desk.outbox? = some outbox)
    (change : Outbox → Outbox) :
    (desk.registry.onOutbox desk.read.tunnel change).outboxes[
      desk.read.tunnel]? = some (change outbox) := by
  rw [Registry.outboxes_onOutbox, List.getElem?_modify_eq]
  exact congrArg (Option.map change) there

theorem keeps_turned (keeps : desk.Keeps outbox) :
    ∃ after, desk.turned.Keeps after ∧
      outbox.queue ++ desk.turn.queue = desk.turn.taken ++ after.queue := by
  by_cases looking : desk.read.stage = .looking
  · obtain ⟨turn, left, -⟩ := turn_looking keeps.there looking
    refine ⟨_, ⟨left, fun _ some => absurd rfl some⟩, ?_⟩
    rw [turn]
    rfl
  · by_cases waiting : desk.read.stage = .waiting
    · cases permit : outbox.permit with
      | true =>
          obtain ⟨turn, turned⟩ := turn_roused keeps.there waiting permit
          refine ⟨{ outbox with permit := false }, ⟨?_, ?_⟩, ?_⟩
          · rw [turned]
            exact outbox?_onOutbox keeps.there _
          · rw [turned]
            exact nofun
          · rw [turn]
            exact List.append_nil _
      | false =>
          obtain ⟨⟨outcome, turn⟩, left⟩ :=
            turn_asks keeps.there waiting permit
          refine ⟨outbox, ⟨left, ?_⟩, ?_⟩
          · intro _ some
            exact keeps.told waiting some
          · rw [turn]
            exact List.append_nil _
    · obtain ⟨turn, left, done⟩ := turn_passes keeps.there looking waiting
      refine ⟨outbox, ⟨left, fun again => absurd again done⟩, ?_⟩
      rw [turn]
      exact List.append_nil _

theorem Step.keeps (keeps : desk.Keeps outbox)
    (step : desk.Step happening next) :
    ∃ after, next.Keeps after ∧
      outbox.queue ++ happening.queue = happening.taken ++ after.queue := by
  cases step with
  | @queue replies some =>
      refine ⟨outbox.extend replies,
        ⟨outbox?_onOutbox keeps.there _, fun _ _ => ?_⟩, rfl⟩
      exact .inl (Nat.succ_pos _)
  | announce begun =>
      exact ⟨outbox.notify, ⟨outbox?_onOutbox keeps.there _,
        fun _ _ => .inr rfl⟩, List.append_nil _⟩
  | turn => exact keeps_turned keeps
  | relieve answer tunnel fresh =>
      refine ⟨outbox, ⟨?_, ?_⟩, List.append_nil _⟩
      · rw [outbox?, tunnel]
        exact keeps.there
      · rw [fresh]
        exact nofun
  | elsewhere same =>
      exact ⟨outbox, ⟨same.trans keeps.there, keeps.told⟩, List.append_nil _⟩

theorem Run.keeps {happenings : List Happening} (keeps : desk.Keeps outbox)
    (run : Run desk happenings last) :
    ∃ after, last.Keeps after ∧
      outbox.queue ++ happenings.flatMap Happening.queue =
        happenings.flatMap Happening.taken ++ after.queue := by
  induction run generalizing outbox with
  | nil desk => exact ⟨outbox, keeps, List.append_nil _⟩
  | cons step run ih =>
      obtain ⟨middle, keeps, first⟩ := step.keeps keeps
      obtain ⟨after, keeps, rest⟩ := ih keeps
      refine ⟨after, keeps, ?_⟩
      rw [List.flatMap_cons, List.flatMap_cons, ← List.append_assoc, first,
        List.append_assoc, rest, List.append_assoc]

/-- The replies `queue` are there for the next look, which comes before guacd is
asked again. -/
structure Due (desk : Desk σ) (queue : List Instruction) (outbox : Outbox) :
    Prop where
  there : desk.outbox? = some outbox
  queued : queue <+: outbox.queue
  told : desk.read.stage = .waiting → outbox.permit = true

/-- Of all that the read gets from the queue or from guacd, the replies `queue`
are the first. -/
def TakenFirst (queue : List Instruction) : List Happening → Prop
  | [] => True
  | .looked found :: _ => queue <+: found
  | .asked _ :: _ => False
  | _ :: happenings => TakenFirst queue happenings

theorem Step.due {queue : List Instruction} (due : desk.Due queue outbox)
    (step : desk.Step happening next) :
    (∃ found, happening = .looked found ∧ queue <+: found) ∨
      (∃ after, next.Due queue after) ∧
        ∀ happenings, TakenFirst queue happenings →
          TakenFirst queue (happening :: happenings) := by
  cases step with
  | @queue replies some =>
      refine .inr ⟨⟨outbox.extend replies, outbox?_onOutbox due.there _, ?_,
        due.told⟩, fun _ => id⟩
      exact due.queued.trans (List.prefix_append _ _)
  | announce begun =>
      exact .inr ⟨⟨outbox.notify, outbox?_onOutbox due.there _, due.queued,
        fun _ => rfl⟩, fun _ => id⟩
  | turn =>
      by_cases looking : desk.read.stage = .looking
      · exact .inl ⟨outbox.queue, (turn_looking due.there looking).1,
          due.queued⟩
      · by_cases waiting : desk.read.stage = .waiting
        · obtain ⟨turn, turned⟩ :=
            turn_roused due.there waiting (due.told waiting)
          rw [turn, turned]
          exact .inr ⟨⟨_, outbox?_onOutbox due.there _, due.queued, nofun⟩,
            fun _ => id⟩
        · obtain ⟨turn, left, done⟩ := turn_passes due.there looking waiting
          rw [turn]
          exact .inr ⟨⟨outbox, left, due.queued,
            fun again => absurd again done⟩, fun _ => id⟩
  | relieve answer tunnel fresh =>
      refine .inr ⟨⟨outbox, ?_, due.queued, ?_⟩, fun _ => id⟩
      · rw [outbox?, tunnel]
        exact due.there
      · rw [fresh]
        exact nofun
  | elsewhere same =>
      exact .inr ⟨⟨outbox, same.trans due.there, due.queued, due.told⟩,
        fun _ => id⟩

theorem Run.takenFirst {queue : List Instruction} {happenings : List Happening}
    (due : desk.Due queue outbox) (run : Run desk happenings last) :
    TakenFirst queue happenings := by
  induction run generalizing outbox with
  | nil desk => trivial
  | cons step run ih =>
      obtain ⟨found, rfl, taken⟩ | ⟨⟨after, due⟩, later⟩ := step.due due
      · exact taken
      · exact later _ (ih due)

theorem turn_isTurn (desk : Desk σ) : desk.turn.isTurn = true := by
  unfold turn
  split
  · rfl
  · split <;> rfl
  · rfl

/-- What is not a turn of the read leaves the read alone. -/
theorem Step.turn_or_rest (step : desk.Step happening next) :
    happening = desk.turn ∧ next = desk.turned ∨ happening = .relieved ∨
      happening.isTurn = false ∧ next.read = desk.read := by
  cases step with
  | turn => exact .inl ⟨rfl, rfl⟩
  | relieve answer tunnel fresh => exact .inr (.inl rfl)
  | queue some => exact .inr (.inr ⟨rfl, rfl⟩)
  | announce begun => exact .inr (.inr ⟨rfl, rfl⟩)
  | elsewhere same => exact .inr (.inr ⟨rfl, rfl⟩)

def turns (happenings : List Happening) : List Happening :=
  happenings.filter Happening.isTurn

theorem Run.turns_looking {queue : List Instruction}
    {happenings : List Happening} (due : desk.Due queue outbox)
    (looking : desk.read.stage = .looking) (run : Run desk happenings last)
    (same : .relieved ∉ happenings) :
    turns happenings = [] ∨ ∃ found more,
      turns happenings = .looked found :: more ∧ queue <+: found := by
  induction run generalizing outbox with
  | nil desk => exact .inl rfl
  | cons step run ih =>
      rw [List.mem_cons, not_or] at same
      obtain ⟨rfl, -⟩ | rfl | ⟨aside, still⟩ := step.turn_or_rest
      · have turn := (turn_looking due.there looking).1
        rw [turn]
        exact .inr ⟨outbox.queue, _, rfl, due.queued⟩
      · exact absurd rfl same.1
      · obtain ⟨found, rfl, -⟩ | ⟨⟨after, due⟩, -⟩ := step.due due
        · cases aside
        · rw [turns, List.filter_cons, if_neg (by rw [aside]; decide)]
          exact ih due (still ▸ looking) same.2

theorem Run.turns_waiting {queue : List Instruction}
    {happenings : List Happening} (due : desk.Due queue outbox)
    (waiting : desk.read.stage = .waiting) (run : Run desk happenings last)
    (same : .relieved ∉ happenings) :
    turns happenings <+: [.roused] ∨ ∃ found more,
      turns happenings = .roused :: .looked found :: more ∧
        queue <+: found := by
  induction run generalizing outbox with
  | nil desk => exact .inl List.nil_prefix
  | @cons desk middle last happening happenings step run ih =>
      rw [List.mem_cons, not_or] at same
      obtain ⟨rfl, rfl⟩ | rfl | ⟨aside, still⟩ := step.turn_or_rest
      · obtain ⟨turn, turned⟩ :=
          turn_roused due.there waiting (due.told waiting)
        obtain ⟨found, impossible, -⟩ | ⟨⟨after, due⟩, -⟩ := step.due due
        · rw [turn] at impossible
          cases impossible
        · rw [turned] at due run
          have behind : turns (desk.turn :: happenings) =
              .roused :: turns happenings := by
            rw [turn, turns, List.filter_cons_of_pos rfl, ← turns]
          rw [behind]
          obtain none | ⟨found, more, look, taken⟩ :=
            run.turns_looking due rfl same.2
          · rw [none]
            exact .inl List.prefix_rfl
          · rw [look]
            exact .inr ⟨found, more, rfl, taken⟩
      · exact absurd rfl same.1
      · obtain ⟨found, rfl, -⟩ | ⟨⟨after, due⟩, -⟩ := step.due due
        · cases aside
        · rw [turns, List.filter_cons, if_neg (by rw [aside]; decide)]
          exact ih due (still ▸ waiting) same.2

/-- Whatever pushes and reads do in between, the replies are taken once each, in
the order in which they were queued. A look takes all of them, and has them for
the browser; a permit that is consumed is good for another look, and changes
nothing else. While the read waits and replies are queued, a permit is stored,
unless a push is half done; the replies are then the first thing that the read
gets, before any frame of guacd. -/
theorem replies_reach_read {start : Desk σ} {fresh : Outbox}
    (there : start.outbox? = some fresh) (empty : fresh.queue = [])
    {happenings : List Happening} (run : Run start happenings desk) :
    ∃ outbox, desk.outbox? = some outbox ∧
      happenings.flatMap Happening.queue =
        happenings.flatMap Happening.taken ++ outbox.queue ∧
      (desk.read.stage = .looking → desk.turn = .looked outbox.queue ∧
        desk.turned.outbox? = some { outbox with queue := [] } ∧
        desk.turned.read.stage = if outbox.queue = [] then .waiting
          else .giving (some (.ofInstructions outbox.queue))) ∧
      (desk.read.stage = .waiting → outbox.permit = true →
        desk.turn = .roused ∧ desk.turned = { desk with
          registry := desk.registry.onOutbox desk.read.tunnel
            ({ · with permit := false })
          read := { desk.read with stage := .looking } }) ∧
      (desk.read.stage = .waiting → outbox.queue ≠ [] →
        desk.unannounced = 0 → outbox.permit = true ∧
          ∀ later last, Run desk later last →
            TakenFirst outbox.queue later ∧
              (.relieved ∉ later → turns later <+: [.roused] ∨
                ∃ found more,
                  turns later = .roused :: .looked found :: more ∧
                    outbox.queue <+: found)) := by
  have begins : start.Keeps fresh :=
    ⟨there, fun _ some => absurd empty some⟩
  obtain ⟨outbox, keeps, accounts⟩ := run.keeps begins
  rw [empty, List.nil_append] at accounts
  refine ⟨outbox, keeps.there, accounts, turn_looking keeps.there,
    turn_roused keeps.there, ?_⟩
  intro waiting some settled
  have permit : outbox.permit = true := by
    -- the push that is about to store the permit would be half done
    obtain begun | permit := keeps.told waiting some
    · rw [settled] at begun
      cases begun
    · exact permit
  refine ⟨permit, ?_⟩
  intro later last run
  have due : desk.Due outbox.queue outbox :=
    ⟨keeps.there, List.prefix_rfl, fun _ => permit⟩
  exact ⟨run.takenFirst due, run.turns_waiting due waiting⟩

/-- A reply is pushed to a read that waits for guacd. -/
theorem replies_reach_read_waiting :
    let tunnel : RegisteredTunnel Link :=
      { tunnel := .ofStream ⟨0⟩ none (.ofCapacity 8)
        token := "t"
        registeredAt := 0 }
    let start : Desk Link :=
      { registry := { idleTimeout := 0, tunnels := [tunnel] }
        read := {
          ticket := 0, tunnel := 0, encoding := .identity, stage := .waiting } }
    let reply : Instruction := ⟨"", ["ping", "1"]⟩
    ∃ desk, Run start [.queued [reply], .announced] desk ∧
      desk.turn = .roused ∧
      ∀ later last, Run desk later last → TakenFirst [reply] later := by
  intro tunnel start reply
  have run : Run start [.queued [reply], .announced] _ :=
    .cons (.queue (by simp)) (.cons (.announce rfl) (.nil _))
  refine ⟨_, run, ?_⟩
  have fresh : start.outbox? = some {} := rfl
  obtain ⟨outbox, there, -, -, rouses, settles⟩ :=
    replies_reach_read fresh rfl run
  obtain rfl : (⟨[reply], true⟩ : Outbox) = outbox := Option.some.inj there
  refine ⟨(rouses rfl rfl).1, ?_⟩
  intro later last more
  exact ((settles rfl (by simp) rfl).2 later last more).1

end Desk

end TunnelRelay
