import Mathlib.Data.List.Nodup
import TunnelRelay.Proofs.Tunnel.Tasks

/-!
The operations of a shared tunnel as steps.

After each of its operations a shared tunnel lets every call go on that waits, in the order in which
they were begun. So each operation is a sequence of steps of the tasks, one of the orders in which
they can come.
-/

namespace TunnelRelay

variable {σ : Type} [Connection σ]

namespace SharedTunnel

variable {shared : SharedTunnel (Recorded σ)}

/-- Every task waits for one call at most. -/
def Distinct (shared : SharedTunnel (Recorded σ)) : Prop :=
  (shared.waiting.map (·.1)).Nodup

section

omit [Connection σ]

theorem without_first {entry : Ticket × TunnelCall}
    {waiting : List (Ticket × TunnelCall)}
    (distinct : ((entry :: waiting).map (·.1)).Nodup) :
    (entry :: waiting).filter (·.1 != entry.1) = waiting := by
  rw [List.map_cons, List.nodup_cons] at distinct
  rw [List.filter_cons, if_neg (by simp), List.filter_eq_self]
  intro other member
  rw [bne_iff_ne]
  rintro same
  exact distinct.1 (same ▸ List.mem_map_of_mem member)

theorem without_idle {ticket : Ticket} (idle : shared.isBusy ticket = false)
    (call : TunnelCall) :
    (shared.waiting ++ [(ticket, call)]).filter (·.1 != ticket) = shared.waiting := by
  rw [List.filter_append, List.filter_cons, if_neg (by simp), List.filter_nil,
    List.append_nil, List.filter_eq_self]
  intro entry member
  unfold isBusy at idle
  rw [List.any_eq_false] at idle
  simpa using idle entry member

theorem idle_without (shared : SharedTunnel (Recorded σ)) (ticket : Ticket) :
    (shared.without ticket).isBusy ticket = false := by
  unfold isBusy without
  rw [List.any_eq_false]
  intro entry member
  simpa using (List.mem_filter.mp member).2

theorem distinct_without (distinct : shared.Distinct) (ticket : Ticket) :
    (shared.without ticket).Distinct :=
  distinct.sublist (List.filter_sublist.map _)

theorem distinct_add {ticket : Ticket} (distinct : shared.Distinct)
    (idle : shared.isBusy ticket = false) (call : TunnelCall) :
    ((shared.waiting ++ [(ticket, call)]).map (·.1)).Nodup := by
  rw [List.map_append, List.map_singleton,
    (List.perm_append_singleton _ _).nodup_iff, List.nodup_cons]
  refine ⟨?_, distinct⟩
  intro member
  obtain ⟨entry, among, own⟩ := List.mem_map.mp member
  unfold isBusy at idle
  rw [List.any_eq_false] at idle
  exact idle entry among (by simpa using own)

theorem find_eq_callOf (shared : SharedTunnel (Recorded σ)) (ticket : Ticket) :
    shared.waiting.find? (·.1 == ticket) =
      (shared.callOf ticket).map fun call => (ticket, call) := by
  unfold callOf
  induction shared.waiting with
  | nil => rfl
  | cons entry waiting ih =>
      obtain ⟨owner, call⟩ := entry
      rw [List.find?_cons, List.lookup_cons]
      by_cases own : owner = ticket
      · subst own
        simp
      · rw [beq_false_of_ne own, beq_false_of_ne (Ne.symm own)]
        exact ih

end

/-- Calls that wait do not change what the turn of another call comes to. -/
theorem poll_behind (others : List (Ticket × TunnelCall))
    (entry : Ticket × TunnelCall) (shared : SharedTunnel (Recorded σ)) :
    ({ shared with waiting := others ++ shared.waiting }).poll entry =
      { shared.poll entry with waiting := others ++ (shared.poll entry).waiting } := by
  unfold poll
  cases polled : entry.2.poll entry.1 shared.tunnel with
  | mk outcome tunnel =>
      cases outcome with
      | inl reply => rfl
      | inr call =>
          simp only [List.append_assoc]

theorem poll_tickets (entry : Ticket × TunnelCall)
    (shared : SharedTunnel (Recorded σ)) :
    ((shared.poll entry).waiting.map (·.1)).Sublist
      (shared.waiting.map (·.1) ++ [entry.1]) := by
  unfold poll
  cases polled : entry.2.poll entry.1 shared.tunnel with
  | mk outcome tunnel =>
      cases outcome with
      | inl reply => exact List.sublist_append_left _ _
      | inr call =>
          simp only [List.map_append, List.map_singleton]
          exact List.Sublist.refl _

end SharedTunnel

namespace Tasks

open SharedTunnel

variable {shared : SharedTunnel (Recorded σ)}

theorem run_append (tasks : Tasks σ) (first second : List (TunnelStep σ)) :
    tasks.run (first ++ second) = (tasks.run first).run second :=
  List.foldl_append

theorem distinct_poll {ticket : Ticket} (distinct : shared.Distinct)
    (idle : shared.isBusy ticket = false) (call : TunnelCall) :
    (shared.poll (ticket, call)).Distinct := by
  have added := distinct_add distinct idle call
  rw [List.map_append] at added
  exact added.sublist (poll_tickets (ticket, call) shared)

theorem step_distinct {tasks : Tasks σ} (distinct : tasks.shared.Distinct)
    (step : TunnelStep σ) : (tasks.step step).shared.Distinct := by
  cases step with
  | call ticket call =>
      change (tasks.call ticket call).shared.Distinct
      unfold Tasks.call
      split
      · rename_i admitted
        unfold admits at admitted
        rw [Bool.and_eq_true, Bool.and_eq_true, Bool.not_eq_true'] at admitted
        split
        · exact distinct
        · exact distinct_add distinct admitted.1.1 call
      · exact distinct
  | turn ticket =>
      change (tasks.turn ticket).shared.Distinct
      unfold Tasks.turn
      split
      · exact distinct
      · rename_i call waits
        exact distinct_poll (distinct_without distinct ticket)
          (idle_without tasks.shared ticket) call
  | giveUp ticket =>
      change (tasks.giveUp ticket).shared.Distinct
      unfold Tasks.giveUp
      split
      · exact distinct
      · exact distinct_without distinct ticket
  | drop ticket half =>
      change (tasks.drop ticket half).shared.Distinct
      unfold Tasks.drop
      split <;> exact distinct
  | close | guacd change => exact distinct

/-- A task goes on with the first of the calls that wait. -/
theorem turn_first (entry : Ticket × TunnelCall)
    (calls : List (Ticket × TunnelCall)) (events : List TunnelEvent)
    (distinct : ((entry :: (calls ++ shared.waiting)).map (·.1)).Nodup) :
    (turn entry.1 { shared := { shared with
        waiting := entry :: (calls ++ shared.waiting) }, events }).shared =
      { shared.poll entry with waiting := calls ++ (shared.poll entry).waiting } := by
  have found : SharedTunnel.callOf { shared with
      waiting := entry :: (calls ++ shared.waiting) } entry.1 = some entry.2 :=
    List.lookup_cons_self
  simp only [turn, found, without]
  rw [without_first distinct, ← poll_behind]

theorem turns_eq_polls (shared : SharedTunnel (Recorded σ))
    (calls : List (Ticket × TunnelCall)) (events : List TunnelEvent)
    (distinct : ((calls ++ shared.waiting).map (·.1)).Nodup) :
    (run { shared := { shared with waiting := calls ++ shared.waiting }, events }
      (calls.map fun entry => .turn entry.1)).shared = calls.foldl poll shared := by
  induction calls generalizing shared events with
  | nil => rfl
  | cons entry calls ih =>
      have turned := turn_first entry calls events distinct
      generalize after : turn entry.1 { shared := { shared with
        waiting := entry :: (calls ++ shared.waiting) }, events } = tasks at turned
      obtain ⟨next, more⟩ := tasks
      cases turned
      rw [List.map_cons, List.foldl_cons, List.cons_append, run, List.foldl_cons]
      change (run (turn entry.1 _) _).shared = _
      rw [after]
      apply ih (shared.poll entry)
      have later := poll_tickets entry shared
      have longer := (List.Sublist.refl (calls.map (·.1))).append later
      rw [← List.append_assoc, ← List.map_append, ← List.map_append] at longer
      apply List.Nodup.sublist longer
      exact (List.perm_append_singleton _ _).nodup_iff.mpr distinct

theorem settle_eq_turns (distinct : shared.Distinct) (events : List TunnelEvent) :
    (run { shared, events } (shared.waiting.map fun entry => .turn entry.1)).shared =
      shared.settle := by
  have all := turns_eq_polls { shared with waiting := [] } shared.waiting events
    (by rw [List.append_nil]; exact distinct)
  simp only [List.append_nil] at all
  exact all

theorem settles {tasks : Tasks σ} {steps : List (TunnelStep σ)}
    (led : (tasks.run steps).shared = shared) (distinct : shared.Distinct) :
    ∃ steps, (tasks.run steps).shared = shared.settle := by
  subst led
  exact ⟨_, by rw [run_append]; exact settle_eq_turns distinct _⟩

theorem start_eq_steps (distinct : shared.Distinct) (events : List TunnelEvent)
    {ticket : Ticket} {call : TunnelCall}
    (admitted : shared.admits ticket call = true) :
    ∃ steps, shared.start ticket call =
      .ok (run { shared, events } steps).shared := by
  have allowed := admitted
  unfold admits at allowed
  rw [Bool.and_eq_true, Bool.and_eq_true, Bool.not_eq_true'] at allowed
  have idle := allowed.1.1
  unfold start
  rw [idle, allowed.1.2]
  simp only [Bool.false_eq_true, if_false, Bool.not_true]
  cases joined : shared.join ticket call with
  | error error =>
      refine ⟨[.call ticket call], ?_⟩
      simp only [run, List.foldl_cons, List.foldl_nil, step, Tasks.call, admitted,
        joined, if_true]
  | ok tunnel =>
      have begun : (run { shared, events } [.call ticket call, .turn ticket]).shared =
          ({ shared with tunnel }).poll (ticket, call) := by
        have found : SharedTunnel.callOf { shared with
            tunnel, waiting := shared.waiting ++ [(ticket, call)] } ticket = some call := by
          have added := lookup_add (callOf_of_idle idle) call ticket
          rwa [if_pos rfl] at added
        simp only [run, List.foldl_cons, List.foldl_nil, step, Tasks.call, admitted,
          joined, if_true, turn, found, without, without_idle idle]
      have alone : ({ shared with tunnel } : SharedTunnel (Recorded σ)).Distinct :=
        distinct
      obtain ⟨steps, settled⟩ := settles begun (distinct_poll alone idle call)
      exact ⟨steps, by rw [settled]⟩

theorem letGo_eq_steps (distinct : shared.Distinct) (events : List TunnelEvent)
    {ticket : Ticket} (idle : shared.isBusy ticket = false) :
    ∃ steps, (shared.letGo ticket).2 = (run { shared, events } steps).shared := by
  have dropped (half : Half) (held : shared.holds ticket half = true) :
      (run { shared, events } [.drop ticket half]).shared =
        { shared with tunnel := release ticket shared.tunnel half } := by
    simp only [run, List.foldl_cons, List.foldl_nil, step, drop, idle, held,
      Bool.not_false, Bool.and_self, if_true]
    rfl
  unfold letGo
  split
  · rename_i held
    obtain ⟨steps, settled⟩ := settles (dropped .reading held) distinct
    exact ⟨steps, settled.symm⟩
  · split
    · rename_i held
      obtain ⟨steps, settled⟩ := settles (dropped .writing held) distinct
      exact ⟨steps, settled.symm⟩
    · exact ⟨[], rfl⟩

theorem cancel_eq_steps (distinct : shared.Distinct) (events : List TunnelEvent)
    {ticket : Ticket} {call : TunnelCall}
    (waits : shared.callOf ticket = some call) :
    ∃ steps, shared.cancel ticket =
      some ((run { shared, events } steps).shared.reply ticket .cancelled) := by
  have gaveUp : run { shared, events } [.giveUp ticket] =
      { shared := { shared.without ticket with
          tunnel := leave ticket shared.tunnel call }
        events := events ++ [.gaveUp ticket call] } := by
    simp only [run, List.foldl_cons, List.foldl_nil, step, giveUp, waits]
    rfl
  have others := distinct_without distinct ticket
  have settling := settles (congrArg Tasks.shared gaveUp) others
  have lets := letGo_eq_steps others (events ++ [.gaveUp ticket call])
    (idle_without shared ticket)
  unfold cancel
  rw [find_eq_callOf, waits]
  simp only [Option.map_some]
  cases call with
  | acquireReader | acquireWriter =>
      obtain ⟨steps, settled⟩ := settling
      exact ⟨steps, by rw [settled]; rfl⟩
  | read | send sending | shutdown =>
      obtain ⟨steps, dropped⟩ := lets
      refine ⟨[.giveUp ticket] ++ steps, ?_⟩
      rw [run_append, gaveUp]
      exact congrArg (fun left => some (left.reply ticket .cancelled)) dropped

/-- Each operation of a shared tunnel is a sequence of steps of its tasks. -/
theorem operations_eq_steps (distinct : shared.Distinct) (events : List TunnelEvent) :
    (∀ ticket call, shared.admits ticket call = true →
      ∃ steps, shared.start ticket call = .ok (run { shared, events } steps).shared) ∧
    (∀ ticket, shared.isBusy ticket = false →
      ∃ held steps, shared.release ticket =
        .ok (held, (run { shared, events } steps).shared)) ∧
    (∀ ticket, shared.isBusy ticket = true →
      ∃ steps, shared.cancel ticket =
        some ((run { shared, events } steps).shared.reply ticket .cancelled)) ∧
    ∃ steps, shared.close = (run { shared, events } steps).shared := by
  refine ⟨fun _ _ => start_eq_steps distinct events, ?_, ?_, ?_⟩
  · intro ticket idle
    obtain ⟨steps, gone⟩ := letGo_eq_steps distinct events idle
    refine ⟨(shared.letGo ticket).1, steps, ?_⟩
    unfold SharedTunnel.release
    rw [idle, ← gone]
    rfl
  · intro ticket busy
    obtain ⟨call, waits⟩ := Option.isSome_iff_exists.mp ((isBusy_iff ticket).mp busy)
    exact cancel_eq_steps distinct events waits
  · have closed : (run { shared, events } [.close]).shared =
        { shared with tunnel := shared.tunnel.close } := rfl
    obtain ⟨steps, settled⟩ := settles closed distinct
    exact ⟨steps, settled.symm⟩

end Tasks

end TunnelRelay
