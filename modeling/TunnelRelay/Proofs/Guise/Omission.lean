import TunnelRelay.Proofs.Guise.Runs

/-!
Runs without one of their requests.

A request that is answered as soon as it arrives shifts the numbers of those that come later. Left
out together with whatever else happens to it, it takes nothing away from the run but its own
answer, as long as no tunnel expires that it has asked for.
-/

namespace TunnelRelay

open Http LongPoll

variable {σ : Type}

/-! ### Numbers -/

/-- The number of an exchange when one more has the number `gap`. -/
def numberPast (gap number : Nat) : Nat :=
  if number < gap then number else number + 1

def numberWithout (gap number : Nat) : Option Nat :=
  if number = gap then none
  else some (if number < gap then number else number - 1)

theorem numberPast_injective (gap : Nat) :
    Function.Injective (numberPast gap) := by
  intro first second same
  unfold numberPast at same
  split at same <;> split at same <;> omega

theorem numberPast_ne (gap number : Nat) : numberPast gap number ≠ gap := by
  unfold numberPast
  split <;> omega

theorem numberPast_without {gap number own : Nat}
    (is : numberWithout gap number = some own) :
    number ≠ gap ∧ numberPast gap own = number := by
  unfold numberWithout at is
  unfold numberPast
  split at is
  · cases is
  · rename_i differs
    have same := Option.some.inj is
    refine ⟨differs, ?_⟩
    split at same <;> split <;> omega

/-- The guise in which there is one more exchange, the exchange `gap`. -/
def Guise.past (gap : Nat) (access : Nat → Nat) : Guise where
  ticket := numberPast gap
  injective := numberPast_injective gap
  access

/-! ### Moves -/

def Move.without (gap : Nat) : Move σ → Option (Move σ)
  | .task (.exchange number) =>
      (numberWithout gap number).map fun own => .task (.exchange own)
  | .deliver number body => (numberWithout gap number).map (.deliver · body)
  | .abandon number => (numberWithout gap number).map .abandon
  | .task (.pump session) => some (.task (.pump session))
  | .task (.handler session heeds) => some (.task (.handler session heeds))
  | .receive request body wanted => some (.receive request body wanted)
  | .closeIdle => some .closeIdle
  | .advance duration => some (.advance duration)
  | .openSession query => some (.openSession query)
  | .say session messages => some (.say session messages)
  | .lose session => some (.lose session)
  | .guacd tunnel change => some (.guacd tunnel change)
  | .guacdSession session change => some (.guacdSession session change)

theorem Move.about_of_dropped {gap : Nat} {move : Move σ}
    (dropped : move.without gap = none) : move.exchange? = some gap := by
  have own : ∀ {number : Nat} {make : Nat → Move σ},
      (numberWithout gap number).map make = none → number = gap := by
    intro number make none_
    by_contra differs
    simp [numberWithout, differs] at none_
  cases move with
  | task task =>
      cases task with
      | exchange number => exact congrArg some (own dropped)
      | pump | handler => cases dropped
  | deliver number body => exact congrArg some (own dropped)
  | abandon number => exact congrArg some (own dropped)
  | receive | closeIdle | advance | openSession | say | lose | guacd
  | guacdSession => cases dropped

theorem Move.under_of_kept {gap : Nat} {move own : Move σ}
    (access : Nat → Nat) (kept : move.without gap = some own) :
    own.under (.past gap access) = move ∧ move.exchange? ≠ some gap := by
  cases move with
  | task task =>
      cases task with
      | exchange number =>
          obtain ⟨before, is, rfl⟩ := Option.map_eq_some_iff.mp kept
          obtain ⟨differs, same⟩ := numberPast_without is
          refine ⟨?_, fun about => differs (Option.some.inj about)⟩
          simp only [under, Task.under, Guise.past, same]
      | pump | handler =>
          cases kept
          exact ⟨rfl, by rintro ⟨⟩⟩
  | deliver number body | abandon number =>
      obtain ⟨before, is, rfl⟩ := Option.map_eq_some_iff.mp kept
      obtain ⟨differs, same⟩ := numberPast_without is
      refine ⟨?_, fun about => differs (Option.some.inj about)⟩
      simp only [under, Guise.past, same]
  | receive | closeIdle | advance | openSession | say | lose | guacd
  | guacdSession =>
      cases kept
      exact ⟨rfl, by rintro ⟨⟩⟩

namespace Relay

/-- A relay is as another, less the exchange `gap`, which is answered and has
only asked for tunnels. -/
structure Omits (gap : Nat) (access : Nat → Nat)
    (relay full : Relay (Recorded σ)) : Prop where
  twins : Twins (.past gap access) relay full
  begun : gap ≤ relay.exchanges.length
  length : full.exchanges.length = relay.exchanges.length + 1
  answered : ∃ exchange, full.exchanges[gap]? = some exchange ∧
    exchange.activity = .answered
  known : ∀ number, relay.registry.tunnels.length ≤ number →
    access number = 0

namespace Omits

variable [Connection σ] {environment : Environment σ} {gap : Nat}
  {access : Nat → Nat} {relay full : Relay (Recorded σ)} {move own : Move σ}

theorem dropped (omits : Omits gap access relay full)
    (dropped : move.without gap = none) :
    Omits gap access relay (full.perform environment move) := by
  obtain ⟨exchange, there, answered⟩ := omits.answered
  obtain ⟨later, done, -, same⟩ := full.perform_answered environment
    (Move.about_of_dropped dropped) there answered
  obtain ⟨within, -⟩ := List.getElem?_eq_some_iff.mp there
  rw [same]
  refine ⟨⟨omits.twins.registry, omits.twins.requests, omits.twins.sessions,
    ?_⟩, omits.begun, ?_, ⟨later, List.getElem?_set_self within, done⟩,
    omits.known⟩
  · intro number
    rw [← omits.twins.exchanges number]
    exact List.getElem?_set_ne (numberPast_ne gap number).symm
  · rw [← omits.length]
    exact List.length_set

theorem kept (omits : Omits gap access relay full)
    (unasked : environment.recorded.ConnectsUnasked)
    (kept : move.without gap = some own)
    (spares : own = .closeIdle → ∀ number, relay.registry.Expires number →
      access number = 0) :
    Omits gap access (relay.perform environment own)
      (full.perform environment move) := by
  obtain ⟨rfl, beside⟩ := Move.under_of_kept access kept
  have aligned : full.exchanges.length =
      (Guise.past gap access).ticket relay.exchanges.length := by
    rw [omits.length]
    exact (if_neg (Nat.not_lt.mpr omits.begun)).symm
  obtain ⟨exchange, there, answered⟩ := omits.answered
  refine ⟨omits.twins.perform unasked (omits.known _ (Nat.le_refl _)) own
    (fun _ _ _ _ => aligned) spares, ?_, ?_,
    ⟨exchange, full.perform_elsewhere environment beside there, answered⟩, ?_⟩
  · rw [length_perform]
    exact Nat.le_add_right_of_le omits.begun
  · rw [length_perform, length_perform, Move.arrivals_under, omits.length]
    exact Nat.add_right_comm _ _ _
  · intro number behind
    have grows := (History.uuids_perform environment
      ⟨relay, [], []⟩ own).length_le
    simp only [Registry.uuids, List.length_map] at grows
    exact omits.known number (Nat.le_trans grows behind)

end Omits

end Relay

/-- What happens behind a request that is left out leads to the same, but for
that request. -/
theorem History.run_omits [Connection σ] {environment : Environment σ}
    (unasked : environment.recorded.ConnectsUnasked) {idleTimeout gap : Nat}
    {access : Nat → Nat} {first second : List (Move σ)}
    (omits : Relay.Omits gap access (run environment idleTimeout first).relay
      (run environment idleTimeout second).relay) (more : List (Move σ))
    (spares : ∀ done rest, more = done ++ .closeIdle :: rest →
      ∀ number, (run environment idleTimeout
        (first ++ done.filterMap (·.without gap))).relay.registry.Expires
          number → access number = 0) :
    Relay.Omits gap access
      (run environment idleTimeout
        (first ++ more.filterMap (·.without gap))).relay
      (run environment idleTimeout (second ++ more)).relay := by
  induction more using List.reverseRecOn with
  | nil =>
      rw [List.filterMap_nil, List.append_nil, List.append_nil]
      exact omits
  | append_singleton more last ih =>
      have before := ih fun done rest same => spares done (rest ++ [last])
        (by rw [same, List.append_assoc, List.cons_append])
      rw [List.filterMap_append, ← List.append_assoc, ← List.append_assoc,
        run_snoc]
      cases kept : last.without gap with
      | none =>
          rw [List.filterMap_cons_none kept, List.filterMap_nil,
            List.append_nil]
          exact before.dropped kept
      | some own =>
          rw [List.filterMap_cons_some kept, List.filterMap_nil, run_snoc]
          apply before.kept unasked kept
          rintro rfl number expires
          have closes := (Move.under_of_kept access kept).1
          exact spares more [] (by rw [← closes]; rfl) number expires

end TunnelRelay
