import TunnelRelay.Proofs.Guise.Relay
import TunnelRelay.Proofs.Relay.Lanes

/-!
Runs that differ in one request that is answered at once.

A run knows no numbers but those of its own exchanges, so it is its own twin under every guise
that leaves these as they are. A request that is answered as soon as it arrives shifts the numbers
of those that come later, and nothing else: without it, and without whatever else happens to it,
the run is a twin of what it was, as long as no tunnel expires that the request has asked for.
-/

namespace TunnelRelay

open Http LongPoll

variable {σ : Type}

/-! ### Moves about one exchange -/

def Move.exchange? : Move σ → Option Nat
  | .task (.exchange number) | .deliver number _ | .abandon number => some number
  | .task (.pump _) | .task (.handler _ _) | .receive _ _ _ | .closeIdle
  | .advance _ | .openSession _ | .say _ _ | .lose _ | .guacd _ _
  | .guacdSession _ _ => none

def Move.arrivals : Move σ → Nat
  | .receive _ _ _ => 1
  | .task _ | .deliver _ _ | .abandon _ | .closeIdle | .advance _
  | .openSession _ | .say _ _ | .lose _ | .guacd _ _ | .guacdSession _ _ => 0

theorem Move.arrivals_under (guise : Guise) (move : Move σ) :
    (move.under guise).arrivals = move.arrivals := by
  cases move <;> rfl

theorem Move.exchange?_under (guise : Guise) (move : Move σ) :
    (move.under guise).exchange? = move.exchange?.map guise.ticket := by
  cases move with
  | task task => cases task <;> rfl
  | receive | deliver | abandon | closeIdle | advance | openSession | say
  | lose | guacd | guacdSession => rfl

theorem Move.under_of_same {guise : Guise} {move : Move σ}
    (same : ∀ number, move.exchange? = some number →
      guise.ticket number = number) : move.under guise = move := by
  cases move with
  | task task =>
      cases task with
      | exchange number =>
          have is := same number rfl
          simp only [under, Task.under, is]
      | pump | handler => rfl
  | deliver number body | abandon number =>
      have is := same number rfl
      simp only [under, is]
  | receive | closeIdle | advance | openSession | say | lose | guacd
  | guacdSession => rfl

namespace Relay

variable [Connection σ] (environment : Environment σ)
  (relay : Relay (Recorded σ)) {move : Move σ} {number : Nat}

theorem perform_behind (about : move.exchange? = some number)
    (behind : relay.exchanges.length ≤ number) :
    relay.perform environment move = relay := by
  have absent := List.getElem?_eq_none behind
  cases move with
  | task task =>
      cases task with
      | exchange own =>
          cases about
          simp only [perform, step, stepExchange, absent]
      | pump | handler => cases about
  | deliver own body =>
      cases about
      simp only [perform]
      rw [List.modify_eq_self behind]
  | abandon own =>
      cases about
      simp only [perform, withdraw, absent]
  | receive | closeIdle | advance | openSession | say | lose | guacd
  | guacdSession => cases about

theorem stepExchange_elsewhere {other : Nat} (differs : other ≠ number) :
    (relay.stepExchange environment.recorded other).2.exchanges[number]? =
      relay.exchanges[number]? := by
  have sets : ∀ (before : Relay (Recorded σ)) exchange registry,
      before.exchanges = relay.exchanges →
      (before.setExchange other exchange registry).exchanges[number]? =
        relay.exchanges[number]? := by
    rintro before exchange registry same
    rw [setExchange, same]
    exact List.getElem?_set_ne differs
  unfold stepExchange
  split
  · rfl
  · split
    · simp only [connectExchange, Relay.connect]
      split
      all_goals
        rename_i connected
        cases (Prod.mk.inj connected).2
        exact sets _ _ _ rfl
    · exact sets relay _ _ rfl

theorem perform_elsewhere (about : move.exchange? ≠ some number)
    {exchange : Exchange} (there : relay.exchanges[number]? = some exchange) :
    (relay.perform environment move).exchanges[number]? = some exchange := by
  obtain ⟨within, -⟩ := List.getElem?_eq_some_iff.mp there
  rw [← there]
  cases move with
  | task task =>
      have session : ∀ index step,
          (relay.stepSession index step).2.exchanges[number]? =
            relay.exchanges[number]? := by
        intro index step
        unfold stepSession
        split <;> rfl
      cases task with
      | exchange other =>
          exact relay.stepExchange_elsewhere environment
            fun same => about (congrArg some same)
      | pump index => exact session index _
      | handler index heeds => exact session index _
  | receive request body wanted => exact List.getElem?_append_left within
  | deliver other body =>
      exact List.getElem?_modify_ne _ _
        fun same => about (congrArg some same)
  | abandon other =>
      simp only [perform, withdraw]
      split
      · rfl
      · exact List.getElem?_set_ne fun same => about (congrArg some same)
  | closeIdle | advance | openSession | say | lose | guacd | guacdSession => rfl

/-- An exchange that is answered stays so, with its answer, and whatever happens
to it happens to nothing else. -/
theorem perform_answered (about : move.exchange? = some number)
    {exchange : Exchange} (there : relay.exchanges[number]? = some exchange)
    (answered : exchange.activity = .answered) :
    ∃ later : Exchange, later.activity = .answered ∧
      later.answer = exchange.answer ∧
      relay.perform environment move =
        { relay with exchanges := relay.exchanges.set number later } := by
  cases move with
  | task task =>
      cases task with
      | exchange own =>
          cases about
          refine ⟨exchange, answered, rfl, ?_⟩
          simp only [perform, step, stepExchange, there, answered,
            Exchange.step]
          rfl
      | pump | handler => cases about
  | deliver own body =>
      cases about
      refine ⟨{ exchange with body := exchange.body ++ body }, answered, rfl,
        ?_⟩
      simp only [perform]
      rw [List.modify_eq_set_getElem?, there]
      rfl
  | abandon own =>
      cases about
      refine ⟨{ exchange with activity := .answered }, rfl, rfl, ?_⟩
      simp only [perform, withdraw, there, Exchange.abandon, answered]
      rfl
  | receive | closeIdle | advance | openSession | say | lose | guacd
  | guacdSession => cases about

theorem length_perform (move : Move σ) :
    (relay.perform environment move).exchanges.length =
      relay.exchanges.length + move.arrivals := by
  cases move with
  | task task => exact (History.lengths_step environment.recorded task relay).1
  | receive request body wanted => exact List.length_append
  | deliver own body => exact List.length_modify ..
  | abandon own =>
      simp only [perform, withdraw]
      split
      · rfl
      · exact List.length_set
  | closeIdle | advance | openSession | say | lose | guacd | guacdSession => rfl

/-- A guise that leaves the numbers of all exchanges as they are makes no
difference to what happens to them. -/
theorem perform_fixed {guise : Guise}
    (fixes : ∀ number < relay.exchanges.length, guise.ticket number = number)
    (move : Move σ) :
    relay.perform environment (move.under guise) =
      relay.perform environment move := by
  by_cases known : ∀ number, move.exchange? = some number →
      number < relay.exchanges.length
  · rw [Move.under_of_same fun number about => fixes number (known number about)]
  · simp only [not_forall, Nat.not_lt] at known
    obtain ⟨number, about, behind⟩ := known
    have elsewhere : (move.under guise).exchange? =
        some (guise.ticket number) := by
      rw [Move.exchange?_under, about]
      rfl
    have stays : relay.exchanges.length ≤ guise.ticket number := by
      by_contra within
      rw [Nat.not_le] at within
      have same : guise.ticket number = number :=
        guise.injective (fixes _ within)
      rw [same] at within
      exact absurd within (Nat.not_lt.mpr behind)
    rw [relay.perform_behind environment about behind,
      relay.perform_behind environment elsewhere stays]

end Relay

/-- A run is its own twin: it knows no numbers but those of its exchanges. -/
theorem History.run_own [Connection σ] {environment : Environment σ}
    (unasked : environment.recorded.ConnectsUnasked) (idleTimeout : Nat)
    (moves : List (Move σ)) {guise : Guise}
    (calm : ∀ number, guise.access number = 0)
    (fixes : ∀ number < (run environment idleTimeout moves).relay.exchanges.length,
      guise.ticket number = number) :
    Relay.Twins guise (run environment idleTimeout moves).relay
      (run environment idleTimeout moves).relay := by
  induction moves using List.reverseRecOn with
  | nil => exact ⟨rfl, rfl, rfl, fun number => rfl⟩
  | append_singleton moves last ih =>
      rw [run_snoc] at fixes ⊢
      generalize run environment idleTimeout moves = history at ih fixes
      change ∀ number <
        (history.relay.perform environment last).exchanges.length, _ at fixes
      rw [Relay.length_perform] at fixes
      have before : ∀ number < history.relay.exchanges.length,
          guise.ticket number = number :=
        fun number within => fixes number (Nat.lt_add_right _ within)
      have twins := (ih before).perform unasked (calm _) last
        (by
          rintro request body wanted rfl
          exact (fixes _ (Nat.lt_succ_self _)).symm)
        (fun _ number _ => calm number)
      rw [Relay.perform_fixed environment history.relay before] at twins
      exact twins

end TunnelRelay
