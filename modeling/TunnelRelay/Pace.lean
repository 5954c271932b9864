/-!
How tasks take turns.
-/

namespace TunnelRelay

/-- What a task says after one step. -/
inductive Pace where
  /-- The task can take its next step at once. -/
  | goesOn
  /-- The task can go on, but others have their turn first. -/
  | yields
  /-- The task cannot go on before something else happens. -/
  | parked
  | ended
  deriving DecidableEq, Repr

end TunnelRelay
