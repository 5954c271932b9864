import TunnelRelay.Instruction

/-!
What the relay itself has to say to a browser.

Instructions wait in a queue until somebody takes all of them. Whoever waits for the queue is told
by a permit: queueing stores it, and the next wait consumes it. There is at most one permit, so it
says only that another look is due.
-/

namespace TunnelRelay

/-- Instructions for a browser, and the permit to look at them. -/
structure Outbox where
  queue : List Instruction := []
  permit : Bool := false
  deriving DecidableEq, Repr

namespace Outbox

/-- The first half of a push: instructions join the queue. -/
def extend (outbox : Outbox) (instructions : List Instruction) : Outbox :=
  { outbox with queue := outbox.queue ++ instructions }

/-- The second half of a push: a permit is stored. -/
def notify (outbox : Outbox) : Outbox :=
  { outbox with permit := true }

def push (outbox : Outbox) (instructions : List Instruction) : Outbox :=
  if instructions.isEmpty then outbox else (outbox.extend instructions).notify

/-- Takes the whole queue. A permit stays where it is. -/
def take (outbox : Outbox) : List Instruction × Outbox :=
  (outbox.queue, { outbox with queue := [] })

/-- Consumes the permit, if there is one. -/
def awaken (outbox : Outbox) : Bool × Outbox :=
  (outbox.permit, { outbox with permit := false })

end Outbox

end TunnelRelay
