/-!
Exclusive locks that serve in order.

A lock is held by at most one ticket. Tickets that ask while it is held wait in a queue; who holds
the lock gives it to the first of them.
-/

namespace TunnelRelay

abbrev Ticket := Nat

/-- Who holds a lock, and who waits for it. -/
structure Lock where
  holder : Option Ticket := none
  waiting : List Ticket := []
  deriving DecidableEq, Repr

namespace Lock

def isHeldBy (lock : Lock) (ticket : Ticket) : Bool :=
  lock.holder == some ticket

/-- Asks for the lock, and has it at once if nobody else does. -/
def request (lock : Lock) (ticket : Ticket) : Lock :=
  match lock.holder with
  | none => { lock with holder := some ticket }
  | some _ => { lock with waiting := lock.waiting ++ [ticket] }

def handOver (lock : Lock) : Lock :=
  match lock.waiting with
  | [] => { lock with holder := none }
  | first :: rest => ⟨some first, rest⟩

/-- Gives the lock back, or gives up waiting for it. -/
def withdraw (lock : Lock) (ticket : Ticket) : Lock :=
  if lock.isHeldBy ticket then lock.handOver
  else { lock with waiting := lock.waiting.erase ticket }

end Lock

end TunnelRelay
