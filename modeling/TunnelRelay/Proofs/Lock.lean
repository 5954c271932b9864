import TunnelRelay.Lock

/-!
A lock as one queue.

Who holds a lock is the first of its queue, and the others follow in the order in which they asked.
Asking joins the end of the queue; giving back and giving up leave it.
-/

namespace TunnelRelay.Lock

def queue (lock : Lock) : List Ticket :=
  lock.holder.toList ++ lock.waiting

/-- Nobody waits for a lock that nobody holds. -/
def Served (lock : Lock) : Prop :=
  lock.holder = none → lock.waiting = []

theorem served_free : Served {} := fun _ => rfl

theorem isHeldBy_iff {lock : Lock} (served : lock.Served) (ticket : Ticket) :
    lock.isHeldBy ticket = true ↔ lock.queue.head? = some ticket := by
  obtain ⟨holder, waiting⟩ := lock
  cases holder with
  | none =>
      cases served rfl
      simp [isHeldBy, queue]
  | some first => simp [isHeldBy, queue]

theorem request_served (lock : Lock) (ticket : Ticket) :
    (lock.request ticket).Served := by
  unfold request Served
  cases holder : lock.holder with
  | none => simp
  | some first => simp

theorem request_queue {lock : Lock} (served : lock.Served) (ticket : Ticket) :
    (lock.request ticket).queue = lock.queue ++ [ticket] := by
  obtain ⟨holder, waiting⟩ := lock
  cases holder with
  | none =>
      cases served rfl
      rfl
  | some first => rfl

theorem withdraw_served {lock : Lock} (served : lock.Served)
    (ticket : Ticket) : (lock.withdraw ticket).Served := by
  unfold withdraw
  split
  · unfold handOver
    cases waiting : lock.waiting with
    | nil => exact fun _ => rfl
    | cons first rest =>
        intro impossible
        cases impossible
  · intro free
    rw [served free]
    rfl

theorem withdraw_queue {lock : Lock} (served : lock.Served) (ticket : Ticket) :
    (lock.withdraw ticket).queue = lock.queue.erase ticket := by
  obtain ⟨holder, waiting⟩ := lock
  cases holder with
  | none =>
      cases served rfl
      rfl
  | some first =>
      by_cases same : first = ticket
      · subst same
        cases waiting with
        | nil => simp [withdraw, isHeldBy, handOver, queue]
        | cons second rest => simp [withdraw, isHeldBy, handOver, queue]
      · have differs : ¬ (some first == some ticket) = true := by simpa using same
        simp [withdraw, isHeldBy, queue, same, differs]

theorem head_erase {queue : List Ticket} {ticket : Ticket}
    (behind : queue.head? ≠ some ticket) :
    (queue.erase ticket).head? = queue.head? := by
  cases queue with
  | nil => rfl
  | cons first rest =>
      have apart : ¬ (first == ticket) = true := by simpa using behind
      rw [List.erase_cons_tail apart]
      rfl

def Leaves (ticket : Ticket) (before after : Lock) : Prop :=
  after = before.withdraw ticket ∨
    after = (before.withdraw ticket).withdraw ticket

theorem Leaves.served {ticket : Ticket} {before after : Lock}
    (leaves : Leaves ticket before after) (served : before.Served) :
    after.Served := by
  rcases leaves with rfl | rfl
  · exact withdraw_served served ticket
  · exact withdraw_served (withdraw_served served ticket) ticket

theorem Leaves.queue {ticket : Ticket} {before after : Lock}
    (leaves : Leaves ticket before after) (served : before.Served)
    (distinct : before.queue.Nodup) :
    after.queue = before.queue.erase ticket := by
  rcases leaves with rfl | rfl
  · exact withdraw_queue served ticket
  · rw [withdraw_queue (withdraw_served served ticket), withdraw_queue served,
      List.erase_of_not_mem]
    intro member
    exact ((List.Nodup.mem_erase_iff distinct).mp member).1 rfl

end TunnelRelay.Lock
