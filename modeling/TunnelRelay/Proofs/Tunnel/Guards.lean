import Mathlib.Data.List.Nodup
import Mathlib.Logic.Function.Basic
import TunnelRelay.Proofs.Tunnel.Tasks

/-!
The guards of a tunnel.

What tasks do and are answered tells who waits for the reader and for the writer, which guards there
are, and what was done through each guard of the writer. The queue of a lock is its guard, if there
is one, followed by those who wait for it, in the order in which they have asked.
-/

namespace TunnelRelay

/-! ### What events tell -/

/-- Bytes that were to be written through a guard. -/
structure Piece where
  data : Bytes
  /-- The write was answered with success. -/
  written : Bool := false

def Piece.markLast : List Piece → List Piece
  | [] => []
  | [piece] => [{ piece with written := true }]
  | piece :: next :: pieces => piece :: markLast (next :: pieces)

/-- A guard of the writer, from its acquisition on. -/
structure Tenure where
  ticket : Ticket
  /-- The guard has not been dropped. -/
  held : Bool := true
  /-- What was to be written through it, in order. -/
  pieces : List Piece := []

namespace Tenure

def change (ticket : Ticket) (act : Tenure → Tenure) (tenure : Tenure) : Tenure :=
  if tenure.held && tenure.ticket == ticket then act tenure else tenure

def begin (data : Bytes) (tenure : Tenure) : Tenure :=
  { tenure with pieces := tenure.pieces ++ [{ data }] }

def finish (tenure : Tenure) : Tenure :=
  { tenure with pieces := Piece.markLast tenure.pieces }

def stop (tenure : Tenure) : Tenure :=
  { tenure with held := false }

def standing (tenures : List Tenure) : List Ticket :=
  (tenures.filter (·.held)).map (·.ticket)

end Tenure

/-- Who waits for the reader and the writer, and the guards that there are or have
been, each in the order in which it came about. -/
structure Guards where
  asksReader : List Ticket := []
  reads : List Ticket := []
  asksWriter : List Ticket := []
  tenures : List Tenure := []

namespace Guards

def writes (guards : Guards) : List Ticket :=
  Tenure.standing guards.tenures

def asks (ticket : Ticket) (guards : Guards) : TunnelCall → Guards
  | .acquireReader => { guards with asksReader := guards.asksReader ++ [ticket] }
  | .acquireWriter => { guards with asksWriter := guards.asksWriter ++ [ticket] }
  | .send sending =>
      { guards with
        tenures := guards.tenures.map (Tenure.change ticket (Tenure.begin sending.unsent)) }
  | .read | .shutdown => guards

def leaves (ticket : Ticket) (guards : Guards) : TunnelCall → Guards
  | .acquireReader => { guards with asksReader := guards.asksReader.erase ticket }
  | .acquireWriter => { guards with asksWriter := guards.asksWriter.erase ticket }
  | .read | .send _ | .shutdown => guards

def gains (ticket : Ticket) (guards : Guards) : TunnelCall → TunnelReply → Guards
  | .acquireReader, .acquired => { guards with reads := guards.reads ++ [ticket] }
  | .acquireWriter, .acquired => { guards with tenures := guards.tenures ++ [{ ticket }] }
  | .send _, .done =>
      { guards with tenures := guards.tenures.map (Tenure.change ticket Tenure.finish) }
  | _, _ => guards

def drops (ticket : Ticket) (guards : Guards) : Half → Guards
  | .reading => { guards with reads := guards.reads.erase ticket }
  | .writing => { guards with tenures := guards.tenures.map (Tenure.change ticket Tenure.stop) }

def note (guards : Guards) : TunnelEvent → Guards
  | .called ticket call => guards.asks ticket call
  | .answered ticket call reply => (guards.leaves ticket call).gains ticket call reply
  | .gaveUp ticket call => guards.leaves ticket call
  | .dropped ticket half => guards.drops ticket half

def ofEvents (events : List TunnelEvent) : Guards :=
  events.foldl note {}

end Guards

/-! ### The queue of a lock -/

abbrev Calls := Ticket → Option TunnelCall

/-- A lock serves those who wait for it with a call: its queue is the guard, if
there is one, and those who wait. -/
structure Lock.Attended (lock : Lock) (call : TunnelCall) (calls : Calls)
    (asking guards : List Ticket) : Prop where
  served : lock.Served
  distinct : lock.queue.Nodup
  queue : lock.queue = guards ++ asking
  single : guards.length ≤ 1
  asks : ∀ ticket, ticket ∈ asking ↔ calls ticket = some call

namespace Lock.Attended

variable {lock : Lock} {call : TunnelCall} {calls : Calls}
  {asking guards : List Ticket} {ticket : Ticket}

theorem fresh (call : TunnelCall) : Lock.Attended {} call (fun _ => none) [] [] :=
  ⟨served_free, List.nodup_nil, rfl, Nat.zero_le 1, by simp⟩

theorem other {new : Option TunnelCall} (attended : lock.Attended call calls asking guards)
    (before : calls ticket ≠ some call) (after : new ≠ some call) :
    lock.Attended call (Function.update calls ticket new) asking guards := by
  refine { attended with asks := ?_ }
  intro asker
  rw [attended.asks]
  by_cases same : asker = ticket
  · subst same
    rw [Function.update_self]
    exact iff_of_false before after
  · rw [Function.update_of_ne same]

theorem held_of_guard (attended : lock.Attended call calls asking guards)
    (guard : ticket ∈ guards) : lock.isHeldBy ticket = true := by
  have only : guards = [ticket] := by
    match guards, attended.single, guard with
    | [first], _, member => rw [List.mem_singleton.mp member]
  rw [isHeldBy_iff attended.served, attended.queue, only]
  rfl

theorem guard_of_held (attended : lock.Attended call calls asking guards)
    (held : lock.isHeldBy ticket = true) (idle : calls ticket ≠ some call) :
    ticket ∈ guards := by
  rw [isHeldBy_iff attended.served, attended.queue] at held
  have queued := List.mem_of_mem_head? held
  rcases List.mem_append.mp queued with guard | asker
  · exact guard
  · exact absurd ((attended.asks ticket).mp asker) idle

theorem joins (attended : lock.Attended call calls asking guards)
    (free : lock.isHeldBy ticket = false) (idle : calls ticket = none) :
    (lock.request ticket).Attended call (Function.update calls ticket (some call))
      (asking ++ [ticket]) guards := by
  have absent : ticket ∉ lock.queue := by
    rw [attended.queue]
    intro queued
    rcases List.mem_append.mp queued with guard | asker
    · rw [attended.held_of_guard guard] at free
      cases free
    · rw [(attended.asks ticket).mp asker] at idle
      cases idle
  have longer := request_queue attended.served ticket
  refine ⟨request_served lock ticket, ?_, ?_, attended.single, ?_⟩
  · rw [longer, List.nodup_append]
    refine ⟨attended.distinct, List.nodup_singleton ticket, ?_⟩
    rintro first member second last rfl
    rw [List.mem_singleton] at last
    exact absent (last ▸ member)
  · rw [longer, attended.queue, List.append_assoc]
  · intro asker
    rw [List.mem_append, List.mem_singleton, attended.asks]
    by_cases same : asker = ticket
    · simp [same]
    · rw [Function.update_of_ne same]
      simp [same]

theorem leave_asks (attended : lock.Attended call calls asking guards)
    (asker : Ticket) :
    asker ∈ asking.erase ticket ↔
      Function.update calls ticket none asker = some call := by
  have distinct : asking.Nodup :=
    (List.nodup_append.mp (attended.queue ▸ attended.distinct)).2.1
  rw [distinct.mem_erase_iff, attended.asks]
  by_cases same : asker = ticket
  · simp [same]
  · rw [Function.update_of_ne same]
    simp [same]

theorem grant (attended : lock.Attended call calls asking guards)
    (held : lock.isHeldBy ticket = true) (waits : calls ticket = some call) :
    guards = [] ∧ lock.Attended call (Function.update calls ticket none)
      (asking.erase ticket) (guards ++ [ticket]) := by
  have asker := (attended.asks ticket).mpr waits
  rw [isHeldBy_iff attended.served] at held
  have empty : guards = [] := by
    have apart := attended.distinct
    rw [attended.queue] at held apart
    cases guards with
    | nil => rfl
    | cons first rest =>
        cases held
        exact absurd rfl
          ((List.nodup_append.mp apart).2.2 ticket List.mem_cons_self ticket asker)
  subst empty
  refine ⟨rfl, attended.served, attended.distinct, ?_, Nat.le_refl 1,
    attended.leave_asks⟩
  have queue := attended.queue
  rw [List.nil_append] at queue ⊢
  rw [queue] at held ⊢
  cases asking with
  | nil => cases held
  | cons first rest =>
      cases held
      rw [List.erase_cons_head]
      rfl

theorem leave (attended : lock.Attended call calls asking guards)
    (waits : calls ticket = some call) :
    (lock.withdraw ticket).Attended call (Function.update calls ticket none)
      (asking.erase ticket) guards := by
  have asker := (attended.asks ticket).mpr waits
  have queue := withdraw_queue attended.served ticket
  have apart : ticket ∉ guards := by
    intro guard
    have distinct := attended.queue ▸ attended.distinct
    exact (List.nodup_append.mp distinct).2.2 ticket guard ticket asker rfl
  refine ⟨withdraw_served attended.served ticket, ?_, ?_, attended.single,
    attended.leave_asks⟩
  · rw [queue]
    exact attended.distinct.erase ticket
  · rw [queue, attended.queue, List.erase_append_right _ apart]

theorem drop (attended : lock.Attended call calls asking guards)
    (held : lock.isHeldBy ticket = true) (idle : calls ticket ≠ some call) :
    (lock.withdraw ticket).Attended call calls asking (guards.erase ticket) := by
  have guard := attended.guard_of_held held idle
  have queue := withdraw_queue attended.served ticket
  refine ⟨withdraw_served attended.served ticket, ?_, ?_, ?_, attended.asks⟩
  · rw [queue]
    exact attended.distinct.erase ticket
  · rw [queue, attended.queue, List.erase_append_left _ guard]
  · exact Nat.le_trans (List.length_erase_le) attended.single

end Lock.Attended

end TunnelRelay
