import Mathlib.Logic.Function.Basic
import TunnelRelay.Proofs.Relay.Turns

/-!
The reads of one tunnel.

A feed is the inlet of a tunnel, with the exchanges that were asked to read from it. Whatever happens
to the relay is one of a few steps of a feed. The reads stand in the queue of the reader's lock in the
order of their arrival, and only the first of them takes items. So the answers, one behind the other,
are the items in the order in which they were taken, and what is not taken is still in the inlet.
-/

namespace TunnelRelay

open Http LongPoll

@[ext] structure Feed where
  inlet : Inlet
  /-- What each exchange is to this tunnel. -/
  entries : Nat → Entry
  /-- How many exchanges there are. -/
  count : Nat

/-- The exchange does not read, and has not begun an answer of success. -/
inductive Entry.IsIdle : Entry → Prop
  | other : IsIdle .other
  | refused {answer : Answer} (failed : answer.isOk = false) :
      IsIdle (.answered answer)

namespace Feed

/-- What can happen to a feed while browsers stay to the end of their answers,
with the items that are taken. -/
inductive Step (before : Feed) : Feed → List Item → Prop
  /-- Replies join the queue, if anything happens. -/
  | rests {after : Feed} {replies : List Instruction}
      (inlet : after.inlet = before.inlet.push replies)
      (entries : after.entries = before.entries)
      (count : after.count = before.count) : Step before after []
  | arrives {after : Feed} {entry : Entry} (idle : entry.IsIdle)
      (inlet : after.inlet = before.inlet)
      (entries : after.entries =
        Function.update before.entries before.count entry)
      (count : after.count = before.count + 1) : Step before after []
  /-- A read arrives and asks for the reader. -/
  | enters {after : Feed} {read : Read} {answer : Answer}
      (ticket : read.ticket = before.count)
      (stage : read.stage = .acquiring) (fresh : read.begun = false)
      (proper : read.Proper answer)
      (inlet : after.inlet = before.inlet.request before.count)
      (entries : after.entries =
        Function.update before.entries before.count (.reading read answer))
      (count : after.count = before.count + 1) : Step before after []
  | turns {after : Feed} {index : Nat} {read : Read} {answer : Answer}
      {entry : Entry} {items : List Item}
      (there : before.entries index = .reading read answer)
      (held : before.inlet.lock.isHeldBy read.ticket = true)
      (supplies : before.inlet.Supplies after.inlet items)
      (turn : Turn read answer before.inlet entry after.inlet items)
      (entries : after.entries = Function.update before.entries index entry)
      (count : after.count = before.count) : Step before after items
  /-- A browser goes away before the answer of its read has begun. -/
  | leaves {after : Feed} {index : Nat} {read : Read} {answer : Answer}
      (there : before.entries index = .reading read answer)
      (fresh : read.begun = false)
      (inlet : after.inlet = before.inlet.withdraw read.ticket)
      (entries : after.entries =
        Function.update before.entries index (.answered answer))
      (count : after.count = before.count) : Step before after []

end Feed

/-! ### What holds of an exchange -/

/-- The read stands in the queue of the reader's lock. If it does more than wait
for the reader, it is the first of the queue; and if it waits for a message, it
will be told of all replies. -/
structure LongPoll.Read.Stands (read : Read) (answer : Answer) (inlet : Inlet)
    (index : Nat) : Prop where
  ticket : read.ticket = index
  queued : index ∈ inlet.lock.queue
  proper : read.Proper answer
  head : read.stage ≠ .acquiring → inlet.lock.queue.head? = some index
  waits : read.stage = .waiting →
    inlet.queue = [] ∨ inlet.outbox.permit = true

inductive Entry.Holds (inlet : Inlet) (index : Nat) : Entry → Bytes → Prop
  | other : Holds inlet index .other []
  | reading {read : Read} {answer : Answer}
      (stands : read.Stands answer inlet index) :
      Holds inlet index (.reading read answer) (read.content answer)
  | answered {answer : Answer} {content : Bytes} (brings : answer.Brings content) :
      Holds inlet index (.answered answer) content
  | refused {answer : Answer} (failed : answer.isOk = false) :
      Holds inlet index (.answered answer) []

namespace Entry

variable {inlet later : Inlet} {index : Nat} {entry : Entry} {content : Bytes}

theorem IsIdle.holds (idle : entry.IsIdle) : entry.Holds inlet index [] := by
  cases idle with
  | other => exact .other
  | refused failed => exact .refused failed

/-- An exchange holds what it holds as long as its read, if it is one, keeps its
place. -/
theorem Holds.transport (holds : entry.Holds inlet index content)
    (queued : ∀ read answer, entry = .reading read answer →
      index ∈ inlet.lock.queue → index ∈ later.lock.queue)
    (place : ∀ read answer, entry = .reading read answer →
      read.stage ≠ .acquiring → inlet.lock.queue.head? = some index →
      later.lock.queue.head? = some index ∧
        (inlet.queue = [] ∨ inlet.outbox.permit = true →
          later.queue = [] ∨ later.outbox.permit = true)) :
    entry.Holds later index content := by
  cases holds with
  | other => exact .other
  | answered brings => exact .answered brings
  | refused failed => exact .refused failed
  | reading stands =>
      rename_i read answer
      refine .reading ⟨stands.ticket, queued read answer rfl stands.queued,
        stands.proper, ?_, ?_⟩
      · intro more
        exact (place read answer rfl more (stands.head more)).1
      · intro waiting
        have more : read.stage ≠ .acquiring := by
          rw [waiting]
          decide
        exact (place read answer rfl more (stands.head more)).2
          (stands.waits waiting)

end Entry

/-! ### The answers in order -/

theorem flatMap_update {contents : Nat → Bytes} {index count : Nat}
    (within : index < count)
    (behind : ∀ other, index < other → contents other = []) (more : Bytes) :
    (List.range count).flatMap
        (Function.update contents index (contents index ++ more)) =
      (List.range count).flatMap contents ++ more := by
  induction count with
  | zero => omega
  | succ count ih =>
      rw [List.range_succ, List.flatMap_append, List.flatMap_append,
        List.flatMap_singleton, List.flatMap_singleton]
      by_cases last : index = count
      · subst last
        have before : (List.range index).flatMap
            (Function.update contents index (contents index ++ more)) =
              (List.range index).flatMap contents := by
          apply List.flatMap_congr
          intro other member
          have differs : other ≠ index :=
            Nat.ne_of_lt (List.mem_range.mp member)
          rw [Function.update_of_ne differs]
        rw [before, Function.update_self, List.append_assoc]
      · have earlier : index < count := by omega
        rw [ih earlier, Function.update_of_ne (Ne.symm last),
          behind count earlier, List.append_nil, List.append_nil]

namespace Feed

def joined (before after : Inlet) : List Instruction :=
  after.queue.drop before.queue.length

/-- The exchanges hold the items, one behind the other in the order of the
exchanges. The items are the frames that have arrived and the replies that were
ever queued, but for those that are still in the inlet. -/
structure Accounts (feed : Feed) (queued : List Instruction)
    (contents : Nat → Bytes) (items : List Item) : Prop where
  reader : feed.inlet.reader.Sound .unbounded
  whole : ∀ frame ∈ Item.frames items, ∃ wire : WireFrame,
    Bytes.ofText frame.raw = wire.bytes ∧
      frame.instruction = wire.instruction
  arrived : feed.inlet.arrived =
    Frame.received (Item.frames items) ++ feed.inlet.reader.buffer
  replies : queued = Item.replies items ++ feed.inlet.queue
  served : feed.inlet.lock.Served
  sorted : feed.inlet.lock.queue.Pairwise (· < ·)
  reads : ∀ index ∈ feed.inlet.lock.queue, ∃ read answer,
    feed.entries index = .reading read answer
  holds : ∀ index,
    (feed.entries index).Holds feed.inlet index (contents index)
  within : ∀ index, feed.count ≤ index → feed.entries index = .other
  order : ∀ index, contents index ≠ [] →
    ∀ ticket ∈ feed.inlet.lock.queue, index ≤ ticket
  sum : (List.range feed.count).flatMap contents = Item.wire items

namespace Accounts

variable {feed : Feed} {queued : List Instruction}
  {contents : Nat → Bytes} {items : List Item}

theorem lt_count (accounts : feed.Accounts queued contents items) {index : Nat}
    {read : Read} {answer : Answer}
    (there : feed.entries index = .reading read answer) :
    index < feed.count := by
  by_contra outside
  have other := accounts.within index (by omega)
  rw [there] at other
  cases other

theorem silent (accounts : feed.Accounts queued contents items) {index : Nat}
    (other : feed.entries index = .other) : contents index = [] := by
  have holds := accounts.holds index
  rw [other] at holds
  generalize contents index = content at holds
  cases holds
  rfl

theorem stands (accounts : feed.Accounts queued contents items) {index : Nat}
    {read : Read} {answer : Answer}
    (there : feed.entries index = .reading read answer) :
    read.Stands answer feed.inlet index ∧
      contents index = read.content answer := by
  have holds := accounts.holds index
  rw [there] at holds
  generalize contents index = content at holds
  cases holds with
  | reading stands => exact ⟨stands, rfl⟩

theorem nodup (accounts : feed.Accounts queued contents items) :
    feed.inlet.lock.queue.Nodup :=
  accounts.sorted.imp Nat.ne_of_lt

theorem rests (accounts : feed.Accounts queued contents items)
    (replies : List Instruction) :
    Accounts { feed with inlet := feed.inlet.push replies }
      (queued ++ joined feed.inlet (feed.inlet.push replies)) contents items := by
  refine { accounts with replies := ?queue, holds := ?holds }
  case queue =>
    rw [joined, Inlet.push_queue, List.drop_left, accounts.replies,
      List.append_assoc]
  case holds =>
    intro index
    refine (accounts.holds index).transport (fun _ _ _ => id) ?_
    intro read answer _ _ head
    refine ⟨head, fun told => ?_⟩
    cases replies with
    | nil => exact told
    | cons reply replies => exact Or.inr rfl

theorem joined_same {before later : Inlet} (same : later.queue = before.queue) :
    joined before later = [] := by
  rw [joined, same, List.drop_length]

theorem silent_next (accounts : feed.Accounts queued contents items) :
    contents feed.count = [] :=
  accounts.silent (accounts.within feed.count (Nat.le_refl _))

theorem within_next (accounts : feed.Accounts queued contents items)
    (entry : Entry) (index : Nat) (outside : feed.count + 1 ≤ index) :
    Function.update feed.entries feed.count entry index = .other := by
  rw [Function.update_of_ne (by omega)]
  exact accounts.within index (by omega)

theorem sum_next (accounts : feed.Accounts queued contents items) :
    (List.range (feed.count + 1)).flatMap contents = Item.wire items := by
  rw [List.range_succ, List.flatMap_append, List.flatMap_singleton,
    accounts.silent_next, List.append_nil]
  exact accounts.sum

theorem arrives (accounts : feed.Accounts queued contents items) {entry : Entry}
    (idle : entry.IsIdle) :
    Accounts
      { feed with
        entries := Function.update feed.entries feed.count entry
        count := feed.count + 1 }
      (queued ++ joined feed.inlet feed.inlet) contents items where
  reader := accounts.reader
  whole := accounts.whole
  arrived := accounts.arrived
  replies := by
    rw [joined_same rfl, List.append_nil]
    exact accounts.replies
  served := accounts.served
  sorted := accounts.sorted
  reads := by
    intro index member
    obtain ⟨read, answer, there⟩ := accounts.reads index member
    refine ⟨read, answer, ?_⟩
    simp only
    rw [Function.update_of_ne (Nat.ne_of_lt (accounts.lt_count there))]
    exact there
  holds := by
    intro index
    simp only
    by_cases newest : index = feed.count
    · subst newest
      rw [Function.update_self, accounts.silent_next]
      exact idle.holds
    · rw [Function.update_of_ne newest]
      exact accounts.holds index
  within := accounts.within_next entry
  order := accounts.order
  sum := accounts.sum_next

theorem earlier (accounts : feed.Accounts queued contents items) {index : Nat}
    (member : index ∈ feed.inlet.lock.queue) : index < feed.count := by
  obtain ⟨read, answer, there⟩ := accounts.reads index member
  exact accounts.lt_count there

theorem enters (accounts : feed.Accounts queued contents items) {read : Read}
    {answer : Answer} (ticket : read.ticket = feed.count)
    (stage : read.stage = .acquiring) (fresh : read.begun = false)
    (proper : read.Proper answer) :
    Accounts
      { inlet := feed.inlet.request feed.count
        entries := Function.update feed.entries feed.count
          (.reading read answer)
        count := feed.count + 1 }
      (queued ++ joined feed.inlet (feed.inlet.request feed.count)) contents
      items := by
  have queue : (feed.inlet.request feed.count).lock.queue =
      feed.inlet.lock.queue ++ [feed.count] :=
    Lock.request_queue accounts.served feed.count
  have same : joined feed.inlet (feed.inlet.request feed.count) = [] :=
    joined_same rfl
  exact {
    reader := accounts.reader
    whole := accounts.whole
    arrived := accounts.arrived
    replies := by
      rw [same, List.append_nil]
      exact accounts.replies
    served := Lock.request_served _ _
    sorted := by
      simp only
      rw [queue]
      refine List.pairwise_append.mpr
        ⟨accounts.sorted, List.pairwise_singleton _ _, ?_⟩
      intro index member last newest
      rw [List.mem_singleton.mp newest]
      exact accounts.earlier member
    reads := by
      intro index member
      simp only at member ⊢
      rw [queue] at member
      rcases List.mem_append.mp member with before | newest
      · rw [Function.update_of_ne (Nat.ne_of_lt (accounts.earlier before))]
        exact accounts.reads index before
      · rw [List.mem_singleton.mp newest, Function.update_self]
        exact ⟨read, answer, rfl⟩
    holds := by
      intro index
      simp only
      by_cases newest : index = feed.count
      · subst newest
        rw [Function.update_self, accounts.silent_next,
          ← (proper.fresh fresh).2]
        refine .reading ⟨ticket, ?_, proper, fun more => absurd stage more, ?_⟩
        · rw [queue]
          exact List.mem_append_right _ (List.mem_singleton.mpr rfl)
        · intro waiting
          rw [stage] at waiting
          cases waiting
      · rw [Function.update_of_ne newest]
        apply (accounts.holds index).transport
        · intro other given _ member
          rw [queue]
          exact List.mem_append_left _ member
        · intro other given _ _ head
          rw [queue, List.head?_append, head]
          exact ⟨rfl, id⟩
    within := accounts.within_next _
    order := by
      intro index some_ other member
      simp only at member
      rw [queue] at member
      rcases List.mem_append.mp member with before | newest
      · exact accounts.order index some_ other before
      · rw [List.mem_singleton.mp newest]
        by_contra behind
        exact some_ (accounts.silent (accounts.within index (by omega)))
    sum := accounts.sum_next }

end Accounts

/-! ### A read that changes its entry -/

/-- The read of an exchange gives way to `entry` and takes the items `taken`. It
keeps its place in the queue or goes. Only the first of the queue takes items;
the others can do nothing but go. -/
structure Change (feed : Feed) (index : Nat) (entry : Entry) (later : Inlet)
    (taken : List Item) : Prop where
  supplies : feed.inlet.Supplies later taken
  front : feed.inlet.lock.queue.head? = some index ∨
    taken = [] ∧ later = feed.inlet.withdraw index
  lock : later.lock = feed.inlet.lock ∧
      (∃ read answer, entry = .reading read answer) ∨
    later.lock = feed.inlet.lock.withdraw index

namespace Change

variable {feed : Feed} {queued : List Instruction}
  {contents : Nat → Bytes} {items taken : List Item} {index other : Nat}
  {entry : Entry} {later : Inlet}

theorem joined_eq_nil (change : feed.Change index entry later taken) :
    joined feed.inlet later = [] := by
  rw [joined, change.supplies.queue]
  apply List.drop_eq_nil_of_le
  rw [List.length_append]
  omega

theorem served (change : feed.Change index entry later taken)
    (accounts : feed.Accounts queued contents items) : later.lock.Served := by
  rcases change.lock with ⟨same, -⟩ | left
  · rw [same]
    exact accounts.served
  · rw [left]
    exact Lock.withdraw_served accounts.served index

theorem queue (change : feed.Change index entry later taken)
    (accounts : feed.Accounts queued contents items) :
    later.lock.queue = feed.inlet.lock.queue ∧
        (∃ read answer, entry = .reading read answer) ∨
      later.lock.queue = feed.inlet.lock.queue.erase index := by
  rcases change.lock with ⟨same, goes⟩ | left
  · exact Or.inl ⟨congrArg Lock.queue same, goes⟩
  · rw [left]
    exact Or.inr (Lock.withdraw_queue accounts.served index)

theorem sublist (change : feed.Change index entry later taken)
    (accounts : feed.Accounts queued contents items) :
    later.lock.queue.Sublist feed.inlet.lock.queue := by
  rcases change.queue accounts with ⟨same, -⟩ | left
  · rw [same]
  · rw [left]
    exact List.erase_sublist

theorem other_stays (change : feed.Change index entry later taken)
    (accounts : feed.Accounts queued contents items) (others : other ≠ index)
    (member : other ∈ feed.inlet.lock.queue) : other ∈ later.lock.queue := by
  rcases change.queue accounts with ⟨same, -⟩ | left
  · rw [same]
    exact member
  · rw [left]
    exact (List.Nodup.mem_erase_iff accounts.nodup).mpr ⟨others, member⟩

/-- A first reader that is another one stays the first, and is told of replies
as before. -/
theorem other_head (change : feed.Change index entry later taken)
    (accounts : feed.Accounts queued contents items) (others : other ≠ index)
    (head : feed.inlet.lock.queue.head? = some other) :
    later.lock.queue.head? = some other ∧
      (feed.inlet.queue = [] ∨ feed.inlet.outbox.permit = true →
        later.queue = [] ∨ later.outbox.permit = true) := by
  have behind : feed.inlet.lock.queue.head? ≠ some index := by
    rw [head]
    exact fun same => others (Option.some.inj same)
  rcases change.front with first | ⟨-, rfl⟩
  · exact absurd first behind
  · refine ⟨?_, id⟩
    rw [Inlet.withdraw, Lock.withdraw_queue accounts.served index,
      Lock.head_erase behind]
    exact head

theorem ahead (change : feed.Change index entry later taken)
    (accounts : feed.Accounts queued contents items) (some_ : taken ≠ [])
    {ticket : Nat} (member : ticket ∈ feed.inlet.lock.queue) :
    index ≤ ticket := by
  rcases change.front with head | ⟨none_, -⟩
  · have sorted := accounts.sorted
    cases shape : feed.inlet.lock.queue with
    | nil =>
        rw [shape] at head
        cases head
    | cons first rest =>
        rw [shape] at head member sorted
        cases head
        rcases List.mem_cons.mp member with rfl | behind
        · exact Nat.le_refl _
        · exact Nat.le_of_lt ((List.pairwise_cons.mp sorted).1 ticket behind)
  · exact absurd none_ some_

theorem reads (change : feed.Change index entry later taken)
    (accounts : feed.Accounts queued contents items) {ticket : Nat}
    (member : ticket ∈ later.lock.queue) :
    ∃ read answer, Function.update feed.entries index entry ticket =
      .reading read answer := by
  by_cases own : ticket = index
  · subst own
    rw [Function.update_self]
    rcases change.queue accounts with ⟨-, goes⟩ | left
    · exact goes
    · rw [left] at member
      exact absurd rfl ((List.Nodup.mem_erase_iff accounts.nodup).mp member).1
  · rw [Function.update_of_ne own]
    exact accounts.reads ticket ((change.sublist accounts).subset member)

theorem holds (change : feed.Change index entry later taken)
    (accounts : feed.Accounts queued contents items)
    (own : entry.Holds later index (contents index ++ Item.wire taken))
    (other : Nat) :
    (Function.update feed.entries index entry other).Holds later other
      (Function.update contents index (contents index ++ Item.wire taken)
        other) := by
  by_cases same : other = index
  · subst same
    rw [Function.update_self, Function.update_self]
    exact own
  · rw [Function.update_of_ne same, Function.update_of_ne same]
    exact (accounts.holds other).transport
      (fun _ _ _ member => change.other_stays accounts same member)
      (fun _ _ _ _ head => change.other_head accounts same head)

theorem order (change : feed.Change index entry later taken)
    (accounts : feed.Accounts queued contents items) {ticket : Nat}
    (some_ : Function.update contents index
      (contents index ++ Item.wire taken) other ≠ [])
    (member : ticket ∈ later.lock.queue) : other ≤ ticket := by
  have before := (change.sublist accounts).subset member
  by_cases own : other = index
  · subst own
    rw [Function.update_self] at some_
    by_cases none_ : taken = []
    · rw [none_] at some_
      exact accounts.order other (by simpa [Item.wire] using some_) ticket before
    · exact change.ahead accounts none_ before
  · rw [Function.update_of_ne own] at some_
    exact accounts.order other some_ ticket before

end Change

namespace Accounts

variable {feed : Feed} {queued : List Instruction}
  {contents : Nat → Bytes} {items : List Item}

theorem sum_taken (accounts : feed.Accounts queued contents items)
    {index : Nat} {read : Read} {answer : Answer} (taken : List Item)
    (there : feed.entries index = .reading read answer) :
    (List.range feed.count).flatMap
        (Function.update contents index (contents index ++ Item.wire taken)) =
      Item.wire (items ++ taken) := by
  rw [Item.wire_append, ← accounts.sum]
  by_cases none_ : taken = []
  · have same : contents index ++ Item.wire [] = contents index :=
      List.append_nil _
    rw [none_, same, Function.update_eq_self]
    exact (List.append_nil _).symm
  · apply flatMap_update (accounts.lt_count there)
    -- a later exchange with content would not let `index` stand in the queue
    intro other behind
    by_contra some_
    have stands := (accounts.stands there).1
    have before := accounts.order other some_ index stands.queued
    omega

theorem change (accounts : feed.Accounts queued contents items) {index : Nat}
    {read : Read} {answer : Answer} {entry : Entry} {later : Inlet}
    {taken : List Item} (there : feed.entries index = .reading read answer)
    (change : feed.Change index entry later taken)
    (holds : entry.Holds later index (contents index ++ Item.wire taken)) :
    Accounts
      { feed with
        inlet := later
        entries := Function.update feed.entries index entry }
      (queued ++ joined feed.inlet later)
      (Function.update contents index (contents index ++ Item.wire taken))
      (items ++ taken) where
  reader := change.supplies.reader
  whole := by
    intro frame member
    rw [Item.frames_append] at member
    rcases List.mem_append.mp member with before | new
    · exact accounts.whole frame before
    · exact change.supplies.whole frame new
  arrived := by
    obtain ⟨got, grown, conserved⟩ := change.supplies.arrived
    simp only
    rw [grown, accounts.arrived, Item.frames_append, Frame.received_append,
      List.append_assoc, List.append_assoc, conserved]
  replies := by
    simp only
    rw [change.joined_eq_nil, List.append_nil, Item.replies_append,
      accounts.replies, change.supplies.queue, List.append_assoc]
  served := change.served accounts
  sorted := accounts.sorted.sublist (change.sublist accounts)
  reads := fun _ member => change.reads accounts member
  holds := change.holds accounts holds
  within := by
    intro other outside
    have inside := accounts.lt_count there
    simp only at outside ⊢
    rw [Function.update_of_ne (by omega)]
    exact accounts.within other outside
  order := fun _ some_ _ member => change.order accounts some_ member
  sum := accounts.sum_taken taken there

theorem turns (accounts : feed.Accounts queued contents items) {index : Nat}
    {read : Read} {answer : Answer} {entry : Entry} {later : Inlet}
    {taken : List Item} (there : feed.entries index = .reading read answer)
    (held : feed.inlet.lock.isHeldBy read.ticket = true)
    (supplies : feed.inlet.Supplies later taken)
    (turn : Turn read answer feed.inlet entry later taken) :
    Accounts
      { feed with
        inlet := later
        entries := Function.update feed.entries index entry }
      (queued ++ joined feed.inlet later)
      (Function.update contents index (contents index ++ Item.wire taken))
      (items ++ taken) := by
  obtain ⟨stands, content⟩ := accounts.stands there
  rw [stands.ticket] at held
  have head := (Lock.isHeldBy_iff accounts.served index).mp held
  have lock : later.lock = feed.inlet.lock ∧
        (∃ next given, entry = .reading next given) ∨
      later.lock = feed.inlet.lock.withdraw index := by
    cases turn with
    | goesOn ticket tunnel lock => exact Or.inl ⟨lock, _, _, rfl⟩
    | ends lock | fails lock =>
        rw [stands.ticket] at lock
        exact Or.inr lock
  apply accounts.change there ⟨supplies, Or.inl head, lock⟩
  rw [content]
  cases turn with
  | goesOn ticket tunnel lock proper waits grown =>
      rw [← grown]
      have queue := congrArg Lock.queue lock
      refine .reading ⟨ticket.trans stands.ticket, ?_, proper, ?_, waits⟩
      · rw [queue]
        exact stands.queued
      · intro _
        rw [queue]
        exact head
  | ends lock brings => exact .answered brings
  | fails lock failed nothing =>
      rw [nothing]
      exact .refused failed

theorem leaves (accounts : feed.Accounts queued contents items) {index : Nat}
    {read : Read} {answer : Answer}
    (there : feed.entries index = .reading read answer)
    (fresh : read.begun = false) :
    Accounts
      { feed with
        inlet := feed.inlet.withdraw read.ticket
        entries := Function.update feed.entries index (.answered answer) }
      (queued ++ joined feed.inlet (feed.inlet.withdraw read.ticket)) contents
      items := by
  obtain ⟨stands, content⟩ := accounts.stands there
  obtain ⟨failed, empty⟩ := stands.proper.fresh fresh
  have nothing : contents index ++ Item.wire [] = contents index :=
    List.append_nil _
  have supplies : feed.inlet.Supplies (feed.inlet.withdraw index) [] :=
    Inlet.supplies_nothing accounts.reader rfl rfl rfl
  have holds : Entry.Holds (feed.inlet.withdraw index) index (.answered answer)
      (contents index ++ Item.wire []) := by
    rw [nothing, content, empty]
    exact .refused failed
  have left := accounts.change there
    ⟨supplies, Or.inr ⟨rfl, rfl⟩, Or.inr rfl⟩ holds
  rw [nothing, Function.update_eq_self, List.append_nil] at left
  rw [stands.ticket]
  exact left

theorem step {after : Feed} {taken : List Item}
    (accounts : feed.Accounts queued contents items)
    (step : feed.Step after taken) :
    ∃ later, after.Accounts (queued ++ joined feed.inlet after.inlet) later
      (items ++ taken) := by
  cases step with
  | rests inlet entries count =>
      rename_i replies
      have same : after = { feed with inlet := feed.inlet.push replies } :=
        Feed.ext inlet entries count
      rw [same, List.append_nil]
      exact ⟨_, accounts.rests replies⟩
  | arrives idle inlet entries count =>
      rename_i entry
      have same : after = { feed with
          entries := Function.update feed.entries feed.count entry
          count := feed.count + 1 } :=
        Feed.ext inlet entries count
      rw [same, List.append_nil]
      exact ⟨_, accounts.arrives idle⟩
  | enters ticket stage fresh proper inlet entries count =>
      have same := Feed.ext (y := Feed.mk _ _ _) inlet entries count
      rw [same, List.append_nil]
      exact ⟨_, accounts.enters ticket stage fresh proper⟩
  | turns there held supplies turn entries count =>
      obtain ⟨later, others, number⟩ := after
      simp only at entries count
      rw [entries, count]
      exact ⟨_, accounts.turns there held supplies turn⟩
  | leaves there fresh inlet entries count =>
      have same := Feed.ext (y := Feed.mk _ _ _) inlet entries count
      rw [same, List.append_nil]
      exact ⟨_, accounts.leaves there fresh⟩

end Accounts

end Feed

end TunnelRelay
