import Mathlib.Data.List.Forall2
import TunnelRelay.Proofs.Tunnel.Guards
import TunnelRelay.Stream.Link

/-!
Writers do not interleave, and readers are exclusive.

The guards of the writer come one after another: a tenure starts when the one before it has ended.
So what guacd was sent is what the tenures have brought out, in the order of acquisition, and of
each tenure what its pieces have brought out: all of a piece whose write was answered with success,
and a first part of any other.
-/

namespace TunnelRelay

/-! ### What pieces bring out -/

def Piece.Brings (piece : Piece) (part : Bytes) : Prop :=
  part <+: piece.data ∧ (piece.written = true → part = piece.data)

/-- The parts of some pieces, one behind the other. -/
def Piece.AllBring (pieces : List Piece) (bytes : Bytes) : Prop :=
  ∃ parts, List.Forall₂ Piece.Brings pieces parts ∧ bytes = parts.flatten

theorem Piece.AllBring.snoc {pieces : List Piece} {piece : Piece}
    {bytes part : Bytes} (earlier : AllBring pieces bytes)
    (last : piece.Brings part) : AllBring (pieces ++ [piece]) (bytes ++ part) := by
  obtain ⟨parts, each, rfl⟩ := earlier
  refine ⟨parts ++ [part], List.rel_append each (.cons last .nil), ?_⟩
  rw [List.flatten_append, List.flatten_singleton]

theorem Piece.AllBring.split {front back : List Piece} {bytes : Bytes}
    (brings : AllBring (front ++ back) bytes) :
    ∃ early late, AllBring front early ∧ AllBring back late ∧ bytes = early ++ late := by
  obtain ⟨parts, each, rfl⟩ := brings
  have first := List.forall₂_take front.length each
  have last := List.forall₂_drop front.length each
  rw [List.take_left] at first
  rw [List.drop_left] at last
  refine ⟨_, _, ⟨_, first, rfl⟩, ⟨_, last, rfl⟩, ?_⟩
  rw [← List.flatten_append, List.take_append_drop]

theorem Piece.AllBring.complete {pieces : List Piece} {bytes : Bytes}
    (brings : AllBring pieces bytes)
    (written : ∀ piece ∈ pieces, piece.written = true) :
    bytes = pieces.flatMap (·.data) := by
  obtain ⟨parts, each, rfl⟩ := brings
  induction each with
  | nil => rfl
  | cons first each ih =>
      rw [List.forall_mem_cons] at written
      rw [List.flatten_cons, List.flatMap_cons, first.2 written.1, ih written.2]

theorem Piece.markLast_snoc (pieces : List Piece) (piece : Piece) :
    markLast (pieces ++ [piece]) = pieces ++ [{ piece with written := true }] := by
  induction pieces with
  | nil => rfl
  | cons first pieces ih =>
      cases pieces with
      | nil => rfl
      | cons second pieces => exact congrArg (first :: ·) ih

/-! ### Tenures, one after another -/

namespace Tenure

variable {tenures : List Tenure} {ticket : Ticket} {taken : Bytes}

def allPieces (tenures : List Tenure) : List Piece :=
  tenures.flatMap (·.pieces)

/-- What was brought out through a guard. -/
def Outputs (tenure : Tenure) (output : Bytes) : Prop :=
  Piece.AllBring tenure.pieces output ∧
    ((∀ piece ∈ tenure.pieces, piece.written = true) →
      output = tenure.pieces.flatMap (·.data))

theorem outputs_of_pieces {bytes : Bytes}
    (brings : Piece.AllBring (allPieces tenures) bytes) :
    ∃ outputs, List.Forall₂ Outputs tenures outputs ∧ bytes = outputs.flatten := by
  induction tenures generalizing bytes with
  | nil =>
      obtain ⟨parts, each, rfl⟩ := brings
      cases each
      exact ⟨[], .nil, rfl⟩
  | cons tenure tenures ih =>
      obtain ⟨early, late, first, others, rfl⟩ := Piece.AllBring.split brings
      obtain ⟨outputs, each, rfl⟩ := ih others
      exact ⟨early :: outputs, .cons ⟨first, first.complete⟩ each, rfl⟩

/-- Every tenure but the last has ended. -/
def InTurn (tenures : List Tenure) : Prop :=
  ∀ tenure ∈ tenures.dropLast, tenure.held = false

theorem change_ended {tenure : Tenure} (ended : tenure.held = false)
    (ticket : Ticket) (act : Tenure → Tenure) : change ticket act tenure = tenure := by
  unfold change
  rw [ended]
  rfl

/-- The guard of the writer that exists is the last tenure. Only this one changes
when something is done with the guard. -/
theorem InTurn.last (inTurn : InTurn tenures) (guard : ticket ∈ standing tenures) :
    ∃ (front : List Tenure) (pieces : List Piece),
      tenures = front ++ [({ ticket, pieces } : Tenure)] ∧
        ∀ act, tenures.map (change ticket act) = front ++ [act { ticket, pieces }] := by
  obtain ⟨tenure, member, own⟩ := List.mem_map.mp guard
  obtain ⟨member, held⟩ := List.mem_filter.mp member
  rcases List.eq_nil_or_concat' tenures with rfl | ⟨front, last, rfl⟩
  · cases member
  · unfold InTurn at inTurn
    rw [List.dropLast_concat] at inTurn
    rcases List.mem_append.mp member with early | late
    · rw [inTurn tenure early] at held
      cases held
    · obtain rfl := List.mem_singleton.mp late
      obtain ⟨owner, held', pieces⟩ := tenure
      cases own
      cases held
      refine ⟨front, pieces, rfl, fun act => ?_⟩
      rw [List.map_append, List.map_singleton]
      have same : front.map (change owner act) = front := by
        rw [List.map_congr_left fun tenure early =>
          change_ended (inTurn tenure early) owner act, List.map_id']
      rw [same]
      simp [change]

theorem InTurn.change (inTurn : InTurn tenures) (ticket : Ticket)
    (act : Tenure → Tenure) : InTurn (tenures.map (Tenure.change ticket act)) := by
  intro tenure member
  rw [← List.map_dropLast] at member
  obtain ⟨before, early, rfl⟩ := List.mem_map.mp member
  rw [change_ended (inTurn before early)]
  exact inTurn before early

theorem InTurn.start (ended : standing tenures = []) (tenure : Tenure) :
    InTurn (tenures ++ [tenure]) := by
  intro before member
  rw [List.dropLast_concat] at member
  unfold standing at ended
  rw [List.map_eq_nil_iff, List.filter_eq_nil_iff] at ended
  exact eq_false_of_ne_true (ended before member)

theorem standing_append (front back : List Tenure) :
    standing (front ++ back) = standing front ++ standing back := by
  unfold standing
  rw [List.filter_append, List.map_append]

theorem standing_cons (tenure : Tenure) (tenures : List Tenure) :
    standing (tenure :: tenures) = standing [tenure] ++ standing tenures :=
  standing_append [tenure] tenures

theorem standing_change (act : Tenure → Tenure) (ticket : Ticket)
    (keeps : ∀ tenure, (act tenure).held = tenure.held ∧
      (act tenure).ticket = tenure.ticket)
    (tenures : List Tenure) :
    standing (tenures.map (change ticket act)) = standing tenures := by
  induction tenures with
  | nil => rfl
  | cons tenure tenures ih =>
      rw [List.map_cons, standing_cons, standing_cons tenure, ih]
      congr 1
      unfold change
      split
      · unfold standing
        rw [List.filter_cons, List.filter_cons, (keeps tenure).1]
        split
        · exact congrArg ([·]) (keeps tenure).2
        · rfl
      · rfl

theorem standing_stop (ticket : Ticket) (tenures : List Tenure) :
    standing (tenures.map (change ticket stop)) =
      (standing tenures).filter (· != ticket) := by
  induction tenures with
  | nil => rfl
  | cons tenure tenures ih =>
      obtain ⟨owner, held, pieces⟩ := tenure
      rw [List.map_cons, standing_cons, standing_cons _ tenures,
        List.filter_append, ih]
      congr 1
      cases held with
      | false => rfl
      | true =>
          by_cases own : owner = ticket
          · simp [change, stop, standing, own]
          · simp [change, standing, own]

/-- The newest piece of the guard is being written: a part of it has been brought
out, and the rest is to be sent. -/
def Writing (tenures : List Tenure) (taken : Bytes) (ticket : Ticket)
    (sending : Sending) : Prop :=
  ∃ (front : List Tenure) (earlier : List Piece) (bytes part : Bytes),
    tenures = front ++
      [({ ticket, pieces := earlier ++ [{ data := part ++ sending.unsent }] } : Tenure)] ∧
    Piece.AllBring (allPieces front ++ earlier) bytes ∧ taken = bytes ++ part

theorem allPieces_last (front : List Tenure) (ticket : Ticket) (held : Bool)
    (earlier : List Piece) (piece : Piece) :
    allPieces (front ++ [({ ticket, held, pieces := earlier ++ [piece] } : Tenure)]) =
      allPieces front ++ earlier ++ [piece] := by
  unfold allPieces
  rw [List.flatMap_append, List.flatMap_singleton, List.append_assoc]

theorem allPieces_stop (ticket : Ticket) (tenures : List Tenure) :
    allPieces (tenures.map (change ticket stop)) = allPieces tenures := by
  unfold allPieces
  rw [List.flatMap_map]
  congr 1
  funext tenure
  unfold change
  split <;> rfl

namespace Writing

variable {sending : Sending}

theorem guard (writing : Writing tenures taken ticket sending) :
    ticket ∈ standing tenures := by
  obtain ⟨front, earlier, bytes, part, rfl, -⟩ := writing
  rw [standing_append]
  exact List.mem_append_right _ List.mem_cons_self

theorem owner (writing : Writing tenures taken ticket sending)
    (inTurn : InTurn tenures) {other : Ticket} (guard : other ∈ standing tenures) :
    ticket = other := by
  obtain ⟨front, earlier, bytes, part, split, -⟩ := writing
  obtain ⟨before, pieces, last, -⟩ := inTurn.last guard
  have same := (List.append_inj' (split.symm.trans last) rfl).2
  cases same
  rfl

theorem begins (brings : Piece.AllBring (allPieces tenures) taken)
    (inTurn : InTurn tenures) (guard : ticket ∈ standing tenures)
    (sending : Sending) :
    Writing (tenures.map (change ticket (begin sending.unsent))) taken ticket
      sending := by
  obtain ⟨front, pieces, rfl, changed⟩ := inTurn.last guard
  refine ⟨front, pieces, taken, [], changed _, ?_, (List.append_nil _).symm⟩
  unfold allPieces at brings
  rw [List.flatMap_append, List.flatMap_singleton] at brings
  exact brings

theorem brings (writing : Writing tenures taken ticket sending) :
    Piece.AllBring (allPieces tenures) taken := by
  obtain ⟨front, earlier, bytes, part, rfl, brings, rfl⟩ := writing
  rw [allPieces_last]
  exact brings.snoc ⟨List.prefix_append _ _, by simp⟩

theorem goes_on (writing : Writing tenures taken ticket sending)
    {more : Sending} {gone : Bytes} (split : sending.unsent = gone ++ more.unsent) :
    Writing tenures (taken ++ gone) ticket more := by
  obtain ⟨front, earlier, bytes, part, rfl, brings, rfl⟩ := writing
  refine ⟨front, earlier, bytes, part ++ gone, ?_, brings, List.append_assoc ..⟩
  rw [split, List.append_assoc]

theorem breaks (writing : Writing tenures taken ticket sending)
    {gone left : Bytes} (split : sending.unsent = gone ++ left) :
    Piece.AllBring (allPieces tenures) (taken ++ gone) := by
  have rest : sending.unsent = gone ++ (Sending.writing left).unsent := split
  exact (writing.goes_on rest).brings

theorem ends (writing : Writing tenures taken ticket sending)
    (inTurn : InTurn tenures) :
    Piece.AllBring (allPieces (tenures.map (change ticket finish)))
      (taken ++ sending.unsent) := by
  have guard := writing.guard
  obtain ⟨front, earlier, bytes, part, rfl, brings, rfl⟩ := writing
  obtain ⟨before, pieces, last, changed⟩ := inTurn.last guard
  obtain ⟨rfl, same⟩ := List.append_inj' last rfl
  cases same
  rw [changed]
  unfold finish
  simp only [Piece.markLast_snoc]
  rw [allPieces_last, List.append_assoc bytes]
  exact brings.snoc ⟨List.prefix_rfl, fun _ => rfl⟩

end Writing

end Tenure

/-! ### What tasks keep to -/

namespace Tasks

variable {σ : Type} {tunnel next : Tunnel (Recorded σ)} {calls : Calls}
  {guards : Guards} {ticket : Ticket}

/-- What holds of a tunnel, of the calls that wait on it, and of its guards. -/
structure Sound (tunnel : Tunnel (Recorded σ)) (calls : Calls) (guards : Guards) :
    Prop where
  reader : tunnel.readerLock.Attended .acquireReader calls guards.asksReader
    guards.reads
  queued : tunnel.queuedReaders = guards.asksReader.length
  writer : tunnel.writerLock.Attended .acquireWriter calls guards.asksWriter
    guards.writes
  inTurn : Tenure.InTurn guards.tenures
  brings : Piece.AllBring (Tenure.allPieces guards.tenures)
    tunnel.backend.stream.taken
  writing : ∀ ticket sending, calls ticket = some (.send sending) →
    Tenure.Writing guards.tenures tunnel.backend.stream.taken ticket sending

def Aside (call : Option TunnelCall) : Prop :=
  call ≠ some .acquireReader ∧ call ≠ some .acquireWriter

def Silent (call : Option TunnelCall) : Prop :=
  ∀ sending, call ≠ some (.send sending)

namespace Sound

theorem rests (sound : Sound tunnel calls guards)
    (readerLock : next.readerLock = tunnel.readerLock)
    (writerLock : next.writerLock = tunnel.writerLock)
    (queued : next.queuedReaders = tunnel.queuedReaders)
    (taken : next.backend.stream.taken = tunnel.backend.stream.taken) :
    Sound next calls guards where
  reader := readerLock ▸ sound.reader
  queued := queued.trans sound.queued
  writer := writerLock ▸ sound.writer
  inTurn := sound.inTurn
  brings := taken ▸ sound.brings
  writing := taken ▸ sound.writing

theorem others {new : Option TunnelCall} (sound : Sound tunnel calls guards)
    (silent : Silent new) (other : Ticket) (sending : Sending)
    (waits : Function.update calls ticket new other = some (.send sending)) :
    Tenure.Writing guards.tenures tunnel.backend.stream.taken other sending := by
  apply sound.writing
  by_cases same : other = ticket
  · subst same
    rw [Function.update_self] at waits
    exact absurd waits (silent sending)
  · rwa [Function.update_of_ne same] at waits

theorem quiet {new : Option TunnelCall} (sound : Sound tunnel calls guards)
    (before : Aside (calls ticket)) (after : Aside new) (silent : Silent new) :
    Sound tunnel (Function.update calls ticket new) guards where
  reader := sound.reader.other before.1 after.1
  queued := sound.queued
  writer := sound.writer.other before.2 after.2
  inTurn := sound.inTurn
  brings := sound.brings
  writing := sound.others silent

theorem aside (sound : Sound tunnel calls guards) (before : Aside (calls ticket)) :
    Sound tunnel (Function.update calls ticket none) guards :=
  sound.quiet before ⟨nofun, nofun⟩ fun _ => nofun

/-! #### The reader -/

theorem asksReader (sound : Sound tunnel calls guards)
    (free : tunnel.readerLock.isHeldBy ticket = false) (idle : calls ticket = none) :
    Sound (tunnel.requestReader ticket)
      (Function.update calls ticket (some .acquireReader))
      (guards.asks ticket .acquireReader) where
  reader := sound.reader.joins free idle
  queued := by
    change tunnel.queuedReaders + 1 = (guards.asksReader ++ [ticket]).length
    rw [sound.queued, List.length_append, List.length_singleton]
  writer := sound.writer.other (by rw [idle]; nofun) nofun
  inTurn := sound.inTurn
  brings := sound.brings
  writing := sound.others fun _ => nofun

theorem queued_leaves (sound : Sound tunnel calls guards)
    (waits : calls ticket = some .acquireReader) :
    tunnel.queuedReaders - 1 = (guards.asksReader.erase ticket).length := by
  have asker := (sound.reader.asks ticket).mpr waits
  rw [sound.queued, List.length_erase_of_mem asker]

theorem readerGiven (sound : Sound tunnel calls guards)
    (held : tunnel.readerLock.isHeldBy ticket = true)
    (waits : calls ticket = some .acquireReader) :
    Sound { tunnel with queuedReaders := tunnel.queuedReaders - 1 }
      (Function.update calls ticket none)
      ((guards.leaves ticket .acquireReader).gains ticket .acquireReader
        .acquired) where
  reader := (sound.reader.grant held waits).2
  queued := sound.queued_leaves waits
  writer := sound.writer.other (by rw [waits]; nofun) nofun
  inTurn := sound.inTurn
  brings := sound.brings
  writing := sound.others fun _ => nofun

theorem readerLeft (sound : Sound tunnel calls guards)
    (waits : calls ticket = some .acquireReader) :
    Sound (tunnel.abandonReader ticket) (Function.update calls ticket none)
      (guards.leaves ticket .acquireReader) where
  reader := sound.reader.leave waits
  queued := sound.queued_leaves waits
  writer := sound.writer.other (by rw [waits]; nofun) nofun
  inTurn := sound.inTurn
  brings := sound.brings
  writing := sound.others fun _ => nofun

theorem readerDropped (sound : Sound tunnel calls guards)
    (held : tunnel.readerLock.isHeldBy ticket = true) (idle : calls ticket = none) :
    Sound (tunnel.releaseReader ticket) calls (guards.drops ticket .reading) where
  reader := sound.reader.drop held (by rw [idle]; nofun)
  queued := sound.queued
  writer := sound.writer
  inTurn := sound.inTurn
  brings := sound.brings
  writing := sound.writing

/-! #### The writer -/

theorem asksWriter (sound : Sound tunnel calls guards)
    (free : tunnel.writerLock.isHeldBy ticket = false) (idle : calls ticket = none) :
    Sound { tunnel with writerLock := tunnel.writerLock.request ticket }
      (Function.update calls ticket (some .acquireWriter))
      (guards.asks ticket .acquireWriter) where
  reader := sound.reader.other (by rw [idle]; nofun) nofun
  queued := sound.queued
  writer := sound.writer.joins free idle
  inTurn := sound.inTurn
  brings := sound.brings
  writing := sound.others fun _ => nofun

theorem writerGiven (sound : Sound tunnel calls guards)
    (held : tunnel.writerLock.isHeldBy ticket = true)
    (waits : calls ticket = some .acquireWriter) :
    Sound tunnel (Function.update calls ticket none)
      ((guards.leaves ticket .acquireWriter).gains ticket .acquireWriter
        .acquired) := by
  obtain ⟨ended, granted⟩ := sound.writer.grant held waits
  refine ⟨sound.reader.other (by rw [waits]; nofun) nofun, sound.queued, ?_,
    Tenure.InTurn.start ended _, ?_, ?_⟩
  · have more : ((guards.leaves ticket .acquireWriter).gains ticket .acquireWriter
        .acquired).writes = guards.writes ++ [ticket] :=
      Tenure.standing_append guards.tenures [{ ticket }]
    rw [more]
    exact granted
  · change Piece.AllBring (Tenure.allPieces (guards.tenures ++ [_])) _
    unfold Tenure.allPieces
    rw [List.flatMap_append, List.flatMap_singleton, List.append_nil]
    exact sound.brings
  · -- who writes would be a guard, and there was none
    intro other sending sends
    have silent : Silent none := fun _ => nofun
    have guard := (sound.others silent other sending sends).guard
    have empty : Tenure.standing guards.tenures = [] := ended
    rw [empty] at guard
    cases guard

theorem writerLeft (sound : Sound tunnel calls guards)
    (waits : calls ticket = some .acquireWriter) :
    Sound (tunnel.releaseWriter ticket) (Function.update calls ticket none)
      (guards.leaves ticket .acquireWriter) where
  reader := sound.reader.other (by rw [waits]; nofun) nofun
  queued := sound.queued
  writer := sound.writer.leave waits
  inTurn := sound.inTurn
  brings := sound.brings
  writing := sound.others fun _ => nofun

theorem writerDropped (sound : Sound tunnel calls guards)
    (held : tunnel.writerLock.isHeldBy ticket = true) (idle : calls ticket = none) :
    Sound (tunnel.releaseWriter ticket) calls (guards.drops ticket .writing) := by
  have aside : calls ticket ≠ some .acquireWriter := by
    rw [idle]
    nofun
  have guard := sound.writer.guard_of_held held aside
  have distinct : guards.writes.Nodup :=
    (List.nodup_append.mp (sound.writer.queue ▸ sound.writer.distinct)).1
  refine ⟨sound.reader, sound.queued, ?_, sound.inTurn.change _ _, ?_, ?_⟩
  · have fewer : (guards.drops ticket .writing).writes = guards.writes.erase ticket :=
      (Tenure.standing_stop ticket guards.tenures).trans
        (distinct.erase_eq_filter ticket).symm
    rw [fewer]
    exact sound.writer.drop held aside
  · exact (Tenure.allPieces_stop ticket guards.tenures).symm ▸ sound.brings
  · -- the guard that is dropped is the only one, and it does not write
    intro other sending sends
    obtain rfl := (sound.writing other sending sends).owner sound.inTurn guard
    rw [idle] at sends
    cases sends

/-! #### Writes -/

theorem sends (sound : Sound tunnel calls guards)
    (held : tunnel.writerLock.isHeldBy ticket = true) (idle : calls ticket = none)
    (sending : Sending) :
    Sound tunnel (Function.update calls ticket (some (.send sending)))
      (guards.asks ticket (.send sending)) := by
  have guard := sound.writer.guard_of_held held (by rw [idle]; nofun)
  have begun := Tenure.Writing.begins sound.brings sound.inTurn guard sending
  have same : (guards.asks ticket (.send sending)).writes = guards.writes :=
    Tenure.standing_change (Tenure.begin sending.unsent) ticket (fun _ => ⟨rfl, rfl⟩)
      guards.tenures
  refine ⟨sound.reader.other (by rw [idle]; nofun) nofun, sound.queued, ?_,
    sound.inTurn.change _ _, begun.brings, ?_⟩
  · rw [same]
    exact sound.writer.other (by rw [idle]; nofun) nofun
  · intro other others waits
    by_cases own : other = ticket
    · subst own
      rw [Function.update_self] at waits
      cases waits
      exact begun
    · rw [Function.update_of_ne own] at waits
      exact absurd ((sound.writing other others waits).owner sound.inTurn guard) own

theorem alone (sound : Sound tunnel calls guards) {sending : Sending}
    (sends : calls ticket = some (.send sending)) {new : Option TunnelCall}
    {other : Ticket} {others : Sending}
    (waits : Function.update calls ticket new other = some (.send others)) :
    other = ticket ∧ new = some (.send others) := by
  by_cases own : other = ticket
  · subst own
    rw [Function.update_self] at waits
    exact ⟨rfl, waits⟩
  · rw [Function.update_of_ne own] at waits
    have guard := (sound.writing ticket sending sends).guard
    exact absurd ((sound.writing other others waits).owner sound.inTurn guard) own

theorem sent (sound : Sound tunnel calls guards) {sending : Sending}
    (sends : calls ticket = some (.send sending)) {backend : Backend (Recorded σ)}
    (taken : backend.stream.taken =
      tunnel.backend.stream.taken ++ sending.unsent) :
    Sound { tunnel with backend } (Function.update calls ticket none)
      ((guards.leaves ticket (.send sending)).gains ticket (.send sending)
        .done) := by
  have same : ((guards.leaves ticket (.send sending)).gains ticket (.send sending)
      .done).writes = guards.writes :=
    Tenure.standing_change Tenure.finish ticket (fun _ => ⟨rfl, rfl⟩) guards.tenures
  refine ⟨sound.reader.other (by rw [sends]; nofun) nofun, sound.queued, ?_,
    sound.inTurn.change _ _, ?_, ?_⟩
  · rw [same]
    exact sound.writer.other (by rw [sends]; nofun) nofun
  · change Piece.AllBring _ backend.stream.taken
    rw [taken]
    exact (sound.writing ticket sending sends).ends sound.inTurn
  · intro other others waits
    cases (sound.alone sends waits).2

theorem broken (sound : Sound tunnel calls guards) {sending : Sending}
    (sends : calls ticket = some (.send sending)) {backend : Backend (Recorded σ)}
    {gone left : Bytes} (split : sending.unsent = gone ++ left)
    (taken : backend.stream.taken = tunnel.backend.stream.taken ++ gone) :
    Sound { tunnel with backend } (Function.update calls ticket none) guards := by
  refine ⟨sound.reader.other (by rw [sends]; nofun) nofun, sound.queued,
    sound.writer.other (by rw [sends]; nofun) nofun, sound.inTurn, ?_, ?_⟩
  · change Piece.AllBring _ backend.stream.taken
    rw [taken]
    exact (sound.writing ticket sending sends).breaks split
  · intro other others waits
    cases (sound.alone sends waits).2

theorem goes_on (sound : Sound tunnel calls guards) {sending more : Sending}
    (sends : calls ticket = some (.send sending)) {backend : Backend (Recorded σ)}
    {gone : Bytes} (split : sending.unsent = gone ++ more.unsent)
    (taken : backend.stream.taken = tunnel.backend.stream.taken ++ gone) :
    Sound { tunnel with backend }
      (Function.update calls ticket (some (.send more))) guards := by
  have further := (sound.writing ticket sending sends).goes_on split
  rw [← taken] at further
  refine ⟨sound.reader.other (by rw [sends]; nofun) nofun, sound.queued,
    sound.writer.other (by rw [sends]; nofun) nofun, sound.inTurn,
    further.brings, ?_⟩
  intro other others waits
  obtain ⟨rfl, same⟩ := sound.alone sends waits
  cases same
  exact further

end Sound

/-! ### Every step keeps to it -/

variable {tasks : Tasks σ}

/-- What holds of tasks and of what their events tell. -/
def Kept (tasks : Tasks σ) : Prop :=
  Sound tasks.tunnel tasks.shared.callOf (Guards.ofEvents tasks.events)

theorem Kept.of {shared : SharedTunnel (Recorded σ)}
    {events later : List TunnelEvent} (waiting : shared.callOf = calls)
    (told : later.foldl Guards.note (Guards.ofEvents events) = guards)
    (sound : Sound shared.tunnel calls guards) :
    Kept { shared, events := events ++ later } := by
  have whole : Guards.ofEvents (events ++ later) =
      later.foldl Guards.note (Guards.ofEvents events) := List.foldl_append
  unfold Kept
  rw [whole, told]
  exact waiting ▸ sound

theorem fresh_kept (uuid : Uuid) (connectionId : Option String) (stream : σ)
    (reader : FrameReader) : (fresh uuid connectionId stream reader).Kept where
  reader := Lock.Attended.fresh .acquireReader
  queued := rfl
  writer := Lock.Attended.fresh .acquireWriter
  inTurn := nofun
  brings := ⟨[], .nil, rfl⟩
  writing := nofun

theorem callOf_without (shared : SharedTunnel (Recorded σ)) (ticket : Ticket) :
    (shared.without ticket).callOf = Function.update shared.callOf ticket none := by
  funext other
  rw [Function.update_apply]
  exact SharedTunnel.lookup_without ticket other shared.waiting

theorem callOf_add {shared : SharedTunnel (Recorded σ)}
    (idle : shared.callOf ticket = none) (tunnel : Tunnel (Recorded σ))
    (call : TunnelCall) :
    SharedTunnel.callOf { shared with
        tunnel, waiting := shared.waiting ++ [(ticket, call)] } =
      Function.update shared.callOf ticket (some call) := by
  funext other
  rw [Function.update_apply]
  exact SharedTunnel.lookup_add idle call other

theorem admits_iff {shared : SharedTunnel (Recorded σ)} {call : TunnelCall} :
    shared.admits ticket call = true ↔ shared.isBusy ticket = false ∧
      shared.permits ticket call = true ∧ shared.hasAlready ticket call = false := by
  unfold SharedTunnel.admits
  rw [Bool.and_eq_true, Bool.and_eq_true, Bool.not_eq_true', Bool.not_eq_true',
    and_assoc]

theorem Sound.refused (sound : Sound tunnel calls guards)
    (idle : calls ticket = none) (error : RelayError) :
    [.called ticket .acquireWriter,
        .answered ticket .acquireWriter (.failed error)].foldl Guards.note guards =
      guards := by
  have absent : ticket ∉ guards.asksWriter := by
    rw [sound.writer.asks, idle]
    nofun
  change { guards with
    asksWriter := (guards.asksWriter ++ [ticket]).erase ticket } = guards
  rw [List.erase_append_right _ absent, List.erase_cons_head, List.append_nil]

theorem Kept.call (kept : tasks.Kept) (ticket : Ticket) (call : TunnelCall) :
    (tasks.call ticket call).Kept := by
  unfold Tasks.call
  split
  · rename_i admitted
    obtain ⟨idle, permitted, free⟩ := admits_iff.mp admitted
    have waits := SharedTunnel.callOf_of_idle idle
    have begun := callOf_add waits
    have aside : Aside (tasks.shared.callOf ticket) := by
      rw [waits]
      exact ⟨nofun, nofun⟩
    cases call with
    | acquireReader => exact .of (begun _ _) rfl (kept.asksReader free waits)
    | acquireWriter =>
        simp only [SharedTunnel.join, Tunnel.requestWriter]
        by_cases isOpen : tasks.shared.tunnel.isOpen = true
        · simp only [if_pos isOpen]
          exact .of (begun _ _) rfl (kept.asksWriter free waits)
        · simp only [if_neg isOpen]
          exact .of rfl (kept.refused waits _) kept
    | read => exact .of (begun _ _) rfl (kept.quiet aside ⟨nofun, nofun⟩ nofun)
    | send sending => exact .of (begun _ _) rfl (kept.sends permitted waits sending)
    | shutdown => exact .of (begun _ _) rfl (kept.quiet aside ⟨nofun, nofun⟩ nofun)
  · exact kept

theorem Kept.giveUp (kept : tasks.Kept) (ticket : Ticket) :
    (tasks.giveUp ticket).Kept := by
  unfold Tasks.giveUp
  split
  · exact kept
  · rename_i call waits
    have left := callOf_without tasks.shared ticket
    cases call with
    | acquireReader => exact .of left rfl (kept.readerLeft waits)
    | acquireWriter => exact .of left rfl (kept.writerLeft waits)
    | read | send sending | shutdown =>
        exact .of left rfl (kept.aside (by rw [waits]; exact ⟨nofun, nofun⟩))

theorem Kept.drop (kept : tasks.Kept) (ticket : Ticket) (half : Half) :
    (tasks.drop ticket half).Kept := by
  unfold Tasks.drop
  split
  · rename_i allowed
    rw [Bool.and_eq_true, Bool.not_eq_true'] at allowed
    have idle := SharedTunnel.callOf_of_idle allowed.1
    cases half with
    | reading => exact .of rfl rfl (kept.readerDropped allowed.2 idle)
    | writing => exact .of rfl rfl (kept.writerDropped allowed.2 idle)
  · exact kept

variable [Connection σ]

theorem turn_goes {call : TunnelCall}
    (waits : tasks.shared.callOf ticket = some call)
    {outcome : TunnelReply ⊕ TunnelCall}
    (goes : call.poll ticket tasks.tunnel = (outcome, next))
    (sound : match outcome with
      | .inl reply => Sound next (Function.update tasks.shared.callOf ticket none)
          ((Guards.ofEvents tasks.events).note (.answered ticket call reply))
      | .inr more => Sound next
          (Function.update tasks.shared.callOf ticket (some more))
          (Guards.ofEvents tasks.events)) :
    (tasks.turn ticket).Kept := by
  have goes' : call.poll ticket (tasks.shared.without ticket).tunnel = _ := goes
  simp only [Tasks.turn, waits, SharedTunnel.poll, goes, goes']
  cases outcome with
  | inl reply => exact .of (callOf_without tasks.shared ticket) rfl sound
  | inr more =>
      have idle : (tasks.shared.without ticket).callOf ticket = none := by
        rw [callOf_without, Function.update_self]
      refine .of ?_ rfl sound
      rw [callOf_add idle, callOf_without, Function.update_idem]

theorem Kept.turn (kept : tasks.Kept) (ticket : Ticket) :
    (tasks.turn ticket).Kept := by
  cases waits : tasks.shared.callOf ticket with
  | none =>
      unfold Tasks.turn
      rw [waits]
      exact kept
  | some call =>
      rcases polled : call.poll ticket tasks.tunnel with ⟨outcome, next⟩
      apply turn_goes waits polled
      have goes := call.goes ticket tasks.tunnel
      rw [polled] at goes
      -- one case for each thing that a call can come to
      cases goes with
      | readerGiven held => exact kept.readerGiven held waits
      | writerGiven held isOpen => exact kept.writerGiven held waits
      | writerRefused held shut => exact kept.writerLeft waits
      | answered silent reply reader backend rests =>
          have rested : Sound { tasks.tunnel with reader, backend } _ _ :=
            kept.rests rfl rfl rfl rests.taken
          rcases silent with rfl | rfl <;>
            exact rested.aside (by rw [waits]; exact ⟨nofun, nofun⟩)
      | waits silent reader backend rests =>
          simp only [← waits, Function.update_eq_self]
          exact kept.rests rfl rfl rfl rests.taken
      | sent sending backend advances => exact kept.sent waits advances.taken
      | broken sending error backend gone left split advances =>
          exact kept.broken waits split advances.taken
      | sends sending more backend gone split advances =>
          exact kept.goes_on waits split advances.taken

theorem Kept.step (kept : tasks.Kept) (step : TunnelStep σ) :
    (tasks.step step).Kept := by
  cases step with
  | call ticket call => exact kept.call ticket call
  | turn ticket => exact kept.turn ticket
  | giveUp ticket => exact kept.giveUp ticket
  | drop ticket half => exact kept.drop ticket half
  | close =>
      change (tasks.undergo Tunnel.close).Kept
      unfold Tasks.undergo Tunnel.close
      split
      · exact kept.rests rfl rfl rfl tasks.tunnel.backend.release_record.2.1
      · exact kept
  | guacd change => exact kept.rests rfl rfl rfl rfl

theorem Kept.run (kept : tasks.Kept) (steps : List (TunnelStep σ)) :
    (tasks.run steps).Kept := by
  induction steps generalizing tasks with
  | nil => exact kept
  | cons step steps ih => exact ih (kept.step step)

/-- However the steps of tasks interleave, there is at most one guard of the writer
and one of the reader. What guacd was sent is what the guards of the writer have
brought out, in the order of their acquisition: of each guard its complete output,
if its writes were answered with success, and otherwise first parts of its pieces.
Readers are queued exactly when a task waits for the reader: one that has asked
for it, and was not answered, and has not given up. -/
theorem writers_in_turn (uuid : Uuid) (connectionId : Option String) (stream : σ)
    (reader : FrameReader) (steps : List (TunnelStep σ)) :
    let tasks := (fresh uuid connectionId stream reader).run steps
    let guards := Guards.ofEvents tasks.events
    guards.writes.length ≤ 1 ∧ guards.reads.length ≤ 1 ∧
      (∃ outputs, List.Forall₂ Tenure.Outputs guards.tenures outputs ∧
        tasks.taken = outputs.flatten) ∧
      ((∀ tenure ∈ guards.tenures, ∀ piece ∈ tenure.pieces, piece.written = true) →
        tasks.taken =
          guards.tenures.flatMap fun tenure => tenure.pieces.flatMap (·.data)) ∧
      (tasks.tunnel.hasQueuedReaders = true ↔
        ∃ ticket, ticket ∈ guards.asksReader) ∧
      ∀ ticket, ticket ∈ guards.asksReader ↔
        tasks.shared.callOf ticket = some .acquireReader := by
  intro tasks guards
  have kept : tasks.Kept := (fresh_kept uuid connectionId stream reader).run steps
  refine ⟨kept.writer.single, kept.reader.single,
    Tenure.outputs_of_pieces kept.brings, ?_, ?_, kept.reader.asks⟩
  · intro written
    have each : ∀ piece ∈ Tenure.allPieces guards.tenures, piece.written = true := by
      intro piece member
      obtain ⟨tenure, among, own⟩ := List.mem_flatMap.mp member
      exact written tenure among piece own
    rw [← List.flatMap_assoc]
    exact kept.brings.complete each
  · unfold Tunnel.hasQueuedReaders
    rw [decide_eq_true_iff, kept.queued, List.length_pos_iff_exists_mem]

/-- A task stands in the middle of a piece while another waits for the writer. -/
example :
    let tasks := (fresh (.ofRandom []) none (Link.ofCapacity 4) .ofGuacd).run
      [.call 0 .acquireWriter, .call 1 .acquireWriter, .turn 0, .turn 1,
        .call 0 (.send (.ofBytes (Bytes.ofText "3.nop;"))), .turn 0, .turn 1]
    (Guards.ofEvents tasks.events).writes = [0] ∧
      (Guards.ofEvents tasks.events).asksWriter = [1] ∧
      tasks.taken = Bytes.ofText "3.no" := by
  decide +kernel

end Tasks

end TunnelRelay
