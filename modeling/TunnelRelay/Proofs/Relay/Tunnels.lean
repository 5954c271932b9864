import Mathlib.Data.List.Nodup
import TunnelRelay.LongPoll.Command
import TunnelRelay.LongPoll.Read
import TunnelRelay.Proofs.Stream.Recorded
import TunnelRelay.Registry

/-!
What becomes of a registered tunnel.

A tunnel keeps its UUID and its token, its record only grows, and once it is closed it stays closed
and takes nothing more. Most of what the relay does is quiet: it sends nothing to guacd and leaves
the writer's lock alone, though it may close tunnels. All that long-poll reads do is quiet.
-/

namespace TunnelRelay

variable {σ : Type}

theorem Tunnel.readFrame_rests [Connection σ] (tunnel : Tunnel (Recorded σ)) :
    tunnel.readFrame.2.uuid = tunnel.uuid ∧
      tunnel.readFrame.2.isOpen = tunnel.isOpen ∧
      tunnel.readFrame.2.writerLock = tunnel.writerLock ∧
      tunnel.backend.Rests tunnel.readFrame.2.backend := by
  unfold Tunnel.readFrame
  split
  · exact ⟨rfl, rfl, rfl, Backend.Rests.refl _⟩
  · cases reading : tunnel.reader.readFrame tunnel.backend with
    | mk outcome rest =>
        exact ⟨rfl, rfl, rfl, FrameReader.readFrame_rests reading⟩

theorem Tunnel.send_advances [Connection σ] {tunnel next : Tunnel (Recorded σ)}
    {sending : Sending} {sent : Sent}
    (done : tunnel.send sending = (sent, next)) :
    next.uuid = tunnel.uuid ∧ next.isOpen = tunnel.isOpen ∧
      next.writerLock = tunnel.writerLock ∧
      ∃ gone left, sending.unsent = gone ++ left ∧
        tunnel.backend.Advances next.backend gone ∧
        sent.Ends tunnel.backend next.backend left := by
  unfold Tunnel.send at done
  cases polled : sending.poll tunnel.backend with
  | mk outcome backend =>
      rw [polled] at done
      cases done
      exact ⟨rfl, rfl, rfl, Sending.poll_advances polled⟩

/-- A tunnel is closed, whether it was open or not, and nothing is sent. -/
structure Tunnel.Closes (before after : Tunnel (Recorded σ)) : Prop where
  uuid : after.uuid = before.uuid
  lock : after.writerLock = before.writerLock
  isOpen : after.isOpen = false
  taken : after.backend.stream.taken = before.backend.stream.taken
  waited : after.backend.stream.waited = before.backend.stream.waited
  failed : after.backend.stream.failed = before.backend.stream.failed
  severed : before.backend.live = false → after.backend.live = false
  released : before.isOpen = true → after.backend.live = false

theorem Tunnel.close_closes [Connection σ] (tunnel : Tunnel (Recorded σ)) :
    tunnel.Closes tunnel.close := by
  obtain ⟨gone, taken, waited, failed⟩ := tunnel.backend.release_record
  unfold Tunnel.close
  split
  · exact ⟨rfl, rfl, rfl, taken, waited, failed, fun _ => gone, fun _ => gone⟩
  · rename_i shut
    exact ⟨rfl, rfl, eq_false_of_ne_true shut, rfl, rfl, rfl, id,
      fun open_ => absurd open_ shut⟩

namespace RegisteredTunnel

def record (registered : RegisteredTunnel (Recorded σ)) : Recorded σ :=
  registered.tunnel.backend.stream

/-- A tunnel is listed, and has its connection, exactly as long as it is open. -/
def Sane (registered : RegisteredTunnel (Recorded σ)) : Prop :=
  registered.listed = registered.tunnel.isOpen ∧
    registered.tunnel.backend.live = registered.tunnel.isOpen

/-- What every change keeps to, when guacd has been sent the bytes `gone`. -/
structure Follows (before after : RegisteredTunnel (Recorded σ))
    (gone : Bytes) : Prop where
  uuid : after.tunnel.uuid = before.tunnel.uuid
  token : after.token = before.token
  taken : after.record.taken = before.record.taken ++ gone
  severed : before.tunnel.backend.live = false →
    gone = [] ∧ after.tunnel.backend.live = false
  waited : before.record.waited = true → after.record.waited = true
  failed : before.record.failed = true → after.record.failed = true
  sane : before.Sane → after.Sane
  shut : before.tunnel.isOpen = false → after.tunnel.isOpen = false

/-- A change after which every failure has closed the tunnel. -/
structure Tracks (before after : RegisteredTunnel (Recorded σ))
    (gone : Bytes) : Prop extends before.Follows after gone where
  fault : after.record.failed = true →
    before.record.failed = true ∨ after.tunnel.isOpen = false

/-- Nothing is sent to guacd, and the writer's lock stays as it is. -/
structure Quiet (before after : RegisteredTunnel (Recorded σ)) : Prop where
  tracks : before.Tracks after []
  lock : after.tunnel.writerLock = before.tunnel.writerLock

theorem Tracks.refl (registered : RegisteredTunnel (Recorded σ)) :
    registered.Tracks registered [] where
  uuid := rfl
  token := rfl
  taken := (List.append_nil _).symm
  severed released := ⟨rfl, released⟩
  waited := id
  failed := id
  sane := id
  shut := id
  fault := Or.inl

theorem Follows.unwaited {before after : RegisteredTunnel (Recorded σ)}
    {gone : Bytes} (follows : before.Follows after gone)
    (never : after.record.waited = false) : before.record.waited = false := by
  cases waited : before.record.waited with
  | false => rfl
  | true =>
      rw [follows.waited waited] at never
      cases never

theorem Follows.unfailed {before after : RegisteredTunnel (Recorded σ)}
    {gone : Bytes} (follows : before.Follows after gone)
    (never : after.record.failed = false) : before.record.failed = false := by
  cases failed : before.record.failed with
  | false => rfl
  | true =>
      rw [follows.failed failed] at never
      cases never

theorem Follows.trans {first second third : RegisteredTunnel (Recorded σ)}
    {early late : Bytes} (before : first.Follows second early)
    (after : second.Follows third late) :
    first.Follows third (early ++ late) where
  uuid := after.uuid.trans before.uuid
  token := after.token.trans before.token
  taken := by rw [after.taken, before.taken, List.append_assoc]
  severed := by
    intro released
    have nothing := before.severed released
    have further := after.severed nothing.2
    rw [nothing.1, further.1]
    exact ⟨rfl, further.2⟩
  waited := after.waited ∘ before.waited
  failed := after.failed ∘ before.failed
  sane := after.sane ∘ before.sane
  shut := after.shut ∘ before.shut

theorem Tracks.trans {first second third : RegisteredTunnel (Recorded σ)}
    {early late : Bytes} (before : first.Tracks second early)
    (after : second.Tracks third late) :
    first.Tracks third (early ++ late) := by
  refine ⟨before.toFollows.trans after.toFollows, ?_⟩
  intro fault
  rcases after.fault fault with earlier | closed
  · exact (before.fault earlier).imp_right after.shut
  · exact Or.inr closed

theorem Tracks.opened {before after : RegisteredTunnel (Recorded σ)}
    {gone : Bytes} (tracks : before.Tracks after gone)
    (open_ : after.tunnel.isOpen = true) : before.tunnel.isOpen = true := by
  cases earlier : before.tunnel.isOpen with
  | true => rfl
  | false =>
      rw [tracks.shut earlier] at open_
      cases open_

theorem Quiet.refl (registered : RegisteredTunnel (Recorded σ)) :
    registered.Quiet registered :=
  ⟨Tracks.refl registered, rfl⟩

theorem Quiet.trans {first second third : RegisteredTunnel (Recorded σ)}
    (before : first.Quiet second) (after : second.Quiet third) :
    first.Quiet third :=
  ⟨before.tracks.trans after.tracks, after.lock.trans before.lock⟩

theorem tracks_of_rests {before after : RegisteredTunnel (Recorded σ)}
    (uuid : after.tunnel.uuid = before.tunnel.uuid)
    (token : after.token = before.token)
    (listed : after.listed = before.listed)
    (isOpen : after.tunnel.isOpen = before.tunnel.isOpen)
    (rests : before.tunnel.backend.Rests after.tunnel.backend) :
    before.Tracks after [] where
  uuid := uuid
  token := token
  taken := by
    rw [List.append_nil]
    exact rests.taken
  severed released := ⟨rfl, rests.live.trans released⟩
  waited set := rests.waited.trans set
  failed set := rests.failed.trans set
  fault set := Or.inl (rests.failed.symm.trans set)
  sane sane :=
    ⟨listed.trans (sane.1.trans isOpen.symm),
      rests.live.trans (sane.2.trans isOpen.symm)⟩
  shut closed := isOpen.trans closed

theorem follows_of_advances {before after : RegisteredTunnel (Recorded σ)}
    {gone : Bytes} (uuid : after.tunnel.uuid = before.tunnel.uuid)
    (token : after.token = before.token)
    (listed : after.listed = before.listed)
    (isOpen : after.tunnel.isOpen = before.tunnel.isOpen)
    (advances : before.tunnel.backend.Advances after.tunnel.backend gone) :
    before.Follows after gone where
  uuid := uuid
  token := token
  taken := advances.taken
  severed released :=
    ⟨advances.severed released, advances.live.trans released⟩
  waited := advances.waited
  failed := advances.failed
  sane sane :=
    ⟨listed.trans (sane.1.trans isOpen.symm),
      advances.live.trans (sane.2.trans isOpen.symm)⟩
  shut closed := isOpen.trans closed

theorem quiet_of_rests {before after : RegisteredTunnel (Recorded σ)}
    (uuid : after.tunnel.uuid = before.tunnel.uuid)
    (token : after.token = before.token)
    (listed : after.listed = before.listed)
    (isOpen : after.tunnel.isOpen = before.tunnel.isOpen)
    (lock : after.tunnel.writerLock = before.tunnel.writerLock)
    (rests : before.tunnel.backend.Rests after.tunnel.backend) :
    before.Quiet after :=
  ⟨tracks_of_rests uuid token listed isOpen rests, lock⟩

end RegisteredTunnel

/-! ### The whole registry -/

namespace Registry

structure Quiet (before after : Registry (Recorded σ)) : Prop where
  length : after.tunnels.length = before.tunnels.length
  each : ∀ number registered, before.tunnel? number = some registered →
    ∃ later, after.tunnel? number = some later ∧ registered.Quiet later

theorem Quiet.refl (registry : Registry (Recorded σ)) :
    registry.Quiet registry :=
  ⟨rfl, fun _ registered found =>
    ⟨registered, found, RegisteredTunnel.Quiet.refl registered⟩⟩

theorem Quiet.trans {first second third : Registry (Recorded σ)}
    (before : first.Quiet second) (after : second.Quiet third) :
    first.Quiet third := by
  refine ⟨after.length.trans before.length, ?_⟩
  intro number registered found
  obtain ⟨middle, there, early⟩ := before.each number registered found
  obtain ⟨later, here, late⟩ := after.each number middle there
  exact ⟨later, here, early.trans late⟩

theorem Quiet.earlier {before after : Registry (Recorded σ)}
    (quiet : before.Quiet after) {number : Nat}
    {registered : RegisteredTunnel (Recorded σ)}
    (there : after.tunnel? number = some registered) :
    ∃ earlier, before.tunnel? number = some earlier ∧
      earlier.Quiet registered := by
  obtain ⟨within, -⟩ := List.getElem?_eq_some_iff.mp there
  rw [quiet.length] at within
  have was : before.tunnel? number = some before.tunnels[number] :=
    List.getElem?_eq_getElem within
  obtain ⟨later, here, same⟩ := quiet.each number _ was
  rw [there] at here
  cases here
  exact ⟨before.tunnels[number], was, same⟩

def uuids (registry : Registry (Recorded σ)) : List Uuid :=
  registry.tunnels.map (·.tunnel.uuid)

theorem Quiet.map {α : Type} {value : RegisteredTunnel (Recorded σ) → α}
    {before after : Registry (Recorded σ)} (quiet : before.Quiet after)
    (keeps : ∀ earlier later : RegisteredTunnel (Recorded σ),
      earlier.Quiet later → value later = value earlier) :
    after.tunnels.map value = before.tunnels.map value := by
  apply List.ext_getElem?
  intro number
  rw [List.getElem?_map, List.getElem?_map]
  cases found : before.tunnels[number]? with
  | none =>
      rw [List.getElem?_eq_none_iff.mpr]
      rw [quiet.length]
      exact List.getElem?_eq_none_iff.mp found
  | some registered =>
      obtain ⟨later, there, same⟩ := quiet.each number registered found
      have here : after.tunnels[number]? = some later := there
      rw [here, Option.map_some, Option.map_some, keeps registered later same]

theorem Quiet.uuids {before after : Registry (Recorded σ)}
    (quiet : before.Quiet after) : after.uuids = before.uuids :=
  quiet.map fun _ _ same => same.tracks.uuid

/-- All tunnels but one are quiet, and that one keeps its UUID. -/
structure Beside (number : Nat) (before after : Registry (Recorded σ)) :
    Prop where
  uuids : after.uuids = before.uuids
  each : ∀ other registered, other ≠ number →
    before.tunnel? other = some registered →
    ∃ later, after.tunnel? other = some later ∧ registered.Quiet later

theorem Quiet.beside {before after : Registry (Recorded σ)}
    (quiet : before.Quiet after) (number : Nat) :
    before.Beside number after :=
  ⟨quiet.uuids, fun other registered _ => quiet.each other registered⟩

theorem Beside.trans {first second third : Registry (Recorded σ)}
    {number : Nat} (before : first.Beside number second)
    (after : second.Beside number third) : first.Beside number third := by
  refine ⟨after.uuids.trans before.uuids, ?_⟩
  intro other registered differs found
  obtain ⟨middle, there, early⟩ := before.each other registered differs found
  obtain ⟨later, here, late⟩ := after.each other middle differs there
  exact ⟨later, here, early.trans late⟩

theorem tunnel?_update_self (registry : Registry σ) (number : Nat)
    (change : RegisteredTunnel σ → RegisteredTunnel σ) :
    (registry.update number change).tunnel? number =
      (registry.tunnel? number).map change := by
  simp [tunnel?, update]

theorem tunnel?_update_other (registry : Registry σ) {number other : Nat}
    (differs : other ≠ number)
    (change : RegisteredTunnel σ → RegisteredTunnel σ) :
    (registry.update number change).tunnel? other = registry.tunnel? other := by
  simp [tunnel?, update, Ne.symm differs]

theorem length_update (registry : Registry σ) (number : Nat)
    (change : RegisteredTunnel σ → RegisteredTunnel σ) :
    (registry.update number change).tunnels.length =
      registry.tunnels.length := by
  simp [update]

theorem map_update {α : Type} (registry : Registry σ) (number : Nat)
    {value : RegisteredTunnel σ → α} {rewrite : α → α}
    {change : RegisteredTunnel σ → RegisteredTunnel σ}
    (follows : ∀ registered, registry.tunnel? number = some registered →
      value (change registered) = rewrite (value registered)) :
    (registry.update number change).tunnels.map value =
      (registry.tunnels.map value).modify number rewrite := by
  apply List.ext_getElem?
  intro other
  rw [update, List.getElem?_map, List.getElem?_modify, List.getElem?_modify,
    List.getElem?_map]
  by_cases same : number = other
  · subst same
    cases found : registry.tunnels[number]? with
    | none => rfl
    | some registered =>
        simp only [if_true, Option.map_some]
        exact congrArg some (follows registered found)
  · simp [same]

theorem map_update_rest {α : Type} (registry : Registry σ) (number : Nat)
    {value : RegisteredTunnel σ → α}
    {change : RegisteredTunnel σ → RegisteredTunnel σ}
    (rests : ∀ registered, registry.tunnel? number = some registered →
      value (change registered) = value registered) :
    (registry.update number change).tunnels.map value =
      registry.tunnels.map value := by
  have same : ∀ registered, registry.tunnel? number = some registered →
      value (change registered) = id (value registered) := rests
  rw [registry.map_update number same, List.modify_id]

theorem update_congr (registry : Registry σ) (number : Nat)
    {change other : RegisteredTunnel σ → RegisteredTunnel σ}
    (agrees : ∀ registered, registry.tunnel? number = some registered →
      change registered = other registered) :
    registry.update number change = registry.update number other := by
  have follows : ∀ registered, registry.tunnel? number = some registered →
      id (change registered) = other (id registered) := agrees
  have same := registry.map_update number follows
  rw [List.map_id, List.map_id] at same
  exact congrArg (fun tunnels => { registry with tunnels }) same

theorem quiet_update {registry : Registry (Recorded σ)} {number : Nat}
    {change : RegisteredTunnel (Recorded σ) → RegisteredTunnel (Recorded σ)}
    (quiet : ∀ registered, registry.tunnel? number = some registered →
      registered.Quiet (change registered)) :
    registry.Quiet (registry.update number change) := by
  refine ⟨registry.length_update number change, ?_⟩
  intro other registered found
  by_cases same : other = number
  · subst same
    refine ⟨change registered, ?_, quiet registered found⟩
    rw [tunnel?_update_self, found]
    rfl
  · refine ⟨registered, ?_, RegisteredTunnel.Quiet.refl registered⟩
    rw [registry.tunnel?_update_other same, found]

theorem beside_update {registry : Registry (Recorded σ)} {number : Nat}
    {change : RegisteredTunnel (Recorded σ) → RegisteredTunnel (Recorded σ)}
    (uuid : ∀ registered, registry.tunnel? number = some registered →
      (change registered).tunnel.uuid = registered.tunnel.uuid) :
    registry.Beside number (registry.update number change) := by
  constructor
  · exact registry.map_update_rest number uuid
  · intro other registered differs found
    refine ⟨registered, ?_, RegisteredTunnel.Quiet.refl registered⟩
    rw [registry.tunnel?_update_other differs, found]

theorem quiet_of_same {before after : Registry (Recorded σ)}
    (same : after.tunnels = before.tunnels) : before.Quiet after := by
  refine ⟨congrArg List.length same, ?_⟩
  intro number registered found
  refine ⟨registered, ?_, RegisteredTunnel.Quiet.refl registered⟩
  rw [tunnel?, same]
  exact found

/-! ### Finding -/

section Finding

variable {registry : Registry σ} {uuid : Uuid} {number : Nat}

theorem find?_some (found : registry.find? uuid = some number) :
    ∃ registered, registry.tunnel? number = some registered ∧
      registered.isListedAs uuid = true := by
  obtain ⟨within, listed, -⟩ :=
    List.findIdx?_eq_some_iff_getElem.mp found
  exact ⟨registry.tunnels[number], List.getElem?_eq_getElem within, listed⟩

/-- No two tunnels share a UUID. -/
def Distinct (registry : Registry σ) : Prop :=
  (registry.tunnels.map (·.tunnel.uuid)).Nodup

theorem Distinct.eq_of_listed (distinct : registry.Distinct) {other : Nat}
    {first second : RegisteredTunnel σ}
    (here : registry.tunnel? number = some first)
    (there : registry.tunnel? other = some second)
    (one : first.isListedAs uuid = true) (two : second.isListedAs uuid = true) :
    number = other := by
  simp only [RegisteredTunnel.isListedAs, Bool.and_eq_true, beq_iff_eq] at one two
  rw [tunnel?] at here there
  have within := (List.getElem?_eq_some_iff.mp here).1
  apply (List.getElem?_inj (by rwa [List.length_map]) distinct).mp
  rw [List.getElem?_map, List.getElem?_map, here, there, Option.map_some,
    Option.map_some, one.2, two.2]

theorem Distinct.find?_iff (distinct : registry.Distinct) :
    registry.find? uuid = some number ↔
      ∃ registered, registry.tunnel? number = some registered ∧
        registered.isListedAs uuid = true := by
  constructor
  · exact find?_some
  · rintro ⟨registered, here, listed⟩
    obtain ⟨within, is⟩ := List.getElem?_eq_some_iff.mp here
    apply List.findIdx?_eq_some_iff_getElem.mpr
    refine ⟨within, is ▸ listed, ?_⟩
    intro other before also
    have there : registry.tunnel? other = some _ :=
      List.getElem?_eq_getElem (Nat.lt_trans before within)
    have same := distinct.eq_of_listed there here also listed
    omega

end Finding

theorem find?_own {registry : Registry (Recorded σ)} {number : Nat}
    {registered : RegisteredTunnel (Recorded σ)}
    (distinct : registry.uuids.Nodup)
    (found : registry.tunnel? number = some registered)
    (listed : registered.listed = true) :
    registry.find? registered.tunnel.uuid = some number := by
  have separate : registry.Distinct := distinct
  apply separate.find?_iff.mpr
  refine ⟨registered, found, ?_⟩
  rw [RegisteredTunnel.isListedAs, listed]
  simp

theorem quiet_get (registry : Registry (Recorded σ)) (uuid : Uuid) :
    registry.Quiet (registry.get uuid).2 := by
  unfold get
  split
  · exact Quiet.refl registry
  · apply quiet_update
    intro registered _
    exact RegisteredTunnel.quiet_of_rests rfl rfl rfl rfl rfl
      (Backend.Rests.refl _)

variable [Connection σ]

/-! ### Closing -/

def closed (registered : RegisteredTunnel (Recorded σ)) :
    RegisteredTunnel (Recorded σ) :=
  { registered with listed := false, tunnel := registered.tunnel.close }

theorem closed_isOpen (registered : RegisteredTunnel (Recorded σ)) :
    (closed registered).tunnel.isOpen = false :=
  registered.tunnel.close_closes.isOpen

theorem quiet_closed (registered : RegisteredTunnel (Recorded σ)) :
    registered.Quiet (closed registered) := by
  have closes := registered.tunnel.close_closes
  refine ⟨⟨⟨closes.uuid, rfl, ?_, ?_, closes.waited.trans, closes.failed.trans,
    ?_, fun _ => closes.isOpen⟩, fun _ => Or.inr closes.isOpen⟩, closes.lock⟩
  · rw [List.append_nil]
    exact closes.taken
  · exact fun gone => ⟨rfl, closes.severed gone⟩
  · intro sane
    refine ⟨closes.isOpen.symm, ?_⟩
    rw [closed_isOpen]
    cases open_ : registered.tunnel.isOpen with
    | true => exact closes.released open_
    | false => exact closes.severed (sane.2.trans open_)

theorem quiet_close (registry : Registry (Recorded σ)) (uuid : Uuid)
    (status : Status) : registry.Quiet (registry.close uuid status).2 := by
  unfold close
  split
  · exact Quiet.refl registry
  · rename_i number found
    apply (quiet_update fun registered _ => quiet_closed registered).trans
    exact quiet_of_same rfl

theorem closeIdle_induction (holds : Registry σ → Prop)
    (close : ∀ registry uuid, holds registry →
      holds (Registry.close registry uuid .sessionTimeout).2)
    (registry : Registry σ) (begins : holds registry) :
    holds registry.closeIdle.2 := by
  unfold closeIdle
  generalize registry.idle = idle
  generalize 0 = count
  induction idle generalizing registry count with
  | nil => exact begins
  | cons uuid idle ih =>
      have first := close registry uuid begins
      rw [List.foldl_cons]
      cases closing : registry.close uuid .sessionTimeout with
      | mk found next =>
          rw [closing] at first
          simp only [closing]
          cases found with
          | true => exact ih next first (count + 1)
          | false => exact ih next first count

theorem quiet_closeIdle (registry : Registry (Recorded σ)) :
    registry.Quiet registry.closeIdle.2 :=
  closeIdle_induction (registry.Quiet ·)
    (fun next uuid quiet => quiet.trans (quiet_close next uuid .sessionTimeout))
    registry (Quiet.refl registry)

theorem close_own {registry : Registry (Recorded σ)} {number : Nat}
    {registered later : RegisteredTunnel (Recorded σ)} {status : Status}
    (distinct : registry.uuids.Nodup)
    (sane : registered.Sane)
    (found : registry.tunnel? number = some registered)
    (after : (registry.close registered.tunnel.uuid status).2.tunnel? number =
      some later) : later.tunnel.isOpen = false := by
  cases open_ : registered.tunnel.isOpen with
  | true =>
      have listed := sane.1.trans open_
      have closing : (registry.close registered.tunnel.uuid status).2.tunnel?
          number = some (closed registered) := by
        simp only [close, find?_own distinct found listed]
        change (registry.update number closed).tunnel? number = _
        rw [tunnel?_update_self, found]
        rfl
      rw [closing] at after
      cases after
      exact closed_isOpen registered
  | false =>
      obtain ⟨same, there, quiet⟩ := (quiet_close registry
        registered.tunnel.uuid status).each number registered found
      rw [there] at after
      cases after
      exact quiet.tracks.shut open_

end Registry

namespace LongPoll

/-! ### Reads are quiet -/

namespace Read

theorem quiet_start (ticket : Ticket) (number : Nat)
    (encoding : Http.ContentEncoding) (registry : Registry (Recorded σ)) :
    registry.Quiet (Read.start ticket number encoding registry).2 := by
  apply Registry.quiet_update
  intro registered _
  exact RegisteredTunnel.quiet_of_rests rfl rfl rfl rfl rfl
    (Backend.Rests.refl _)

theorem quiet_finish (read : Read) (answer : Http.Answer)
    (registry : Registry (Recorded σ)) :
    registry.Quiet (read.finish answer registry).2.2 := by
  apply Registry.quiet_update
  intro registered _
  exact RegisteredTunnel.quiet_of_rests rfl rfl rfl rfl rfl
    (Backend.Rests.refl _)

theorem quiet_abandon (read : Read) (registry : Registry (Recorded σ)) :
    registry.Quiet (read.abandon registry) := by
  apply Registry.quiet_update
  intro registered _
  simp only
  split <;> exact RegisteredTunnel.quiet_of_rests rfl rfl rfl rfl rfl
    (Backend.Rests.refl _)

theorem quiet_claimReader (registered : RegisteredTunnel (Recorded σ))
    (ticket : Ticket) :
    registered.Quiet { registered with
      tunnel := (registered.tunnel.claimReader ticket).2 } := by
  have kept := Backend.Rests.refl registered.tunnel.backend
  unfold Tunnel.claimReader
  split <;> exact RegisteredTunnel.quiet_of_rests rfl rfl rfl rfl rfl kept

theorem quiet_lookInside (registered : RegisteredTunnel (Recorded σ)) :
    registered.Quiet (lookInside registered).2 := by
  have kept := Backend.Rests.refl registered.tunnel.backend
  unfold lookInside
  simp only
  split <;> exact RegisteredTunnel.quiet_of_rests rfl rfl rfl rfl rfl kept

variable [Connection σ]

theorem quiet_fail (read : Read) (uuid : Uuid) (error : RelayError)
    (answer : Http.Answer) (registry : Registry (Recorded σ)) :
    registry.Quiet (read.fail uuid error answer registry).2.2 := by
  unfold Read.fail
  split
  · exact (Registry.quiet_close registry uuid _).trans (quiet_finish read _ _)
  · exact (Registry.quiet_close registry uuid _).trans (quiet_finish _ _ _)

theorem quiet_receive (read : Read) (uuid : Uuid)
    (outcome : Except RelayError (Option Message)) (answer : Http.Answer)
    (registry : Registry (Recorded σ)) :
    registry.Quiet (read.receive uuid outcome answer registry).2.2.2 := by
  unfold Read.receive
  split
  · split
    · exact Registry.Quiet.refl registry
    · exact quiet_fail read uuid _ answer registry
  · split
    · exact Registry.Quiet.refl registry
    · apply (Registry.quiet_close registry uuid _).trans
      apply Registry.quiet_update
      intro registered _
      exact RegisteredTunnel.quiet_of_rests rfl rfl rfl rfl rfl
        (Backend.Rests.refl _)

theorem quiet_give (read : Read) (registered : RegisteredTunnel (Recorded σ))
    (message : Message) (answer : Http.Answer)
    (registry : Registry (Recorded σ)) :
    registry.Quiet (read.give registered message answer registry).2.2.2 := by
  have counted : ∀ change, registry.Quiet (registry.count change) :=
    fun change => Registry.quiet_of_same rfl
  unfold Read.give
  simp only
  split
  · split
    · exact (counted _).trans (quiet_finish _ _ _)
    · exact Registry.quiet_of_same rfl
  · split
    · exact (counted _).trans (quiet_finish _ _ _)
    · exact (counted _).trans (quiet_fail _ _ _ _ _)

theorem quiet_readFrame (registered : RegisteredTunnel (Recorded σ)) :
    registered.Quiet { registered with
      tunnel := registered.tunnel.readFrame.2 } := by
  obtain ⟨uuid, isOpen, lock, rests⟩ := registered.tunnel.readFrame_rests
  exact RegisteredTunnel.quiet_of_rests uuid rfl rfl isOpen lock rests

theorem quiet_await (registered : RegisteredTunnel (Recorded σ)) :
    registered.Quiet (await registered).2 := by
  have quiet := quiet_readFrame registered
  unfold await
  split
  · exact RegisteredTunnel.quiet_of_rests rfl rfl rfl rfl rfl
      (Backend.Rests.refl _)
  · cases reading : registered.tunnel.readFrame with
    | mk outcome tunnel =>
        rw [reading] at quiet
        cases outcome with
        | parked => exact quiet
        | ready outcome =>
            cases outcome with
            | error error => exact quiet
            | ok frame => exact quiet

theorem quiet_step (read : Read) (answer : Http.Answer)
    (registry : Registry (Recorded σ)) :
    registry.Quiet (read.step answer registry).2.2.2 := by
  unfold Read.step
  cases found : registry.tunnel? read.tunnel with
  | none => exact Registry.Quiet.refl registry
  | some registered =>
      have store : ∀ later, registered.Quiet later →
          registry.Quiet (registry.update read.tunnel fun _ => later) := by
        intro later quiet
        apply Registry.quiet_update
        intro other there
        rw [found] at there
        cases there
        exact quiet
      simp only
      cases read.stage with
      | acquiring =>
          have claimed := quiet_claimReader registered read.ticket
          cases claiming : registered.tunnel.claimReader read.ticket with
          | mk ready tunnel =>
              rw [claiming] at claimed
              cases ready with
              | false => exact Registry.Quiet.refl registry
              | true => exact store _ claimed
      | looking =>
          have looked := quiet_lookInside registered
          simp only
          split
          · rename_i outcome later looking
            rw [looking] at looked
            exact (store _ looked).trans (quiet_receive _ _ _ _ _)
          · rename_i look later _ looking
            rw [looking] at looked
            exact store _ looked
      | waiting =>
          have awaited := quiet_await registered
          simp only
          split
          · rename_i outcome later awaiting
            rw [awaiting] at awaited
            exact (store _ awaited).trans (quiet_receive _ _ _ _ _)
          · rename_i later awaiting
            rw [awaiting] at awaited
            exact store _ awaited
          · rename_i later awaiting
            rw [awaiting] at awaited
            exact store _ awaited
      | giving message =>
          cases message with
          | none =>
              exact (Registry.quiet_close registry _ _).trans
                (quiet_finish _ _ _)
          | some message => exact quiet_give _ _ _ _ _
      | finished => exact Registry.Quiet.refl registry

end Read

/-! ### Looking up -/

variable [Connection σ]

theorem quiet_lookUp (registry : Registry (Recorded σ)) (uuid : Uuid)
    (token : Option String) :
    registry.Quiet (lookUp registry uuid token).2 :=
  Registry.quiet_get registry uuid

/-- What a look-up finds is an open tunnel with the UUID, which accepts the
token. -/
theorem lookUp_ok {registry next : Registry (Recorded σ)} {uuid : Uuid}
    {token : Option String} {number : Nat}
    (found : lookUp registry uuid token = (.ok number, next)) :
    ∃ registered, next.tunnel? number = some registered ∧
      registered.tunnel.isOpen = true ∧ registered.tunnel.uuid = uuid ∧
      token.any registered.accepts = true := by
  unfold lookUp at found
  simp only [Prod.mk.injEq] at found
  obtain ⟨checked, rfl⟩ := found
  cases finding : registry.find? uuid with
  | none => simp [Registry.get, finding, bind, Except.bind] at checked
  | some index =>
      obtain ⟨registered, there, listed⟩ := Registry.find?_some finding
      have touched : (registry.get uuid).2.tunnel? index =
          some (registered.touch registry.now) := by
        simp only [Registry.get, finding]
        rw [Registry.tunnel?_update_self, there]
        rfl
      have first : (registry.get uuid).1 = some index := by
        simp only [Registry.get, finding]
      rw [first] at checked
      simp only [Option.elim, bind, Except.bind, touched] at checked
      split at checked
      · rename_i open_
        cases shown : token with
        | none => simp [shown] at checked
        | some text =>
            simp only [shown] at checked
            split at checked
            · rename_i accepted
              cases checked
              simp only [RegisteredTunnel.isListedAs, Bool.and_eq_true,
                beq_iff_eq] at listed
              exact ⟨_, touched, open_, listed.2, accepted⟩
            · cases checked
      · cases checked

end LongPoll

end TunnelRelay
