import TunnelRelay.Proofs.Relay.Lanes
import TunnelRelay.Proofs.Relay.Sessions

/-!
What guacd receives over the life of the relay.

Along every run, whatever guacd has been sent over a connection is the beginning of whole frames
that the browser of that connection sent, in order, none of them the tunnel's own. There is one way
to break this on an HTTP tunnel: the browser of a write goes away while guacd has taken a part of a
frame only. The write gives the writer back, and the tunnel stays open.
-/

namespace TunnelRelay

open LongPoll

variable {σ : Type}

namespace History

/-- In this move the browser of a write goes away while its tunnel is open and
guacd has taken a part of a frame only. -/
def Tears (history : History σ) (number : Nat) (move : Move σ) : Prop :=
  ∃ exchange lane write body, move = .abandon exchange ∧
    history.lane? number = some lane ∧ lane.isOpen = true ∧
    lane.writes exchange = some (write, body) ∧ write.unsent ≠ [] ∧
    ¬ WholeFrames lane.taken

/-! ### One more move -/

section Moves

variable {history : History σ} {move : Move σ} {number : Nat}

theorem Continues.tracks {before after : Lane σ}
    (continues : Continues move before after) :
    ∃ gone, before.tunnel.Tracks after.tunnel gone := by
  rcases continues with ⟨step, -⟩ | ⟨exchange, write, body, -, given⟩
  · exact step.tracks
  · exact ⟨[], given.tunnel⟩

theorem Continues.orderly {before after : Lane σ}
    (continues : Continues move before after) (orderly : before.Orderly) :
    after.Orderly := by
  rcases continues with ⟨step, -⟩ | ⟨exchange, write, body, -, given⟩
  · exact orderly.step step
  · exact orderly.abandons given

theorem Continues.ledger {before after : Lane σ}
    (continues : Continues move before after) (orderly : before.Orderly)
    (found : history.lane? number = some before)
    (intact : ¬ history.Tears number move) (ledger : before.Ledger) :
    after.Ledger := by
  rcases continues with ⟨step, -⟩ | ⟨exchange, write, body, abandoned, given⟩
  · exact ledger.step orderly step
  · apply ledger.abandons orderly given
    intro open_ unsent
    by_contra torn
    exact intact ⟨exchange, before, write, body, abandoned, found, open_,
      given.was, unsent, torn⟩

theorem Continues.not_faithful {before after : Lane σ}
    (continues : Continues move before after) (orderly : before.Orderly)
    (found : history.lane? number = some before)
    (tears : history.Tears number move) : ¬ after.Faithful := by
  obtain ⟨exchange, lane, write, body, abandoned, there, open_, was, unsent,
    torn⟩ := tears
  rw [found] at there
  cases there
  rcases continues with ⟨-, none⟩ | ⟨other, write_, body_, same, given⟩
  · rw [none exchange abandoned] at was
    cases was
  · rw [abandoned] at same
    cases same
    rw [given.was] at was
    cases was
    exact given.not_faithful orderly open_ unsent torn

theorem Continues.shut {before after : Lane σ}
    (continues : Continues move before after) (orderly : before.Orderly)
    (closed : before.isOpen = false) :
    after.isOpen = false ∧ after.taken = before.taken := by
  obtain ⟨gone, tracks⟩ := continues.tracks
  have nothing := Lane.Ledger.gone_of_closed orderly closed tracks
  refine ⟨tracks.shut closed, ?_⟩
  rw [Lane.taken, tracks.taken, nothing, List.append_nil]
  rfl

variable [Connection σ] {environment : Environment σ}

theorem lane_cases (connects : environment.Connects)
    (aligned : history.Aligned)
    (orderly : ∀ lane, history.lane? number = some lane → lane.Orderly)
    (distinct :
      (history.perform environment move).relay.registry.uuids.Nodup)
    {lane : Lane σ}
    (found : (history.perform environment move).lane? number = some lane) :
    lane.Fresh ∨ ∃ earlier, history.lane? number = some earlier ∧
      earlier.Orderly ∧ Continues move earlier lane := by
  cases before : history.lane? number with
  | none =>
      exact Or.inl (perform_fresh move connects aligned distinct before found)
  | some earlier =>
      obtain ⟨next, is, continues⟩ :=
        perform_lane move aligned distinct before (orderly earlier before)
      rw [found] at is
      cases is
      exact Or.inr ⟨earlier, rfl, orderly earlier before, continues⟩

end Moves

/-! ### Whole runs -/

variable [Connection σ] (environment : Environment σ) (idleTimeout : Nat)

/-- No two tunnels of a run share a UUID. -/
def Distinct (moves : List (Move σ)) : Prop :=
  (run environment idleTimeout moves).relay.registry.uuids.Nodup

variable {environment} {idleTimeout}

theorem Distinct.earlier {moves more : List (Move σ)}
    (distinct : Distinct environment idleTimeout (moves ++ more)) :
    Distinct environment idleTimeout moves := by
  induction more using List.reverseRecOn with
  | nil =>
      rw [List.append_nil] at distinct
      exact distinct
  | append_singleton more last ih =>
      apply ih
      rw [Distinct, ← List.append_assoc, run_snoc] at distinct
      exact distinct.sublist (uuids_perform environment _ last).sublist

theorem run_aligned (moves : List (Move σ)) :
    (run environment idleTimeout moves).Aligned := by
  induction moves using List.reverseRecOn with
  | nil => exact aligned_initial idleTimeout
  | append_singleton moves last ih =>
      rw [run_snoc]
      exact aligned_perform environment ih last

theorem run_orderly (connects : environment.Connects) {moves : List (Move σ)}
    (distinct : Distinct environment idleTimeout moves) {number : Nat} :
    ∀ lane, (run environment idleTimeout moves).lane? number = some lane →
      lane.Orderly := by
  induction moves using List.reverseRecOn with
  | nil =>
      intro lane found
      cases found
  | append_singleton moves last ih =>
      intro lane found
      have before := distinct.earlier
      rw [Distinct, run_snoc] at distinct
      rw [run_snoc] at found
      rcases lane_cases connects (run_aligned moves) (ih before) distinct found
        with fresh | ⟨earlier, -, orderly, continues⟩
      · exact fresh.orderly
      · exact continues.orderly orderly

theorem run_ledger (connects : environment.Connects) {moves : List (Move σ)}
    (distinct : Distinct environment idleTimeout moves) {number : Nat}
    (intact : ∀ earlier move later, moves = earlier ++ move :: later →
      ¬ (run environment idleTimeout earlier).Tears number move) :
    ∀ lane, (run environment idleTimeout moves).lane? number = some lane →
      lane.Ledger := by
  induction moves using List.reverseRecOn with
  | nil =>
      intro lane found
      cases found
  | append_singleton moves last ih =>
      intro lane found
      have before := distinct.earlier
      have intact_ := each_of_snoc intact
      rw [Distinct, run_snoc] at distinct
      rw [run_snoc] at found
      rcases lane_cases connects (run_aligned moves)
        (run_orderly connects before) distinct found with
        fresh | ⟨earlier, there, orderly, continues⟩
      · exact fresh.ledger
      · exact continues.ledger orderly there (intact moves last [] rfl)
          (ih before intact_ earlier there)

/-- As long as a connection takes everything at once, no frame is torn. -/
theorem run_accepted (connects : environment.Connects) {moves : List (Move σ)}
    (distinct : Distinct environment idleTimeout moves) {number : Nat} :
    ∀ lane, (run environment idleTimeout moves).lane? number = some lane →
      lane.tunnel.record.waited = false → lane.tunnel.record.failed = false →
      lane.Ledger := by
  induction moves using List.reverseRecOn with
  | nil =>
      intro lane found
      cases found
  | append_singleton moves last ih =>
      intro lane found waited failed
      have before := distinct.earlier
      rw [Distinct, run_snoc] at distinct
      rw [run_snoc] at found
      rcases lane_cases connects (run_aligned moves)
        (run_orderly connects before) distinct found with
        fresh | ⟨earlier, there, orderly, continues⟩
      · exact fresh.ledger
      · obtain ⟨gone, tracks⟩ := continues.tracks
        have waited_ := tracks.unwaited waited
        have failed_ := tracks.unfailed failed
        have ledger := ih before earlier there waited_ failed_
        refine continues.ledger orderly there ?_ ledger
        rintro ⟨-, lane_, -, -, -, again, -, -, -, torn⟩
        rw [there] at again
        cases again
        exact torn (ledger.accepted waited_ failed_).wholeFrames

theorem run_shut (connects : environment.Connects)
    {moves more : List (Move σ)}
    (distinct : Distinct environment idleTimeout (moves ++ more))
    {number : Nat} {lane : Lane σ}
    (found : (run environment idleTimeout moves).lane? number = some lane)
    (closed : lane.isOpen = false) :
    ∃ last, (run environment idleTimeout (moves ++ more)).lane? number =
      some last ∧ last.isOpen = false ∧ last.taken = lane.taken := by
  induction more using List.reverseRecOn with
  | nil =>
      rw [List.append_nil]
      exact ⟨lane, found, closed, rfl⟩
  | append_singleton more final ih =>
      rw [← List.append_assoc] at distinct ⊢
      have before := distinct.earlier
      obtain ⟨middle, there, shut, same⟩ := ih before
      have orderly := run_orderly connects before middle there
      rw [Distinct, run_snoc] at distinct
      rw [run_snoc]
      obtain ⟨next, is, continues⟩ := perform_lane final
        (run_aligned (moves ++ more)) distinct there orderly
      obtain ⟨shut_, still⟩ := continues.shut orderly shut
      exact ⟨next, is, shut_, still.trans same⟩

/-! ### Sessions -/

theorem sessions_exchange (environment : Environment (Recorded σ))
    (index : Nat) (relay : Relay (Recorded σ)) :
    (relay.step environment (.exchange index)).2.sessions = relay.sessions := by
  simp only [Relay.step, Relay.stepExchange]
  split
  · rfl
  · split
    · rename_i parameters _
      simp only [Relay.connectExchange, Relay.connect]
      cases environment.connect relay.requests.length ⟨parameters⟩ with
      | error error => rfl
      | ok tunnel => rfl
    · rfl

omit [Connection σ] in
open WebSocket in
theorem stepSession_at (relay : Relay (Recorded σ)) (other : Nat)
    (step : Session (Recorded σ) → Metrics →
      Pace × Session (Recorded σ) × Metrics) {index : Nat}
    {session : Session (Recorded σ)}
    (there : relay.sessions[index]? = some session) :
    (relay.stepSession other step).2.sessions[index]? = some session ∨
      ∃ metrics, (relay.stepSession other step).2.sessions[index]? =
        some (step session metrics).2.1 := by
  obtain ⟨within, -⟩ := List.getElem?_eq_some_iff.mp there
  unfold Relay.stepSession
  by_cases own : other = index
  · subst own
    rw [there]
    exact Or.inr ⟨_, List.getElem?_set_self within⟩
  · left
    split
    · exact there
    · rw [List.getElem?_set_ne own]
      exact there

open WebSocket in
theorem deliver_session {sessions : List (Session (Recorded σ))}
    {known : List (List Incoming)} {index : Nat}
    {session : Session (Recorded σ)} {heard : List Incoming}
    (there : sessions[index]? = some session)
    (before : known[index]? = some heard) (other : Nat)
    (messages : List Incoming)
    (outbound : Session (Recorded σ) → Outbound) :
    ∃ later further,
      (sessions.modify other fun session =>
        { session with outbound := outbound session }.deliver
          messages)[index]? = some later ∧
      (known.modify other (· ++ messages))[index]? = some further ∧
      Session.Step session heard later further := by
  by_cases own : other = index
  · subst own
    rw [List.getElem?_modify_eq, List.getElem?_modify_eq, there, before]
    exact ⟨_, _, rfl, rfl, Session.Step.deliver session heard messages _⟩
  · refine ⟨session, heard, ?_, ?_, Session.Step.rest session heard⟩
    · simp [own, there]
    · simp [own, before]

open WebSocket in
theorem perform_session (history : History σ) (move : Move σ) {index : Nat}
    {session : Session (Recorded σ)} {heard : List Incoming}
    (there : history.relay.sessions[index]? = some session)
    (known : history.heard[index]? = some heard) :
    ∃ later further,
      (history.perform environment move).relay.sessions[index]? =
        some later ∧
      (history.perform environment move).heard[index]? = some further ∧
      Session.Step session heard later further := by
  have rests := Session.Step.rest session heard
  cases move with
  | task task =>
      cases task with
      | exchange other =>
          have kept := sessions_exchange environment.recorded other
            history.relay
          refine ⟨session, heard, ?_, known, rests⟩
          exact (congrArg (·[index]?) kept).trans there
      | pump other =>
          rcases stepSession_at history.relay other (·.stepPump) there with
            still | ⟨metrics, stepped⟩
          · exact ⟨session, heard, still, known, rests⟩
          · exact ⟨_, heard, stepped, known,
              Session.Step.pump session heard metrics⟩
      | handler other heeds =>
          rcases stepSession_at history.relay other (·.stepHandler heeds)
            there with still | ⟨metrics, stepped⟩
          · exact ⟨session, heard, still, known, rests⟩
          · exact ⟨_, heard, stepped, known,
              Session.Step.handler session heard heeds metrics⟩
  | abandon other =>
      refine ⟨session, heard, ?_, known, rests⟩
      simp only [perform, Relay.perform, Relay.withdraw]
      split
      · exact there
      · exact there
  | openSession query =>
      obtain ⟨within, -⟩ := List.getElem?_eq_some_iff.mp there
      obtain ⟨bound, -⟩ := List.getElem?_eq_some_iff.mp known
      refine ⟨session, heard, ?_, ?_, rests⟩
      · simp only [perform, Relay.perform, Relay.join, Relay.connect]
        rw [List.getElem?_append_left within]
        exact there
      · simp only [perform]
        rw [List.getElem?_append_left bound]
        exact known
  | say other messages =>
      exact deliver_session there known other messages (·.outbound)
  | lose other => exact deliver_session there known other [.lost] _
  | guacdSession other change =>
      by_cases own : other = index
      · subst own
        refine ⟨_, heard, ?_, known,
          Session.Step.guacd session heard _ change rfl⟩
        simp only [perform, Relay.perform, Relay.modifySession]
        rw [List.getElem?_modify_eq, there]
        rfl
      · refine ⟨session, heard, ?_, known, rests⟩
        simp [perform, Relay.perform, Relay.modifySession, own, there]
  | receive | deliver | closeIdle | advance | guacd =>
      exact ⟨session, heard, there, known, rests⟩

omit [Connection σ] in
theorem recorded_new (connects : environment.Connects) (attempt : Nat)
    (request : TunnelRequest) (tunnel : Tunnel (Recorded σ))
    (connected : environment.recorded.connect attempt request = .ok tunnel) :
    tunnel.isOpen = true ∧ tunnel.backend.live = true ∧
      tunnel.writerLock = {} ∧ tunnel.backend.stream.taken = [] ∧
      tunnel.backend.stream.failed = false := by
  obtain ⟨opened, outcome, rfl⟩ := Environment.recorded_ok connected
  have new := connects attempt request opened outcome
  exact ⟨new.isOpen, new.live, new.lock, rfl, rfl⟩

open WebSocket in
theorem perform_session_new (connects : environment.Connects)
    {history : History σ} (aligned : history.Aligned) (move : Move σ)
    {index : Nat} {session : Session (Recorded σ)}
    {tunnel : Tunnel (Recorded σ)}
    (absent : history.relay.sessions[index]? = none)
    (there : (history.perform environment move).relay.sessions[index]? =
      some session) (has : session.tunnel = some tunnel) :
    (history.perform environment move).heard[index]? = some [] ∧
      session.Sound tunnel [] := by
  obtain ⟨within, -⟩ := List.getElem?_eq_some_iff.mp there
  have behind := List.getElem?_eq_none_iff.mp absent
  have heard := aligned.heard
  rw [← (aligned_perform environment aligned move).heard] at within
  cases move with
  | openSession query =>
      simp only [perform, List.length_append, List.length_singleton] at within
      have last : index = history.relay.sessions.length := by omega
      subst last
      simp only [perform, Relay.perform, Relay.join, Relay.connect] at there ⊢
      rw [List.getElem?_append_right (Nat.le_refl _), Nat.sub_self] at there
      cases there
      constructor
      · rw [← heard, List.getElem?_append_right (Nat.le_refl _), Nat.sub_self]
        rfl
      · exact Session.start_sound (recorded_new connects _ _) _ _ tunnel has
  | say | lose =>
      simp only [perform, List.length_modify] at within
      omega
  | task | receive | deliver | abandon | closeIdle | advance | guacd
  | guacdSession =>
      simp only [perform] at within
      omega

open WebSocket in
theorem run_sound (connects : environment.Connects) (moves : List (Move σ))
    {index : Nat} :
    ∀ (session : Session (Recorded σ)) tunnel,
      (run environment idleTimeout moves).relay.sessions[index]? =
        some session → session.tunnel = some tunnel →
      ∃ heard, (run environment idleTimeout moves).heard[index]? = some heard ∧
        session.Sound tunnel heard := by
  -- by induction from the end: one move is one step of each session
  induction moves using List.reverseRecOn with
  | nil =>
      intro session tunnel there
      cases there
  | append_singleton moves last ih =>
      intro session tunnel there has
      rw [run_snoc] at there ⊢
      cases before :
          (run environment idleTimeout moves).relay.sessions[index]? with
      | none =>
          have new := perform_session_new connects (run_aligned moves) last
            before there has
          exact ⟨[], new.1, new.2⟩
      | some earlier =>
          have within := (List.getElem?_eq_some_iff.mp before).1
          rw [← (run_aligned moves).heard] at within
          have known := List.getElem?_eq_getElem within
          obtain ⟨later, further, found, heard_, step⟩ := perform_session
            (run environment idleTimeout moves) last before known
          rw [there] at found
          cases found
          cases tunnel_ : earlier.tunnel with
          | none =>
              rw [step.refused tunnel_] at has
              cases has
          | some first =>
              obtain ⟨heard, known_, sound⟩ := ih earlier first before tunnel_
              rw [known] at known_
              cases known_
              obtain ⟨⟨next, goes, -⟩⟩ := sound.step step
              have same := goes.there
              rw [has] at same
              cases same
              exact ⟨further, heard_, goes⟩

open WebSocket in
theorem run_stopped (connects : environment.Connects)
    (moves more : List (Move σ)) {index : Nat}
    {session : Session (Recorded σ)} {tunnel : Tunnel (Recorded σ)}
    (there : (run environment idleTimeout moves).relay.sessions[index]? =
      some session) (has : session.tunnel = some tunnel)
    (stopped : session.handler.serves = false) :
    ∃ last final,
      (run environment idleTimeout (moves ++ more)).relay.sessions[index]? =
        some last ∧ last.tunnel = some final ∧
      last.handler.serves = false ∧
      final.backend.stream.taken = tunnel.backend.stream.taken := by
  induction more using List.reverseRecOn with
  | nil =>
      rw [List.append_nil]
      exact ⟨session, tunnel, there, has, stopped, rfl⟩
  | append_singleton more move ih =>
      obtain ⟨middle, first, found, has_, still, taken⟩ := ih
      obtain ⟨heard, known, sound⟩ :=
        run_sound connects (moves ++ more) middle first found has_
      obtain ⟨later, further, there_, -, step⟩ := perform_session
        (run environment idleTimeout (moves ++ more)) move found known
      obtain ⟨⟨next, goes, frozen, -⟩⟩ := sound.step step
      obtain ⟨still_, same⟩ := frozen still
      rw [← List.append_assoc, run_snoc]
      exact ⟨later, next, there_, goes.there, still_, same.trans taken⟩

/-! ### All connections -/

/-- What guacd may rely on along a run, on every connection. -/
structure Reliable (environment : Environment σ) (idleTimeout : Nat)
    (moves : List (Move σ)) : Prop where
  /-- An HTTP tunnel is faithful at any time of the run exactly if none of its
  frames is torn by a browser that goes away. -/
  lane_iff : ∀ number,
    (∀ earlier move later, moves = earlier ++ move :: later →
      ¬ (run environment idleTimeout earlier).Tears number move) ↔
    ∀ earlier lane, earlier <+: moves →
      (run environment idleTimeout earlier).lane? number = some lane →
      lane.Faithful
  /-- If guacd has taken everything at once, it has whole frames. -/
  accepted : ∀ number lane,
    (run environment idleTimeout moves).lane? number = some lane →
    lane.tunnel.record.waited = false → lane.tunnel.record.failed = false →
    Delivers lane.sources lane.taken
  /-- No byte follows on a tunnel that is closed. -/
  shut : ∀ earlier later number lane, moves = earlier ++ later →
    (run environment idleTimeout earlier).lane? number = some lane →
    lane.isOpen = false →
    ∃ last, (run environment idleTimeout moves).lane? number = some last ∧
      last.isOpen = false ∧ last.taken = lane.taken
  /-- Sessions are faithful, whatever browsers do. -/
  session : ∀ (index : Nat) (session : WebSocket.Session (Recorded σ)) tunnel,
    (run environment idleTimeout moves).relay.sessions[index]? =
      some session → session.tunnel = some tunnel →
    ∃ heard, (run environment idleTimeout moves).heard[index]? = some heard ∧
      session.Faithful tunnel heard
  /-- No byte follows in a session whose handler has stopped to serve. -/
  stopped : ∀ earlier later (index : Nat)
    (session : WebSocket.Session (Recorded σ)) tunnel,
    moves = earlier ++ later →
    (run environment idleTimeout earlier).relay.sessions[index]? =
      some session → session.tunnel = some tunnel →
    session.handler.serves = false →
    ∃ last final,
      (run environment idleTimeout moves).relay.sessions[index]? =
        some last ∧ last.tunnel = some final ∧
      last.handler.serves = false ∧
      final.backend.stream.taken = tunnel.backend.stream.taken

theorem intact_of_faithful (connects : environment.Connects)
    {earlier later : List (Move σ)} {move : Move σ} {number : Nat}
    (distinct : Distinct environment idleTimeout (earlier ++ move :: later))
    (faithful : ∀ lane, (run environment idleTimeout
      (earlier ++ [move])).lane? number = some lane → lane.Faithful) :
    ¬ (run environment idleTimeout earlier).Tears number move := by
  intro tears
  have once : Distinct environment idleTimeout (earlier ++ [move]) := by
    have split : earlier ++ move :: later = (earlier ++ [move]) ++ later := by
      rw [List.append_assoc]
      rfl
    rw [split] at distinct
    exact distinct.earlier
  have ⟨_, lane, _, _, _, there, _⟩ := tears
  have orderly := run_orderly connects once.earlier lane there
  rw [Distinct, run_snoc] at once
  rw [run_snoc] at faithful
  obtain ⟨next, is, continues⟩ :=
    perform_lane move (run_aligned earlier) once there orderly
  exact continues.not_faithful orderly there tears (faithful next is)

/-- Along every run, guacd is sent the beginning of whole frames that the
browser of the connection has sent, in order; a connection that has failed is
closed, and nothing follows. Only a browser that goes away in the middle of a
frame breaks this, on the HTTP tunnel of its request. -/
theorem delivery (environment : Environment σ) (idleTimeout : Nat)
    (moves : List (Move σ)) (connects : environment.Connects)
    (distinct : Distinct environment idleTimeout moves) :
    Reliable environment idleTimeout moves where
  lane_iff number := by
    constructor
    · rintro intact earlier lane ⟨later, rfl⟩ found
      have before : Distinct environment idleTimeout earlier := distinct.earlier
      have ledger := run_ledger connects before
        (fun first move rest split => intact first move (rest ++ later)
          (by rw [split, List.append_assoc]; rfl)) lane found
      exact ledger.faithful (run_orderly connects before lane found)
    · rintro faithful earlier move later rfl
      apply intact_of_faithful connects distinct
      intro lane found
      refine faithful (earlier ++ [move]) lane ⟨later, ?_⟩ found
      rw [List.append_assoc]
      rfl
  accepted number lane found waited failed :=
    (run_accepted connects distinct lane found waited failed).accepted waited
      failed
  shut := by
    rintro earlier later number lane rfl found closed
    exact run_shut connects distinct found closed
  session index session tunnel there has := by
    obtain ⟨heard, known, sound⟩ :=
      run_sound connects moves session tunnel there has
    exact ⟨heard, known, sound.faithful⟩
  stopped := by
    rintro earlier later index session tunnel rfl there has stopped
    exact run_stopped connects earlier later there has stopped

/-- Connections over which guacd takes eight bytes before it has to read. -/
def narrow : Environment Link :=
  Environment.scripted [] (fun _ => ⟨0⟩) none (Link.ofCapacity 8) (fun _ => "t")
    8192

def writing (text : String) : Move Link :=
  .receive
    { method := "POST"
      target := "/tunnel?write:00000000000000000000000000000000"
      headers := [("guacamole-tunnel-token", Bytes.ofText "t")] }
    [.chunk (Bytes.ofText text), .finished] true

/-- A tunnel is opened, and a write on it has sent what guacd takes. -/
def untilParked : List (Move Link) :=
  [.receive { target := "/tunnel?connect" } [] true, .task (.exchange 0),
    writing "5.mouse,2.10,2.20;", .task (.exchange 1), .task (.exchange 1),
    .task (.exchange 1)]

def tornRun : List (Move Link) :=
  untilParked ++ .abandon 1 :: [.guacd 0 (·.guacdRead.2.2), writing "3.nop;",
    .task (.exchange 2), .task (.exchange 2), .task (.exchange 2)]

theorem narrow_connects : narrow.Connects :=
  Environment.scripted_connects _ _ _ _ _ _

/-- guacd gets one instruction with the argument `nop`, which nobody has sent,
over a tunnel that is still open. -/
theorem delivery_torn :
    narrow.Connects ∧ Distinct narrow 0 tornRun ∧
      Reliable narrow 0 tornRun ∧
      (run narrow 0 untilParked).Tears 0 (.abandon 1) ∧
      ((run narrow 0 tornRun).lane? 0).map (fun lane =>
        (lane.isOpen, lane.taken)) =
        some (true, Bytes.ofText "5.mouse,3.nop;") := by
  have distinct : Distinct narrow 0 tornRun := by
    unfold Distinct
    decide +kernel
  refine ⟨narrow_connects, distinct,
    delivery narrow 0 tornRun narrow_connects distinct, ?_, by decide +kernel⟩
  have parked : (((run narrow 0 untilParked).lane? 0).bind fun lane =>
      (lane.writes 1).map fun entry =>
        (lane.isOpen, lane.taken, entry.1.unsent)) =
      some (true, Bytes.ofText "5.mouse,", Bytes.ofText "2.10,2.20;") := by
    decide +kernel
  obtain ⟨lane, there, rest⟩ := Option.bind_eq_some_iff.mp parked
  obtain ⟨⟨write, body⟩, was, values⟩ := Option.map_eq_some_iff.mp rest
  obtain ⟨open_, taken, unsent⟩ : lane.isOpen = true ∧
      lane.taken = Bytes.ofText "5.mouse," ∧
      write.unsent = Bytes.ofText "2.10,2.20;" := by
    simpa only [Prod.mk.injEq] using values
  refine ⟨1, lane, write, body, rfl, there, open_, was, ?_, ?_⟩
  · rw [unsent]
    decide
  · rw [taken]
    intro whole
    have waits : (Decoder.unbounded.decode (Bytes.ofText "5.mouse,")).1 =
        .incomplete := by
      decide +kernel
    have empty := whole.eq_nil_of_incomplete (Prod.ext waits rfl)
    exact absurd empty (by decide)

end History

end TunnelRelay
