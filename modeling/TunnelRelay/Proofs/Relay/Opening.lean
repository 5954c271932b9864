import TunnelRelay.Guacd.Connector
import TunnelRelay.Proofs.Frame.Reading
import TunnelRelay.Proofs.Stream.Keeping
import TunnelRelay.Relay

/-!
What a tunnel is like when it is opened.

A tunnel that comes out of a handshake is open, has its connection, and nobody waits for its writer
or its reader. The handshake reads, writes and flushes, and none of that releases the connection;
what guacd has sent behind the handshake is in the reader.
-/

namespace TunnelRelay

variable {σ : Type}

/-- A new connection is open, and nobody waits for its writer. -/
structure Tunnel.IsNew (tunnel : Tunnel σ) : Prop where
  isOpen : tunnel.isOpen = true
  live : tunnel.backend.live = true
  lock : tunnel.writerLock = {}

/-- Nobody has asked for the reader, and it knows what is in its buffer. -/
structure Tunnel.IsUnread (tunnel : Tunnel σ) : Prop where
  reader : tunnel.reader.Sound .unbounded
  lock : tunnel.readerLock = {}

/-- Nothing has been read since the handshake, and the reader has looked at what
came in behind it. -/
structure Tunnel.IsUntouched (tunnel : Tunnel σ) : Prop where
  signal : tunnel.closeSignal = false
  live : tunnel.backend.live = true
  lock : tunnel.readerLock = {}
  looks : tunnel.reader.Looks .unbounded
  running : tunnel.reader.ended = false

/-- Whatever is connected to is new. -/
def Environment.Connects (environment : Environment σ) : Prop :=
  ∀ attempt request tunnel,
    environment.connect attempt request = .ok tunnel → tunnel.IsNew

/-- Nobody has read from what is connected to. -/
def Environment.ConnectsUnread (environment : Environment σ) : Prop :=
  ∀ attempt request tunnel,
    environment.connect attempt request = .ok tunnel → tunnel.IsUnread

theorem Environment.scripted_connects (script : List (Option RelayError))
    (uuid : Nat → Uuid) (connectionId : Option String) (stream : σ)
    (token : Nat → String) (bufferSize : Nat) :
    (scripted script uuid connectionId stream token bufferSize).Connects := by
  intro attempt request tunnel connected
  simp only [scripted] at connected
  split at connected
  · cases connected
  · cases connected
    exact ⟨rfl, rfl, rfl⟩

variable [Connection σ]

/-! ### What a handshake leaves alone -/

namespace Connection.Keeps

variable {α : Type} {value : σ → α}

theorem handshake_step (keeps : Keeps value) (handshake : Guacd.Handshake)
    (reader : FrameReader) (stream : σ) :
    value (handshake.step reader stream).2.2 = value stream := by
  have writes : ∀ sending stay leave,
      value (Guacd.Handshake.write sending stay leave stream).2 =
        value stream := by
    intro sending stay leave
    have kept := keeps.poll sending stream
    unfold Guacd.Handshake.write
    cases sent : sending.poll stream with
    | mk outcome next =>
        rw [sent] at kept
        cases outcome <;> exact kept
  have awaits : ∀ stay leave,
      value (Guacd.Handshake.await stay leave reader stream).2.2 =
        value stream := by
    intro stay leave
    have kept := keeps.readFrame reader stream
    unfold Guacd.Handshake.await
    cases reading : reader.readFrame stream with
    | mk outcome rest =>
        rw [reading] at kept
        cases outcome <;> exact kept
  unfold Guacd.Handshake.step
  cases handshake.stage with
  | selecting sending => exact writes _ _ _
  | awaitingArgs => exact awaits _ _
  | describing names sending rest => exact writes _ _ _
  | awaitingReady version => exact awaits _ _
  | finished outcome => rfl

theorem handshake_run (keeps : Keeps value) (handshake : Guacd.Handshake)
    (reader : FrameReader) (stream : σ) :
    value (handshake.run reader stream).2.2 = value stream := by
  fun_induction Guacd.Handshake.run handshake reader stream with
  | case1 handshake reader stream stage reader_ next step =>
      have kept := keeps.handshake_step handshake reader stream
      rw [step] at kept
      exact kept
  | case2 handshake reader stream stage reader_ next step ih =>
      have kept := keeps.handshake_step handshake reader stream
      rw [step] at kept
      exact ih.trans kept

end Connection.Keeps

/-! ### What a handshake leaves in the reader -/

namespace Guacd.Handshake

theorem step_sound {handshake : Handshake} {reader next : FrameReader}
    {stream rest : σ} {moved : Moved} (sound : reader.Sound .unbounded)
    (done : handshake.step reader stream = (moved, next, rest)) :
    next.Sound .unbounded := by
  have awaits : ∀ stay leave,
      (await stay leave reader stream).2.1.Sound .unbounded := by
    intro stay leave
    unfold await
    cases reading : reader.readFrame stream with
    | mk outcome after =>
        obtain ⟨later, other⟩ := after
        have kept := (FrameReader.readFrame_sound sound reading).1
        cases outcome <;> exact kept
  have kept : (handshake.step reader stream).2.1.Sound .unbounded := by
    unfold step
    cases handshake.stage with
    | selecting sending => exact sound
    | awaitingArgs => exact awaits _ _
    | describing names sending others => exact sound
    | awaitingReady version => exact awaits _ _
    | finished outcome => exact sound
  rw [done] at kept
  exact kept

theorem run_sound (handshake : Handshake) {reader : FrameReader} (stream : σ)
    (sound : reader.Sound .unbounded) :
    (handshake.run reader stream).2.1.Sound .unbounded := by
  fun_induction run handshake reader stream with
  | case1 handshake reader stream stage next rest step =>
      exact step_sound sound step
  | case2 handshake reader stream stage next rest step ih =>
      exact ih (step_sound sound step)

/-- A reader that has given a frame has looked for the next one, and has not come
to the end of the stream. -/
theorem readFrame_runs {reader next : FrameReader} {stream rest : σ}
    {outcome : Poll (Except RelayError (Option Frame))}
    (sound : reader.Sound .unbounded) (running : reader.ended = false)
    (done : reader.readFrame stream = (outcome, next, rest)) :
    (outcome = .parked → next.ended = false) ∧
      ∀ frame, outcome = .ready (.ok (some frame)) →
        next.Looks .unbounded ∧ next.ended = false := by
  fun_induction FrameReader.readFrame reader stream with
  | case1 reader stream frame length holds =>
      cases done
      refine ⟨by simp, fun _ _ => ⟨?_, running⟩⟩
      apply FrameReader.scan_looks
      change reader.decoder.decode _ = _
      rw [(sound.frame holds).2]
  | case2 reader stream cause holds =>
      cases done
      exact ⟨by simp, by simp⟩
  | case3 reader stream waits ended =>
      rw [running] at ended
      cases ended
  | case4 reader stream waits open_ grown after given =>
      simp only [Prod.mk.injEq] at done
      obtain ⟨rfl, rfl, rfl⟩ := done
      exact ⟨fun _ => FrameReader.reserve_ended.trans running, by simp⟩
  | case5 reader stream waits open_ grown fault after given =>
      simp only [Prod.mk.injEq] at done
      obtain ⟨rfl, rfl, rfl⟩ := done
      exact ⟨by simp, by simp⟩
  | case6 reader stream waits open_ grown after given last =>
      simp only [Prod.mk.injEq] at done
      obtain ⟨rfl, rfl, rfl⟩ := done
      unfold FrameReader.atEnd
      split <;> exact ⟨by simp, by simp⟩
  | case7 reader stream waits open_ grown byte bytes after given ih =>
      have looked : (grown.scan (grown.buffer ++ byte :: bytes)).Looks
          .unbounded := FrameReader.scan_looks (sound.reserve.goes_on _)
      exact ih looked.sound (FrameReader.reserve_ended.trans running) done

def Reads (stage : Stage) (reader : FrameReader) : Prop :=
  (∃ error, stage = .finished (.error error)) ∨ reader.ended = false ∧
    ∀ agreement, stage = .finished (.ok agreement) → reader.Looks .unbounded

omit [Connection σ] in
theorem reads_describe {names : List String} {rest : List Instruction}
    {reader : FrameReader} (running : reader.ended = false) :
    Reads (describe names rest) reader := by
  cases rest <;> exact .inr ⟨running, nofun⟩

/-- Only a frame leads on from a stage that waits for one. -/
theorem await_reads {stay stage : Stage}
    {leave : Except RelayError (Option Instruction) → Stage}
    {reader next : FrameReader} {stream rest : σ}
    (sound : reader.Sound .unbounded) (running : reader.ended = false)
    (fails : ∀ error, ∃ told, leave (.error error) = .finished (.error told))
    (ends : ∃ told, leave (.ok none) = .finished (.error told))
    (goes : ∀ instruction, next.Looks .unbounded → next.ended = false →
      Reads (leave (.ok (some instruction))) next)
    (done : await stay leave reader stream = (.to stage, next, rest)) :
    Reads stage next := by
  unfold await at done
  cases reading : reader.readFrame stream with
  | mk outcome after =>
      obtain ⟨later, input⟩ := after
      have runs := readFrame_runs sound running reading
      rw [reading] at done
      cases outcome with
      | parked => cases done
      | ready read =>
          cases done
          cases read with
          | error error => exact .inl (fails error)
          | ok read =>
              cases read with
              | none => exact .inl ends
              | some frame =>
                  obtain ⟨looks, still⟩ := runs.2 frame rfl
                  exact goes frame.instruction looks still

theorem step_reads {handshake : Handshake} {reader next : FrameReader}
    {stream rest : σ} {stage : Stage} (sound : reader.Sound .unbounded)
    (reads : Reads handshake.stage reader)
    (done : handshake.step reader stream = (.to stage, next, rest)) :
    Reads stage next := by
  obtain ⟨spec, info, current⟩ := handshake
  rcases reads with ⟨error, failed⟩ | ⟨running, -⟩
  · simp only at failed
    subst failed
    cases done
  · cases current with
    | selecting sending =>
        simp only [step, Prod.mk.injEq] at done
        obtain ⟨moved, rfl, -⟩ := done
        rcases write_moved (Prod.ext moved rfl : _ = (Moved.to stage, _)) with
          rfl | ⟨error, rfl⟩
        · exact .inr ⟨running, by simp⟩
        · exact .inl ⟨error, rfl⟩
    | describing names sending others =>
        simp only [step, Prod.mk.injEq] at done
        obtain ⟨moved, rfl, -⟩ := done
        rcases write_moved (Prod.ext moved rfl : _ = (Moved.to stage, _)) with
          rfl | ⟨error, rfl⟩
        · exact reads_describe running
        · exact .inl ⟨error, rfl⟩
    | awaitingArgs =>
        refine await_reads sound running (fun error => ⟨_, rfl⟩) ⟨_, rfl⟩ ?_ done
        intro instruction looks still
        unfold afterArgs
        split
        · exact .inl ⟨_, rfl⟩
        · exact reads_describe still
    | awaitingReady version =>
        refine await_reads sound running (fun error => ⟨_, rfl⟩) ⟨_, rfl⟩ ?_ done
        intro instruction looks still
        exact .inr ⟨still, fun _ _ => looks⟩
    | finished outcome => cases done

theorem step_rests {handshake : Handshake} {reader next : FrameReader}
    {stream rest : σ} {outcome : Except RelayError Agreement}
    (done : handshake.step reader stream =
      (.parked (.finished outcome), next, rest)) :
    handshake.stage = .finished outcome ∧ next = reader := by
  obtain ⟨spec, info, current⟩ := handshake
  unfold step at done
  cases current with
  | finished own =>
      cases done
      exact ⟨rfl, rfl⟩
  | selecting sending =>
      simp only [write] at done
      split at done <;> cases done
  | describing names sending others =>
      simp only [write] at done
      split at done <;> cases done
  | awaitingArgs =>
      simp only [await] at done
      split at done <;> cases done
  | awaitingReady version =>
      simp only [await] at done
      split at done <;> cases done

/-- A handshake that comes to an agreement leaves a reader that has looked at what
it has, on a stream that has not ended. -/
theorem run_reads (handshake : Handshake) {reader : FrameReader} {stream : σ}
    {agreement : Agreement} (sound : reader.Sound .unbounded)
    (reads : Reads handshake.stage reader)
    (agreed : (handshake.run reader stream).1 = .finished (.ok agreement)) :
    (handshake.run reader stream).2.1.Looks .unbounded ∧
      (handshake.run reader stream).2.1.ended = false := by
  fun_induction run handshake reader stream with
  | case1 handshake reader stream stage next rest step =>
      simp only at agreed
      subst agreed
      obtain ⟨before, rfl⟩ := step_rests step
      rcases reads with ⟨error, failed⟩ | ⟨running, looks⟩
      · rw [before] at failed
        cases failed
      · exact ⟨looks agreement before, running⟩
  | case2 handshake reader stream stage next rest step ih =>
      exact ih (step_sound sound step) (step_reads sound reads step) agreed

end Guacd.Handshake

/-! ### What is connected to -/

omit [Connection σ] in
theorem Tunnel.ofStream_isUnread (uuid : Uuid) (connectionId : Option String)
    (stream : σ) : (ofStream uuid connectionId stream).IsUnread :=
  ⟨(FrameReader.looks_fresh (by decide)).sound, rfl⟩

omit [Connection σ] in
theorem Tunnel.ofStream_isUntouched (uuid : Uuid)
    (connectionId : Option String) (stream : σ) :
    (ofStream uuid connectionId stream).IsUntouched :=
  ⟨rfl, rfl, rfl, FrameReader.looks_fresh (by decide), rfl⟩

omit [Connection σ] in
theorem Environment.scripted_connectsUnread (script : List (Option RelayError))
    (uuid : Nat → Uuid) (connectionId : Option String) (stream : σ)
    (token : Nat → String) (bufferSize : Nat) :
    (scripted script uuid connectionId stream token
      bufferSize).ConnectsUnread := by
  intro attempt request tunnel connected
  simp only [scripted] at connected
  split at connected
  · cases connected
  · cases connected
    exact Tunnel.ofStream_isUnread _ _ _

theorem Guacd.establish_isUnread {uuid : Uuid} {spec : ConnectionSpec}
    {info : ClientInfo} {stream : σ} {tunnel : Tunnel σ}
    (opened : establish uuid spec info stream = .opened tunnel) :
    tunnel.IsUnread := by
  have fresh : FrameReader.ofGuacd.Sound .unbounded :=
    (FrameReader.looks_fresh (by decide)).sound
  have kept := Handshake.run_sound (Handshake.start spec info)
    ({ stream } : Backend σ) fresh
  unfold establish at opened
  simp only at opened
  split at opened
  · rename_i agreement reader backend ran
    rw [ran] at kept
    cases opened
    exact ⟨kept, rfl⟩
  · cases opened
  · cases opened

theorem Guacd.establish_isNew {uuid : Uuid} {spec : ConnectionSpec}
    {info : ClientInfo} {stream : σ} {tunnel : Tunnel σ}
    (opened : establish uuid spec info stream = .opened tunnel) :
    tunnel.IsNew := by
  have kept := Backend.keeps_live.handshake_run (Handshake.start spec info)
    .ofGuacd ({ stream } : Backend σ)
  unfold establish at opened
  simp only at opened
  split at opened
  · rename_i agreement reader backend ran
    rw [ran] at kept
    cases opened
    exact ⟨rfl, kept, rfl⟩
  · cases opened
  · cases opened

theorem Guacd.establish_isUntouched {uuid : Uuid} {spec : ConnectionSpec}
    {info : ClientInfo} {stream : σ} {tunnel : Tunnel σ}
    (opened : establish uuid spec info stream = .opened tunnel) :
    tunnel.IsUntouched := by
  have live := (establish_isNew opened).live
  have fresh : FrameReader.ofGuacd.Looks .unbounded :=
    FrameReader.looks_fresh (by decide)
  unfold establish at opened
  simp only at opened
  split at opened
  · rename_i agreement reader backend ran
    have reads : Handshake.Reads (Handshake.start spec info).stage .ofGuacd :=
      .inr ⟨rfl, nofun⟩
    have kept := Handshake.run_reads (Handshake.start spec info) fresh.sound
      reads (congrArg Prod.fst ran)
    rw [ran] at kept
    cases opened
    exact ⟨rfl, live, rfl, kept.1, kept.2⟩
  · cases opened
  · cases opened

/-- A connector only opens tunnels that come out of a handshake. -/
theorem Guacd.Connector.connect_established {connector : Connector}
    {dial : String → Except DialFailure σ} {uuid : Uuid}
    {request : TunnelRequest} {tunnel : Tunnel σ}
    (reached : connector.connect dial uuid request =
      .reached (.opened tunnel)) :
    ∃ spec info stream, establish uuid spec info stream = .opened tunnel := by
  unfold connect at reached
  split at reached
  · cases reached
  · split at reached
    · cases reached
    · exact ⟨_, _, _, Connected.reached.inj reached⟩

theorem Guacd.Connector.connect_isNew {connector : Connector}
    {dial : String → Except DialFailure σ} {uuid : Uuid}
    {request : TunnelRequest} {tunnel : Tunnel σ}
    (reached : connector.connect dial uuid request =
      .reached (.opened tunnel)) : tunnel.IsNew := by
  obtain ⟨spec, info, stream, opened⟩ := connect_established reached
  exact establish_isNew opened

theorem Guacd.Connector.connect_isUnread {connector : Connector}
    {dial : String → Except DialFailure σ} {uuid : Uuid}
    {request : TunnelRequest} {tunnel : Tunnel σ}
    (reached : connector.connect dial uuid request =
      .reached (.opened tunnel)) : tunnel.IsUnread := by
  obtain ⟨spec, info, stream, opened⟩ := connect_established reached
  exact establish_isUnread opened

theorem Environment.connects_of_connector {environment : Environment σ}
    (connector : Guacd.Connector)
    (dial : Nat → String → Except Guacd.DialFailure σ) (uuid : Nat → Uuid)
    (goes : ∀ attempt request tunnel,
      environment.connect attempt request = .ok tunnel →
      connector.connect (dial attempt) (uuid attempt) request =
        .reached (.opened tunnel)) :
    environment.Connects ∧ environment.ConnectsUnread := by
  constructor
  · intro attempt request tunnel connected
    exact Guacd.Connector.connect_isNew (goes attempt request tunnel connected)
  · intro attempt request tunnel connected
    exact Guacd.Connector.connect_isUnread
      (goes attempt request tunnel connected)

end TunnelRelay
