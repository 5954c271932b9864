import TunnelRelay.Guacd.Establish
import TunnelRelay.Proofs.Frame.Forwarding
import TunnelRelay.Proofs.Frame.RoundTrip
import TunnelRelay.Proofs.Stream.Tapped
import TunnelRelay.Stream.Script

/-!
What the relay says to guacd in a handshake.

A handshake that comes to an agreement has said one list of instructions, which depends on the
names of the arguments that guacd has asked for. No text of a browser or of the configuration
shows in the framing, and only the parameters that guacd has named are in it.
-/

namespace TunnelRelay

namespace Guacd

/-! ### Versions and values -/

theorem offeredVersion?_cons (name : String) (names : List String) :
    offeredVersion? (name :: names) =
      if ProtocolVersion.marker.toList.isPrefixOf name.toList then
        some (if name = "VERSION_1_1_0" then .v1_1_0 else .v1_0_0)
      else none := by
  have least : ∀ version : ProtocolVersion,
      version.min .latest = version := by
    intro version
    cases version <;> rfl
  simp only [offeredVersion?, ProtocolVersion.parse?]
  split
  · rw [Option.map_some, least]
  · rfl

/-- Only a guacd that puts the newest version first gets it. -/
theorem agreedVersion_eq (names : List String) :
    agreedVersion names =
      if names.head? = some "VERSION_1_1_0" then .v1_1_0 else .v1_0_0 := by
  cases names with
  | nil => rfl
  | cons name names =>
      rw [agreedVersion, offeredVersion?_cons, List.head?_cons]
      by_cases newest : name = "VERSION_1_1_0"
      · subst newest
        rfl
      · have other : ¬ some name = some "VERSION_1_1_0" := by
          rwa [Option.some.injEq]
        rw [if_neg newest, if_neg other]
        split <;> rfl

theorem argumentValues_cons (parameters : Parameters) (name : String)
    (names : List String) :
    argumentValues parameters (name :: names) =
      (if ProtocolVersion.marker.toList.isPrefixOf name.toList then
        (agreedVersion (name :: names)).text
      else (parameters.lookup? name).getD "") ::
        names.map fun other => (parameters.lookup? other).getD "" := by
  unfold argumentValues
  rw [agreedVersion, offeredVersion?_cons]
  by_cases marked : ProtocolVersion.marker.toList.isPrefixOf name.toList
  · simp only [marked, if_true, Option.getD_some]
  · simp only [marked, if_false, List.map_cons, Bool.false_eq_true]

theorem argumentValues_length (parameters : Parameters)
    (names : List String) :
    (argumentValues parameters names).length = names.length := by
  cases names with
  | nil => rfl
  | cons name names =>
      rw [argumentValues_cons, List.length_cons, List.length_cons,
        List.length_map]

theorem argumentValues_get (parameters : Parameters) (names : List String)
    (index : Nat) (name : String) (asked : names[index]? = some name) :
    (argumentValues parameters names)[index]? = some
      (if index = 0 ∧ ProtocolVersion.marker.toList.isPrefixOf name.toList then
        (agreedVersion names).text
      else (parameters.lookup? name).getD "") := by
  cases names with
  | nil => cases asked
  | cons first names =>
      rw [argumentValues_cons]
      cases index with
      | zero =>
          cases asked
          simp only [List.getElem?_cons_zero, true_and]
      | succ index =>
          have later : names[index]? = some name := asked
          rw [List.getElem?_cons_succ, List.getElem?_map, later,
            if_neg (fun first => absurd first.1 (Nat.succ_ne_zero index))]
          rfl

/-- What guacd has not asked for has no place among the values. -/
theorem argumentValues_congr {parameters others : Parameters}
    {names : List String}
    (same : ∀ name ∈ names, others.lookup? name = parameters.lookup? name) :
    argumentValues others names = argumentValues parameters names := by
  cases names with
  | nil => rfl
  | cons name names =>
      have rest : ∀ other ∈ names, (others.lookup? other).getD "" =
          (parameters.lookup? other).getD "" := by
        intro other member
        rw [same other (List.mem_cons_of_mem name member)]
      rw [argumentValues_cons, argumentValues_cons,
        same name List.mem_cons_self, List.map_congr_left rest]

/-- Everything the relay says to a guacd that asks for the arguments. -/
def transcript (spec : ConnectionSpec) (info : ClientInfo)
    (names : List String) : List Instruction :=
  select spec :: description spec info names

theorem description_congr {spec : ConnectionSpec} {info : ClientInfo}
    {parameters : Parameters} {names : List String}
    (same : ∀ name ∈ names,
      parameters.lookup? name = spec.parameters.lookup? name) :
    description { spec with parameters } info names =
      description spec info names := by
  unfold description
  rw [argumentValues_congr same]

theorem transcript_eq (spec : ConnectionSpec) (info : ClientInfo)
    (names : List String) :
    transcript spec info names =
      [⟨"select", [spec.protocol]⟩,
        ⟨"size", [toString info.width, toString info.height,
          toString info.dpi]⟩,
        ⟨"audio", info.audio⟩, ⟨"video", info.video⟩, ⟨"image", info.image⟩]
      ++ (if names.head? = some "VERSION_1_1_0" then
            info.timezone.toList.map fun timezone => ⟨"timezone", [timezone]⟩
          else [])
      ++ [⟨"connect", argumentValues spec.parameters names⟩] := by
  unfold transcript description
  rw [agreedVersion_eq]
  split <;> rfl

/-! ### One stage -/

/-- What guacd has said by the time a stage is reached, and the bytes that it
has been sent. -/
def Stage.Fits (spec : ConnectionSpec) (info : ClientInfo)
    (heard : List Instruction) (taken : Bytes) : (stage : Stage) → Prop
  | .selecting sending =>
      heard = [] ∧ taken ++ sending.unsent = (select spec).wire
  | .awaitingArgs => heard = [] ∧ taken = (select spec).wire
  | .describing names sending rest => heard = [⟨"args", names⟩] ∧
      taken ++ sending.unsent ++ rest.flatMap Instruction.wire =
        (transcript spec info names).flatMap Instruction.wire
  | .awaitingReady version => ∃ names, version = agreedVersion names ∧
      heard = [⟨"args", names⟩] ∧
      taken = (transcript spec info names).flatMap Instruction.wire
  | .finished (.ok agreement) => ∃ names id more,
      agreement = ⟨id, agreedVersion names⟩ ∧
      heard = [⟨"args", names⟩, ⟨"ready", id :: more⟩] ∧
      taken = (transcript spec info names).flatMap Instruction.wire
  | .finished (.error _) => True

def Stage.agreement? : (stage : Stage) → Option Agreement
  | .finished (.ok agreement) => some agreement
  | _ => none

theorem Stage.of_agreement? {stage : Stage} {agreement : Agreement}
    (agreed : stage.agreement? = some agreement) :
    stage = .finished (.ok agreement) := by
  unfold agreement? at agreed
  split at agreed
  · cases agreed
    rfl
  · cases agreed

variable {spec : ConnectionSpec} {info : ClientInfo}

theorem Stage.fits_describe {names : List String} {rest : List Instruction}
    {taken : Bytes}
    (part : taken ++ rest.flatMap Instruction.wire =
      (transcript spec info names).flatMap Instruction.wire) :
    (Handshake.describe names rest).Fits spec info [⟨"args", names⟩] taken := by
  cases rest with
  | nil =>
      rw [List.flatMap_nil, List.append_nil] at part
      exact ⟨names, rfl, rfl, part⟩
  | cons instruction rest =>
      rw [List.flatMap_cons, ← List.append_assoc] at part
      exact ⟨rfl, part⟩

theorem expect_ok {opcode : String} {received : Option Instruction}
    {args : List String} (expected : expect opcode received = .ok args) :
    received = some ⟨opcode, args⟩ := by
  unfold expect at expected
  split at expected
  · cases expected
  · rename_i instruction
    split at expected
    · rename_i same
      cases expected
      rw [← same]
    · split at expected
      · cases expected
      · split at expected <;> cases expected

def brought : (received : Except RelayError (Option Instruction)) →
    List Instruction
  | .ok (some instruction) => [instruction]
  | .ok none | .error _ => []

theorem Stage.fits_afterArgs
    (received : Except RelayError (Option Instruction)) :
    (Handshake.afterArgs spec info received).Fits spec info
      (brought received) (select spec).wire := by
  unfold Handshake.afterArgs
  cases asked : received.bind (expect "args") with
  | error error => trivial
  | ok names =>
      cases received with
      | error error => cases asked
      | ok received =>
          rw [expect_ok asked]
          exact fits_describe rfl

theorem Stage.fits_afterReady (names : List String)
    (received : Except RelayError (Option Instruction)) :
    (Handshake.afterReady (agreedVersion names) received).Fits spec info
      (⟨"args", names⟩ :: brought received)
      ((transcript spec info names).flatMap Instruction.wire) := by
  unfold Handshake.afterReady
  cases received with
  | error error => trivial
  | ok received =>
      cases answered : expect "ready" received with
      | error error =>
          simp only [bind, Except.bind, answered]
          trivial
      | ok args =>
          have same := expect_ok answered
          subst same
          simp only [bind, Except.bind, answered]
          cases args with
          | nil => trivial
          | cons id more => exact ⟨names, id, more, rfl, rfl, rfl⟩

theorem Handshake.write_spec {σ : Type} [Connection σ] {sending : Sending}
    {stay : Sending → Stage} {leave : Stage} {moved : Moved}
    {backend next : Backend (Recorded (Tapped σ))}
    (done : write sending stay leave backend = (moved, next)) :
    next.arrived = backend.arrived ∧
      ∃ gone left, sending.unsent = gone ++ left ∧
        next.stream.taken = backend.stream.taken ++ gone ∧
        (moved = .to leave ∧ left = [] ∨
          (∃ error, moved = .to (.finished (.error error))) ∨
          ∃ more, moved = .parked (stay more) ∧ more.unsent = left) := by
  have arrived := Backend.keepsWriting_arrived.poll sending backend
  unfold write at done
  cases sent : sending.poll backend with
  | mk outcome rest =>
      obtain ⟨gone, left, split, advances, ends⟩ := Sending.poll_advances sent
      rw [sent] at done arrived
      cases outcome with
      | done =>
          cases done
          exact ⟨arrived, gone, left, split, advances.taken,
            .inl ⟨rfl, ends.1⟩⟩
      | failed error =>
          cases done
          exact ⟨arrived, gone, left, split, advances.taken,
            .inr (.inl ⟨error, rfl⟩)⟩
      | parked more =>
          cases done
          exact ⟨arrived, gone, left, split, advances.taken,
            .inr (.inr ⟨more, rfl, ends.1⟩)⟩

theorem Handshake.await_spec {σ : Type} [Connection σ] {stay : Stage}
    {leave : Except RelayError (Option Instruction) → Stage} {moved : Moved}
    {reader later : FrameReader} {backend next : Backend (Recorded (Tapped σ))}
    (sound : reader.Sound .unbounded)
    (done : await stay leave reader backend = (moved, later, next)) :
    later.Sound .unbounded ∧ next.stream.taken = backend.stream.taken ∧
      ∃ got frames, next.arrived = backend.arrived ++ got ∧
        reader.buffer ++ got = Frame.received frames ++ later.buffer ∧
        (∀ frame ∈ frames, ∃ wire : WireFrame,
          Bytes.ofText frame.raw = wire.bytes ∧
            frame.instruction = wire.instruction) ∧
        (moved = .parked stay ∧ frames = [] ∨
          ∃ received, moved = .to (leave received) ∧
            frames.map (·.instruction) = brought received) := by
  unfold await at done
  cases reading : reader.readFrame backend with
  | mk outcome rest =>
      obtain ⟨after, other⟩ := rest
      obtain ⟨kept, shaped, got, obtained, conserved⟩ :=
        FrameReader.readFrame_sound sound reading
      have arrived := Backend.obtains_arrived obtained
      have taken := (FrameReader.readFrame_rests reading).taken
      have silent : FrameReader.gone outcome = [] → reader.buffer ++ got =
          Frame.received [] ++ after.buffer := by
        intro nothing
        rw [conserved, nothing]
        rfl
      rw [reading] at done
      cases outcome with
      | parked =>
          cases done
          exact ⟨kept, taken, got, [], arrived, silent rfl, nofun,
            .inl ⟨rfl, rfl⟩⟩
      | ready read =>
          cases done
          cases read with
          | error error =>
              exact ⟨kept, taken, got, [], arrived, silent rfl, nofun,
                .inr ⟨_, rfl, rfl⟩⟩
          | ok read =>
              cases read with
              | none =>
                  exact ⟨kept, taken, got, [], arrived, silent rfl, nofun,
                    .inr ⟨_, rfl, rfl⟩⟩
              | some frame =>
                  refine ⟨kept, taken, got, [frame], arrived, ?_, ?_,
                    .inr ⟨_, rfl, rfl⟩⟩
                  · rw [conserved]
                    simp [FrameReader.gone, Frame.received]
                  · intro other member
                    rw [List.mem_singleton.mp member]
                    exact shaped frame rfl

/-! ### Carrying a handshake on -/

/-- A handshake that is going on over a connection. -/
structure Talk (σ : Type) where
  handshake : Handshake
  reader : FrameReader
  backend : Backend (Recorded (Tapped σ))

def Handshake.Moved.stage : (moved : Moved) → Stage
  | .to stage | .parked stage => stage

namespace Talk

variable {σ : Type}

def start (spec : ConnectionSpec) (info : ClientInfo) (stream : σ) : Talk σ :=
  ⟨.start spec info, .ofGuacd, { stream := { stream := { stream } } }⟩

inductive Turn (σ : Type) where
  /-- The handshake goes on as far as it can within its stage. -/
  | relay
  /-- Something happens at the other end. -/
  | guacd (change : σ → σ)

variable [Connection σ]

def turn (talk : Talk σ) : (turn : Turn σ) → Talk σ
  | .relay =>
      let (moved, reader, backend) :=
        talk.handshake.step talk.reader talk.backend
      ⟨{ talk.handshake with stage := moved.stage }, reader, backend⟩
  | .guacd change =>
      { talk with backend := { talk.backend with
          stream := talk.backend.stream.onStream (Tapped.onStream change) } }

def run (talk : Talk σ) (turns : List (Turn σ)) : Talk σ :=
  turns.foldl turn talk

theorem run_relay (talk : Talk σ) :
    ∃ turns, talk.run turns =
      let (stage, reader, backend) :=
        talk.handshake.run talk.reader talk.backend
      ⟨{ talk.handshake with stage }, reader, backend⟩ := by
  obtain ⟨handshake, reader, backend⟩ := talk
  fun_induction Handshake.run handshake reader backend with
  | case1 handshake reader backend stage next rest step =>
      refine ⟨[.relay], ?_⟩
      simp only [run, turn, List.foldl_cons, List.foldl_nil, step]
      rfl
  | case2 handshake reader backend stage next rest step ih =>
      obtain ⟨turns, ran⟩ := ih
      refine ⟨.relay :: turns, ?_⟩
      rw [← ran]
      simp only [run, turn, List.foldl_cons, step]
      rfl

/-- What guacd has said and been sent, frame by frame and byte by byte. -/
structure Accounts (talk : Talk σ) (heard : List Frame) : Prop where
  sound : talk.reader.Sound .unbounded
  shaped : ∀ frame ∈ heard, ∃ wire : WireFrame,
    Bytes.ofText frame.raw = wire.bytes ∧ frame.instruction = wire.instruction
  arrived : talk.backend.arrived =
    Frame.received heard ++ talk.reader.buffer
  stage : talk.handshake.stage.Fits talk.handshake.spec talk.handshake.info
    (heard.map (·.instruction)) talk.backend.stream.taken

omit [Connection σ] in
theorem accounts_start (spec : ConnectionSpec) (info : ClientInfo)
    (stream : σ) : (start spec info stream).Accounts [] :=
  ⟨(FrameReader.looks_fresh (by decide)).sound, nofun, rfl, rfl, rfl⟩

omit [Connection σ] in
theorem Accounts.written {talk : Talk σ} {heard : List Frame} {stage : Stage}
    {next : Backend (Recorded (Tapped σ))} (accounts : talk.Accounts heard)
    (arrived : next.arrived = talk.backend.arrived)
    (fits : stage.Fits talk.handshake.spec talk.handshake.info
      (heard.map (·.instruction)) next.stream.taken) :
    Accounts ⟨{ talk.handshake with stage }, talk.reader, next⟩ heard :=
  ⟨accounts.sound, accounts.shaped, arrived.trans accounts.arrived, fits⟩

theorem Accounts.awaited {talk : Talk σ} {heard : List Frame} {stay : Stage}
    {leave : Except RelayError (Option Instruction) → Stage}
    {moved : Handshake.Moved} {later : FrameReader}
    {next : Backend (Recorded (Tapped σ))} (accounts : talk.Accounts heard)
    (done : Handshake.await stay leave talk.reader talk.backend =
      (moved, later, next))
    (stays : stay.Fits talk.handshake.spec talk.handshake.info
      (heard.map (·.instruction)) talk.backend.stream.taken)
    (leads : ∀ received, (leave received).Fits talk.handshake.spec
      talk.handshake.info (heard.map (·.instruction) ++ brought received)
      talk.backend.stream.taken) :
    ∃ more, Accounts
      ⟨{ talk.handshake with stage := moved.stage }, later, next⟩
      (heard ++ more) := by
  obtain ⟨sound, taken, got, frames, arrived, split, shaped, result⟩ :=
    Handshake.await_spec accounts.sound done
  refine ⟨frames, sound, ?_, ?_, ?_⟩
  · intro frame member
    rcases List.mem_append.mp member with before | new
    · exact accounts.shaped frame before
    · exact shaped frame new
  · simp only
    rw [arrived, accounts.arrived, List.append_assoc, split,
      Frame.received_append, List.append_assoc]
  · simp only
    rw [taken, List.map_append]
    rcases result with ⟨rfl, rfl⟩ | ⟨received, rfl, same⟩
    · rw [List.map_nil, List.append_nil]
      exact stays
    · rw [same]
      exact leads received

theorem Accounts.turn {talk : Talk σ} {heard : List Frame}
    (accounts : talk.Accounts heard) (turn : Turn σ) :
    ∃ more, (talk.turn turn).Accounts (heard ++ more) := by
  cases turn with
  | guacd change =>
      refine ⟨[], ?_⟩
      rw [List.append_nil]
      exact ⟨accounts.sound, accounts.shaped, accounts.arrived, accounts.stage⟩
  | relay =>
      obtain ⟨⟨spec, info, stage⟩, reader, backend⟩ := talk
      have fits := accounts.stage
      unfold Talk.turn Handshake.step
      cases stage with
      | selecting sending =>
          obtain ⟨arrived, gone, left, split, taken, result⟩ :=
            Handshake.write_spec (Prod.ext rfl rfl :
              Handshake.write sending .selecting .awaitingArgs backend = _)
          -- what was unsent before is what has gone and what is left
          obtain ⟨unheard, part⟩ := fits
          rw [split, ← List.append_assoc, ← taken] at part
          refine ⟨[], ?_⟩
          rw [List.append_nil]
          apply accounts.written arrived
          rcases result with ⟨led, rfl⟩ | ⟨error, led⟩ | ⟨more, led, rfl⟩
          · rw [List.append_nil] at part
            rw [led]
            exact ⟨unheard, part⟩
          · rw [led]
            trivial
          · rw [led]
            exact ⟨unheard, part⟩
      | awaitingArgs =>
          apply accounts.awaited (Prod.ext rfl rfl) fits
          intro received
          rw [fits.1, fits.2]
          exact Stage.fits_afterArgs received
      | describing names sending rest =>
          obtain ⟨arrived, gone, left, split, taken, result⟩ :=
            Handshake.write_spec (Prod.ext rfl rfl :
              Handshake.write sending (.describing names · rest)
                (Handshake.describe names rest) backend = _)
          obtain ⟨asked, part⟩ := fits
          rw [split, ← List.append_assoc, ← taken] at part
          refine ⟨[], ?_⟩
          rw [List.append_nil]
          apply accounts.written arrived
          rcases result with ⟨led, rfl⟩ | ⟨error, led⟩ | ⟨more, led, rfl⟩
          · rw [List.append_nil] at part
            rw [led, asked]
            exact Stage.fits_describe part
          · rw [led]
            trivial
          · rw [led]
            exact ⟨asked, part⟩
      | awaitingReady version =>
          apply accounts.awaited (Prod.ext rfl rfl) fits
          intro received
          obtain ⟨names, rfl, asked, taken⟩ := fits
          simp only
          rw [asked, taken]
          exact Stage.fits_afterReady names received
      | finished outcome =>
          refine ⟨[], ?_⟩
          rw [List.append_nil]
          exact accounts

/-! ### Other parameters -/

omit [Connection σ] in
def respec (talk : Talk σ) (parameters : Parameters) : Talk σ :=
  { talk with handshake := { talk.handshake with
      spec := { talk.handshake.spec with parameters } } }

/-- Other parameters make no difference to a turn, unless guacd asks for one of
them with it. -/
theorem turn_respec (talk : Talk σ) (parameters : Parameters)
    (turn : Turn σ) :
    (talk.respec parameters).turn turn =
        (talk.turn turn).respec parameters ∨
      ∃ names sending rest,
        (talk.turn turn).handshake.stage = .describing names sending rest ∧
        ¬ ∀ name ∈ names, parameters.lookup? name =
          talk.handshake.spec.parameters.lookup? name := by
  cases turn with
  | guacd change => exact .inl rfl
  | relay =>
      obtain ⟨⟨spec, info, stage⟩, reader, backend⟩ := talk
      unfold Talk.turn Talk.respec Handshake.step
      cases stage with
      | selecting sending => exact .inl rfl
      | describing names sending rest => exact .inl rfl
      | awaitingReady version => exact .inl rfl
      | finished outcome => exact .inl rfl
      | awaitingArgs =>
          simp only [Handshake.await]
          cases reader.readFrame backend with
          | mk outcome rest =>
              cases outcome with
              | parked => exact .inl rfl
              | ready read =>
                  simp only [Handshake.afterArgs, Handshake.Moved.stage]
                  cases (Handshake.instruction? read).bind (expect "args") with
                  | error error => exact .inl rfl
                  | ok names =>
                      by_cases same : ∀ name ∈ names, parameters.lookup? name =
                          spec.parameters.lookup? name
                      · simp only
                        rw [description_congr same]
                        exact .inl rfl
                      · exact .inr ⟨names, _, _, rfl, same⟩

theorem turn_spec (talk : Talk σ) (turn : Turn σ) :
    (talk.turn turn).handshake.spec = talk.handshake.spec ∧
      (talk.turn turn).handshake.info = talk.handshake.info := by
  cases turn <;> exact ⟨rfl, rfl⟩

/-! ### Whole handshakes -/

theorem run_snoc (talk : Talk σ) (turns : List (Turn σ)) (turn : Turn σ) :
    talk.run (turns ++ [turn]) = (talk.run turns).turn turn := by
  rw [run, List.foldl_append]
  rfl

theorem run_accounts (spec : ConnectionSpec) (info : ClientInfo) (stream : σ)
    (turns : List (Turn σ)) :
    ((start spec info stream).run turns).handshake.spec = spec ∧
      ((start spec info stream).run turns).handshake.info = info ∧
      ∃ heard, ((start spec info stream).run turns).Accounts heard ∧
        ∀ parameters, (start { spec with parameters } info stream).run turns =
            ((start spec info stream).run turns).respec parameters ∨
          ∃ names rest, heard.map (·.instruction) = ⟨"args", names⟩ :: rest ∧
            ¬ ∀ name ∈ names, parameters.lookup? name =
              spec.parameters.lookup? name := by
  induction turns using List.reverseRecOn with
  | nil =>
      exact ⟨rfl, rfl, [], accounts_start spec info stream, fun _ => .inl rfl⟩
  | append_singleton turns turn ih =>
      obtain ⟨sameSpec, sameInfo, heard, accounts, alike⟩ := ih
      simp only [run_snoc]
      generalize (start spec info stream).run turns = talk at *
      obtain ⟨more, later⟩ := accounts.turn turn
      have kept := talk.turn_spec turn
      refine ⟨kept.1.trans sameSpec, kept.2.trans sameInfo, heard ++ more,
        later, ?_⟩
      intro parameters
      rcases alike parameters with same | ⟨names, rest, asked, differs⟩
      · rw [same]
        rcases talk.turn_respec parameters turn with still |
          ⟨names, sending, rest, stage, differs⟩
        · exact .inl still
        · have fits := later.stage
          rw [stage] at fits
          rw [sameSpec] at differs
          exact .inr ⟨names, [], fits.1, differs⟩
      · refine .inr ⟨names, rest ++ more.map (·.instruction), ?_, differs⟩
        rw [List.map_append, asked]
        rfl

theorem establish_taken {uuid : Uuid} {spec : ConnectionSpec}
    {info : ClientInfo} {stream : σ} {tunnel : Tunnel (Recorded (Tapped σ))}
    (opened : establish uuid spec info { stream := { stream } } =
      .opened tunnel) :
    ∃ names, tunnel.backend.stream.taken =
      (transcript spec info names).flatMap Instruction.wire := by
  obtain ⟨turns, ran⟩ := run_relay (start spec info stream)
  obtain ⟨sameSpec, sameInfo, heard, accounts, -⟩ :=
    run_accounts spec info stream turns
  have fits := accounts.stage
  rw [sameSpec, sameInfo, ran] at fits
  unfold establish at opened
  simp only at opened
  split at opened
  · rename_i agreement reader backend agreed
    have whole : (start spec info stream).handshake.run
        (start spec info stream).reader (start spec info stream).backend =
          (.finished (.ok agreement), reader, backend) := agreed
    rw [whole] at fits
    cases opened
    obtain ⟨names, id, more, -, -, taken⟩ := fits
    exact ⟨names, taken⟩
  · cases opened
  · cases opened

/-- A handshake that comes to an agreement has said, in order, which protocol
it selects, how large the screen is, what it can play and show, the time zone
if there is one and guacd puts the newest version first, and one value for each
argument that guacd has asked for. A decoder finds exactly these instructions
in what was written, whatever is in the texts. The version stands in the first
place if guacd offers one there; in each other place stands the parameter of
that name. Parameters that guacd has not named make no difference. -/
theorem transcript_decodes (spec : ConnectionSpec) (info : ClientInfo)
    (stream : σ) (turns : List (Turn σ)) (agreement : Agreement)
    (done : ((start spec info stream).run turns).handshake.stage =
      .finished (.ok agreement)) :
    let talk := (start spec info stream).run turns
    ∃ names values more said,
      [⟨"args", names⟩, ⟨"ready", agreement.connectionId :: more⟩] <+:
        (Intake.ofChunks .unbounded [talk.backend.arrived]).frames.map
          (·.instruction) ∧
      said = ([⟨"select", [spec.protocol]⟩,
          ⟨"size", [toString info.width, toString info.height,
            toString info.dpi]⟩,
          ⟨"audio", info.audio⟩, ⟨"video", info.video⟩,
          ⟨"image", info.image⟩]
        ++ (if names.head? = some "VERSION_1_1_0" then
              info.timezone.toList.map fun timezone => ⟨"timezone", [timezone]⟩
            else [])
        ++ [⟨"connect", values⟩] : List Instruction) ∧
      talk.backend.stream.taken = said.flatMap Instruction.wire ∧
      ((∀ instruction ∈ said, ∀ text ∈ instruction.elements,
          text.length < 10 ^ 10) →
        Decoder.unbounded.drain talk.backend.stream.taken =
          (.ok (said.map fun instruction =>
              ⟨instruction, instruction.encode⟩), [], .unbounded)) ∧
      values.length = names.length ∧
      (∀ index name, names[index]? = some name →
        values[index]? = some
          (if index = 0 ∧ "VERSION_".toList.isPrefixOf name.toList then
            agreement.version.text
          else (spec.parameters.lookup? name).getD "")) ∧
      agreement.version =
        (if names.head? = some "VERSION_1_1_0" then .v1_1_0 else .v1_0_0) ∧
      ∀ parameters : Parameters,
        (∀ name ∈ names, parameters.lookup? name =
          spec.parameters.lookup? name) →
        (start { spec with parameters } info stream).run turns =
          { talk with handshake := { talk.handshake with
              spec := { spec with parameters } } } := by
  intro talk
  obtain ⟨sameSpec, sameInfo, heard, accounts, alike⟩ :=
    run_accounts spec info stream turns
  have fits := accounts.stage
  rw [done, sameSpec, sameInfo] at fits
  obtain ⟨names, id, more, rfl, asked, taken⟩ := fits
  refine ⟨names, argumentValues spec.parameters names, more,
    transcript spec info names, ?_, transcript_eq spec info names, taken, ?_,
    argumentValues_length _ _, argumentValues_get spec.parameters names,
    agreedVersion_eq names, ?_⟩
  · rw [← asked, Intake.ofChunks_singleton, accounts.arrived]
    have whole := Intake.takeFrames_received accounts.shaped
      talk.reader.buffer []
    rw [List.nil_append] at whole
    have first := Intake.takeFrames_frames_prefix .unbounded
      talk.reader.buffer heard
    rw [← whole] at first
    exact first.map _
  · intro bounded
    have short : ∀ instruction ∈ transcript spec info names,
        ∀ text ∈ instruction.elements, text.length ≤ maxElementLength :=
      fun instruction member text among =>
        Nat.le_of_lt_succ (bounded instruction member text among)
    have drained := Decoder.drainFrom_wire short
      (Intake.decode_empty (by decide)) []
    rw [List.append_nil, List.nil_append] at drained
    rw [taken, Decoder.drain, drained]
    rfl
  · intro parameters same
    -- another value is only noticed by a guacd that has asked for it
    rcases alike parameters with still | ⟨others, rest, first, differs⟩
    · rw [still, respec, sameSpec]
    · rw [asked] at first
      cases first
      exact absurd same differs

/-- Texts that look like framing, a name that is not configured, and a stream
that breaks off in the middle of an element for a while. -/
theorem transcript_decodes_framing :
    let spec : ConnectionSpec := ⟨"rdp;3.nop;", [("port", "1"), ("host", "4.a,")]⟩
    let info : ClientInfo := { audio := ["audio/L8", ","], timezone := some "é" }
    let stream : Scripted := { input := ⟨[
      .ok (Bytes.ofText "4.args,13.VERSION_1_"),
      .ok (Bytes.ofText "1_0,4.host,3.dpi;5.ready,2.$1;")]⟩ }
    let talk := (start spec info stream).run (List.replicate 9 .relay)
    talk.handshake.stage = .finished (.ok ⟨"$1", .v1_1_0⟩) ∧
      Decoder.unbounded.drain talk.backend.stream.taken =
        (.ok (([⟨"select", ["rdp;3.nop;"]⟩, ⟨"size", ["1024", "768", "96"]⟩,
            ⟨"audio", ["audio/L8", ","]⟩, ⟨"video", []⟩, ⟨"image", []⟩,
            ⟨"timezone", ["é"]⟩,
            ⟨"connect", ["VERSION_1_1_0", "4.a,", ""]⟩] : List Instruction).map
          fun instruction => ⟨instruction, instruction.encode⟩),
          [], .unbounded) := by
  intro spec info stream talk
  have done : talk.handshake.stage = .finished (.ok ⟨"$1", .v1_1_0⟩) :=
    Stage.of_agreement? (by decide +kernel)
  have frames : (Intake.ofChunks .unbounded [talk.backend.arrived]).frames.map
      (·.instruction) = [⟨"args", ["VERSION_1_1_0", "host", "dpi"]⟩,
        ⟨"ready", ["$1"]⟩] := by
    decide +kernel
  have decodes := transcript_decodes spec info stream (List.replicate 9 .relay)
    ⟨"$1", .v1_1_0⟩ done
  have same : talk =
      (start spec info stream).run (List.replicate 9 .relay) := rfl
  rw [← same] at decodes
  clear_value talk
  obtain ⟨names, values, more, said, heard, listed, -, drained, count, placed,
    -⟩ := decodes
  rw [frames] at heard
  obtain ⟨rest, split⟩ := heard
  obtain rfl : names = ["VERSION_1_1_0", "host", "dpi"] :=
    (Instruction.mk.inj (List.cons.inj split).1).2
  have aligned : values = ["VERSION_1_1_0", "4.a,", ""] := by
    apply List.ext_getElem?
    intro index
    match index with
    | 0 => exact (placed 0 _ rfl).trans (by decide +kernel)
    | 1 => exact (placed 1 _ rfl).trans (by decide +kernel)
    | 2 => exact (placed 2 _ rfl).trans (by decide +kernel)
    | index + 3 =>
        rw [List.getElem?_eq_none, List.getElem?_eq_none]
        · exact Nat.le_add_left 3 index
        · rw [count]
          exact Nat.le_add_left 3 index
  have all : said = [⟨"select", ["rdp;3.nop;"]⟩,
      ⟨"size", ["1024", "768", "96"]⟩, ⟨"audio", ["audio/L8", ","]⟩,
      ⟨"video", []⟩, ⟨"image", []⟩, ⟨"timezone", ["é"]⟩,
      ⟨"connect", ["VERSION_1_1_0", "4.a,", ""]⟩] := by
    rw [listed, aligned]
    decide +kernel
  rw [all] at drained
  exact ⟨done, drained (by decide)⟩

end Talk

end Guacd

end TunnelRelay
