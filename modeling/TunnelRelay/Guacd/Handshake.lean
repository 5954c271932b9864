import TunnelRelay.Frame.Reader
import TunnelRelay.Frame.Writer
import TunnelRelay.ProtocolVersion
import TunnelRelay.TunnelRequest

/-!
The handshake with guacd.

The relay selects a protocol; guacd answers with the names of the arguments it wants. The relay
then describes the browser and sends one value per name, and guacd answers that it is ready. From
there on the stream carries ordinary instructions.

A handshake is a sequence of stages. Each stage either has something to write or waits for one
instruction, so it can be carried on over any stream, as far as the stream lets it.
-/

namespace TunnelRelay.Guacd

abbrev Parameters := List (String × String)

def Parameters.lookup? (parameters : Parameters) (name : String) : Option String :=
  (parameters.find? (·.1 == name)).map (·.2)

/-- The protocol to select and the values guacd may ask for. -/
structure ConnectionSpec where
  protocol : String
  parameters : Parameters := []
  deriving DecidableEq, Repr

structure Agreement where
  connectionId : String
  version : ProtocolVersion
  deriving DecidableEq, Repr

def select (spec : ConnectionSpec) : Instruction :=
  ⟨"select", [spec.protocol]⟩

/-- The version to use with a guacd that asks for these arguments. A guacd that knows versions
puts its own one first. -/
def offeredVersion? : List String → Option ProtocolVersion
  | [] => none
  | name :: _ => (ProtocolVersion.parse? name).map (·.min .latest)

/-- One value for each argument guacd asks for: the version in the first place if guacd offered
one there, else the configured value, or nothing. -/
def argumentValues (parameters : Parameters) (names : List String) : List String :=
  let value (name : String) := (parameters.lookup? name).getD ""
  match names, offeredVersion? names with
  | _ :: rest, some version => version.text :: rest.map value
  | names, _ => names.map value

/-- The version to use, which is the oldest one if guacd offers none. -/
def agreedVersion (names : List String) : ProtocolVersion :=
  (offeredVersion? names).getD .v1_0_0

/-- What the relay says once it knows the arguments guacd asks for. -/
def description (spec : ConnectionSpec) (info : ClientInfo) (names : List String) :
    List Instruction :=
  [⟨"size", [toString info.width, toString info.height, toString info.dpi]⟩,
    ⟨"audio", info.audio⟩, ⟨"video", info.video⟩, ⟨"image", info.image⟩]
  ++ (if (agreedVersion names).supportsTimezone then
        info.timezone.toList.map fun timezone => ⟨"timezone", [timezone]⟩
      else [])
  ++ [⟨"connect", argumentValues spec.parameters names⟩]

/-- The failure that guacd reports in an `error` instruction. -/
def reportedFailure (args : List String) : RelayError :=
  let message := args.head?.getD "Internal error within guacd / protocol handling."
  let status := do
    let code ← parseUnsigned? 65535 (← args[1]?)
    Status.ofGuacamoleCode? code
  (status.getD .serverError).toError message

def expect (opcode : String) (received : Option Instruction) : Except RelayError (List String) :=
  match received with
  | none => .error (.server ("End of stream while waiting for \"" ++ opcode ++ "\"."))
  | some instruction =>
    if instruction.opcode = opcode then .ok instruction.args
    else if instruction.opcode = "disconnect" then
      .error (.connectionClosed ("Server disconnected while waiting for \"" ++ opcode ++ "\"."))
    else if instruction.opcode = "error" then .error (reportedFailure instruction.args)
    else .error (.server ("Expected \"" ++ opcode ++ "\" instruction but instead received \""
      ++ instruction.opcode ++ "\"."))

def connectionId (args : List String) : Except RelayError String :=
  match args with
  | [] => .error (.server "No connection ID received")
  | id :: _ => .ok id

inductive Stage where
  | selecting (sending : Sending)
  | awaitingArgs
  /-- The description is being written, one instruction at a time. -/
  | describing (names : List String) (sending : Sending) (rest : List Instruction)
  | awaitingReady (version : ProtocolVersion)
  | finished (outcome : Except RelayError Agreement)

/-- How much is left: the part of the handshake, and the instructions to be written in it. -/
def Stage.rank : Stage → Nat × Nat
  | selecting _ => (4, 0)
  | awaitingArgs => (3, 0)
  | describing _ _ rest => (2, rest.length)
  | awaitingReady _ => (1, 0)
  | finished _ => (0, 0)

structure Handshake where
  spec : ConnectionSpec
  info : ClientInfo
  stage : Stage

namespace Handshake

def start (spec : ConnectionSpec) (info : ClientInfo) : Handshake :=
  ⟨spec, info, .selecting (.ofInstruction (select spec))⟩

/-- The stage in which the given instructions are to be written. -/
def describe (names : List String) : List Instruction → Stage
  | [] => .awaitingReady (agreedVersion names)
  | instruction :: rest => .describing names (.ofInstruction instruction) rest

def afterArgs (spec : ConnectionSpec) (info : ClientInfo)
    (received : Except RelayError (Option Instruction)) : Stage :=
  match received.bind (expect "args") with
  | .error error => .finished (.error error)
  | .ok names => describe names (description spec info names)

def afterReady (version : ProtocolVersion)
    (received : Except RelayError (Option Instruction)) : Stage :=
  .finished do
    let args ← expect "ready" (← received)
    return ⟨← connectionId args, version⟩

def instruction? (read : Except RelayError (Option Frame)) :
    Except RelayError (Option Instruction) :=
  read.map fun frame => frame.map (·.instruction)

inductive Moved where
  | to (stage : Stage)
  /-- The stage cannot be left now. -/
  | parked (stage : Stage)

def write {σ : Type} [Connection σ] (sending : Sending) (stay : Sending → Stage) (leave : Stage)
    (stream : σ) : Moved × σ :=
  match sending.poll stream with
  | (.done, stream) => (.to leave, stream)
  | (.failed error, stream) => (.to (.finished (.error error)), stream)
  | (.parked sending, stream) => (.parked (stay sending), stream)

def await {σ : Type} [Connection σ] (stay : Stage)
    (leave : Except RelayError (Option Instruction) → Stage) (reader : FrameReader) (stream : σ) :
    Moved × FrameReader × σ :=
  match reader.readFrame stream with
  | (.parked, reader, stream) => (.parked stay, reader, stream)
  | (.ready read, reader, stream) => (.to (leave (instruction? read)), reader, stream)

def step {σ : Type} [Connection σ] (handshake : Handshake) (reader : FrameReader) (stream : σ) :
    Moved × FrameReader × σ :=
  match handshake.stage with
  | .selecting sending =>
    let (moved, stream) := write sending .selecting .awaitingArgs stream
    (moved, reader, stream)
  | .awaitingArgs =>
    await .awaitingArgs (afterArgs handshake.spec handshake.info) reader stream
  | .describing names sending rest =>
    let (moved, stream) :=
      write sending (.describing names · rest) (describe names rest) stream
    (moved, reader, stream)
  | .awaitingReady version =>
    await (.awaitingReady version) (afterReady version) reader stream
  | .finished outcome => (.parked (.finished outcome), reader, stream)


theorem describe_rank (names : List String) (rest : List Instruction) :
    (describe names rest).rank = (1, 0) ∨
      (describe names rest).rank.1 = 2 ∧ (describe names rest).rank.2 < rest.length := by
  cases rest <;> simp [describe, Stage.rank]

theorem afterArgs_rank (spec : ConnectionSpec) (info : ClientInfo)
    (received : Except RelayError (Option Instruction)) :
    (afterArgs spec info received).rank.1 < 3 := by
  unfold afterArgs
  split
  next => simp [Stage.rank]
  next names _ =>
    rcases describe_rank names (description spec info names) with rank | ⟨rank, -⟩
    · rw [rank]; decide
    · rw [rank]; decide

theorem write_moved {σ : Type} [Connection σ] {sending : Sending} {stay : Sending → Stage}
    {leave stage : Stage} {stream next : σ}
    (done : write sending stay leave stream = (.to stage, next)) :
    stage = leave ∨ ∃ error, stage = .finished (.error error) := by
  unfold write at done
  split at done
  next => exact .inl (by simp_all)
  next error _ _ =>
    simp only [Prod.mk.injEq, Moved.to.injEq] at done
    exact .inr ⟨error, done.1.symm⟩
  next => simp at done

theorem await_moved {σ : Type} [Connection σ] {stay stage : Stage}
    {leave : Except RelayError (Option Instruction) → Stage} {reader reader' : FrameReader}
    {stream next : σ} (done : await stay leave reader stream = (.to stage, reader', next)) :
    ∃ received, stage = leave received := by
  unfold await at done
  split at done <;> simp_all
  exact ⟨_, done.1.symm⟩

/-- Every stage that is left brings the handshake nearer to its end. -/
theorem step_rank {σ : Type} [Connection σ] {handshake : Handshake} {reader reader' : FrameReader}
    {stream next : σ} {stage : Stage}
    (done : handshake.step reader stream = (.to stage, reader', next)) :
    Prod.Lex (· < ·) (· < ·) stage.rank handshake.stage.rank := by
  obtain ⟨spec, info, current⟩ := handshake
  cases current with
  | selecting sending =>
    simp only [step, Prod.mk.injEq] at done
    rcases write_moved (Prod.ext done.1 rfl : _ = (Moved.to stage, _)) with rfl | ⟨error, rfl⟩
    · exact .left _ _ (by decide)
    · exact .left _ _ (by decide)
  | awaitingArgs =>
    obtain ⟨received, rfl⟩ := await_moved done
    exact .left _ _ (afterArgs_rank _ _ _)
  | describing names sending rest =>
    simp only [step, Prod.mk.injEq] at done
    rcases write_moved (Prod.ext done.1 rfl : _ = (Moved.to stage, _)) with rfl | ⟨error, rfl⟩
    · rcases describe_rank names rest with rank | ⟨same, fewer⟩
      · rw [rank]
        exact .left _ _ (by decide)
      · cases found : (describe names rest).rank with
        | mk part count =>
          rw [found] at same fewer
          simp only at same fewer
          subst same
          exact .right _ fewer
    · exact .left _ _ (by decide)
  | awaitingReady version =>
    obtain ⟨received, rfl⟩ := await_moved done
    exact .left _ _ (by decide)
  | finished outcome => simp [step] at done

def run {σ : Type} [Connection σ] (handshake : Handshake) (reader : FrameReader) (stream : σ) :
    Stage × FrameReader × σ :=
  match _step : handshake.step reader stream with
  | (.parked stage, reader, stream) => (stage, reader, stream)
  | (.to stage, reader, stream) => run { handshake with stage } reader stream
termination_by handshake.stage.rank
decreasing_by exact step_rank _step

end Handshake

end TunnelRelay.Guacd
