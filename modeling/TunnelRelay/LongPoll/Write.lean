import TunnelRelay.Frame.FilteredWriter
import TunnelRelay.Http.Answer
import TunnelRelay.Pace
import TunnelRelay.Registry

/-!
Long-poll writes.

A write acquires the writer of its tunnel and forwards its body to guacd, piece by piece, behind
the filter that keeps the tunnel's own instructions away from guacd. The replies that the filter
owes wait in the tunnel's outbox for the next read.
-/

namespace TunnelRelay.LongPoll

open Http

/-- What arrives of the body of a request. -/
inductive BodyEvent where
  | chunk (data : Bytes)
  /-- The rest of the body cannot be read. -/
  | failed (reason : String)
  | finished
  deriving DecidableEq, Repr

inductive WriteStage where
  | acquiring
  | receiving
  /-- Sends what became of a piece of the body: how many instructions, of how many bytes. -/
  | sending (sending : Sending) (forwarded size : Nat)
  | finished
  deriving DecidableEq, Repr

structure Write where
  ticket : Ticket
  tunnel : Nat
  stage : WriteStage := .acquiring
  filtered : FilteredWriter (List Instruction) :=
    { filter := internalFilter, memory := [] }
  instructions : Nat := 0
  bytes : Nat := 0

namespace Write

variable {σ : Type} [Connection σ]

def unreadableBody (reason : String) : RelayError :=
  .badRequest ("Unable to read request body: " ++ reason)

/-- Gives the writer back and answers that the write failed. The browser's own mistakes leave the
tunnel open; anything else closes it. -/
def fail (write : Write) (uuid : Uuid) (error : RelayError) (answer : Answer)
    (registry : Registry σ) : Pace × Write × Answer × Registry σ :=
  let registry := registry.onTunnel write.tunnel (·.releaseWriter write.ticket)
  let registry :=
    if error.isClientError then registry else (registry.close uuid error.status).2
  (.ended, { write with stage := .finished }, answer.failure error, registry)

def headers : Headers :=
  (Headers.setText [] "content-type" "application/octet-stream").noCache

/-- Ends a write whose body has ended, which must not be inside an instruction. -/
def finish (write : Write) (uuid : Uuid) (answer : Answer) (registry : Registry σ) :
    Pace × Write × Answer × Registry σ :=
  match write.filtered.finish with
  | .error error => write.fail uuid error answer registry
  | .ok _ =>
    let registry := registry.count fun metrics =>
      metrics.sentToServer (UInt64.ofNat write.instructions) (UInt64.ofNat write.bytes)
    (.ended, { write with stage := .finished },
      answer.whole Status.success.httpCode headers [],
      registry.onTunnel write.tunnel (·.releaseWriter write.ticket))

/-- The write after a piece of the body has been forwarded. The replies that the filter owes go
into the outbox. -/
def forwarded (write : Write) (forwarded size : Nat) (answer : Answer) (registry : Registry σ) :
    Pace × Write × Answer × Registry σ :=
  let replies := write.filtered.memory
  let registry :=
    if replies.isEmpty then registry
    else (registry.count (·.pingsAnswered (UInt64.ofNat replies.length))).onOutbox write.tunnel
      (·.push replies)
  (.goesOn,
    { write with
      stage := .receiving
      filtered := { write.filtered with memory := [] }
      instructions := write.instructions + forwarded
      bytes := write.bytes + size },
    answer, registry)

def accept (write : Write) (uuid : Uuid) (data : Bytes) (answer : Answer)
    (registry : Registry σ) : Pace × Write × Answer × Registry σ :=
  match write.filtered.accept data with
  | (.error error, filtered) => { write with filtered }.fail uuid error answer registry
  | (.ok passed, filtered) =>
    let write := { write with filtered }
    match FilteredWriter.sending? passed with
    | none => write.forwarded passed.count data.length answer registry
    | some sending =>
      (.goesOn, { write with stage := .sending sending passed.count data.length }, answer,
        registry)

def step (write : Write) (body : List BodyEvent) (answer : Answer) (registry : Registry σ) :
    (Pace × Write × Answer × Registry σ) × List BodyEvent :=
  match registry.tunnel? write.tunnel with
  | none => ((.ended, write, answer, registry), body)
  | some registered =>
    let uuid := registered.tunnel.uuid
    let store (tunnel : Tunnel σ) := registry.onTunnel write.tunnel fun _ => tunnel
    match write.stage with
    | .acquiring =>
      match registered.tunnel.claimWriter write.ticket with
      | (.parked, _) => ((.parked, write, answer, registry), body)
      | (.ready (.error error), tunnel) => (write.fail uuid error answer (store tunnel), body)
      | (.ready (.ok ()), tunnel) =>
        ((.goesOn, { write with stage := .receiving }, answer, store tunnel), body)
    | .receiving =>
      match body with
      | [] => ((.parked, write, answer, registry), [])
      | .failed reason :: rest => (write.fail uuid (unreadableBody reason) answer registry, rest)
      | .finished :: rest => (write.finish uuid answer registry, rest)
      | .chunk data :: rest =>
        if registered.tunnel.isOpen then (write.accept uuid data answer registry, rest)
        else (write.finish uuid answer registry, rest)
    | .sending sending count size =>
      match registered.tunnel.send sending with
      | (.done, tunnel) => (write.forwarded count size answer (store tunnel), body)
      | (.failed error, tunnel) => (write.fail uuid error answer (store tunnel), body)
      | (.parked sending, tunnel) =>
        ((.parked, { write with stage := .sending sending count size }, answer, store tunnel), body)
    | .finished => ((.ended, write, answer, registry), body)

/-- Joins those who wait for the writer; a closed tunnel refuses at once. -/
def start (ticket : Ticket) (tunnel : Nat) (registry : Registry σ) :
    Except RelayError (Write × Registry σ) :=
  match registry.tunnel? tunnel with
  | none => .ok ({ ticket, tunnel }, registry)
  | some registered => do
    let joined ← registered.tunnel.requestWriter ticket
    return ({ ticket, tunnel }, registry.onTunnel tunnel fun _ => joined)

def abandon (write : Write) (registry : Registry σ) : Registry σ :=
  registry.onTunnel write.tunnel (·.releaseWriter write.ticket)

def backlog (write : Write) (body : List BodyEvent) : Nat :=
  let sending := match write.stage with
    | .sending sending _ _ => sending.backlog
    | _ => 0
  body.foldl (fun
    | backlog, .chunk data => backlog + data.length
    | backlog, _ => backlog) (sending + write.filtered.pending.length)

end Write

end TunnelRelay.LongPoll
