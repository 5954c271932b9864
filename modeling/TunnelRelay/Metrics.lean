import TunnelRelay.Status

/-!
Counters of the relay, and their text form for Prometheus.

The counters are 64-bit words and wrap around.
-/

namespace TunnelRelay

/-- Both directions of relayed traffic. -/
structure Traffic where
  instructions : UInt64 := 0
  bytes : UInt64 := 0
  deriving DecidableEq, Repr

def Traffic.add (traffic : Traffic) (instructions bytes : UInt64) : Traffic :=
  ⟨traffic.instructions + instructions, traffic.bytes + bytes⟩

/-- The class of the status a tunnel ended with. -/
inductive ClosedAs where
  | normal
  | clientError
  | error
  deriving DecidableEq, Repr

/-- A tunnel that ends by itself ends normally. -/
def ClosedAs.ofStatus : Status → ClosedAs
  | .success | .resourceClosed => normal
  | status => if status.isClientError then clientError else error

/-- Counters of the whole relay. -/
structure Metrics where
  /-- Tunnels that are open now. -/
  active : UInt64 := 0
  opened : UInt64 := 0
  closedNormal : UInt64 := 0
  closedClientError : UInt64 := 0
  closedError : UInt64 := 0
  /-- From browsers to guacd. -/
  toServer : Traffic := {}
  /-- From guacd to browsers. -/
  toClient : Traffic := {}
  pings : UInt64 := 0
  deriving DecidableEq, Repr

namespace Metrics

def tunnelOpened (metrics : Metrics) : Metrics :=
  { metrics with opened := metrics.opened + 1, active := metrics.active + 1 }

def tunnelClosed (metrics : Metrics) (status : Status) : Metrics :=
  let metrics := { metrics with active := metrics.active - 1 }
  match ClosedAs.ofStatus status with
  | .normal => { metrics with closedNormal := metrics.closedNormal + 1 }
  | .clientError => { metrics with closedClientError := metrics.closedClientError + 1 }
  | .error => { metrics with closedError := metrics.closedError + 1 }

def sentToClient (metrics : Metrics) (instructions bytes : UInt64) : Metrics :=
  { metrics with toClient := metrics.toClient.add instructions bytes }

def sentToServer (metrics : Metrics) (instructions bytes : UInt64) : Metrics :=
  { metrics with toServer := metrics.toServer.add instructions bytes }

def pingsAnswered (metrics : Metrics) (count : UInt64) : Metrics :=
  { metrics with pings := metrics.pings + count }

/-- A sample: the label pair, if there is one, and the value. -/
structure Sample where
  label : Option (String × String) := none
  value : UInt64

/-- The samples of one metric, with its description. -/
structure Family where
  name : String
  help : String
  kind : String
  samples : List Sample

/-- Every metric, in the order of the text form. -/
def families (metrics : Metrics) : List Family :=
  [⟨"active_tunnels", "Number of open tunnels", "gauge", [{ value := metrics.active }]⟩,
    ⟨"tunnels_opened_total", "Tunnels opened since start", "counter",
      [{ value := metrics.opened }]⟩,
    ⟨"tunnels_closed_total", "Tunnels closed, by status class", "counter",
      [⟨some ("status", "normal"), metrics.closedNormal⟩,
        ⟨some ("status", "client_error"), metrics.closedClientError⟩,
        ⟨some ("status", "error"), metrics.closedError⟩]⟩,
    ⟨"instructions_total", "Instructions relayed", "counter",
      [⟨some ("direction", "in"), metrics.toServer.instructions⟩,
        ⟨some ("direction", "out"), metrics.toClient.instructions⟩]⟩,
    ⟨"bytes_total", "Instruction bytes relayed", "counter",
      [⟨some ("direction", "in"), metrics.toServer.bytes⟩,
        ⟨some ("direction", "out"), metrics.toClient.bytes⟩]⟩,
    ⟨"pings_total", "Tunnel pings answered", "counter", [{ value := metrics.pings }]⟩]

def namespacePrefix : String := "guactunnel_"

def Sample.key (sample : Sample) (name : String) : String :=
  match sample.label with
  | none => name
  | some (label, value) => name ++ "\x7b" ++ label ++ "=\"" ++ value ++ "\"\x7d"

def Sample.line (sample : Sample) (name : String) : String :=
  namespacePrefix ++ sample.key name ++ " " ++ toString sample.value.toNat ++ "\n"

def Family.text (family : Family) : String :=
  "# HELP " ++ namespacePrefix ++ family.name ++ " " ++ family.help ++ "\n"
    ++ "# TYPE " ++ namespacePrefix ++ family.name ++ " " ++ family.kind ++ "\n"
    ++ String.join (family.samples.map (·.line family.name))

/-- The text form: the metrics one below the other, with empty lines between them. -/
def prometheus (metrics : Metrics) : String :=
  "\n".intercalate (metrics.families.map Family.text)

def samples (metrics : Metrics) : List (String × Nat) :=
  metrics.families.flatMap fun family =>
    family.samples.map fun sample => (sample.key family.name, sample.value.toNat)

end Metrics

end TunnelRelay
