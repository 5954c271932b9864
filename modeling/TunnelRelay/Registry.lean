import TunnelRelay.Metrics
import TunnelRelay.Outbox
import TunnelRelay.Token
import TunnelRelay.Tunnel

/-!
The tunnels that were opened over HTTP.

A tunnel is listed under its UUID until it is closed or has been idle for too long. Requests that
are under way may still work on a tunnel that is no longer listed, so a registered tunnel keeps
its number for good. Times are whole milliseconds.
-/

namespace TunnelRelay

/-- A tunnel and what the registry knows about it. -/
structure RegisteredTunnel (σ : Type) where
  tunnel : Tunnel σ
  /-- Must be presented with every read and every write. -/
  token : String
  registeredAt : Nat
  /-- When the tunnel was asked for last, counted from its registration. -/
  lastAccess : Nat := 0
  /-- The tunnel can be found under its UUID. -/
  listed : Bool := true
  outbox : Outbox := {}

namespace RegisteredTunnel

variable {σ : Type}

def touch (registered : RegisteredTunnel σ) (now : Nat) : RegisteredTunnel σ :=
  { registered with lastAccess := max registered.lastAccess (now - registered.registeredAt) }

def idleFor (registered : RegisteredTunnel σ) (now : Nat) : Nat :=
  now - registered.registeredAt - registered.lastAccess

def isListedAs (registered : RegisteredTunnel σ) (uuid : Uuid) : Bool :=
  registered.listed && registered.tunnel.uuid == uuid

def accepts (registered : RegisteredTunnel σ) (token : String) : Bool :=
  tokenMatches registered.token token

end RegisteredTunnel

/-- Every tunnel that was registered, by number, and the counters of the relay. -/
structure Registry (σ : Type) where
  /-- How long a tunnel may be idle. -/
  idleTimeout : Nat
  now : Nat := 0
  tunnels : List (RegisteredTunnel σ) := []
  metrics : Metrics := {}

namespace Registry

variable {σ : Type} [Connection σ]

def advance (registry : Registry σ) (duration : Nat) : Registry σ :=
  { registry with now := registry.now + duration }

def count (registry : Registry σ) (change : Metrics → Metrics) : Registry σ :=
  { registry with metrics := change registry.metrics }

def tunnel? (registry : Registry σ) (number : Nat) : Option (RegisteredTunnel σ) :=
  registry.tunnels[number]?

def update (registry : Registry σ) (number : Nat)
    (change : RegisteredTunnel σ → RegisteredTunnel σ) : Registry σ :=
  { registry with tunnels := registry.tunnels.modify number change }

def onTunnel (registry : Registry σ) (number : Nat) (change : Tunnel σ → Tunnel σ) : Registry σ :=
  registry.update number fun registered => { registered with tunnel := change registered.tunnel }

def onOutbox (registry : Registry σ) (number : Nat) (change : Outbox → Outbox) : Registry σ :=
  registry.update number fun registered => { registered with outbox := change registered.outbox }

def find? (registry : Registry σ) (uuid : Uuid) : Option Nat :=
  registry.tunnels.findIdx? (·.isListedAs uuid)

/-- Lists a tunnel, in the place of any other one with its UUID. -/
def put (registry : Registry σ) (tunnel : Tunnel σ) (token : String) : Registry σ :=
  let others := registry.tunnels.map fun registered =>
    if registered.isListedAs tunnel.uuid then { registered with listed := false } else registered
  { registry with tunnels := others ++ [{ tunnel, token, registeredAt := registry.now }] }

def get (registry : Registry σ) (uuid : Uuid) : Option Nat × Registry σ :=
  match registry.find? uuid with
  | none => (none, registry)
  | some number => (some number, registry.update number (·.touch registry.now))

/-- Removes a tunnel and closes it. Only the first call for a tunnel finds it. -/
def close (registry : Registry σ) (uuid : Uuid) (status : Status) : Bool × Registry σ :=
  match registry.find? uuid with
  | none => (false, registry)
  | some number =>
    -- requests under way keep the number, and find the tunnel closed
    let registry := registry.update number fun registered =>
      { registered with listed := false, tunnel := registered.tunnel.close }
    (true, registry.count (·.tunnelClosed status))

def size (registry : Registry σ) : Nat :=
  registry.tunnels.countP (·.listed)

def idle (registry : Registry σ) : List Uuid :=
  (registry.tunnels.filter fun registered =>
    registered.listed && registry.idleTimeout ≤ registered.idleFor registry.now).map
      (·.tunnel.uuid)

/-- Closes the tunnels that have been idle for too long, and counts them. Which ones these are is
settled before the first is closed; nothing else happens in between. -/
def closeIdle (registry : Registry σ) : Nat × Registry σ :=
  registry.idle.foldl (fun (closed, registry) uuid =>
    match registry.close uuid .sessionTimeout with
    | (true, registry) => (closed + 1, registry)
    | (false, registry) => (closed, registry)) (0, registry)

end Registry

end TunnelRelay
