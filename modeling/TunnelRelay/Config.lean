import TunnelRelay.Address
import TunnelRelay.Guacd.Handshake

/-!
The configuration of a relay.

Every field has a default, and a configuration is valid if none of its fields rules out every
tunnel. The first field at fault is reported.
-/

namespace TunnelRelay

structure GuacdEndpoint where
  host : String := "localhost"
  port : Nat := 4822
  ssl : Bool := false
  caFile : Option String := none
  connectTimeoutSecs : Nat := 10
  deriving DecidableEq, Repr

structure RelayConfig where
  listen : SocketAddress := .v4 [0, 0, 0, 0] 8080
  guacd : GuacdEndpoint := {}
  /-- How long a tunnel of long-polling requests may be left alone. -/
  idleTimeoutSecs : Nat := 15
  /-- The size beyond which a WebSocket message is not made larger. -/
  bufferSize : Nat := 8192
  /-- What a request may connect to, by identifier. -/
  connections : List (String × Guacd.ConnectionSpec) := []
  deriving DecidableEq, Repr

inductive Invalid where
  | guacdPort
  | guacdHost
  | idleTimeout
  | bufferSize
  | protocol (identifier : String)
  deriving DecidableEq, Repr

def Invalid.message : Invalid → String
  | guacdPort => "Invalid guacd port 0"
  | guacdHost => "guacd host cannot be empty"
  | idleTimeout => "http_tunnel.idle_timeout_secs must be greater than 0"
  | bufferSize => "websocket.buffer_size must be greater than 0"
  | protocol identifier => "Protocol cannot be empty for connection '" ++ identifier ++ "'"

namespace RelayConfig

def fault? (config : RelayConfig) : Option Invalid :=
  if config.guacd.port = 0 then some .guacdPort
  else if config.guacd.host = "" then some .guacdHost
  else if config.idleTimeoutSecs = 0 then some .idleTimeout
  else if config.bufferSize = 0 then some .bufferSize
  else (config.connections.find? (·.2.protocol == "")).map (.protocol ·.1)

/-- The time to wait for a connection to guacd, in milliseconds. -/
def connectTimeout (config : RelayConfig) : Nat :=
  config.guacd.connectTimeoutSecs * 1000

/-- The time after which an unused tunnel is closed, in milliseconds. -/
def idleTimeout (config : RelayConfig) : Nat :=
  config.idleTimeoutSecs * 1000

end RelayConfig

end TunnelRelay
