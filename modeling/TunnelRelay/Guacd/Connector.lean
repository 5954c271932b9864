import TunnelRelay.Config
import TunnelRelay.Guacd.Establish
import TunnelRelay.Tls.Trust

/-!
Connecting configured connections through guacd.

A request is checked completely before guacd is contacted. What it names decides the protocol and
the parameters; the request itself only describes the browser.
-/

namespace TunnelRelay.Guacd

/-- How to reach guacd, and what requests may ask it for. -/
structure Connector where
  host : String
  port : Nat
  /-- Whom to trust, if TLS is used. -/
  trust : Option Tls.Trust
  connections : List (String × ConnectionSpec)
  deriving DecidableEq, Repr

/-- Why guacd is not reached. Left out are an option of the socket that cannot be set once the
connection is there, and a host whose name no TLS certificate can have. -/
inductive DialFailure where
  | timedOut
  | failed (fault : IoFault)
  /-- guacd answered, but not in TLS that can be trusted. -/
  | untrusted (reason : String)
  deriving DecidableEq, Repr

def DialFailure.error (address : String) : DialFailure → RelayError
  | timedOut => Status.upstreamTimeout.toError ("Timeout connecting to guacd at " ++ address)
  | failed fault =>
    if fault.kind = .connectionRefused then
      Status.upstreamNotFound.toError ("guacd is not listening at " ++ address)
    else
      Status.upstreamError.toError
        ("Failed to connect to guacd at " ++ address ++ ": " ++ fault.message)
  | untrusted reason =>
    Status.upstreamError.toError ("TLS handshake with guacd failed: " ++ reason)

inductive Connected (σ : Type) where
  | refused (error : RelayError)
  | unreached (error : RelayError)
  | reached (established : Established σ)

namespace Connector

/-- The connector of a configuration; `roots` are those of the configured file. -/
def ofConfig (config : RelayConfig)
    (roots : (path : String) → Except Tls.TrustError Tls.Trust) :
    Except Tls.TrustError Connector := do
  let { host, port, ssl, caFile, .. } := config.guacd
  let trust ←
    if ssl then some <$> (caFile.elim (.ok .publicRoots) roots)
    else .ok none
  return { host, port, trust, connections := config.connections }

def address (connector : Connector) : String :=
  connector.host ++ ":" ++ toString connector.port

/-- What a request asks guacd for, if everything about it is right. -/
def plan (connector : Connector) (request : TunnelRequest) :
    Except RelayError (ConnectionSpec × ClientInfo) := do
  let .connection ← request.tunnelType
  let identifier ← request.identifier
  match connector.connections.lookup identifier with
  | none => .error (.notFound ("Connection \"" ++ identifier ++ "\" does not exist."))
  | some spec => return (spec, ← request.clientInfo)

/-- Opens the tunnel that a request asks for; `dial` is what comes of contacting an address. -/
def connect {σ : Type} [Connection σ] (connector : Connector)
    (dial : (address : String) → Except DialFailure σ) (uuid : Uuid) (request : TunnelRequest) :
    Connected σ :=
  match connector.plan request with
  | .error error => .refused error
  | .ok (spec, info) =>
    match dial connector.address with
    | .error failure => .unreached (failure.error connector.address)
    | .ok stream => .reached (establish uuid spec info stream)

end Connector

end TunnelRelay.Guacd
