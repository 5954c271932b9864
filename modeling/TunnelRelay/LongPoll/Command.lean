import TunnelRelay.Error
import TunnelRelay.Registry
import TunnelRelay.Text

/-!
What a browser asks of the long-poll transport.

The query string says it: `connect`, `read:` and a UUID, or `write:` and a UUID. Anything behind a
second colon only keeps caches away. A read or a write must show the token of its tunnel.
-/

namespace TunnelRelay.LongPoll

inductive Command where
  | connect
  | read (uuid : Uuid)
  | write (uuid : Uuid)
  deriving DecidableEq, Repr

def noSuchTunnel : RelayError := .notFound "No such tunnel."

def tunnelClosed : RelayError := .notFound "Tunnel is closed."

def tokenRequired : RelayError :=
  .badRequest "The HTTP tunnel session token is required for all requests after connecting."

def invalidToken : RelayError := .badRequest "Invalid HTTP tunnel session token."

def invalidOperation : RelayError := .badRequest "Invalid tunnel operation."

def Command.parse (query : String) : Except RelayError Command :=
  if query = "connect" then .ok connect
  else
    let parts := Text.splitOn ':' query.toList
    let uuid := parts[1]?.bind fun part => Uuid.parse? (String.ofList part)
    match String.ofList (parts.headD []), uuid with
    | "read", some uuid => .ok (read uuid)
    | "write", some uuid => .ok (write uuid)
    | "read", none | "write", none => .error noSuchTunnel
    | _, _ => .error invalidOperation

def lookUp {σ : Type} [Connection σ] (registry : Registry σ) (uuid : Uuid)
    (token : Option String) : Except RelayError Nat × Registry σ :=
  let (found, registry) := registry.get uuid
  let checked := do
    let number ← found.elim (.error noSuchTunnel) .ok
    let registered ← (registry.tunnel? number).elim (.error noSuchTunnel) .ok
    if registered.tunnel.isOpen then
      let token ← token.elim (.error tokenRequired) .ok
      if registered.accepts token then .ok number else .error invalidToken
    else .error tunnelClosed
  (checked, registry)

end TunnelRelay.LongPoll
