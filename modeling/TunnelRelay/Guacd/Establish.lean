import TunnelRelay.Guacd.Handshake
import TunnelRelay.Tunnel

/-!
From a fresh connection to a tunnel.

The handshake runs over the connection; the tunnel then keeps the connection and the reader, with
whatever guacd has sent behind the handshake. A connection that is no use is dropped.
-/

namespace TunnelRelay.Guacd

inductive Established (σ : Type) where
  | opened (tunnel : Tunnel σ)
  | failed (error : RelayError) (stream : σ)
  /-- guacd has not sent, or not read, enough. -/
  | unfinished (stream : σ)

def establish {σ : Type} [Connection σ] (uuid : Uuid) (spec : ConnectionSpec) (info : ClientInfo)
    (stream : σ) : Established σ :=
  let backend : Backend σ := { stream }
  match (Handshake.start spec info).run .ofGuacd backend with
  | (.finished (.ok agreement), reader, backend) =>
    .opened { uuid, connectionId := some agreement.connectionId, backend, reader }
  | (.finished (.error error), _, backend) => .failed error backend.release.2.stream
  | (_, _, backend) => .unfinished backend.release.2.stream

end TunnelRelay.Guacd
