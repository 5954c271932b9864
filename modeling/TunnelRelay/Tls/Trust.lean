import TunnelRelay.Error
import TunnelRelay.Tls.Certificate
import TunnelRelay.Tls.Pem

/-!
Whom to trust when guacd is reached over TLS: the roots that everybody knows, or those in a file.
-/

namespace TunnelRelay.Tls

inductive Trust where
  | publicRoots
  | anchors (anchors : List TrustAnchor)
  deriving DecidableEq, Repr

inductive TrustError where
  | unreadable (path : String) (fault : IoFault)
  | unparsable (cause : PemError)
  | noCertificates (path : String)
  | badCertificate (path : String)
  deriving DecidableEq, Repr

def TrustError.chain : TrustError → List String
  | unreadable path fault => ["Failed to open CA file: " ++ path, fault.message]
  | unparsable cause => ["Failed to parse PEM certificates", cause.message]
  | noCertificates path => ["No certificates found in " ++ path]
  | badCertificate path =>
    ["Invalid CA certificate in " ++ path, "invalid peer certificate: BadEncoding"]

def Trust.ofFile (path : String) (content : Except IoFault Bytes) : Except TrustError Trust := do
  let file ← content.mapError (.unreadable path)
  let found ← (certificates file).mapError .unparsable
  if found.isEmpty then throw (.noCertificates path)
  match found.mapM TrustAnchor.ofCertificate? with
  | some roots => return .anchors roots
  | none => throw (.badCertificate path)

end TunnelRelay.Tls
