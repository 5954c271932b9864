/-!
Versions of the Guacamole protocol that the handshake tells apart.
-/

namespace TunnelRelay

inductive ProtocolVersion where
  | v1_0_0
  | v1_1_0
  deriving DecidableEq, Repr

namespace ProtocolVersion

def latest : ProtocolVersion := v1_1_0

/-- Major, minor and patch number. -/
def triple : ProtocolVersion → Nat × Nat × Nat
  | v1_0_0 => (1, 0, 0)
  | v1_1_0 => (1, 1, 0)

def marker : String := "VERSION_"

/-- The version a text names. A text behind the marker that names no known version stands for the
oldest; a text without the marker is no version. -/
def parse? (text : String) : Option ProtocolVersion :=
  if marker.toList.isPrefixOf text.toList then
    some (if text = "VERSION_1_1_0" then v1_1_0 else v1_0_0)
  else none

/-- Versions are ordered by major, then minor, then patch number. -/
def atLeast (version other : ProtocolVersion) : Bool :=
  let (major, minor, patch) := version.triple
  let (major', minor', patch') := other.triple
  major' < major || major == major' && (minor' < minor || minor == minor' && patch' ≤ patch)

def min (version other : ProtocolVersion) : ProtocolVersion :=
  if version.atLeast other then other else version

/-- The browser's time zone may be sent during the handshake. -/
def supportsTimezone (version : ProtocolVersion) : Bool :=
  version.atLeast v1_1_0

def text (version : ProtocolVersion) : String :=
  let (major, minor, patch) := version.triple
  marker ++ "_".intercalate ([major, minor, patch].map toString)

end ProtocolVersion

end TunnelRelay
