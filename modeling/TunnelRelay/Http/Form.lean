import TunnelRelay.Text
import TunnelRelay.Text.Lossy

/-!
Form data: named values in a query string or in a body.

Pieces are separated by `&`, and a name ends at the first `=`. In both, `+` stands for a space and
`%` with two hexadecimal digits for a byte; any other `%` stands for itself.
-/

namespace TunnelRelay.Http.Form

def percentDecode : Bytes → Bytes
  | 0x25 :: high :: low :: rest =>
    match Bytes.hexByte? high low with
    | some byte => byte :: percentDecode rest
    | none => 0x25 :: percentDecode (high :: low :: rest)
  | byte :: rest => byte :: percentDecode rest
  | [] => []

def decode (piece : Bytes) : String :=
  Text.lossy (percentDecode (piece.map fun byte => if byte = 0x2b then 0x20 else byte))

/-- The name and the value of one piece. A piece without `=` is a name without a value. -/
def pair (piece : Bytes) : String × String :=
  (decode (piece.takeWhile (· != 0x3d)), decode ((piece.dropWhile (· != 0x3d)).drop 1))

def pairs (data : Bytes) : List (String × String) :=
  ((Text.splitOn 0x26 data).filter (!·.isEmpty)).map pair

end TunnelRelay.Http.Form
