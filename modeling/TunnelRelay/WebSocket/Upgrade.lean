import TunnelRelay.Http.Headers
import TunnelRelay.Text

/-!
Agreeing on a sub-protocol.

A browser lists the sub-protocols it speaks, in one header or in several. It has to speak
`guacamole`; the answer names the sub-protocol only if the first header lists it.
-/

namespace TunnelRelay.WebSocket

open Http

def subprotocol : String := "guacamole"

def missingSubprotocol : String := "WebSocket sub-protocol \"guacamole\" is required."

def lists (value : Bytes) : Bool :=
  match Headers.visibleText? value with
  | none => false
  | some text => (Text.splitOn ',' text.toList).any fun item => Text.trim item == subprotocol.toList

def isOffered (values : List Bytes) : Bool :=
  values.any lists

def chosen? (values : List Bytes) : Option String :=
  match values with
  | [] => none
  | first :: _ => if lists first then some subprotocol else none

end TunnelRelay.WebSocket
