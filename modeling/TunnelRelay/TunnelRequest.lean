import TunnelRelay.Bytes
import TunnelRelay.Error

/-!
What a browser asks for when it opens a tunnel.

A request is a list of named parameters. Names may repeat: a single value is the first one, a list
of values is all of them in order.
-/

namespace TunnelRelay

structure ClientInfo where
  width : Nat := 1024
  height : Nat := 768
  dpi : Nat := 96
  audio : List String := []
  video : List String := []
  image : List String := []
  timezone : Option String := none
  deriving DecidableEq, Repr

inductive TunnelType where
  | connection
  deriving DecidableEq, Repr

def TunnelType.parse? (text : String) : Option TunnelType :=
  if text = "c" then some connection else none

/-- The parameters of a request, in the order of the browser. -/
structure TunnelRequest where
  parameters : List (String × String)
  deriving DecidableEq, Repr

namespace TunnelRequest

def integerLimit : Nat := UInt32.size - 1

def parameter? (request : TunnelRequest) (name : String) : Option String :=
  (request.parameters.find? (·.1 == name)).map (·.2)

def parameterValues (request : TunnelRequest) (name : String) : List String :=
  (request.parameters.filter (·.1 == name)).map (·.2)

def required (request : TunnelRequest) (name : String) : Except RelayError String :=
  match request.parameter? name with
  | some value => .ok value
  | none => .error (.badRequest ("Parameter \"" ++ name ++ "\" is required."))

/-- The first value of a parameter as an integer; `none` if the parameter is absent. -/
def integer (request : TunnelRequest) (name : String) : Except RelayError (Option Nat) :=
  match request.parameter? name with
  | none => .ok none
  | some value =>
    match parseUnsigned? integerLimit value with
    | some number => .ok (some number)
    | none => .error (.badRequest ("Parameter \"" ++ name ++ "\" must be a valid integer."))

def tunnelType (request : TunnelRequest) : Except RelayError TunnelType := do
  match TunnelType.parse? (← request.required "GUAC_TYPE") with
  | some tunnelType => .ok tunnelType
  | none => .error (.badRequest "Illegal identifier - unknown type.")

def identifier (request : TunnelRequest) : Except RelayError String :=
  request.required "GUAC_ID"

def width (request : TunnelRequest) : Except RelayError (Option Nat) :=
  request.integer "GUAC_WIDTH"

def height (request : TunnelRequest) : Except RelayError (Option Nat) :=
  request.integer "GUAC_HEIGHT"

def dpi (request : TunnelRequest) : Except RelayError (Option Nat) :=
  request.integer "GUAC_DPI"

def audio (request : TunnelRequest) : List String :=
  request.parameterValues "GUAC_AUDIO"

def video (request : TunnelRequest) : List String :=
  request.parameterValues "GUAC_VIDEO"

def image (request : TunnelRequest) : List String :=
  request.parameterValues "GUAC_IMAGE"

def timezone? (request : TunnelRequest) : Option String :=
  request.parameter? "GUAC_TIMEZONE"

/-- Everything the handshake needs to know; what is absent keeps its default. -/
def clientInfo (request : TunnelRequest) : Except RelayError ClientInfo := do
  let standard : ClientInfo := {}
  let width ← request.width
  let height ← request.height
  let dpi ← request.dpi
  return {
    width := width.getD standard.width
    height := height.getD standard.height
    dpi := dpi.getD standard.dpi
    audio := request.audio
    video := request.video
    image := request.image
    timezone := request.timezone? }

end TunnelRequest

end TunnelRelay
