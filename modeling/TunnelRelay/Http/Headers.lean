import TunnelRelay.Bytes
import TunnelRelay.Status

/-!
Headers of HTTP answers.

Names are in lower case. Setting a header replaces every header of that name.
-/

namespace TunnelRelay.Http

/-- A header map, in the order in which the names came first. -/
abbrev Headers := List (String × Bytes)

namespace Headers

def set (headers : Headers) (name : String) (value : Bytes) : Headers :=
  if headers.any (·.1 == name) then
    headers.map fun header => if header.1 = name then (name, value) else header
  else headers ++ [(name, value)]

def setText (headers : Headers) (name value : String) : Headers :=
  headers.set name (Bytes.ofText value)

def get? (headers : Headers) (name : String) : Option Bytes :=
  (headers.find? (·.1 == name)).map (·.2)

/-- A value as a text. Only visible ASCII characters, spaces and tabs make one. -/
def visibleText? (value : Bytes) : Option String :=
  if value.all fun byte => byte == 0x09 || 0x20 ≤ byte && byte ≤ 0x7e then Bytes.toText? value
  else none

/-- Control characters other than the tab cannot stand in a header. -/
def isValue (value : Bytes) : Bool :=
  value.all fun byte => byte == 0x09 || 0x20 ≤ byte && byte != 0x7f

/-- For answers to reads and writes. -/
def noCache (headers : Headers) : Headers :=
  headers.setText "cache-control" "no-cache"

/-- For the answer to a connect, which must never be used again. -/
def noStore (headers : Headers) : Headers :=
  ((headers.setText "cache-control" "no-store").setText "pragma" "no-cache").setText "expires" "0"

/-- What the browser is told when the message of a failure is not fit for it. -/
def internalServerError : String := "Internal server error."

def failure (headers : Headers) (status : Status) (message : String) : Headers :=
  let text := Bytes.ofText message
  let text := if isValue text then text else Bytes.ofText internalServerError
  ((headers.setText "guacamole-status-code" (toString status.guacamoleCode)).set
    "guacamole-error-message" text).noCache

end Headers

end TunnelRelay.Http
