import TunnelRelay.Http.Headers
import TunnelRelay.Text

/-!
HTTP requests, without their bodies.
-/

namespace TunnelRelay.Http

structure Request where
  method : String := "GET"
  /-- Path and query, as in the request line. -/
  target : String
  headers : Headers := []
  deriving DecidableEq, Repr

namespace Request

def resource (request : Request) : List Char :=
  request.target.toList.takeWhile (· != '#')

def path (request : Request) : String :=
  String.ofList (request.resource.takeWhile (· != '?'))

/-- What stands behind the first question mark, if anything. -/
def query (request : Request) : String :=
  String.ofList ((request.resource.dropWhile (· != '?')).drop 1)

/-- The first value of a header; the case of its name does not matter. -/
def header? (request : Request) (name : String) : Option Bytes :=
  (request.headers.find? fun header =>
    String.ofList (Text.lower header.1.toList) == name).map (·.2)

/-- The first value of a header as a text. A value that is none counts as absent. -/
def headerText? (request : Request) (name : String) : Option String :=
  (request.header? name).bind Headers.visibleText?

end Request

end TunnelRelay.Http
