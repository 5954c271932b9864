import TunnelRelay.Error
import TunnelRelay.Http.Headers

/-!
Answers to HTTP requests.

An answer begins with a head and goes on with the pieces of a body, until it is complete. A
browser that has gone away gets nothing more.
-/

namespace TunnelRelay.Http

structure Head where
  status : Nat
  headers : Headers
  deriving DecidableEq, Repr

structure Answer where
  head : Option Head := none
  pieces : List Bytes := []
  complete : Bool := false
  /-- The browser is still there to take the body. -/
  wanted : Bool := true
  deriving DecidableEq, Repr

namespace Answer

def start (answer : Answer) (status : Status) (headers : Headers) : Answer :=
  { answer with head := some ⟨status.httpCode, headers⟩ }

/-- Gives one piece of the body; the flag tells whether anybody took it. -/
def give (answer : Answer) (piece : Bytes) : Bool × Answer :=
  if answer.wanted then (true, { answer with pieces := answer.pieces ++ [piece] })
  else (false, answer)

def finish (answer : Answer) : Answer :=
  { answer with complete := true }

/-- The whole answer at once. An empty body has no pieces. -/
def whole (answer : Answer) (code : Nat) (headers : Headers) (body : Bytes) : Answer :=
  let answer := { answer with head := some ⟨code, headers⟩ }
  (if body.isEmpty then answer else (answer.give body).2).finish

def plain (answer : Answer) (code : Nat) (headers : Headers) (text : String) : Answer :=
  answer.whole code (headers.setText "content-type" "text/plain; charset=utf-8")
    (Bytes.ofText text)

/-- The message of an error that is fit for the browser. What went wrong inside the relay is
nothing for it. -/
def publicMessage (error : RelayError) : String :=
  match error with
  | .client _ _ | .notFound _ | .connectionClosed _ | .upstream _ _ => error.message
  | .malformed _ | .server _ | .io _ => Headers.internalServerError

/-- The answer to a request that failed before anything was given. -/
def failure (answer : Answer) (error : RelayError) : Answer :=
  let message := publicMessage error
  answer.plain error.status.httpCode (Headers.failure [] error.status message) message

end Answer

end TunnelRelay.Http
