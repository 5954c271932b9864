import TunnelRelay.Status

/-!
What can go wrong while relaying.

An `IoFault` is a failure of a byte stream, a `Malformed` says why bytes are no instruction, and a
`RelayError` is what the relay makes of either, or of a refusal. `RelayError.message` is its text
in logs and answers, `RelayError.status` the status the browser is told.
-/

namespace TunnelRelay

inductive IoKind where
  | notFound
  | permissionDenied
  | connectionRefused
  | connectionReset
  | hostUnreachable
  | networkUnreachable
  | connectionAborted
  | notConnected
  | addrInUse
  | addrNotAvailable
  | brokenPipe
  | alreadyExists
  | wouldBlock
  | invalidInput
  | invalidData
  | timedOut
  | writeZero
  | interrupted
  | unsupported
  | unexpectedEof
  | outOfMemory
  | other
  deriving DecidableEq, Repr

def IoKind.all : List IoKind :=
  [notFound, permissionDenied, connectionRefused, connectionReset, hostUnreachable,
    networkUnreachable, connectionAborted, notConnected, addrInUse, addrNotAvailable, brokenPipe,
    alreadyExists, wouldBlock, invalidInput, invalidData, timedOut, writeZero, interrupted,
    unsupported, unexpectedEof, outOfMemory, other]

def IoKind.text : IoKind → String
  | notFound => "entity not found"
  | permissionDenied => "permission denied"
  | connectionRefused => "connection refused"
  | connectionReset => "connection reset"
  | hostUnreachable => "host unreachable"
  | networkUnreachable => "network unreachable"
  | connectionAborted => "connection aborted"
  | notConnected => "not connected"
  | addrInUse => "address in use"
  | addrNotAvailable => "address not available"
  | brokenPipe => "broken pipe"
  | alreadyExists => "entity already exists"
  | wouldBlock => "operation would block"
  | invalidInput => "invalid input parameter"
  | invalidData => "invalid data"
  | timedOut => "timed out"
  | writeZero => "write zero"
  | interrupted => "operation interrupted"
  | unsupported => "unsupported"
  | unexpectedEof => "unexpected end of file"
  | outOfMemory => "out of memory"
  | other => "other error"

structure IoFault where
  kind : IoKind
  /-- What the stream says about it, if anything. -/
  detail : Option String := none
  deriving DecidableEq, Repr

def IoFault.message (fault : IoFault) : String :=
  fault.detail.getD fault.kind.text

/-- A write to a stream that takes no more bytes and reports no failure. -/
def IoFault.wroteNothing : IoFault :=
  ⟨.writeZero, none⟩

/-- Why bytes are not an instruction. -/
inductive Malformed where
  | tooManyElements
  | elementTooLong
  | lengthTooLong
  | lengthMissing
  | lengthNotNumeric
  | elementNotText
  | badTerminator
  | instructionNotText
  | noElements
  | streamEnded
  deriving DecidableEq, Repr

def Malformed.message : Malformed → String
  | tooManyElements => "Instruction contains too many elements."
  | elementTooLong => "Instruction exceeds maximum length."
  | lengthTooLong => "Element length is too long."
  | lengthMissing => "Element length is missing."
  | lengthNotNumeric => "Non-numeric character in element length."
  | elementNotText => "Element is not valid UTF-8."
  | badTerminator => "Element terminator of instruction was not ';' nor ','"
  | instructionNotText => "Instruction is not valid UTF-8."
  | noElements => "Instruction has no elements."
  | streamEnded => "Stream ended in the middle of an instruction."

inductive RelayError where
  /-- Bytes that are no instruction; the connection cannot go on. -/
  | malformed (cause : Malformed)
  /-- The connection was closed, as every connection is in the end. -/
  | connectionClosed (reason : String)
  | client (status : Status) (reason : String)
  | notFound (reason : String)
  | server (reason : String)
  | upstream (status : Status) (reason : String)
  | io (fault : IoFault)
  deriving DecidableEq, Repr

namespace RelayError

def message : RelayError → String
  | malformed cause => "Protocol error: " ++ cause.message
  | connectionClosed reason => "Connection closed: " ++ reason
  | client _ reason => reason
  | notFound reason => "Not found: " ++ reason
  | server reason => "Server error: " ++ reason
  | upstream _ reason => "Upstream error: " ++ reason
  | io fault => "IO error: " ++ fault.message

def status : RelayError → Status
  | malformed _ | server _ | io _ => .serverError
  | connectionClosed _ => .resourceClosed
  | notFound _ => .resourceNotFound
  | client status _ | upstream status _ => status

def isConnectionClosed : RelayError → Bool
  | connectionClosed _ => true
  | _ => false

def isClientError (error : RelayError) : Bool :=
  error.status.isClientError

def badRequest (reason : String) : RelayError :=
  client .clientBadRequest reason

/-- What a failure of the stream to guacd means: the connection timed out, or is gone, or failed
in a way that says nothing about it. -/
def ofSocket (fault : IoFault) : RelayError :=
  match fault.kind with
  | .timedOut | .wouldBlock => upstream .upstreamTimeout "Connection to guacd timed out."
  | .connectionReset | .connectionAborted | .brokenPipe | .notConnected | .unexpectedEof =>
    connectionClosed ("Connection to guacd is closed: " ++ fault.message)
  | _ => io fault

end RelayError

def Status.toError (status : Status) (reason : String) : RelayError :=
  match status with
  | resourceNotFound => .notFound reason
  | resourceClosed => .connectionClosed reason
  | serverError | success => .server reason
  | _ => if status.isClientError then .client status reason else .upstream status reason

end TunnelRelay
