/-!
Statuses of the Guacamole protocol.

A status carries three numbers: the HTTP status of a long-poll answer, the WebSocket close code,
and the numeric status the browser reads in `error` instructions and in close reasons.
-/

namespace TunnelRelay

/-- How an operation ended, or why it could not be done. -/
inductive Status where
  | success
  | unsupported
  | serverError
  | serverBusy
  | upstreamTimeout
  | upstreamError
  | resourceNotFound
  | resourceConflict
  | resourceClosed
  | upstreamNotFound
  | upstreamUnavailable
  | sessionConflict
  | sessionTimeout
  | sessionClosed
  | clientBadRequest
  | clientUnauthorized
  | clientForbidden
  | clientTimeout
  | clientOverrun
  | clientBadType
  | clientTooMany
  deriving DecidableEq, Repr

namespace Status

/-- Every status, in the order of their numbers. -/
def all : List Status :=
  [success, unsupported, serverError, serverBusy, upstreamTimeout, upstreamError,
    resourceNotFound, resourceConflict, resourceClosed, upstreamNotFound, upstreamUnavailable,
    sessionConflict, sessionTimeout, sessionClosed, clientBadRequest, clientUnauthorized,
    clientForbidden, clientTimeout, clientOverrun, clientBadType, clientTooMany]

def httpCode : Status → Nat
  | success => 200
  | unsupported => 501
  | serverError => 500
  | serverBusy => 503
  | upstreamTimeout => 504
  | upstreamError | upstreamNotFound | upstreamUnavailable => 502
  | resourceNotFound | resourceClosed | sessionClosed => 404
  | resourceConflict | sessionConflict => 409
  | sessionTimeout | clientTimeout => 408
  | clientBadRequest => 400
  | clientUnauthorized | clientForbidden => 403
  | clientOverrun => 413
  | clientBadType => 415
  | clientTooMany => 429

/-- The number the browser reads in `error` instructions and close reasons. -/
def guacamoleCode : Status → Nat
  | success => 0x0000
  | unsupported => 0x0100
  | serverError => 0x0200
  | serverBusy => 0x0201
  | upstreamTimeout => 0x0202
  | upstreamError => 0x0203
  | resourceNotFound => 0x0204
  | resourceConflict => 0x0205
  | resourceClosed => 0x0206
  | upstreamNotFound => 0x0207
  | upstreamUnavailable => 0x0208
  | sessionConflict => 0x0209
  | sessionTimeout => 0x020A
  | sessionClosed => 0x020B
  | clientBadRequest => 0x0300
  | clientUnauthorized => 0x0301
  | clientForbidden => 0x0303
  | clientTimeout => 0x0308
  | clientOverrun => 0x030D
  | clientBadType => 0x030F
  | clientTooMany => 0x031D

/-- The WebSocket close code: a normal closure for success, else the Guacamole number moved into
the range that applications may use. -/
def websocketCode : Status → Nat
  | success => 1000
  | status => 4000 + status.guacamoleCode

def ofGuacamoleCode? (code : Nat) : Option Status :=
  all.find? fun status => status.guacamoleCode == code

/-- Numbers from `0x0300` on are the browser's own doing. -/
def isClientError (status : Status) : Bool :=
  0x0300 ≤ status.guacamoleCode && status.guacamoleCode < 0x0400

theorem ofGuacamoleCode?_guacamoleCode (status : Status) :
    ofGuacamoleCode? status.guacamoleCode = some status := by
  cases status <;> decide

end Status

end TunnelRelay
