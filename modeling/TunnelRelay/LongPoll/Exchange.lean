import TunnelRelay.Http.Form
import TunnelRelay.Http.Request
import TunnelRelay.LongPoll.Command
import TunnelRelay.LongPoll.Read
import TunnelRelay.LongPoll.Write

/-!
One HTTP request and the answer to it.

An exchange collects a form, reads from a tunnel, or writes to one, until it is answered. Its body
arrives in pieces while it is under way.
-/

namespace TunnelRelay.LongPoll

open Http

inductive Activity where
  | collecting (form : Bytes)
  | connecting (parameters : List (String × String))
  | reading (read : Read)
  | writing (write : Write)
  | answered

structure Exchange where
  activity : Activity
  /-- What has arrived of the body and is not consumed. -/
  body : List BodyEvent := []
  answer : Answer := {}

namespace Exchange

def formLimit : Nat := 2 * 1024 * 1024

def formMediaType : String := "application/x-www-form-urlencoded"

def notAForm : RelayError :=
  .badRequest ("Form requests must have `Content-Type: " ++ formMediaType ++ "`")

def unreadableForm (reason : String) : RelayError :=
  .badRequest ("Failed to buffer the request body: " ++ reason)

def hasForm (request : Request) : Bool :=
  match request.headerText? "content-type" with
  | none => false
  | some text => (Text.after? formMediaType.toList text.toList).isSome

def answerWith (exchange : Exchange) (answer : Answer) : Exchange :=
  { exchange with activity := .answered, answer }

def refuse (exchange : Exchange) (error : RelayError) : Exchange :=
  exchange.answerWith (exchange.answer.failure error)

/-- Begins a connect request. The parameters of a GET stand in its query. -/
def startConnect (exchange : Exchange) (request : Request) : Exchange :=
  if request.method = "GET" then
    { exchange with activity := .connecting (Form.pairs (Bytes.ofText request.query)) }
  else if hasForm request then { exchange with activity := .collecting [] }
  else exchange.refuse notAForm

def collect (exchange : Exchange) (form : Bytes) : Pace × Exchange :=
  match exchange.body with
  | [] => (.parked, exchange)
  | .failed reason :: body => (.ended, { exchange with body }.refuse (unreadableForm reason))
  | .finished :: body =>
    (.goesOn, { exchange with body, activity := .connecting (Form.pairs form) })
  | .chunk data :: body =>
    if formLimit < form.length + data.length then
      (.ended, { exchange with body }.refuse (unreadableForm "length limit exceeded"))
    else (.goesOn, { exchange with body, activity := .collecting (form ++ data) })

def connected (exchange : Exchange) (uuid : Uuid) (token : String) : Exchange :=
  let headers := Headers.setText [] "guacamole-tunnel-token" token
  exchange.answerWith (exchange.answer.plain Status.success.httpCode headers.noStore uuid.text)

/-- No header can hold the token. This never happens to a token that `tokenOf` makes. -/
def unusableToken : RelayError :=
  .server "Unusable tunnel token: failed to parse header value"

variable {σ : Type} [Connection σ]

/-- Ends a connect request: lists the new tunnel and tells the browser its UUID and its token. A
tunnel whose token cannot be told is closed again. -/
def enter (exchange : Exchange) (tunnel : Tunnel σ) (token : String) (registry : Registry σ) :
    Exchange × Registry σ :=
  let registry := registry.put tunnel token
  if Headers.isValue (Bytes.ofText token) then (exchange.connected tunnel.uuid token, registry)
  else (exchange.refuse unusableToken, (registry.close tunnel.uuid .serverError).2)

theorem enter_answered (exchange : Exchange) (tunnel : Tunnel σ) (token : String)
    (registry : Registry σ) :
    (exchange.enter tunnel token registry).1.activity = .answered := by
  unfold enter
  simp only
  split <;> rfl

def start (exchange : Exchange) (ticket : Ticket) (request : Request) (registry : Registry σ) :
    Exchange × Registry σ :=
  match Command.parse request.query with
  | .error error => (exchange.refuse error, registry)
  | .ok .connect => (exchange.startConnect request, registry)
  | .ok (.read uuid) =>
    match lookUp registry uuid (request.headerText? "guacamole-tunnel-token") with
    | (.error error, registry) => (exchange.refuse error, registry)
    | (.ok number, registry) =>
      let encoding := ContentEncoding.negotiate (request.headerText? "accept-encoding")
      let (read, registry) := Read.start ticket number encoding registry
      ({ exchange with activity := .reading read }, registry)
  | .ok (.write uuid) =>
    match lookUp registry uuid (request.headerText? "guacamole-tunnel-token") with
    | (.error error, registry) => (exchange.refuse error, registry)
    | (.ok number, registry) =>
      match Write.start ticket number registry with
      | .ok (write, registry) => ({ exchange with activity := .writing write }, registry)
      | .error error =>
        let write : Write := { ticket, tunnel := number }
        let (_, _, answer, registry) := write.fail uuid error exchange.answer registry
        (exchange.answerWith answer, registry)

def step (exchange : Exchange) (registry : Registry σ) : Pace × Exchange × Registry σ :=
  match exchange.activity with
  | .collecting form =>
    let (pace, exchange) := exchange.collect form
    (pace, exchange, registry)
  | .reading read =>
    match read.step exchange.answer registry with
    | (.ended, _, answer, registry) => (.ended, exchange.answerWith answer, registry)
    | (pace, read, answer, registry) =>
      (pace, { exchange with activity := .reading read, answer }, registry)
  | .writing write =>
    match write.step exchange.body exchange.answer registry with
    | ((.ended, _, answer, registry), body) =>
      (.ended, { exchange with body }.answerWith answer, registry)
    | ((pace, write, answer, registry), body) =>
      (pace, { exchange with activity := .writing write, body, answer }, registry)
  | .connecting _ | .answered => (.ended, exchange, registry)

/-- The browser goes away, and the exchange with it. Only a read whose answer has begun goes on: it
finds out when it next gives a piece that nobody takes it. -/
def abandon (exchange : Exchange) (registry : Registry σ) : Exchange × Registry σ :=
  let ended := { exchange with activity := .answered }
  match exchange.activity with
  | .reading read =>
    if read.begun then ({ exchange with answer.wanted := false }, registry)
    else (ended, read.abandon registry)
  | .writing write => (ended, write.abandon registry)
  | _ => (ended, registry)

def isAnswered (exchange : Exchange) : Bool :=
  match exchange.activity with
  | .answered => true
  | _ => false

def isRead (exchange : Exchange) : Bool :=
  match exchange.activity with
  | .reading _ => true
  | _ => false

def backlog (exchange : Exchange) : Nat :=
  match exchange.activity with
  | .writing write => write.backlog exchange.body
  | _ => 0

end Exchange

end TunnelRelay.LongPoll
