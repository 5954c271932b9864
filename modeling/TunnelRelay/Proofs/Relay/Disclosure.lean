import TunnelRelay.Guacd.Connector
import TunnelRelay.Proofs.Frame.RoundTrip
import TunnelRelay.Proofs.Guise.Runs

/-!
What the browsers learn of guacd's address.

Two relays have the same configuration, but for the place where guacd is. The same happens to both,
and contacting guacd comes to the same. They then answer every request alike, except one: a request
to connect that does not reach guacd is told where guacd should have been.
-/

namespace TunnelRelay

open Http LongPoll

/-! ### Addresses -/

theorem Bytes.behind_last {mark : UInt8} {before before' after after' : Bytes}
    (free : mark ∉ after) (free' : mark ∉ after')
    (same : before ++ mark :: after = before' ++ mark :: after') :
    before = before' ∧ after = after' := by
  rcases List.append_eq_append_iff.mp same with
    ⟨between, front, back⟩ | ⟨between, front, back⟩
  · cases between with
    | nil =>
        rw [List.append_nil] at front
        exact ⟨front.symm, (List.cons.inj back).2⟩
    | cons first between =>
        have split := (List.cons.inj back).2
        rw [split] at free
        exact absurd (List.mem_append_right _ List.mem_cons_self) free
  · cases between with
    | nil =>
        rw [List.append_nil] at front
        exact ⟨front, (List.cons.inj back).2.symm⟩
    | cons first between =>
        have split := (List.cons.inj back).2
        rw [split] at free'
        exact absurd (List.mem_append_right _ List.mem_cons_self) free'

namespace Guacd

/-- A host and a port can be read off an address: no port has a colon in it. -/
theorem Connector.address_injective {one other : Connector}
    (same : one.address = other.address) :
    one.host = other.host ∧ one.port = other.port := by
  have free : ∀ port : Nat, (0x3a : UInt8) ∉ Bytes.ofNat port := by
    intro port among
    have digit := (Bytes.ofNat_numeral port).1 _ among
    exact absurd digit.2 (by decide)
  have bytes : ∀ connector : Connector, Bytes.ofText connector.address =
      Bytes.ofText connector.host ++ 0x3a :: Bytes.ofNat connector.port := by
    intro connector
    rw [Connector.address, Bytes.ofText_append, Bytes.ofText_append,
      List.append_assoc]
    rfl
  have split := congrArg Bytes.ofText same
  rw [bytes, bytes] at split
  obtain ⟨host, port⟩ := Bytes.behind_last (free _) (free _) split
  exact ⟨Bytes.ofText_injective host, Bytes.ofNat_injective port⟩

theorem DialFailure.error_names {failure : DialFailure}
    (unsecured : ∀ reason, failure ≠ .untrusted reason) :
    ∃ status before behind, ∀ address, failure.error address =
      .upstream status (before ++ address ++ behind) := by
  cases failure with
  | timedOut =>
      refine ⟨.upstreamTimeout, "Timeout connecting to guacd at ", "", ?_⟩
      intro address
      rw [String.append_empty]
      rfl
  | failed fault =>
      by_cases refused : fault.kind = .connectionRefused
      · refine ⟨.upstreamNotFound, "guacd is not listening at ", "", ?_⟩
        intro address
        rw [String.append_empty, error, if_pos refused]
        rfl
      · refine ⟨.upstreamError, "Failed to connect to guacd at ",
          ": " ++ fault.message, ?_⟩
        intro address
        rw [error, if_neg refused, ← String.append_assoc]
        rfl
  | untrusted reason => exact absurd rfl (unsecured reason)

theorem DialFailure.error_status (failure : DialFailure)
    (address address' : String) :
    (failure.error address).status = (failure.error address').status := by
  cases failure with
  | timedOut | untrusted => rfl
  | failed fault =>
      simp only [error]
      split <;> rfl

end Guacd

/-! ### Answers to failures -/

namespace Http

/-- A message as it stands in a header, if it can stand there. -/
def Headers.shown (message : String) : Bytes :=
  if isValue (Bytes.ofText message) then Bytes.ofText message
  else Bytes.ofText internalServerError

theorem Headers.failure_eq (status : Status) (message : String) :
    Headers.failure [] status message =
      [("guacamole-status-code",
          Bytes.ofText (toString status.guacamoleCode)),
        ("guacamole-error-message", shown message),
        ("cache-control", Bytes.ofText "no-cache")] := rfl

namespace Answer

theorem failure_head (answer : Answer) (error : RelayError) :
    (answer.failure error).head = some ⟨error.status.httpCode,
      (Headers.failure [] error.status (publicMessage error)).setText
        "content-type" "text/plain; charset=utf-8"⟩ := by
  simp only [failure, plain, whole, finish, give]
  split
  · rfl
  · split <;> rfl

theorem failure_pieces {answer : Answer} (wanted : answer.wanted = true)
    {error : RelayError} (speaks : publicMessage error ≠ "") :
    (answer.failure error).pieces =
      answer.pieces ++ [Bytes.ofText (publicMessage error)] := by
  have some : (Bytes.ofText (publicMessage error)).isEmpty = false := by
    rw [Bool.eq_false_iff]
    intro empty
    rw [List.isEmpty_iff] at empty
    exact speaks (Bytes.ofText_injective empty)
  simp only [failure, plain, whole, finish, give, some, wanted]
  rfl

theorem failure_headers (answer : Answer) (status : Status) :
    ∃ front behind, ∀ error : RelayError, error.status = status →
      (answer.failure error).head = some ⟨status.httpCode,
        front ++ ("guacamole-error-message",
          Headers.shown (publicMessage error)) :: behind⟩ := by
  refine ⟨[("guacamole-status-code",
      Bytes.ofText (toString status.guacamoleCode))],
    [("cache-control", Bytes.ofText "no-cache"),
      ("content-type", Bytes.ofText "text/plain; charset=utf-8")], ?_⟩
  rintro error rfl
  rw [failure_head, Headers.failure_eq]
  rfl

end Answer

end Http

/-! ### Two relays -/

/-- Two exchanges are the same, or guacd was not reached in the same way for
both of them, at one address and at the other. -/
inductive LongPoll.Exchange.Alike (address address' : String) :
    (exchange exchange' : Exchange) → Prop
  | same (exchange : Exchange) : Alike address address' exchange exchange
  | unreached (body : List BodyEvent) (answer : Answer)
      (failure : Guacd.DialFailure) :
      Alike address address'
        ⟨.answered, body, answer.failure (failure.error address)⟩
        ⟨.answered, body, answer.failure (failure.error address')⟩

/-- In two environments each attempt to connect comes to the same, except that
guacd may not be reached in the same way at one address and at the other. -/
structure Environment.Alike {σ : Type} (address address' : String)
    (environment environment' : Environment σ) : Prop where
  token : environment'.token = environment.token
  bufferSize : environment'.bufferSize = environment.bufferSize
  connect : ∀ attempt request,
    environment'.connect attempt request =
        environment.connect attempt request ∨
      ∃ failure : Guacd.DialFailure,
        environment.connect attempt request =
          .error (failure.error address) ∧
        environment'.connect attempt request =
          .error (failure.error address')

variable {σ : Type} {address address' : String}

theorem Environment.Alike.recorded {environment environment' : Environment σ}
    (alike : environment.Alike address address' environment') :
    environment.recorded.Alike address address' environment'.recorded where
  token := alike.token
  bufferSize := alike.bufferSize
  connect attempt request := by
    simp only [Environment.recorded]
    rcases alike.connect attempt request with same | ⟨failure, one, other⟩
    · exact .inl (by rw [same])
    · exact .inr ⟨failure, by rw [one]; rfl, by rw [other]; rfl⟩

namespace Relay

/-- Two relays in the same state, but for the answers to requests that have not
reached guacd. -/
structure Alike (address address' : String) (relay relay' : Relay σ) :
    Prop where
  registry : relay'.registry = relay.registry
  requests : relay'.requests = relay.requests
  sessions : relay'.sessions = relay.sessions
  length : relay'.exchanges.length = relay.exchanges.length
  exchanges : ∀ (number : Nat) (exchange exchange' : Exchange),
    relay.exchanges[number]? = some exchange →
    relay'.exchanges[number]? = some exchange' →
    exchange.Alike address address' exchange'

namespace Alike

variable {relay relay' : Relay σ}

theorem other (alike : Alike address address' relay relay') {number : Nat}
    {exchange : Exchange} (there : relay.exchanges[number]? = some exchange) :
    ∃ exchange', relay'.exchanges[number]? = some exchange' ∧
      exchange.Alike address address' exchange' := by
  obtain ⟨within, -⟩ := List.getElem?_eq_some_iff.mp there
  rw [← alike.length] at within
  have found := List.getElem?_eq_getElem within
  exact ⟨_, found, alike.exchanges number _ _ there found⟩

theorem connecting (alike : Alike address address' relay relay') {number : Nat}
    {exchange : Exchange} {parameters : List (String × String)}
    (there : relay.exchanges[number]? = some exchange)
    (asking : exchange.activity = .connecting parameters) :
    relay'.exchanges[number]? = some exchange := by
  obtain ⟨exchange', found, own⟩ := alike.other there
  cases own with
  | same => exact found
  | unreached => cases asking

theorem metrics (alike : Alike address address' relay relay') :
    relay'.metrics = relay.metrics := by
  rw [Relay.metrics, alike.registry]
  rfl

theorem setExchange (alike : Alike address address' relay relay')
    (number : Nat) {exchange exchange' : Exchange}
    (own : exchange.Alike address address' exchange')
    (registry : Registry σ) :
    Alike address address' (relay.setExchange number exchange registry)
      (relay'.setExchange number exchange' registry) where
  registry := rfl
  requests := alike.requests
  sessions := alike.sessions
  length := by
    simp only [Relay.setExchange, List.length_set]
    exact alike.length
  exchanges index one other there there' := by
    simp only [Relay.setExchange, List.getElem?_set] at there there'
    by_cases is : number = index
    · rw [if_pos is] at there there'
      split at there
      · split at there'
        · cases there
          cases there'
          exact own
        · cases there'
      · cases there
    · rw [if_neg is] at there there'
      exact alike.exchanges index one other there there'

variable [Connection σ] {environment environment' : Environment σ}

theorem connectExchange (alike : Alike address address' relay relay')
    (around : environment.Alike address address' environment') (number : Nat)
    (exchange : Exchange) (parameters : List (String × String)) :
    Alike address address'
      (relay.connectExchange environment number exchange parameters)
      (relay'.connectExchange environment' number exchange parameters) := by
  have asked : Alike address address'
      { relay with requests := relay.requests ++ [⟨parameters⟩] }
      { relay' with requests := relay.requests ++ [⟨parameters⟩] } :=
    ⟨alike.registry, rfl, alike.sessions, alike.length, alike.exchanges⟩
  simp only [Relay.connectExchange, Relay.connect]
  rw [alike.requests]
  rcases around.connect relay.requests.length ⟨parameters⟩ with
    same | ⟨failure, one, other⟩
  · rw [same]
    cases environment.connect relay.requests.length ⟨parameters⟩ with
    | error error =>
        dsimp only
        rw [alike.registry]
        exact asked.setExchange number (.same (exchange.refuse error)) _
    | ok tunnel =>
        dsimp only
        rw [alike.registry, around.token]
        exact asked.setExchange number (.same _) _
  · rw [one, other]
    dsimp only
    rw [alike.registry]
    exact asked.setExchange number
      (.unreached exchange.body exchange.answer failure) _

theorem stepExchange (alike : Alike address address' relay relay')
    (around : environment.Alike address address' environment') (number : Nat) :
    Alike address address' (relay.stepExchange environment number).2
      (relay'.stepExchange environment' number).2 := by
  unfold Relay.stepExchange
  cases there : relay.exchanges[number]? with
  | none =>
      have there' : relay'.exchanges[number]? = none := by
        rw [List.getElem?_eq_none_iff, alike.length,
          ← List.getElem?_eq_none_iff, there]
      rw [there']
      exact alike
  | some exchange =>
      obtain ⟨exchange', there', own⟩ := alike.other there
      rw [there', alike.registry]
      cases own with
      | same exchange =>
          cases going : exchange.activity with
          | connecting parameters =>
              simp only [going]
              exact alike.connectExchange around number exchange parameters
          | collecting | reading | writing | answered =>
              simp only [going]
              exact alike.setExchange number (.same _) _
      | unreached body answer failure =>
          exact alike.setExchange number (.unreached body answer failure) _

omit [Connection σ] in
theorem stepSession (alike : Alike address address' relay relay')
    (number : Nat)
    (step : WebSocket.Session σ → Metrics →
      Pace × WebSocket.Session σ × Metrics) :
    Alike address address' (relay.stepSession number step).2
      (relay'.stepSession number step).2 := by
  unfold Relay.stepSession
  rw [alike.sessions, alike.metrics, alike.registry]
  cases relay.sessions[number]? with
  | none => exact alike
  | some session =>
      exact ⟨rfl, alike.requests, rfl, alike.length, alike.exchanges⟩

end Alike

/-! ### Moves -/

namespace Alike

variable {relay relay' : Relay (Recorded σ)}

theorem append (alike : Alike address address' relay relay')
    (exchange : Exchange) (registry : Registry (Recorded σ)) :
    Alike address address'
      { relay with registry, exchanges := relay.exchanges ++ [exchange] }
      { relay' with registry, exchanges := relay'.exchanges ++ [exchange] } where
  registry := rfl
  requests := alike.requests
  sessions := alike.sessions
  length := by
    simp only [List.length_append, alike.length]
  exchanges number one other there there' := by
    simp only [List.getElem?_append, alike.length] at there there'
    split at there
    · rename_i within
      rw [if_pos within] at there'
      exact alike.exchanges number one other there there'
    · rename_i behind
      rw [if_neg behind, there] at there'
      cases there'
      exact .same one

theorem deliver (alike : Alike address address' relay relay') (number : Nat)
    (body : List BodyEvent) :
    Alike address address'
      { relay with exchanges := relay.exchanges.modify number fun exchange =>
          { exchange with body := exchange.body ++ body } }
      { relay' with exchanges := relay'.exchanges.modify number fun exchange =>
          { exchange with body := exchange.body ++ body } } where
  registry := alike.registry
  requests := alike.requests
  sessions := alike.sessions
  length := by
    simp only [List.length_modify, alike.length]
  exchanges index one other there there' := by
    simp only [List.getElem?_modify] at there there'
    obtain ⟨before, found, rfl⟩ := Option.map_eq_some_iff.mp there
    obtain ⟨before', found', rfl⟩ := Option.map_eq_some_iff.mp there'
    have own := alike.exchanges index before before' found found'
    by_cases is : number = index
    · rw [if_pos is, if_pos is]
      cases own with
      | same => exact .same _
      | unreached arrived answer failure =>
          exact .unreached (arrived ++ body) answer failure
    · rw [if_neg is, if_neg is]
      exact own

theorem withdraw (alike : Alike address address' relay relay')
    (number : Nat) :
    Alike address address' (relay.withdraw number)
      (relay'.withdraw number) := by
  unfold Relay.withdraw
  cases there : relay.exchanges[number]? with
  | none =>
      have there' : relay'.exchanges[number]? = none := by
        rw [List.getElem?_eq_none_iff, alike.length,
          ← List.getElem?_eq_none_iff, there]
      rw [there']
      exact alike
  | some exchange =>
      obtain ⟨exchange', there', own⟩ := alike.other there
      rw [there', alike.registry]
      cases own with
      | same exchange => exact alike.setExchange number (.same _) _
      | unreached body answer failure =>
          exact alike.setExchange number (.unreached body answer failure) _

theorem modifySession (alike : Alike address address' relay relay')
    (session : Nat) (change : WebSocket.Session (Recorded σ) →
      WebSocket.Session (Recorded σ)) :
    Alike address address' (relay.modifySession session change)
      (relay'.modifySession session change) :=
  ⟨alike.registry, alike.requests,
    congrArg (List.modify · session change) alike.sessions, alike.length,
    alike.exchanges⟩

variable [Connection σ] {environment environment' : Environment σ}

theorem join (alike : Alike address address' relay relay')
    (around : environment.Alike address address' environment')
    (query : String) :
    Alike address address' (relay.join environment query)
      (relay'.join environment' query) := by
  simp only [Relay.join, Relay.connect, Relay.metrics, alike.registry,
    alike.requests, alike.sessions, around.bufferSize]
  rcases around.recorded.connect relay.requests.length
      ⟨Form.pairs (Bytes.ofText query)⟩ with same | ⟨failure, one, other⟩
  · rw [same]
    exact ⟨rfl, rfl, rfl, alike.length, alike.exchanges⟩
  · rw [one, other]
    simp only [WebSocket.Session.start,
      failure.error_status address' address]
    exact ⟨rfl, rfl, rfl, alike.length, alike.exchanges⟩

theorem perform (alike : Alike address address' relay relay')
    (around : environment.Alike address address' environment')
    (move : Move σ) :
    Alike address address' (relay.perform environment move)
      (relay'.perform environment' move) := by
  cases move with
  | task task =>
      cases task with
      | exchange number => exact alike.stepExchange around.recorded number
      | pump session => exact alike.stepSession session (·.stepPump)
      | handler session heeds =>
          exact alike.stepSession session (·.stepHandler heeds)
  | receive request body wanted =>
      have started : relay'.startExchange request wanted =
          relay.startExchange request wanted := by
        unfold Relay.startExchange
        rw [alike.metrics, alike.length, alike.registry]
      simp only [Relay.perform, Relay.arrive, started]
      exact alike.append _ _
  | deliver number body => exact alike.deliver number body
  | abandon number => exact alike.withdraw number
  | openSession query => exact alike.join around query
  | say session messages => exact alike.modifySession session _
  | lose session => exact alike.modifySession session _
  | guacdSession session change => exact alike.modifySession session _
  | closeIdle | advance | guacd =>
      simp only [Relay.perform, alike.registry]
      exact ⟨rfl, alike.requests, alike.sessions, alike.length,
        alike.exchanges⟩

end Alike

end Relay

namespace History

variable [Connection σ] {environment environment' : Environment σ}

theorem run_alike (around : environment.Alike address address' environment')
    (idleTimeout : Nat) (moves : List (Move σ)) :
    Relay.Alike address address' (run environment idleTimeout moves).relay
      (run environment' idleTimeout moves).relay := by
  induction moves using List.reverseRecOn with
  | nil =>
      refine ⟨rfl, rfl, rfl, rfl, ?_⟩
      intro number exchange exchange' there
      change ([] : List Exchange)[number]? = some exchange at there
      rw [List.getElem?_nil] at there
      cases there
  | append_singleton moves move ih =>
      rw [run_snoc, run_snoc]
      exact ih.perform around move

theorem connect_refused (relay : Relay (Recorded σ)) {number : Nat}
    {exchange : Exchange} {parameters : List (String × String)}
    {error : RelayError} (there : relay.exchanges[number]? = some exchange)
    (asking : exchange.activity = .connecting parameters)
    (failed : environment.connect relay.requests.length ⟨parameters⟩ =
      .error error) :
    (relay.perform environment (.task (.exchange number))).exchanges[number]? =
      some (exchange.refuse error) := by
  obtain ⟨within, -⟩ := List.getElem?_eq_some_iff.mp there
  have recorded : environment.recorded.connect relay.requests.length
      ⟨parameters⟩ = .error error := by
    simp only [Environment.recorded, failed]
    rfl
  simp only [Relay.perform, Relay.step, Relay.stepExchange, there, asking,
    Relay.connectExchange, Relay.connect, recorded, Relay.setExchange]
  exact List.getElem?_set_self within

theorem run_answered (idleTimeout : Nat) (moves more : List (Move σ))
    {number : Nat} {exchange : Exchange}
    (there : (run environment idleTimeout moves).relay.exchanges[number]? =
      some exchange) (answered : exchange.activity = .answered) :
    ∃ later, (run environment idleTimeout (moves ++ more)).relay.exchanges[
        number]? = some later ∧
      later.activity = .answered ∧ later.answer = exchange.answer := by
  induction more using List.reverseRecOn with
  | nil =>
      rw [List.append_nil]
      exact ⟨exchange, there, answered, rfl⟩
  | append_singleton more move ih =>
      obtain ⟨before, found, done, same⟩ := ih
      rw [← List.append_assoc, run_snoc]
      by_cases about : move.exchange? = some number
      · obtain ⟨later, still, kept, moved⟩ :=
          Relay.perform_answered environment _ about found done
        obtain ⟨within, -⟩ := List.getElem?_eq_some_iff.mp found
        refine ⟨later, ?_, still, kept.trans same⟩
        change (Relay.perform environment move _).exchanges[number]? = _
        rw [moved]
        exact List.getElem?_set_self within
      · exact ⟨before, Relay.perform_elsewhere environment _ about found, done,
          same⟩

theorem run_refused (idleTimeout : Nat) {earlier : List (Move σ)}
    (later : List (Move σ)) {number : Nat} {exchange : Exchange}
    {parameters : List (String × String)} {error : RelayError}
    (there : (run environment idleTimeout earlier).relay.exchanges[number]? =
      some exchange) (asking : exchange.activity = .connecting parameters)
    (failed : environment.connect
      (run environment idleTimeout earlier).relay.requests.length
        ⟨parameters⟩ = .error error) :
    ∃ told, (run environment idleTimeout (earlier ++ .task (.exchange number) ::
        later)).relay.exchanges[number]? = some told ∧
      told.activity = .answered ∧
      told.answer = exchange.answer.failure error := by
  have now : (run environment idleTimeout (earlier ++
      [.task (.exchange number)])).relay.exchanges[number]? =
        some (exchange.refuse error) := by
    rw [run_snoc]
    exact connect_refused _ there asking failed
  have split : earlier ++ Move.task (.exchange number) :: later =
      earlier ++ [.task (.exchange number)] ++ later := by
    rw [List.append_assoc]
    rfl
  rw [split]
  exact run_answered idleTimeout _ later now rfl

end History

/-! ### Two configurations -/

namespace Guacd.Connector

/-- An environment in which connections are made by a connector. Contacting an
address comes to `dial` at each attempt, and a handshake that guacd does not
bring to an end comes to `hang`. -/
def environment [Connection σ] (connector : Connector)
    (dial : (attempt : Nat) → (address : String) → Except DialFailure σ)
    (hang : (attempt : Nat) → Except RelayError (Tunnel σ))
    (uuid : Nat → Uuid) (token : Nat → String) (bufferSize : Nat) :
    Environment σ where
  connect attempt request :=
    match connector.connect (dial attempt) (uuid attempt) request with
    | .refused error | .unreached error => .error error
    | .reached (.opened tunnel) => .ok tunnel
    | .reached (.failed error _) => .error error
    | .reached (.unfinished _) => hang attempt
  token
  bufferSize

variable [Connection σ] (connector : Connector)
  (outcome : Nat → Except DialFailure σ)
  (hang : Nat → Except RelayError (Tunnel σ)) (uuid : Nat → Uuid)
  (token : Nat → String) (bufferSize : Nat)

/-- Where guacd is makes a difference only if it is not reached there. -/
theorem environment_alike (host : String) (port : Nat) :
    (connector.environment (fun attempt _ => outcome attempt) hang uuid token
      bufferSize).Alike connector.address
        { connector with host, port : Connector }.address
        ({ connector with host, port : Connector }.environment
          (fun attempt _ => outcome attempt) hang uuid token bufferSize) where
  token := rfl
  bufferSize := rfl
  connect attempt request := by
    have same : { connector with host, port : Connector }.plan request =
      connector.plan request := rfl
    simp only [environment, Connector.connect, same]
    cases connector.plan request with
    | error error => exact .inl rfl
    | ok plan =>
        cases outcome attempt with
        | error failure => exact .inr ⟨failure, rfl, rfl⟩
        | ok stream => exact .inl rfl

theorem environment_unreached {attempt : Nat} {request : TunnelRequest}
    {plan : ConnectionSpec × ClientInfo} {failure : DialFailure}
    (planned : connector.plan request = .ok plan)
    (failed : outcome attempt = .error failure) :
    (connector.environment (fun attempt _ => outcome attempt) hang uuid token
      bufferSize).connect attempt request =
        .error (failure.error connector.address) := by
  simp only [environment, Connector.connect, planned, failed]

theorem ofConfig_plain {config : RelayConfig}
    {roots : (path : String) → Except Tls.TrustError Tls.Trust}
    (plain : config.guacd.ssl = false) :
    ofConfig config roots = .ok
      ⟨config.guacd.host, config.guacd.port, none, config.connections⟩ := by
  simp only [ofConfig, plain]
  rfl

theorem publicMessage_names {failure : DialFailure}
    (unsecured : ∀ reason, failure ≠ .untrusted reason) :
    ∃ before behind, before ≠ "" ∧ ∀ address,
      Answer.publicMessage (failure.error address) =
        before ++ address ++ behind := by
  obtain ⟨status, before, behind, names⟩ := failure.error_names unsecured
  refine ⟨"Upstream error: " ++ before, behind, ?_, ?_⟩
  · intro empty
    have bytes := congrArg String.length empty
    rw [String.length_append] at bytes
    exact absurd bytes (by simp)
  · intro address
    rw [names]
    change "Upstream error: " ++ (before ++ address ++ behind) = _
    simp only [String.append_assoc]

theorem failure_injective {failure : DialFailure}
    (unsecured : ∀ reason, failure ≠ .untrusted reason)
    {address address' : String} {answer : Answer}
    (wanted : answer.wanted = true)
    (same : answer.failure (failure.error address) =
      answer.failure (failure.error address')) : address = address' := by
  obtain ⟨before, behind, some, names⟩ := publicMessage_names unsecured
  have speaks : ∀ address,
      Answer.publicMessage (failure.error address) ≠ "" := by
    intro address empty
    have bytes := congrArg Bytes.ofText ((names address).symm.trans empty)
    rw [Bytes.ofText_append, Bytes.ofText_append] at bytes
    have nothing := (List.append_eq_nil_iff.mp
      (List.append_eq_nil_iff.mp bytes).1).1
    exact some (Bytes.ofText_injective nothing)
  have pieces := congrArg Answer.pieces same
  rw [Answer.failure_pieces wanted (speaks _),
    Answer.failure_pieces wanted (speaks _)] at pieces
  have message := (List.cons.inj (List.append_cancel_left pieces)).1
  rw [names, names, Bytes.ofText_append, Bytes.ofText_append,
    Bytes.ofText_append, Bytes.ofText_append] at message
  exact Bytes.ofText_injective
    (List.append_cancel_left (List.append_cancel_right message))

/-- Two relays are configured alike, but for the host and the port of guacd, and
each attempt to contact guacd comes to the same for both. Whatever happens, all
that they do is the same, but for the answers to requests to connect that do not
reach guacd. These have the same status and the same headers but one; and they
are the same for a browser that takes them if and only if the host and the port
are. So the message depends on where guacd is. -/
theorem address_disclosed (config : RelayConfig)
    (roots : (path : String) → Except Tls.TrustError Tls.Trust)
    (plain : config.guacd.ssl = false) (host : String) (port : Nat)
    (outcome : Nat → Except DialFailure σ)
    (unsecured : ∀ attempt reason,
      outcome attempt ≠ .error (.untrusted reason))
    (hang : Nat → Except RelayError (Tunnel σ)) (uuid : Nat → Uuid)
    (token : Nat → String) (idleTimeout : Nat) (moves : List (Move σ)) :
    ∃ connector connector', ofConfig config roots = .ok connector ∧
      ofConfig { config with guacd := { config.guacd with host, port } } roots =
        .ok connector' ∧
      let relay := fun connector : Connector => fun moves =>
        (History.run (connector.environment (fun attempt _ => outcome attempt)
          hang uuid token config.bufferSize) idleTimeout moves).relay
      (relay connector moves).Alike connector.address connector'.address
        (relay connector' moves) ∧
      ∀ earlier later number exchange parameters plan failure,
        moves = earlier ++ .task (.exchange number) :: later →
        (relay connector earlier).exchanges[number]? = some exchange →
        exchange.activity = .connecting parameters →
        connector.plan ⟨parameters⟩ = .ok plan →
        outcome (relay connector earlier).requests.length = .error failure →
        ∃ told told', (relay connector moves).exchanges[number]? = some told ∧
          (relay connector' moves).exchanges[number]? = some told' ∧
          told.activity = .answered ∧ told'.activity = .answered ∧
          told.answer =
            exchange.answer.failure (failure.error connector.address) ∧
          told'.answer =
            exchange.answer.failure (failure.error connector'.address) ∧
          (∃ status front behind text text',
            told.answer.head = some ⟨status,
              front ++ ("guacamole-error-message", text) :: behind⟩ ∧
            told'.answer.head = some ⟨status,
              front ++ ("guacamole-error-message", text') :: behind⟩) ∧
          (exchange.answer.wanted = true →
            (told.answer = told'.answer ↔
              config.guacd.host = host ∧ config.guacd.port = port)) := by
  refine ⟨_, _, ofConfig_plain plain, ofConfig_plain plain, ?_⟩
  intro relay
  have around := environment_alike
    ⟨config.guacd.host, config.guacd.port, none, config.connections⟩ outcome
    hang uuid token config.bufferSize host port
  refine ⟨History.run_alike around idleTimeout moves, ?_⟩
  rintro earlier later number exchange parameters plan failure rfl there asking
    planned failed
  -- up to the request the two relays agree, so both make the same attempt
  have alike := History.run_alike around idleTimeout earlier
  have refused : ∀ connector : Connector,
      connector.plan ⟨parameters⟩ = .ok plan →
      outcome (relay connector earlier).requests.length = .error failure →
      (connector.environment (fun attempt _ => outcome attempt) hang uuid token
        config.bufferSize).connect (relay connector earlier).requests.length
          ⟨parameters⟩ = .error (failure.error connector.address) :=
    fun connector => environment_unreached connector outcome hang uuid token _
  have there' := alike.connecting there asking
  have failed' : outcome (relay ⟨host, port, none, config.connections⟩
      earlier).requests.length = .error failure := by
    rw [← failed]
    exact congrArg (outcome ·.length) alike.requests
  obtain ⟨told, found, done, answer⟩ := History.run_refused idleTimeout later
    there asking (refused _ planned failed)
  obtain ⟨told', found', done', answer'⟩ := History.run_refused idleTimeout
    later there' asking (refused _ planned failed')
  refine ⟨told, told', found, found', done, done', answer, answer', ?_, ?_⟩
  · obtain ⟨front, behind, heads⟩ := exchange.answer.failure_headers
      (failure.error "").status
    exact ⟨_, front, behind, _, _,
      (congrArg Answer.head answer).trans (heads _ (failure.error_status _ _)),
      (congrArg Answer.head answer').trans
        (heads _ (failure.error_status _ _))⟩
  · intro wanted
    rw [answer, answer']
    constructor
    · intro same
      -- an answer that is taken shows the message, and that shows the address
      exact address_injective (failure_injective
        (fun reason is => unsecured _ reason (failed.trans (by rw [is])))
        wanted same)
    · rintro ⟨rfl, rfl⟩
      rfl

def askingRun : List (Move Link) :=
  [.receive
    { method := "POST"
      target := "/tunnel?connect"
      headers := [("content-type", Bytes.ofText Exchange.formMediaType)] }
    [.chunk (Bytes.ofText "GUAC_ID=desktop&GUAC_TYPE=c"), .finished] true,
    .task (.exchange 0), .task (.exchange 0)]

def asked? (exchange : Exchange) : Option (List (String × String)) :=
  match exchange.activity with
  | .connecting parameters => some parameters
  | _ => none

/-- guacd is not listening, here or there, and the browser is told where. -/
theorem address_disclosed_refused :
    let config : RelayConfig :=
      { guacd := { host := "10.0.0.5" }
        connections := [("desktop", { protocol := "vnc" })] }
    let refused : Nat → Except DialFailure Link :=
      fun _ => .error (.failed ⟨.connectionRefused, none⟩)
    let relay := fun connector : Connector =>
      (History.run (connector.environment (fun attempt _ => refused attempt)
        (fun _ => .error (.server "")) (fun _ => ⟨0⟩) (fun _ => "t")
        config.bufferSize) 0 (askingRun ++ [.task (.exchange 0)])).relay
    config.guacd.ssl = false ∧
      (∀ attempt reason, refused attempt ≠ .error (.untrusted reason)) ∧
      ∃ connector connector',
        ofConfig config (fun _ => .ok .publicRoots) = .ok connector ∧
        ofConfig { config with guacd := { config.guacd with
          host := "10.0.0.6", port := 4822 } } (fun _ => .ok .publicRoots) =
            .ok connector' ∧
        ∃ told told', (relay connector).exchanges[0]? = some told ∧
          (relay connector').exchanges[0]? = some told' ∧
          told.answer ≠ told'.answer := by
  intro config refused relay
  have unsecured : ∀ attempt reason,
      refused attempt ≠ .error (.untrusted reason) := by
    intro attempt reason same
    cases same
  obtain ⟨connector, connector', one, other, -, tells⟩ :=
    address_disclosed config (fun _ => .ok .publicRoots) rfl "10.0.0.6" 4822
      refused unsecured (fun _ => .error (.server "")) (fun _ => ⟨0⟩)
      (fun _ => "t") 0 (askingRun ++ [.task (.exchange 0)])
  obtain rfl : (⟨"10.0.0.5", 4822, none, config.connections⟩ : Connector) =
    connector := Except.ok.inj one
  refine ⟨rfl, unsecured, _, connector', one, other, ?_⟩
  have there : ((History.run (Connector.environment
      ⟨"10.0.0.5", 4822, none, config.connections⟩
      (fun attempt _ => refused attempt) (fun _ => .error (.server ""))
      (fun _ => ⟨0⟩) (fun _ => "t") config.bufferSize) 0
      askingRun).relay.exchanges[0]?.map fun exchange =>
        (asked? exchange, exchange.answer.wanted)) =
      some (some [("GUAC_ID", "desktop"), ("GUAC_TYPE", "c")], true) := by
    decide +kernel
  obtain ⟨exchange, found, values⟩ := Option.map_eq_some_iff.mp there
  obtain ⟨asking, wanted⟩ := Prod.mk.inj values
  have connecting : exchange.activity =
      .connecting [("GUAC_ID", "desktop"), ("GUAC_TYPE", "c")] := by
    unfold asked? at asking
    split at asking
    · rename_i parameters going
      rw [going, Option.some.inj asking]
    · cases asking
  obtain ⟨told, told', answered, answered', -, -, -, -, -, same⟩ :=
    tells askingRun [] 0 exchange _ ({ protocol := "vnc" }, {})
      (.failed ⟨.connectionRefused, none⟩) rfl found connecting
      (by decide +kernel) rfl
  refine ⟨told, told', answered, answered', ?_⟩
  intro alike
  exact absurd ((same wanted).mp alike).1 (by decide)

end Guacd.Connector

end TunnelRelay
