import TunnelRelay.Proofs.Guise.Omission
import TunnelRelay.Proofs.Relay.Lifecycle
import TunnelRelay.Proofs.Relay.Listing
import TunnelRelay.Proofs.Text.Codepoints

/-!
Session tokens as a gate.

A token is accepted if and only if it is the token of the tunnel. Whoever asks to read or to write
without it is refused, and has only made the tunnel seem used: as long as that does not save it from
expiring, nobody can tell from anything the relay does whether the request was ever made.
-/

namespace TunnelRelay

open Http LongPoll

/-! ### Comparing tokens -/

/-- The bits in which two byte strings differ, taken together. -/
theorem differences_eq_zero (pairs : List (UInt8 × UInt8)) (start : UInt8) :
    pairs.foldl (fun difference pair => difference ||| (pair.1 ^^^ pair.2))
        start = 0 ↔
      start = 0 ∧ ∀ pair ∈ pairs, pair.1 = pair.2 := by
  induction pairs generalizing start with
  | nil => simp
  | cons first rest ih =>
      rw [List.foldl_cons, ih, UInt8.or_eq_zero_iff, UInt8.xor_eq_zero_iff,
        List.forall_mem_cons, and_assoc]

theorem zip_same_iff {first second : Bytes}
    (length : first.length = second.length) :
    (∀ pair ∈ first.zip second, pair.1 = pair.2) ↔ first = second := by
  constructor
  · intro same
    apply List.ext_getElem length
    intro index within there
    have zipped : index < (first.zip second).length := by
      rw [List.length_zip]
      exact Nat.lt_min.mpr ⟨within, there⟩
    have pair := same _ (List.getElem_mem zipped)
    rwa [List.getElem_zip] at pair
  · rintro rfl pair member
    obtain ⟨index, within, rfl⟩ := List.getElem_of_mem member
    rw [List.getElem_zip]

theorem tokenMatches_iff (expected presented : String) :
    tokenMatches expected presented = true ↔ presented = expected := by
  simp only [tokenMatches, Bool.and_eq_true, beq_iff_eq, differences_eq_zero,
    true_and]
  constructor
  · rintro ⟨length, same⟩
    exact (Bytes.ofText_injective ((zip_same_iff length).mp same)).symm
  · rintro rfl
    exact ⟨rfl, (zip_same_iff rfl).mpr rfl⟩

/-! ### Refusing a request -/

/-- Why a request that does not show the right token is refused. -/
def tokenRefusal (token : Option String) : RelayError :=
  match token with
  | none => tokenRequired
  | some _ => invalidToken

theorem tokenRefusal_status (token : Option String) :
    (tokenRefusal token).status = .clientBadRequest := by
  cases token <;> rfl

variable {σ : Type}

theorem LongPoll.lookUp_refused [Connection σ]
    {registry : Registry (Recorded σ)} {uuid : Uuid} {token : Option String}
    {number : Nat} {registered : RegisteredTunnel (Recorded σ)}
    (found : registry.find? uuid = some number)
    (held : registry.tunnel? number = some registered)
    (isOpen : registered.tunnel.isOpen = true)
    (wrong : token ≠ some registered.token) :
    lookUp registry uuid token =
      (.error (tokenRefusal token),
        registry.update number (·.touch registry.now)) := by
  have touched : (registry.update number (·.touch registry.now)).tunnel?
      number = some (registered.touch registry.now) := by
    rw [Registry.tunnel?_update_self, held]
    rfl
  have stillOpen : (registered.touch registry.now).tunnel.isOpen = true :=
    isOpen
  simp only [lookUp, Registry.get, found, Option.elim_some, bind, Except.bind,
    touched, stillOpen, if_true]
  cases token with
  | none => rfl
  | some text =>
      have rejects : (registered.touch registry.now).accepts text = false := by
        rw [← Bool.not_eq_true]
        intro accepts
        have same := (tokenMatches_iff registered.token text).mp accepts
        exact wrong (congrArg some same)
      simp only [Option.elim_some, rejects, Bool.false_eq_true, if_false]
      rfl

def LongPoll.Exchange.refused (request : Request) (body : List BodyEvent)
    (wanted : Bool) (error : RelayError) : Exchange where
  activity := .answered
  body
  answer := Answer.failure { wanted := wanted && request.method != "HEAD" } error

theorem Relay.arrive_refused [Connection σ] {relay : Relay (Recorded σ)}
    {request : Request} {command : Command} {uuid : Uuid} {number : Nat}
    {registered : RegisteredTunnel (Recorded σ)}
    (asks : request.Asks command)
    (tunnel : command = .read uuid ∨ command = .write uuid)
    (found : relay.registry.find? uuid = some number)
    (held : relay.registry.tunnel? number = some registered)
    (isOpen : registered.tunnel.isOpen = true)
    (wrong : request.headerText? "guacamole-tunnel-token" ≠
      some registered.token) (body : List BodyEvent) (wanted : Bool) :
    relay.arrive request body wanted =
      { relay with
        registry := relay.registry.update number (·.touch relay.registry.now)
        exchanges := relay.exchanges ++ [.refused request body wanted
          (tokenRefusal (request.headerText? "guacamole-tunnel-token"))] } := by
  have refused := lookUp_refused found held isOpen wrong
  simp only [arrive, startExchange, asks.path, resource?, asks.method, if_true,
    Exchange.start, asks.parsed]
  rcases tunnel with rfl | rfl
  · simp only [refused]
    rfl
  · simp only [refused]
    rfl

/-! ### Leaving the request out -/

theorem Relay.Omits.of_answered {relay : Relay (Recorded σ)}
    (own : Twins (.past relay.exchanges.length fun _ => 0) relay relay)
    {number : Nat} {registered : RegisteredTunnel (Recorded σ)}
    (held : relay.registry.tunnel? number = some registered)
    {access : Nat → Nat}
    (accessed : access number = relay.registry.now - registered.registeredAt)
    (others : ∀ other, other ≠ number → access other = 0)
    (exchange : Exchange) (answered : exchange.activity = .answered) :
    Omits relay.exchanges.length access relay
      { relay with
        registry := relay.registry.update number (·.touch relay.registry.now)
        exchanges := relay.exchanges ++ [exchange] } where
  begun := Nat.le_refl _
  length := List.length_append
  answered := ⟨exchange, List.getElem?_concat_length, answered⟩
  known other behind := by
    obtain ⟨within, -⟩ := List.getElem?_eq_some_iff.mp held
    exact others other (by omega)
  twins := by
    refine ⟨?_, rfl, rfl, ?_⟩
    · simp only [Registry.update, Registry.under]
      congr 1
      apply List.ext_getElem?
      intro other
      rw [List.getElem?_modify, List.getElem?_mapIdx]
      cases found : relay.registry.tunnels[other]? with
      | none => rfl
      | some entry =>
          have twin := congrArg (·.tunnel? other) own.registry
          have there : relay.registry.tunnel? other = some entry := found
          simp only [Registry.tunnel?_under, there, Option.map_some] at twin
          have same : entry.tunnel.under (.past relay.exchanges.length access) =
              entry.tunnel :=
            (congrArg RegisteredTunnel.tunnel (Option.some.inj twin)).symm
          simp only [Option.map_eq_map, Option.map_some]
          refine congrArg some ?_
          by_cases asked : number = other
          · subst asked
            rw [held] at there
            cases there
            rw [if_pos rfl]
            exact RegisteredTunnel.touch_eq_under same accessed
          · rw [if_neg asked]
            exact (RegisteredTunnel.under_eq_self same
              (others other (Ne.symm asked))).symm
    · intro other
      refine Eq.trans ?_ (own.exchanges other)
      rcases Nat.lt_or_gt_of_ne (numberPast_ne relay.exchanges.length other)
        with before | behind
      · exact List.getElem?_append_left before
      · refine (List.getElem?_eq_none ?_).trans
          (List.getElem?_eq_none (Nat.le_of_lt behind)).symm
        rw [List.length_append]
        exact behind

/-! ### The gate -/

/-- Two relays differ in the exchange `gap`, which only one of them has, and in
when tunnels were asked for. -/
structure Relay.Unnoticed (gap : Nat) (relay full : Relay (Recorded σ)) :
    Prop where
  answers : ∀ number,
    full.exchanges[numberPast gap number]?.map (fun exchange =>
        (exchange.isAnswered, exchange.answer)) =
      relay.exchanges[number]?.map fun exchange =>
        (exchange.isAnswered, exchange.answer)
  /-- Whoever waits for a tunnel or holds it does so under the shifted number. -/
  tunnels : ∀ number,
    (full.registry.tunnel? number).map ({ · with lastAccess := 0 }) =
      (relay.registry.tunnel? number).map fun registered =>
        { registered with
          tunnel := registered.tunnel.under (.past gap fun _ => 0)
          lastAccess := 0 }
  metrics : full.metrics = relay.metrics
  sessions : full.sessions = relay.sessions
  requests : full.requests = relay.requests

theorem Relay.Omits.unnoticed {gap : Nat} {access : Nat → Nat}
    {relay full : Relay (Recorded σ)} (omits : Omits gap access relay full) :
    Unnoticed gap relay full where
  answers number := by
    have there : full.exchanges[numberPast gap number]? = _ :=
      omits.twins.exchanges number
    rw [there, Option.map_map]
    congr 1
    funext exchange
    exact Prod.ext (exchange.isAnswered_under _) rfl
  tunnels number := by
    rw [omits.twins.registry, Registry.tunnel?_under, Option.map_map]
    rfl
  metrics := omits.twins.metrics
  sessions := omits.twins.sessions
  requests := omits.twins.requests

namespace History

variable [Connection σ]

/-- A request for the tunnel `number` that does not show its token is refused,
and that is all: whatever happens later is what would have happened without it,
until the tunnel would have expired. -/
structure Gated (environment : Environment σ) (idleTimeout : Nat)
    (earlier : List (Move σ)) (request : Request) (body : List BodyEvent)
    (wanted : Bool) (number : Nat)
    (registered : RegisteredTunnel (Recorded σ)) : Prop where
  compares : ∀ presented,
    registered.accepts presented = true ↔ presented = registered.token
  stays : registered.listed = true ∧ registered.tunnel.isOpen = true
  answer :
    (Exchange.refused request body wanted (tokenRefusal
      (request.headerText? "guacamole-tunnel-token"))).answer.Tells
        .clientBadRequest
  refused :
    let relay := (run environment idleTimeout earlier).relay
    (run environment idleTimeout
        (earlier ++ [.receive request body wanted])).relay =
      { relay with
        registry := relay.registry.update number (·.touch relay.registry.now)
        exchanges := relay.exchanges ++ [.refused request body wanted
          (tokenRefusal (request.headerText? "guacamole-tunnel-token"))] }
  unnoticed :
    let gap := (run environment idleTimeout earlier).relay.exchanges.length
    ∀ more : List (Move σ),
      (∀ done rest, more = done ++ .closeIdle :: rest →
        ¬(run environment idleTimeout
          (earlier ++ done.filterMap (·.without gap))).relay.registry.Expires
            number) →
      Relay.Unnoticed gap
        (run environment idleTimeout
          (earlier ++ more.filterMap (·.without gap))).relay
        (run environment idleTimeout
          (earlier ++ .receive request body wanted :: more)).relay

/-- In every state that the relay can reach, a read or a write without the token
of its tunnel is refused and leaves no trace. -/
theorem token_gate (environment : Environment σ) (idleTimeout : Nat)
    (earlier : List (Move σ)) (connects : environment.Connects)
    (unread : environment.ConnectsUnread) {request : Request}
    {command : Command} {uuid : Uuid} {number : Nat}
    {registered : RegisteredTunnel (Recorded σ)}
    (asks : request.Asks command)
    (tunnel : command = .read uuid ∨ command = .write uuid)
    (found : (run environment idleTimeout earlier).relay.registry.find? uuid =
      some number)
    (held : (run environment idleTimeout earlier).relay.registry.tunnel?
      number = some registered)
    (wrong : request.headerText? "guacamole-tunnel-token" ≠
      some registered.token) (body : List BodyEvent) (wanted : Bool) :
    Gated environment idleTimeout earlier request body wanted number
      registered := by
  have unasked := Environment.connectsUnasked_recorded connects unread
  have listed : registered.listed = true := by
    obtain ⟨same, there, is⟩ := Registry.find?_some found
    rw [held] at there
    cases there
    exact (Bool.and_eq_true _ _ ▸ is).1
  have isOpen := run_current connects idleTimeout earlier number registered
    held listed
  have arrives : (run environment idleTimeout
      (earlier ++ [.receive request body wanted])).relay = _ :=
    (congrArg History.relay (run_snoc environment idleTimeout earlier _)).trans
      (Relay.arrive_refused asks tunnel found held isOpen wrong body wanted)
  refine ⟨tokenMatches_iff registered.token, ⟨listed, isOpen⟩, ?_, arrives, ?_⟩
  · have tells := Answer.failure_tells
      { wanted := wanted && request.method != "HEAD" }
      (tokenRefusal (request.headerText? "guacamole-tunnel-token"))
    rw [tokenRefusal_status] at tells
    exact tells
  · intro gap more spares
    -- the relay is its own twin before the request, and its twin less the request behind it
    have own : Relay.Twins (.past gap fun _ => 0)
        (run environment idleTimeout earlier).relay
        (run environment idleTimeout earlier).relay :=
      run_own unasked idleTimeout earlier (fun _ => rfl)
        fun _ within => if_pos within
    have omits := Relay.Omits.of_answered own held
      (Function.update_self number _ fun _ => 0)
      (fun _ differs => Function.update_of_ne differs _ _)
      (.refused request body wanted (tokenRefusal
        (request.headerText? "guacamole-tunnel-token"))) rfl
    rw [← arrives] at omits
    have later := run_omits unasked omits more
    rw [List.append_assoc] at later
    refine (later ?_).unnoticed
    intro done rest same other expires
    by_cases is : other = number
    · subst is
      exact absurd expires (spares done rest same)
    · exact Function.update_of_ne is _ _

/-- A read of the only tunnel, with a token that differs in the case of its only
letter. -/
def misread : Request where
  target := "/tunnel?read:00000000000000000000000000000000"
  headers := [("guacamole-tunnel-token", Bytes.ofText "T")]

theorem token_gate_misread :
    narrow.Connects ∧ narrow.ConnectsUnread ∧
      misread.Asks (.read ⟨0⟩) ∧
      (run narrow 5 Course.opening).relay.registry.find? ⟨0⟩ = some 0 ∧
      ∃ registered,
        (run narrow 5 Course.opening).relay.registry.tunnel? 0 =
          some registered ∧
        misread.headerText? "guacamole-tunnel-token" ≠ some registered.token ∧
        Gated narrow 5 Course.opening misread [] true 0 registered := by
  have unread : narrow.ConnectsUnread :=
    Environment.scripted_connectsUnread _ _ _ _ _ _
  have asks : misread.Asks (.read ⟨0⟩) :=
    ⟨by decide +kernel, by decide +kernel, by rfl⟩
  have found : (run narrow 5 Course.opening).relay.registry.find? ⟨0⟩ =
      some 0 := by
    decide +kernel
  have token : ((run narrow 5 Course.opening).relay.registry.tunnel? 0).map
      (·.token) = some "t" := by
    decide +kernel
  obtain ⟨registered, held, is⟩ := Option.map_eq_some_iff.mp token
  have wrong : misread.headerText? "guacamole-tunnel-token" ≠
      some registered.token := by
    rw [is]
    decide +kernel
  exact ⟨narrow_connects, unread, asks, found, registered, held, wrong,
    token_gate narrow 5 Course.opening narrow_connects unread asks (.inl rfl)
      found held wrong [] true⟩

/-- What is left of such a request: its tunnel expires later. -/
example :
    let wait := [.advance 3, .closeIdle]
    let found (moves : List (Move Link)) :=
      (run narrow 5 (Course.opening ++ .advance 3 :: moves)).relay.registry.find?
        ⟨0⟩
    found (.receive misread [] true :: wait) = some 0 ∧ found wait = none := by
  decide +kernel

end History

end TunnelRelay
