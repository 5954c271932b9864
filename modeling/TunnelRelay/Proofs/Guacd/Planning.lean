import Mathlib.Logic.Relation
import TunnelRelay.Guacd.Connector
import TunnelRelay.Proofs.Text.Unsigned
import TunnelRelay.Stream.Link

/-!
What a request has to be before guacd is contacted.

A request is held against a list of demands, in order. If it meets all of them, guacd is contacted,
with the connection that the request names and with what it says about its browser. If not, the
first demand that it does not meet decides the error, whatever is at guacd's place. Nothing else
about a request counts: parameters with other names, second values of single parameters, and how
parameters of different names are mixed.
-/

namespace TunnelRelay

/-! ### Parameters -/

namespace TunnelRequest

/-- The first value that a request gives for a name. -/
def First (request : TunnelRequest) (name value : String) : Prop :=
  ∃ before behind, request.parameters = before ++ (name, value) :: behind ∧
    ∀ other ∈ before, other.1 ≠ name

def Lacks (request : TunnelRequest) (name : String) : Prop :=
  ∀ parameter ∈ request.parameters, parameter.1 ≠ name

variable {request : TunnelRequest} {name value : String}

theorem parameter?_eq_some_iff :
    request.parameter? name = some value ↔ request.First name value := by
  unfold parameter? First
  rw [Option.map_eq_some_iff]
  constructor
  · rintro ⟨⟨found, _⟩, here, rfl⟩
    obtain ⟨same, before, behind, split, others⟩ :=
      List.find?_eq_some_iff_append.mp here
    cases eq_of_beq same
    refine ⟨before, behind, split, ?_⟩
    intro other member
    simpa using others other member
  · rintro ⟨before, behind, split, others⟩
    refine ⟨(name, value), ?_, rfl⟩
    refine List.find?_eq_some_iff_append.mpr
      ⟨beq_self_eq_true name, before, behind, split, ?_⟩
    intro other member
    simpa using others other member

theorem parameter?_eq_none_iff :
    request.parameter? name = none ↔ request.Lacks name := by
  unfold parameter? Lacks
  rw [Option.map_eq_none_iff, List.find?_eq_none]
  simp only [beq_iff_eq, ne_eq]

theorem required_first (first : request.First name value) :
    request.required name = .ok value := by
  unfold required
  rw [parameter?_eq_some_iff.mpr first]

theorem required_lacks (lacks : request.Lacks name) :
    request.required name = .error (.client .clientBadRequest
      ("Parameter \"" ++ name ++ "\" is required.")) := by
  unfold required
  rw [parameter?_eq_none_iff.mpr lacks]
  rfl

theorem lacks_or_first (request : TunnelRequest) (name : String) :
    request.Lacks name ∨ ∃ value, request.First name value := by
  cases given : request.parameter? name with
  | none => exact .inl (parameter?_eq_none_iff.mp given)
  | some value => exact .inr ⟨value, parameter?_eq_some_iff.mp given⟩

/-- What a request gives for a number, where an absent one has a default. -/
inductive Gives (request : TunnelRequest) (name : String) (default : Nat) :
    Nat → Prop
  | given {value : String} {number : Nat} (first : request.First name value)
      (denotes : Denotes value number) : Gives request name default number
  | absent (lacks : request.Lacks name) : Gives request name default default

end TunnelRequest

/-- What is told to guacd about a browser is what the browser has said. -/
structure ClientInfo.Describes (info : ClientInfo) (request : TunnelRequest) :
    Prop where
  width : request.Gives "GUAC_WIDTH" 1024 info.width
  height : request.Gives "GUAC_HEIGHT" 768 info.height
  dpi : request.Gives "GUAC_DPI" 96 info.dpi
  audio : info.audio = request.parameters.filterMap fun (name, value) =>
    if name = "GUAC_AUDIO" then some value else none
  video : info.video = request.parameters.filterMap fun (name, value) =>
    if name = "GUAC_VIDEO" then some value else none
  image : info.image = request.parameters.filterMap fun (name, value) =>
    if name = "GUAC_IMAGE" then some value else none
  timezone : ∀ zone, info.timezone = some zone ↔
    request.First "GUAC_TIMEZONE" zone

/-! ### Demands -/

namespace Guacd

/-- What a request has to satisfy. -/
inductive Demand where
  | type
  | identifier
  | integer (name : String)

namespace Demand

/-- All demands, in the order in which they count. -/
def all : List Demand :=
  [type, identifier, integer "GUAC_WIDTH", integer "GUAC_HEIGHT",
    integer "GUAC_DPI"]

variable (connections : List (String × ConnectionSpec))
  (request : TunnelRequest)

def Met : Demand → Prop
  | type => request.First "GUAC_TYPE" "c"
  | identifier => ∃ named spec, request.First "GUAC_ID" named ∧
      connections.lookup named = some spec
  | integer name => ∀ value, request.First name value →
      ∃ number, Denotes value number ∧ number < UInt32.size

inductive Unmet : Demand → RelayError → Prop
  | untyped (lacks : request.Lacks "GUAC_TYPE") : Unmet .type
      (.client .clientBadRequest "Parameter \"GUAC_TYPE\" is required.")
  | foreign {value : String} (first : request.First "GUAC_TYPE" value)
      (other : value ≠ "c") : Unmet .type
      (.client .clientBadRequest "Illegal identifier - unknown type.")
  | unnamed (lacks : request.Lacks "GUAC_ID") : Unmet .identifier
      (.client .clientBadRequest "Parameter \"GUAC_ID\" is required.")
  | unknown {named : String} (first : request.First "GUAC_ID" named)
      (missing : connections.lookup named = none) : Unmet .identifier
      (.notFound ("Connection \"" ++ named ++ "\" does not exist."))
  | numberless {name value : String} (first : request.First name value)
      (none : ∀ number, Denotes value number → UInt32.size ≤ number) :
      Unmet (.integer name) (.client .clientBadRequest
        ("Parameter \"" ++ name ++ "\" must be a valid integer."))

/-- The first demand that is not met decides the error. -/
inductive Refuses : List Demand → RelayError → Prop
  | here {demand : Demand} {demands : List Demand} {error : RelayError}
      (unmet : demand.Unmet connections request error) :
      Refuses (demand :: demands) error
  | behind {demand : Demand} {demands : List Demand} {error : RelayError}
      (met : demand.Met connections request) (refuses : Refuses demands error) :
      Refuses (demand :: demands) error

variable {connections request}

theorem met_or_unmet (demand : Demand) : demand.Met connections request ∨
    ∃ error, demand.Unmet connections request error := by
  cases demand with
  | type =>
      obtain lacks | ⟨value, first⟩ := request.lacks_or_first "GUAC_TYPE"
      · exact .inr ⟨_, .untyped lacks⟩
      · by_cases same : value = "c"
        · subst same
          exact .inl first
        · exact .inr ⟨_, .foreign first same⟩
  | identifier =>
      obtain lacks | ⟨named, first⟩ := request.lacks_or_first "GUAC_ID"
      · exact .inr ⟨_, .unnamed lacks⟩
      · cases there : connections.lookup named with
        | none => exact .inr ⟨_, .unknown first there⟩
        | some spec => exact .inl ⟨named, spec, first, there⟩
  | integer name =>
      obtain lacks | ⟨value, first⟩ := request.lacks_or_first name
      · refine .inl fun value first => ?_
        obtain ⟨before, behind, split, -⟩ := first
        have member : (name, value) ∈ request.parameters := by
          rw [split]
          exact List.mem_append_right _ List.mem_cons_self
        exact absurd rfl (lacks _ member)
      · by_cases number : ∃ number, Denotes value number ∧
            number < UInt32.size
        · refine .inl fun other also => ?_
          rw [← TunnelRequest.parameter?_eq_some_iff] at first also
          rw [first] at also
          cases also
          exact number
        · refine .inr ⟨_, .numberless first fun given denotes => ?_⟩
          exact Nat.le_of_not_lt fun small => number ⟨given, denotes, small⟩

theorem met_or_refuses (demands : List Demand) :
    (∀ demand ∈ demands, demand.Met connections request) ∨
      ∃ error, Refuses connections request demands error := by
  induction demands with
  | nil => exact .inl nofun
  | cons demand demands ih =>
      obtain met | ⟨error, unmet⟩ := met_or_unmet demand
      · obtain all | ⟨error, refuses⟩ := ih
        · exact .inl (List.forall_mem_cons.mpr ⟨met, all⟩)
        · exact .inr ⟨error, .behind met refuses⟩
      · exact .inr ⟨error, .here unmet⟩

theorem Refuses.status {demands : List Demand} {error : RelayError}
    (refuses : Refuses connections request demands error) :
    error.status = .clientBadRequest ∨ error.status = .resourceNotFound ∧
      ∃ named, request.First "GUAC_ID" named ∧
        connections.lookup named = none := by
  induction refuses with
  | here unmet =>
      cases unmet with
      | untyped | foreign | unnamed | numberless => exact .inl rfl
      | unknown first missing => exact .inr ⟨rfl, _, first, missing⟩
  | behind met refuses ih => exact ih

end Demand

/-! ### Plans -/

namespace Connector

open TunnelRequest

variable {connector : Connector} {request : TunnelRequest}

theorem tunnelType_met
    (met : Demand.type.Met connector.connections request) :
    request.tunnelType = .ok .connection := by
  unfold tunnelType
  rw [required_first met]
  rfl

theorem tunnelType_unmet {error : RelayError}
    (unmet : Demand.type.Unmet connector.connections request error) :
    request.tunnelType = .error error := by
  unfold tunnelType
  cases unmet with
  | untyped lacks =>
      rw [required_lacks lacks]
      rfl
  | @foreign value first other =>
      have unread : TunnelType.parse? value = none := if_neg other
      rw [required_first first]
      simp only [bind, Except.bind, unread]
      rfl

theorem integer_met {name : String}
    (met : (Demand.integer name).Met connector.connections request) :
    ∃ number?, request.integer name = .ok number? ∧
      ∀ default, request.Gives name default (number?.getD default) := by
  unfold integer
  cases given : request.parameter? name with
  | none => exact ⟨none, rfl, fun default =>
      .absent (parameter?_eq_none_iff.mp given)⟩
  | some value =>
      have first := parameter?_eq_some_iff.mp given
      obtain ⟨number, denotes, small⟩ := met value first
      have read : parseUnsigned? integerLimit value = some number :=
        (parseUnsigned?_iff _ _ _).mpr ⟨denotes, Nat.le_pred_of_lt small⟩
      refine ⟨some number, ?_, fun default => .given first denotes⟩
      simp only [read]

theorem integer_unmet {name : String} {error : RelayError}
    (unmet : (Demand.integer name).Unmet connector.connections request error) :
    request.integer name = .error error := by
  cases unmet with
  | @numberless _ value first none_ =>
      have unread : parseUnsigned? integerLimit value = none := by
        rw [Option.eq_none_iff_forall_not_mem]
        intro number read
        obtain ⟨denotes, small⟩ := (parseUnsigned?_iff _ _ _).mp read
        exact absurd (none_ number denotes)
          (Nat.not_le_of_lt (Nat.lt_of_le_pred (by decide) small))
      unfold integer
      rw [parameter?_eq_some_iff.mpr first]
      simp only [unread]
      rfl

theorem plan_named {named : String} {spec : ConnectionSpec}
    (typed : request.tunnelType = .ok .connection)
    (first : request.First "GUAC_ID" named)
    (there : connector.connections.lookup named = some spec) :
    connector.plan request = request.clientInfo.map (spec, ·) := by
  unfold plan identifier
  rw [typed, required_first first]
  simp only [bind, Except.bind, there]
  cases request.clientInfo <;> rfl

theorem parameterValues_eq (request : TunnelRequest) (name : String) :
    request.parameterValues name =
      request.parameters.filterMap fun (other, value) =>
        if other = name then some value else none := by
  unfold parameterValues
  induction request.parameters with
  | nil => rfl
  | cons parameter parameters ih =>
      obtain ⟨other, value⟩ := parameter
      rw [List.filter_cons, List.filterMap_cons]
      by_cases same : other = name
      · rw [if_pos (by simpa using same), List.map_cons, ih]
        simp only [if_pos same]
      · rw [if_neg (by simpa using same), ih]
        simp only [if_neg same]

theorem plan_met
    (met : ∀ demand ∈ Demand.all, demand.Met connector.connections request) :
    ∃ named spec info, request.First "GUAC_ID" named ∧
      connector.connections.lookup named = some spec ∧
      info.Describes request ∧ connector.plan request = .ok (spec, info) := by
  simp only [Demand.all, List.forall_mem_cons] at met
  obtain ⟨type, ⟨named, spec, first, there⟩, width, height, dpi, -⟩ := met
  obtain ⟨width?, widthRead, width⟩ := integer_met width
  obtain ⟨height?, heightRead, height⟩ := integer_met height
  obtain ⟨dpi?, dpiRead, dpi⟩ := integer_met dpi
  refine ⟨named, spec, ⟨width?.getD 1024, height?.getD 768, dpi?.getD 96,
    request.audio, request.video, request.image, request.timezone?⟩, first,
    there, ?_, ?_⟩
  · exact ⟨width 1024, height 768, dpi 96, parameterValues_eq _ _,
      parameterValues_eq _ _, parameterValues_eq _ _,
      fun zone => parameter?_eq_some_iff⟩
  · rw [plan_named (tunnelType_met type) first there, clientInfo,
      TunnelRequest.width, widthRead, TunnelRequest.height, heightRead,
      TunnelRequest.dpi, dpiRead]
    rfl

theorem plan_refuses {error : RelayError}
    (refuses : Demand.Refuses connector.connections request Demand.all error) :
    connector.plan request = .error error := by
  unfold Demand.all at refuses
  cases refuses with
  | here unmet =>
      unfold plan
      rw [tunnelType_unmet unmet]
      rfl
  | behind type refuses =>
      have typed := tunnelType_met type
      cases refuses with
      | here unmet =>
          unfold plan identifier
          rw [typed]
          cases unmet with
          | unnamed lacks =>
              rw [required_lacks lacks]
              rfl
          | unknown first missing =>
              rw [required_first first]
              simp only [bind, Except.bind, missing]
      | behind named refuses =>
          obtain ⟨named, spec, first, there⟩ := named
          rw [plan_named typed first there, clientInfo, TunnelRequest.width,
            TunnelRequest.height, TunnelRequest.dpi]
          cases refuses with
          | here unmet =>
              rw [integer_unmet unmet]
              rfl
          | behind width refuses =>
              obtain ⟨width?, widthRead, -⟩ := integer_met width
              rw [widthRead]
              cases refuses with
              | here unmet =>
                  rw [integer_unmet unmet]
                  rfl
              | behind height refuses =>
                  obtain ⟨height?, heightRead, -⟩ := integer_met height
                  rw [heightRead]
                  cases refuses with
                  | here unmet =>
                      rw [integer_unmet unmet]
                      rfl
                  | behind dpi refuses => cases refuses

/-! ### The same request in other words -/

end Connector

end Guacd

namespace TunnelRequest

def singleNames : List String :=
  ["GUAC_TYPE", "GUAC_ID", "GUAC_WIDTH", "GUAC_HEIGHT", "GUAC_DPI",
    "GUAC_TIMEZONE"]

def multipleNames : List String :=
  ["GUAC_AUDIO", "GUAC_VIDEO", "GUAC_IMAGE"]

/-- Two lists of parameters that say the same. -/
inductive Rephrases :
    List (String × String) → List (String × String) → Prop
  /-- A parameter with another name comes in. -/
  | added (before behind : List (String × String)) {name : String}
      (value : String) (other : name ∉ singleNames ++ multipleNames) :
      Rephrases (before ++ behind) (before ++ (name, value) :: behind)
  /-- A single parameter comes in again, behind its first value. -/
  | repeated {before : List (String × String)} (behind : List (String × String))
      {name first : String} (value : String) (single : name ∈ singleNames)
      (given : (name, first) ∈ before) :
      Rephrases (before ++ behind) (before ++ (name, value) :: behind)
  /-- Parameters change places, but not those of one name. -/
  | reordered {one other : List (String × String)}
      (same : ∀ name, one.filter (·.1 == name) = other.filter (·.1 == name)) :
      Rephrases one other

/-- Two requests say the same as far as anybody listens. -/
structure Agrees (one other : TunnelRequest) : Prop where
  single : ∀ name ∈ singleNames, one.parameter? name = other.parameter? name
  multiple : ∀ name ∈ multipleNames,
    one.parameterValues name = other.parameterValues name

theorem parameter?_insert {before behind : List (String × String)}
    {name other : String} (value : String)
    (apart : name ≠ other ∨ ∃ first, (name, first) ∈ before) :
    parameter? ⟨before ++ behind⟩ other =
      parameter? ⟨before ++ (name, value) :: behind⟩ other := by
  unfold parameter?
  rw [List.find?_append, List.find?_append, List.find?_cons]
  by_cases same : name = other
  · subst same
    obtain different | ⟨first, member⟩ := apart
    · exact absurd rfl different
    · cases found : before.find? (·.1 == name) with
      | none =>
          have missing := List.find?_eq_none.mp found _ member
          exact absurd (beq_self_eq_true name) missing
      | some entry => rfl
  · rw [beq_false_of_ne same]

theorem parameterValues_insert {before behind : List (String × String)}
    {name other : String} (value : String) (apart : name ≠ other) :
    parameterValues ⟨before ++ behind⟩ other =
      parameterValues ⟨before ++ (name, value) :: behind⟩ other := by
  unfold parameterValues
  rw [List.filter_append, List.filter_append, List.filter_cons,
    if_neg (by simpa using apart)]

theorem Rephrases.agrees {one other : List (String × String)}
    (rephrases : Rephrases one other) : Agrees ⟨one⟩ ⟨other⟩ := by
  cases rephrases with
  | added before behind value foreign =>
      rw [List.mem_append, not_or] at foreign
      constructor
      · intro other listed
        refine parameter?_insert value (.inl ?_)
        rintro rfl
        exact foreign.1 listed
      · intro other listed
        refine parameterValues_insert value ?_
        rintro rfl
        exact foreign.2 listed
  | @repeated before behind name first value single given =>
      constructor
      · intro other listed
        exact parameter?_insert value (.inr ⟨first, given⟩)
      · intro other listed
        refine parameterValues_insert value ?_
        rintro rfl
        -- no name is both single and multiple
        revert single listed
        unfold singleNames multipleNames
        simp only [List.mem_cons, List.not_mem_nil, or_false]
        rintro (rfl | rfl | rfl | rfl | rfl | rfl) <;> decide
  | reordered same =>
      constructor
      · intro name listed
        unfold parameter?
        rw [← List.head?_filter, ← List.head?_filter, same]
      · intro name listed
        exact congrArg (List.map (·.2)) (same name)

variable {one other : TunnelRequest}

theorem Agrees.integer (agrees : Agrees one other) {name : String}
    (single : name ∈ singleNames) : one.integer name = other.integer name := by
  unfold TunnelRequest.integer
  rw [agrees.single name single]

theorem Agrees.required (agrees : Agrees one other) {name : String}
    (single : name ∈ singleNames) :
    one.required name = other.required name := by
  unfold TunnelRequest.required
  rw [agrees.single name single]

theorem Agrees.clientInfo (agrees : Agrees one other) :
    one.clientInfo = other.clientInfo := by
  have single : ∀ name ∈ singleNames, one.integer name = other.integer name :=
    fun name => agrees.integer
  have multiple := agrees.multiple
  have zone := agrees.single "GUAC_TIMEZONE" (by decide)
  simp only [singleNames, multipleNames, List.forall_mem_cons] at single multiple
  obtain ⟨-, -, width, height, dpi, -⟩ := single
  obtain ⟨audio, video, image, -⟩ := multiple
  simp only [TunnelRequest.clientInfo, TunnelRequest.width,
    TunnelRequest.height, TunnelRequest.dpi, TunnelRequest.audio,
    TunnelRequest.video, TunnelRequest.image, timezone?, width, height, dpi,
    audio, video, image, zone]

end TunnelRequest

namespace Guacd

/-- The request has been taken to guacd, whatever has come of that. -/
def Connected.Contacted {σ : Type} : Connected σ → Prop
  | .refused _ => False
  | .unreached _ | .reached _ => True

namespace Connector

open TunnelRequest

variable {connector : Connector} {one other : TunnelRequest}

theorem plan_agrees (agrees : Agrees one other) :
    connector.plan one = connector.plan other := by
  have type : one.required "GUAC_TYPE" = other.required "GUAC_TYPE" :=
    agrees.required (by decide)
  have named : one.required "GUAC_ID" = other.required "GUAC_ID" :=
    agrees.required (by decide)
  simp only [plan, tunnelType, identifier, type, named, agrees.clientInfo]

theorem plan_rephrased {parameters others : List (String × String)}
    (rephrased : Relation.EqvGen Rephrases parameters others) :
    connector.plan ⟨parameters⟩ = connector.plan ⟨others⟩ := by
  induction rephrased with
  | rel one other rephrases => exact plan_agrees rephrases.agrees
  | refl one => rfl
  | symm one other _ ih => exact ih.symm
  | trans one middle other _ _ first second => exact first.trans second

variable {request : TunnelRequest} {σ : Type} [Connection σ]

theorem connect_planned {spec : ConnectionSpec} {info : ClientInfo}
    (planned : connector.plan request = .ok (spec, info))
    (dial : (address : String) → Except DialFailure σ) (uuid : Uuid) :
    connector.connect dial uuid request =
      match dial connector.address with
      | .error failure => .unreached (failure.error connector.address)
      | .ok stream => .reached (establish uuid spec info stream) := by
  cases reached : dial connector.address with
  | error failure => simp only [connect, planned, reached]
  | ok stream => simp only [connect, planned, reached]

theorem connect_unplanned {error : RelayError}
    (unplanned : connector.plan request = .error error)
    (dial : (address : String) → Except DialFailure σ) (uuid : Uuid) :
    connector.connect dial uuid request = .refused error := by
  simp only [connect, unplanned]

theorem connect_rephrased {parameters others : List (String × String)}
    (rephrased : Relation.EqvGen Rephrases parameters others)
    (dial : (address : String) → Except DialFailure σ) (uuid : Uuid) :
    connector.connect dial uuid ⟨parameters⟩ =
      connector.connect dial uuid ⟨others⟩ := by
  simp only [connect, plan_rephrased rephrased]

theorem connect_met
    (met : ∀ demand ∈ Demand.all, demand.Met connector.connections request) :
    ∃ named spec info, request.First "GUAC_ID" named ∧
      connector.connections.lookup named = some spec ∧
      info.Describes request ∧
      ∀ (σ : Type) [Connection σ] (dial : String → Except DialFailure σ)
        (uuid : Uuid), connector.connect dial uuid request =
          match dial connector.address with
          | .error failure => .unreached (failure.error connector.address)
          | .ok stream => .reached (establish uuid spec info stream) := by
  obtain ⟨named, spec, info, first, there, describes, planned⟩ := plan_met met
  exact ⟨named, spec, info, first, there, describes,
    fun σ _ dial uuid => connect_planned planned dial uuid⟩

theorem connect_unmet
    (unmet : ¬ ∀ demand ∈ Demand.all,
      demand.Met connector.connections request) :
    ∃ error,
      Demand.Refuses connector.connections request Demand.all error ∧
        ∀ (σ : Type) [Connection σ] (dial : String → Except DialFailure σ)
          (uuid : Uuid),
          connector.connect dial uuid request = .refused error := by
  obtain met | ⟨error, refuses⟩ := Demand.met_or_refuses Demand.all
  · exact absurd met unmet
  · exact ⟨error, refuses, fun σ _ dial uuid =>
      connect_unplanned (plan_refuses refuses) dial uuid⟩

theorem contacted_iff (dial : (address : String) → Except DialFailure σ)
    (uuid : Uuid) : (connector.connect dial uuid request).Contacted ↔
      ∀ demand ∈ Demand.all, demand.Met connector.connections request := by
  constructor
  · intro contacted
    by_contra unmet
    obtain ⟨error, -, refused⟩ := connect_unmet unmet
    rw [refused] at contacted
    exact contacted
  · intro met
    obtain ⟨named, spec, info, -, -, -, taken⟩ := connect_met met
    rw [taken]
    cases dial connector.address <;> trivial

omit [Connection σ] in
theorem ofConfig_made {config : RelayConfig}
    {roots : (path : String) → Except Tls.TrustError Tls.Trust}
    (made : ofConfig config roots = .ok connector) :
    connector.connections = config.connections ∧
      connector.address =
        config.guacd.host ++ ":" ++ toString config.guacd.port := by
  simp only [ofConfig] at made
  cases secured : config.guacd.ssl with
  | false =>
      simp only [secured, bind, Except.bind, pure, Except.pure] at made
      cases made
      exact ⟨rfl, rfl⟩
  | true =>
      simp only [secured, if_true] at made
      cases trusted : config.guacd.caFile.elim (.ok .publicRoots) roots with
      | error untrusted =>
          rw [trusted] at made
          cases made
      | ok trust =>
          rw [trusted] at made
          cases made
          exact ⟨rfl, rfl⟩

/-- Guacd is contacted if and only if a request meets all demands: its type is
`c`, it names a configured connection, and the numbers that it gives are below
2^32. Then it is contacted at its address, and asked for the configured protocol
and parameters of the connection that is named, for a browser as the request
describes it. Otherwise nothing is opened, whatever is at guacd's place: the
first demand that is not met decides the error, which tells of a bad request,
or of a connection that does not exist. A request in other words comes to the
same in all this. -/
theorem contact_demanded {config : RelayConfig}
    {roots : (path : String) → Except Tls.TrustError Tls.Trust}
    {connector : Connector} (made : ofConfig config roots = .ok connector)
    (request : TunnelRequest) :
    let connections := config.connections
    let address := config.guacd.host ++ ":" ++ toString config.guacd.port
    (∀ (σ : Type) [Connection σ] (dial : String → Except DialFailure σ)
        (uuid : Uuid), (connector.connect dial uuid request).Contacted ↔
          ∀ demand ∈ Demand.all, demand.Met connections request) ∧
      ((∀ demand ∈ Demand.all, demand.Met connections request) →
        ∃ named spec info, request.First "GUAC_ID" named ∧
          connections.lookup named = some spec ∧ info.Describes request ∧
          ∀ (σ : Type) [Connection σ] (dial : String → Except DialFailure σ)
            (uuid : Uuid), connector.connect dial uuid request =
              match dial address with
              | .error failure => .unreached (failure.error address)
              | .ok stream => .reached (establish uuid spec info stream)) ∧
      ((¬ ∀ demand ∈ Demand.all, demand.Met connections request) →
        ∃ error, Demand.Refuses connections request Demand.all error ∧
          (error.status = .clientBadRequest ∧ error.isClientError = true ∨
            error.status = .resourceNotFound ∧
              ∃ named, request.First "GUAC_ID" named ∧
                connections.lookup named = none) ∧
          ∀ (σ : Type) [Connection σ] (dial : String → Except DialFailure σ)
            (uuid : Uuid),
            connector.connect dial uuid request = .refused error) ∧
      ∀ others, Relation.EqvGen Rephrases request.parameters others →
        ∀ (σ : Type) [Connection σ] (dial : String → Except DialFailure σ)
          (uuid : Uuid), connector.connect dial uuid request =
            connector.connect dial uuid ⟨others⟩ := by
  obtain ⟨same, reached⟩ := ofConfig_made made
  rw [← same, ← reached]
  refine ⟨fun σ _ => contacted_iff, connect_met, ?_, ?_⟩
  · intro unmet
    obtain ⟨error, refuses, refused⟩ := connect_unmet unmet
    refine ⟨error, refuses, ?_, refused⟩
    obtain status | unknown := refuses.status
    · refine .inl ⟨status, ?_⟩
      rw [RelayError.isClientError, status]
      rfl
    · exact .inr unknown
  · intro others rephrased σ _ dial uuid
    exact connect_rephrased rephrased dial uuid

/-- A second identifier and a parameter that nobody knows are no obstacle. A
width that is no number is one, and guacd hears nothing of it. -/
theorem contact_demanded_repeated :
    let config : RelayConfig :=
      { connections := [("desktop", { protocol := "vnc" })] }
    let asked : TunnelRequest := ⟨[("GUAC_ID", "desktop"),
      ("GUAC_WIDTH", "0800"), ("theme", "dark"), ("GUAC_TYPE", "c"),
      ("GUAC_ID", "server")]⟩
    let wide : TunnelRequest := ⟨[("GUAC_WIDTH", "wide"),
      ("GUAC_TYPE", "c"), ("GUAC_ID", "desktop"), ("GUAC_WIDTH", "0800")]⟩
    ∃ connector, ofConfig config (fun _ => .ok .publicRoots) = .ok connector ∧
      ∀ (dial : String → Except DialFailure Link) (uuid : Uuid),
        (connector.connect dial uuid asked).Contacted ∧
        ¬ (connector.connect dial uuid wide).Contacted := by
  intro config asked wide
  have made : ofConfig config (fun _ => .ok .publicRoots) =
      .ok ⟨"localhost", 4822, none, config.connections⟩ := rfl
  refine ⟨_, made, ?_⟩
  intro dial uuid
  constructor
  · refine ((contact_demanded made asked).1 Link dial uuid).mpr ?_
    simp only [Demand.all, List.forall_mem_cons]
    refine ⟨parameter?_eq_some_iff.mp rfl,
      ⟨"desktop", { protocol := "vnc" }, parameter?_eq_some_iff.mp rfl, rfl⟩,
      ?_, ?_, ?_, nofun⟩
    · intro value first
      cases parameter?_eq_some_iff.mpr first
      have read : parseUnsigned? integerLimit "0800" = some 800 := by decide
      exact ⟨800, ((parseUnsigned?_iff _ _ _).mp read).1, by decide⟩
    · intro value first
      cases parameter?_eq_some_iff.mpr first
    · intro value first
      cases parameter?_eq_some_iff.mpr first
  · rw [(contact_demanded made wide).1 Link dial uuid]
    intro met
    obtain ⟨number, denotes, small⟩ :=
      met (.integer "GUAC_WIDTH") (by simp [Demand.all]) "wide"
        (parameter?_eq_some_iff.mp rfl)
    have read : parseUnsigned? integerLimit "wide" = some number :=
      (parseUnsigned?_iff _ _ _).mpr ⟨denotes, Nat.le_pred_of_lt small⟩
    have unread : parseUnsigned? integerLimit "wide" = none := by decide
    rw [unread] at read
    cases read

end Connector

end Guacd

end TunnelRelay
