import ThreatScope.Integrations.Records
import ThreatScope.Library.Runs

/-!
# The rate of inbound requests

`rate_limit.py`. A request to an endpoint takes one unit of three counters in turn: the
global one, that of the endpoint and that of its source at the endpoint. Each counter has a
row for each window, and each unit is committed before the next counter is asked. A request
that one counter refuses has used up a unit of the counters before it.

So a request is accepted exactly when fewer requests than the limit have *passed* each of
its counters in the current window, where the global counter and that of the endpoint are
also passed by requests that a later counter refuses.
-/

set_option autoImplicit false

namespace ThreatScope.Integrations

open Library AccessControl

/-! ## Counters -/

/-- The scope of a counter. -/
inductive Scope where
  | endpoint
  | source
  | global
  | invalid
  | signature
  | replay
deriving DecidableEq

/-- The scope as it is stored. -/
def Scope.text : Scope → String
  | .endpoint => "endpoint"
  | .source => "source"
  | .global => "global"
  | .invalid => "invalid"
  | .signature => "signature"
  | .replay => "replay"

/-- `DEFAULT_LIMITS`: the limit and the window in seconds. -/
def defaultLimits : Scope → Int × Int
  | .endpoint => (60, 60)
  | .source => (30, 60)
  | .global => (300, 60)
  | .invalid => (20, 300)
  | .signature => (10, 300)
  | .replay => (5, 300)

/-- What tells the rows of `integration_inbound_rate_counters` apart. -/
structure CounterId where
  scope : Scope
  keyHash : String
  bucketStart : Int
deriving DecidableEq

/-- A row of `integration_inbound_rate_counters`. -/
structure ConnectorInboundRateCounter extends CounterId where
  windowSeconds : Int
  requestCount : Nat
  expiresAt : Instant

/-- What the counters take from the Python runtime. -/
structure RateRuntime where
  /-- `hashlib.sha256(text.encode()).hexdigest()`. -/
  sha256 : String → String
  /-- `str.casefold` beyond ASCII. -/
  foldTable : Char → List Char

/-- `RateLimitExceeded`, with the counter that was full. -/
structure RateLimitExceeded where
  scope : Scope
  retryAfter : Int
deriving DecidableEq

/-- `(source or "unknown").strip().casefold()`. -/
def normalSource (env : RateRuntime) (source : Option String) : String :=
  Text.casefold env.foldTable
    (Text.strip (match source with
      | some source => if source = "" then "unknown" else source
      | none => "unknown"))

def sourceKey (env : RateRuntime) (source : Option String) : String :=
  env.sha256 ("integration-inbound-source-v1:" ++ normalSource env source)

/-- What a counter is kept for, as `_key` writes it. -/
def Scope.raw (scope : Scope) (endpointId : Nat) (sourceHash : String) : String :=
  match scope with
  | .global => "global"
  | .endpoint => toString endpointId ++ ":" ++ "endpoint"
  | .source | .signature | .replay | .invalid => toString endpointId ++ ":" ++ sourceHash

/-- `_key`, where a missing endpoint is number zero. -/
def rateKey (env : RateRuntime) (scope : Scope) (endpointId : Nat) (sourceHash : String) :
    String :=
  env.sha256 ("integration-rate-v1:" ++ scope.text ++ ":" ++ scope.raw endpointId sourceHash)

/-- A limit or a window within its bounds: zero stands for the default. -/
def bounded (configured default greatest : Int) : Int :=
  min (max (if configured = 0 then default else configured) 1) greatest

/-- The limits of a call, by scope. -/
abbrev Limits := Scope → Option (Int × Int)

/-- The limit that `consume` applies. -/
def Limits.limit (limits : Limits) (scope : Scope) : Int :=
  bounded ((limits scope).getD (defaultLimits scope)).1 (defaultLimits scope).1 1000

/-- The window that `consume` applies, in seconds. -/
def Limits.window (limits : Limits) (scope : Scope) : Int :=
  bounded ((limits scope).getD (defaultLimits scope)).2 (defaultLimits scope).2 300

/-- `int(instant // window) * window`, for the whole seconds of the clock. -/
def bucketStart (now window : Int) : Int := now / window * window

/-- `insert .. on conflict do update .. where request_count < limit`: the rows afterwards,
none when no row was written. -/
def takeUnit (new : ConnectorInboundRateCounter) (limit : Int) :
    List ConnectorInboundRateCounter → Option (List ConnectorInboundRateCounter)
  | [] => some [new]
  | row :: rest =>
    if row.toCounterId = new.toCounterId then
      if row.requestCount < limit then
        some ({ row with
          requestCount := row.requestCount + 1
          expiresAt := new.expiresAt } :: rest)
      else none
    else (takeUnit new limit rest).map (row :: ·)

/-- The counter that a call uses. -/
def counterOf (env : RateRuntime) (limits : Limits) (scope : Scope) (endpointId : Nat)
    (sourceHash : String) (now : Int) : CounterId where
  scope
  keyHash := rateKey env scope endpointId sourceHash
  bucketStart := bucketStart now (limits.window scope)

/-- The row of a counter after its first unit. -/
def firstUnit (id : CounterId) (window : Int) : ConnectorInboundRateCounter where
  toCounterId := id
  windowSeconds := window
  requestCount := 1
  expiresAt := id.bucketStart * 1000000 + 2 * window * 1000000

def consume (env : RateRuntime) (limits : Limits) (rows : List ConnectorInboundRateCounter)
    (scope : Scope) (endpointId : Nat) (sourceHash : String) (now : Int) :
    Except RateLimitExceeded (List ConnectorInboundRateCounter) :=
  let id := counterOf env limits scope endpointId sourceHash now
  match takeUnit (firstUnit id (limits.window scope)) (limits.limit scope) rows with
  | some after => .ok after
  | none => .error ⟨scope, min 300 (max 1 (id.bucketStart + limits.window scope - now))⟩

/-- The counters in turn, each committed before the next. -/
def consumeAll (env : RateRuntime) (limits : Limits) (endpointId : Nat) (sourceHash : String)
    (now : Int) : List Scope → List ConnectorInboundRateCounter →
      List ConnectorInboundRateCounter × Except RateLimitExceeded String
  | [], rows => (rows, .ok sourceHash)
  | scope :: rest, rows =>
    match consume env limits rows scope endpointId sourceHash now with
    | .error refusal => (rows, .error refusal)
    | .ok after => consumeAll env limits endpointId sourceHash now rest after

/-- A request that reaches an endpoint. -/
structure RateRequest where
  endpointId : Nat
  source : Option String
  now : Int

def enforceRequest (env : RateRuntime) (limits : Limits)
    (rows : List ConnectorInboundRateCounter) (request : RateRequest) :
    List ConnectorInboundRateCounter × Except RateLimitExceeded String :=
  consumeAll env limits request.endpointId (sourceKey env request.source) request.now
    [.global, .endpoint, .source] rows

/-! ## What a counter reads -/

/-- The units that a counter has given out. -/
def reading (rows : List ConnectorInboundRateCounter) (id : CounterId) : Nat :=
  match rows.find? fun row => decide (row.toCounterId = id) with
  | some row => row.requestCount
  | none => 0

section Readings

variable {env : RateRuntime} {limits : Limits} {rows after : List ConnectorInboundRateCounter}

theorem reading_cons (row : ConnectorInboundRateCounter) (id : CounterId) :
    reading (row :: rows) id =
      if row.toCounterId = id then row.requestCount else reading rows id := by
  unfold reading
  by_cases here : row.toCounterId = id
  · simp only [List.find?_cons, here, decide_true, if_true]
  · simp only [List.find?_cons, here, decide_false, if_false]

/-- A unit is refused at the limit and counted below it. -/
theorem takeUnit_spec {new : ConnectorInboundRateCounter} {limit : Int} (positive : 0 < limit)
    (first : new.requestCount = 1) (rows : List ConnectorInboundRateCounter) :
    (limit ≤ reading rows new.toCounterId ∧ takeUnit new limit rows = none) ∨
      (reading rows new.toCounterId < limit ∧ ∃ after, takeUnit new limit rows = some after ∧
        ∀ id, reading after id = reading rows id + if new.toCounterId = id then 1 else 0) := by
  induction rows with
  | nil =>
    refine .inr ⟨positive, [new], rfl, fun id => ?_⟩
    rw [reading_cons, first]
    split <;> rfl
  | cons row rest ih =>
    rw [reading_cons]
    unfold takeUnit
    by_cases here : row.toCounterId = new.toCounterId
    · rw [if_pos here, if_pos here]
      by_cases room : (row.requestCount : Int) < limit
      · refine .inr ⟨room, _, if_pos room, fun id => ?_⟩
        rw [reading_cons, reading_cons, ← here]
        split <;> rfl
      · exact .inl ⟨not_lt.mp room, if_neg room⟩
    · rw [if_neg here, if_neg here]
      rcases ih with ⟨full, refused⟩ | ⟨room, after, taken, counts⟩
      · exact .inl ⟨full, by rw [refused, Option.map_none]⟩
      · refine .inr ⟨room, row :: after, by rw [taken, Option.map_some], fun id => ?_⟩
        rw [reading_cons, reading_cons, counts]
        split
        · rename_i same
          rw [if_neg fun other => here (same.trans other.symm)]
          rfl
        · rfl

theorem bounded_pos {configured default greatest : Int} (positive : 0 < greatest) :
    0 < bounded configured default greatest :=
  lt_min (lt_of_lt_of_le Int.one_pos (le_max_right _ _)) positive

theorem consume_cases (env : RateRuntime) (limits : Limits)
    (rows : List ConnectorInboundRateCounter) (scope : Scope) (endpointId : Nat)
    (sourceHash : String) (now : Int) :
    (limits.limit scope ≤ reading rows (counterOf env limits scope endpointId sourceHash now) ∧
      ∃ retryAfter, consume env limits rows scope endpointId sourceHash now =
        .error ⟨scope, retryAfter⟩) ∨
    (reading rows (counterOf env limits scope endpointId sourceHash now) < limits.limit scope ∧
      ∃ after, consume env limits rows scope endpointId sourceHash now = .ok after ∧
        ∀ id, reading after id = reading rows id +
          if counterOf env limits scope endpointId sourceHash now = id then 1 else 0) := by
  have positive : 0 < limits.limit scope := bounded_pos (by decide)
  unfold consume
  dsimp only
  have first : (firstUnit (counterOf env limits scope endpointId sourceHash now)
    (limits.window scope)).requestCount = 1 := rfl
  rcases takeUnit_spec positive first rows with ⟨full, refused⟩ | ⟨room, after, taken, counts⟩
  · exact .inl ⟨full, _, by rw [refused]⟩
  · exact .inr ⟨room, after, by rw [taken], counts⟩

/-- The counter of a request in a scope. -/
def RateRequest.counter (env : RateRuntime) (limits : Limits) (request : RateRequest)
    (scope : Scope) : CounterId :=
  counterOf env limits scope request.endpointId (sourceKey env request.source) request.now

/-- The place of a scope in the order of the counters. -/
def Scope.rank : Scope → Nat
  | .global => 0
  | .endpoint => 1
  | .source => 2
  | _ => 3

/-- A request has passed a counter: it was accepted, or a later counter refused it. -/
def passed (scope : Scope) : Except RateLimitExceeded String → Bool
  | .ok _ => true
  | .error refusal => decide (scope.rank < refusal.scope.rank)

/-- What taking a unit of each of several counters does, which are in order. -/
structure Consumes (env : RateRuntime) (limits : Limits) (request : RateRequest)
    (scopes : List Scope) (rows : List ConnectorInboundRateCounter)
    (result : List ConnectorInboundRateCounter × Except RateLimitExceeded String) : Prop where
  accepts : (∃ hashed, result.2 = .ok hashed) ↔
    ∀ scope ∈ scopes, reading rows (request.counter env limits scope) < limits.limit scope
  refuses : ∀ refusal, result.2 = .error refusal → refusal.scope ∈ scopes
  others : ∀ id : CounterId, id.scope ∉ scopes → reading result.1 id = reading rows id
  counts : ∀ id : CounterId, id.scope ∈ scopes → reading result.1 id = reading rows id +
    if request.counter env limits id.scope = id ∧ passed id.scope result.2 = true then 1 else 0

/-- **What a request does.** It is accepted when all its counters are below their limits,
and it leaves a unit in each counter it has passed. -/
theorem consumes_consumeAll (request : RateRequest) {scopes : List Scope}
    (ordered : scopes.Pairwise fun first second => first.rank < second.rank) :
    ∀ rows, Consumes env limits request scopes rows
      (consumeAll env limits request.endpointId (sourceKey env request.source) request.now
        scopes rows) := by
  induction scopes with
  | nil =>
    intro rows
    refine ⟨⟨fun _ _ member => ?_, fun _ => ⟨_, rfl⟩⟩, fun refusal refused => ?_,
      fun _ _ => rfl, fun id member => ?_⟩
    · cases member
    · cases refused
    · cases member
  | cons scope rest ih =>
    intro rows
    rw [List.pairwise_cons] at ordered
    have fresh : scope ∉ rest := fun member => lt_irrefl _ (ordered.1 scope member)
    unfold consumeAll
    rcases consume_cases env limits rows scope request.endpointId
      (sourceKey env request.source) request.now with
      ⟨full, retryAfter, refused⟩ | ⟨room, after, taken, units⟩
    · rw [refused]
      refine ⟨⟨fun ⟨_, accepted⟩ => (by cases accepted), fun below => ?_⟩,
        fun refusal same => ?_, fun _ _ => rfl, fun id member => ?_⟩
      · exact absurd (below scope (List.mem_cons_self ..)) (not_lt.mpr full)
      · cases same
        exact List.mem_cons_self ..
      · have behind : scope.rank ≤ id.scope.rank := by
          rcases List.mem_cons.mp member with here | later
          · rw [here]
          · exact (ordered.1 _ later).le
        rw [if_neg, Nat.add_zero]
        rintro ⟨-, passes⟩
        exact absurd (of_decide_eq_true passes) (not_lt.mpr behind)
    · rw [taken]
      obtain ⟨accepts, refuses, others, counts⟩ := ih ordered.2 after
      have elsewhere : ∀ id : CounterId, id.scope ≠ scope → reading after id = reading rows id := by
        intro id apart
        rw [units, if_neg, Nat.add_zero]
        exact fun same => apart (congrArg CounterId.scope same).symm
      refine ⟨accepts.trans ⟨fun below other member => ?_, fun below other member => ?_⟩,
        fun refusal same => List.mem_cons_of_mem _ (refuses refusal same), fun id outside => ?_,
        fun id member => ?_⟩
      · rcases List.mem_cons.mp member with rfl | later
        · exact room
        · have unchanged := elsewhere (request.counter env limits other)
            (fun same => fresh (same ▸ later))
          exact unchanged ▸ below other later
      · rw [elsewhere (request.counter env limits other) (fun same => fresh (same ▸ member))]
        exact below other (List.mem_cons_of_mem _ member)
      · rw [List.mem_cons, not_or] at outside
        rw [others id outside.2, elsewhere id outside.1]
      · rcases List.mem_cons.mp member with here | later
        · rw [others id (here ▸ fresh), units, here]
          refine congrArg _ (if_congr (iff_self_and.mpr fun _ => ?_) rfl rfl)
          cases verdict : (consumeAll env limits request.endpointId
              (sourceKey env request.source) request.now rest after).2 with
          | ok hashed => rfl
          | error refusal => exact decide_eq_true (ordered.1 _ (refuses refusal verdict))
        · rw [counts id later, elsewhere id fun same => fresh (same ▸ later)]

/-- The counters of `enforce_request`. -/
def requestScopes : List Scope := [.global, .endpoint, .source]

theorem consumes_enforceRequest (rows : List ConnectorInboundRateCounter) (request : RateRequest) :
    Consumes env limits request requestScopes rows
      (enforceRequest env limits rows request) :=
  consumes_consumeAll request (by decide) rows

end Readings

/-! ## Runs -/

/-- The rows after a request. -/
def nextRows (env : RateRuntime) (limits : Limits) (rows : List ConnectorInboundRateCounter)
    (request : RateRequest) : List ConnectorInboundRateCounter :=
  (enforceRequest env limits rows request).1

/-- The rows after a sequence of requests. -/
def rowsAfter (env : RateRuntime) (limits : Limits) (past : List RateRequest) :
    List ConnectorInboundRateCounter :=
  final (nextRows env limits) [] past

/-- The answers to a sequence of requests, with the requests. -/
def answers (env : RateRuntime) (limits : Limits) (past : List RateRequest) :
    List (RateRequest × Except RateLimitExceeded String) :=
  (trace (nextRows env limits) [] past).map fun move =>
    (move.input, (enforceRequest env limits move.before move.input).2)

/-- Two requests use the same counter of a scope: they fall into the same window, and have
what the counter is kept for in common. -/
def RateRequest.shares (env : RateRuntime) (limits : Limits) (scope : Scope)
    (request other : RateRequest) : Bool :=
  bucketStart other.now (limits.window scope) == bucketStart request.now (limits.window scope) &&
    match scope with
    | .global => true
    | .endpoint => other.endpointId == request.endpointId
    | _ => other.endpointId == request.endpointId &&
        normalSource env other.source == normalSource env request.source

/-- How many earlier requests that use a counter have an answer of some kind. -/
def earlier (env : RateRuntime) (limits : Limits) (past : List RateRequest)
    (request : RateRequest) (scope : Scope) (kind : Except RateLimitExceeded String → Bool) : Nat :=
  (answers env limits past).countP fun answer =>
    request.shares env limits scope answer.1 && kind answer.2

section Runs

variable {env : RateRuntime} {limits : Limits}

theorem rateKey_injective (injective : Function.Injective env.sha256) {scope : Scope}
    {first second : Nat} {one other : String}
    (same : rateKey env scope first one = rateKey env scope second other) :
    scope.raw first one = scope.raw second other := by
  have texts := congrArg String.toList (injective same)
  simp only [String.toList_append] at texts
  exact String.toList_injective (List.append_cancel_left texts)

theorem eq_of_numbered {first second : Nat} {one other : String}
    (same : toString first ++ ":" ++ one = toString second ++ ":" ++ other) :
    first = second ∧ one = other := by
  have texts := congrArg String.toList same
  simp only [String.toList_append, toList_toString, List.append_assoc] at texts
  obtain ⟨digits, rest⟩ := eq_of_append_cons texts (colon_toDigits first) (colon_toDigits second)
  exact ⟨toDigits_injective digits, String.toList_injective rest⟩

theorem sourceKey_injective (injective : Function.Injective env.sha256)
    {first second : Option String} (same : sourceKey env first = sourceKey env second) :
    normalSource env first = normalSource env second := by
  have texts := congrArg String.toList (injective same)
  simp only [String.toList_append] at texts
  exact String.toList_injective (List.append_cancel_left texts)

theorem counter_eq_iff (injective : Function.Injective env.sha256) {scope : Scope}
    (request other : RateRequest) :
    other.counter env limits scope = request.counter env limits scope ↔
      request.shares env limits scope other = true := by
  unfold RateRequest.counter counterOf RateRequest.shares
  rw [CounterId.mk.injEq, Bool.and_eq_true, beq_iff_eq]
  constructor
  · rintro ⟨-, keys, buckets⟩
    have raws := rateKey_injective injective keys
    refine ⟨buckets, ?_⟩
    cases scope with
    | global => rfl
    | endpoint => exact beq_iff_eq.mpr (eq_of_numbered raws).1
    | _ =>
      obtain ⟨endpoints, hashes⟩ := eq_of_numbered raws
      exact Bool.and_eq_true_iff.mpr ⟨beq_iff_eq.mpr endpoints,
        beq_iff_eq.mpr (sourceKey_injective injective hashes)⟩
  · rintro ⟨buckets, shared⟩
    refine ⟨rfl, congrArg (fun raw => env.sha256 ("integration-rate-v1:" ++ scope.text ++ ":" ++
      raw)) ?_, buckets⟩
    cases scope with
    | global => rfl
    | endpoint => simp only [Scope.raw, beq_iff_eq.mp shared]
    | _ =>
      obtain ⟨endpoints, sources⟩ := Bool.and_eq_true_iff.mp shared
      simp only [Scope.raw, sourceKey, beq_iff_eq.mp endpoints, beq_iff_eq.mp sources]

/-- **A counter reads the number of requests that have passed it.** -/
theorem reading_rowsAfter (past : List RateRequest) {id : CounterId}
    (member : id.scope ∈ requestScopes) :
    reading (rowsAfter env limits past) id = (answers env limits past).countP fun answer =>
      decide (answer.1.counter env limits id.scope = id) && passed id.scope answer.2 := by
  unfold rowsAfter answers
  refine run_induction (nextRows env limits)
    (motive := fun past rows => reading rows id = (past.map fun move =>
      (move.input,
        (enforceRequest env limits move.before move.input).2)).countP
        fun answer => decide (answer.1.counter env limits id.scope = id) &&
          passed id.scope answer.2) rfl ?_ past
  intro past rows request counted
  rw [List.map_append, List.countP_append, ← counted, List.map_singleton, List.countP_singleton,
    nextRows, (consumes_enforceRequest rows request).counts id member]
  simp only [Bool.and_eq_true, decide_eq_true_iff]

theorem reading_counter (injective : Function.Injective env.sha256)
    (past : List RateRequest) (request : RateRequest) {scope : Scope}
    (member : scope ∈ requestScopes) :
    reading (rowsAfter env limits past) (request.counter env limits scope) =
      earlier env limits past request scope (passed scope) := by
  rw [reading_rowsAfter past (show (request.counter env limits scope).scope ∈ _ from member)]
  unfold earlier
  refine List.countP_congr fun answer _ => ?_
  rw [Bool.and_eq_true, Bool.and_eq_true, decide_eq_true_iff]
  exact and_congr_left fun _ => counter_eq_iff injective request answer.1

end Runs

/-- **Rate of inbound requests.** A request is accepted exactly when fewer requests than the
limit have passed each of its counters in the current window. A source has passed its own
counter no more often than it has asked; the other two counters are also passed by requests
that the counter of another source refuses. -/
theorem enforce_request_quota (env : RateRuntime)
    (injective : Function.Injective env.sha256) (limits : Limits) (past : List RateRequest)
    (request : RateRequest) :
    ((∃ hashed, (enforceRequest env limits (rowsAfter env limits past) request).2 =
        .ok hashed) ↔
      earlier env limits past request .source (passed .source) < limits.limit .source ∧
      earlier env limits past request .endpoint (passed .endpoint) < limits.limit .endpoint ∧
      earlier env limits past request .global (passed .global) < limits.limit .global) ∧
    earlier env limits past request .source (passed .source) ≤
      earlier env limits past request .source fun _ => true := by
  refine ⟨(consumes_enforceRequest _ request).accepts.trans ?_, List.countP_mono_left ?_⟩
  · have counts (scope : Scope) (member : scope ∈ requestScopes) :
        reading (rowsAfter env limits past) (request.counter env limits scope) =
          earlier env limits past request scope (passed scope) :=
      reading_counter injective past request member
    constructor
    · intro below
      refine ⟨?_, ?_, ?_⟩
      · exact counts .source (by decide) ▸ below .source (by decide)
      · exact counts .endpoint (by decide) ▸ below .endpoint (by decide)
      · exact counts .global (by decide) ▸ below .global (by decide)
    · rintro ⟨source, endpoint, overall⟩ scope member
      rw [counts scope member]
      fin_cases member
      · exact overall
      · exact endpoint
      · exact source
  · intro answer _ counted
    rw [Bool.and_eq_true] at counted ⊢
    exact ⟨counted.1, rfl⟩

/-! ## Two sources -/

/-- A runtime whose digest is the text itself. -/
def plainRates : RateRuntime where
  sha256 text := text
  foldTable character := [character]

/-- Three requests in all, two for an endpoint and one for a source, each minute. -/
def smallLimits : Limits
  | .global => some (3, 60)
  | .endpoint => some (2, 60)
  | .source => some (1, 60)
  | _ => none

/-- Two requests of one source to the first endpoint. -/
def insistentSource : List RateRequest :=
  [⟨1, some "203.0.113.1", 1⟩, ⟨1, some "203.0.113.1", 2⟩]

/-- A request of another source to the same endpoint. -/
def patientRequest : RateRequest := ⟨1, some "203.0.113.2", 3⟩

theorem enforce_request_quota_patient :
    ((∃ hashed, (enforceRequest plainRates smallLimits
          (rowsAfter plainRates smallLimits insistentSource) patientRequest).2 = .ok hashed) ↔
      earlier plainRates smallLimits insistentSource patientRequest .source (passed .source) <
        smallLimits.limit .source ∧
      earlier plainRates smallLimits insistentSource patientRequest .endpoint (passed .endpoint) <
        smallLimits.limit .endpoint ∧
      earlier plainRates smallLimits insistentSource patientRequest .global (passed .global) <
        smallLimits.limit .global) ∧
    earlier plainRates smallLimits insistentSource patientRequest .source (passed .source) ≤
      earlier plainRates smallLimits insistentSource patientRequest .source fun _ => true :=
  enforce_request_quota plainRates (fun _ _ same => same) smallLimits insistentSource patientRequest

/-- **A refused source uses up the quota of the endpoint.** The other source has not asked
yet, one request was accepted in all, and its request is refused. -/
theorem quota_used_by_refused :
    earlier plainRates smallLimits insistentSource patientRequest .source (fun _ => true) <
        smallLimits.limit .source ∧
      earlier plainRates smallLimits insistentSource patientRequest .endpoint Except.isOk <
        smallLimits.limit .endpoint ∧
      earlier plainRates smallLimits insistentSource patientRequest .global Except.isOk <
        smallLimits.limit .global ∧
      (enforceRequest plainRates smallLimits (rowsAfter plainRates smallLimits insistentSource)
        patientRequest).2 = .error ⟨.endpoint, 57⟩ := by
  decide +kernel

end ThreatScope.Integrations
