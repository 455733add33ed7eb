import ThreatScope.Integrations.RateLimit
import ThreatScope.Library.FixedWindows

/-!
# The windows of the rate limiter

`consume` and `cleanup` of `rate_limit.py`, called in any order as time goes on. A row of the
counters belongs to a window, and `cleanup` removes it when a whole further window has gone
by. So no row is removed that a later call could still use, and what a row reads is the
number of requests that were accepted in its window (`counted_calls`).

The bounds hold for the limit and the window that `consume` applies (`fixed_windows`). A
call that asks for others, for example for none at all, gets those within their bounds
(`zero_limit_accepts`).
-/

set_option autoImplicit false

namespace ThreatScope.Integrations

open Library AccessControl

/-! ## Calls -/

/-- A call of the limiter. -/
inductive RateCall where
  | consume (scope : Scope) (endpointId : Nat) (sourceHash : String)
  | cleanup

/-- A call and its time in seconds. -/
structure TimedRateCall where
  now : Int
  call : RateCall

/-- `cleanup`: the rows that have not expired. -/
def cleanup (rows : List ConnectorInboundRateCounter) (now : Int) :
    List ConnectorInboundRateCounter :=
  rows.filter fun row => !decide (row.expiresAt < now * 1000000)

/-- The rows after a call. -/
def takeCall (env : RateRuntime) (limits : Limits) (rows : List ConnectorInboundRateCounter)
    (timed : TimedRateCall) : List ConnectorInboundRateCounter :=
  match timed.call with
  | .consume scope endpointId sourceHash =>
    match consume env limits rows scope endpointId sourceHash timed.now with
    | .ok after => after
    | .error _ => rows
  | .cleanup => cleanup rows timed.now

/-- The rows after a sequence of calls. -/
def countersAfter (env : RateRuntime) (limits : Limits) (calls : List TimedRateCall) :
    List ConnectorInboundRateCounter :=
  final (takeCall env limits) [] calls

/-- The time of a call that a counter of a key accepted. -/
def acceptedAt (env : RateRuntime) (limits : Limits) (scope : Scope) (keyHash : String)
    (move : Transition (List ConnectorInboundRateCounter) TimedRateCall) : Option Int :=
  match move.input.call with
  | .consume other endpointId sourceHash =>
    if other = scope ∧ rateKey env other endpointId sourceHash = keyHash ∧
        (consume env limits move.before other endpointId sourceHash
          move.input.now).isOk = true then
      some move.input.now
    else none
  | .cleanup => none

/-- The times of the requests that the counters of a key have accepted. -/
def acceptedTimes (env : RateRuntime) (limits : Limits) (calls : List TimedRateCall)
    (scope : Scope) (keyHash : String) : List Int :=
  (trace (takeCall env limits) [] calls).filterMap (acceptedAt env limits scope keyHash)

/-- How many requests of a key were accepted in a window. -/
def acceptedIn (env : RateRuntime) (limits : Limits) (calls : List TimedRateCall)
    (scope : Scope) (keyHash : String) (window bucket : Int) : Nat :=
  (acceptedTimes env limits calls scope keyHash).countP fun now =>
    decide (windowStart window now = bucket)

/-- The calls come as time goes on. -/
def Ordered (calls : List TimedRateCall) : Prop :=
  calls.Pairwise fun first second => first.now ≤ second.now

/-- The counters of a key keep a limit in fixed windows. -/
structure KeepsWindows (env : RateRuntime) (limits : Limits) (calls : List TimedRateCall)
    (scope : Scope) (keyHash : String) (limit window : Int) : Prop where
  /-- A window accepts no more than the limit. -/
  atMost : ∀ bucket, (acceptedIn env limits calls scope keyHash window bucket : Int) ≤ limit
  /-- An interval of the length of a window, both ends included, has at most twice as many. -/
  sliding : ∀ start : Int,
    ((acceptedTimes env limits calls scope keyHash).countP fun now =>
      decide (start ≤ now ∧ now ≤ start + window) : Int) ≤ 2 * limit
  /-- What is refused comes after as many as the limit, and later than its `Retry-After` is
  another window. -/
  refuses : ∀ past rest endpointId sourceHash now refusal,
    calls = past ++ ⟨now, .consume scope endpointId sourceHash⟩ :: rest →
    rateKey env scope endpointId sourceHash = keyHash →
    consume env limits (countersAfter env limits past) scope endpointId sourceHash now =
      .error refusal →
    (acceptedIn env limits past scope keyHash window (windowStart window now) : Int) = limit ∧
      ∀ later, now + refusal.retryAfter ≤ later →
        windowStart window now < windowStart window later
  /-- The counter of an open window is not removed. -/
  keeps : ∀ past rest now, calls = past ++ ⟨now, .cleanup⟩ :: rest →
    ∀ row ∈ countersAfter env limits past, row.scope = scope → row.keyHash = keyHash →
      now < row.bucketStart + window → row ∈ cleanup (countersAfter env limits past) now

/-! ## What one call does -/

section Steps

variable {env : RateRuntime} {limits : Limits} {rows : List ConnectorInboundRateCounter}

theorem mem_takeUnit {new : ConnectorInboundRateCounter} {limit : Int} :
    ∀ {rows after : List ConnectorInboundRateCounter}, takeUnit new limit rows = some after →
      ∀ row ∈ after, row ∈ rows ∨
        (row.toCounterId = new.toCounterId ∧ row.expiresAt = new.expiresAt) := by
  intro rows
  induction rows with
  | nil =>
    intro after taken row member
    obtain rfl := Option.some.inj taken
    rw [List.mem_singleton.mp member]
    exact .inr ⟨rfl, rfl⟩
  | cons first rest ih =>
    intro after taken row member
    unfold takeUnit at taken
    split at taken
    · rename_i here
      split at taken
      · obtain rfl := Option.some.inj taken
        rcases List.mem_cons.mp member with rfl | later
        · exact .inr ⟨here, rfl⟩
        · exact .inl (List.mem_cons_of_mem _ later)
      · cases taken
    · obtain ⟨others, found, rfl⟩ := Option.map_eq_some_iff.mp taken
      rcases List.mem_cons.mp member with rfl | later
      · exact .inl (List.mem_cons_self ..)
      · exact (ih found row later).imp_left (List.mem_cons_of_mem _)

/-- Every row expires two windows after its start. -/
def Expires (limits : Limits) (rows : List ConnectorInboundRateCounter) : Prop :=
  ∀ row ∈ rows, row.expiresAt = row.bucketStart * 1000000 + 2 * limits.window row.scope * 1000000

theorem expires_takeCall (expires : Expires limits rows) (timed : TimedRateCall) :
    Expires limits (takeCall env limits rows timed) := by
  intro row member
  unfold takeCall at member
  split at member
  · rename_i scope endpointId sourceHash
    split at member
    · rename_i after answer
      unfold consume at answer
      dsimp only at answer
      split at answer
      · rename_i taken
        obtain rfl := Except.ok.inj answer
        rcases mem_takeUnit taken row member with old | ⟨same, expiry⟩
        · exact expires row old
        · rw [expiry, same]
          rfl
      · cases answer
    · exact expires row member
  · exact expires row (List.mem_filter.mp member).1

theorem reading_cleanup (expires : Expires limits rows) {id : CounterId} {now : Int}
    (current : now ≤ id.bucketStart + 2 * limits.window id.scope) :
    reading (cleanup rows now) id = reading rows id := by
  unfold cleanup
  induction rows with
  | nil => rfl
  | cons row rest ih =>
    obtain ⟨expiry, others⟩ := List.forall_mem_cons.mp expires
    have rest_kept := ih others
    rw [reading_cons]
    by_cases here : row.toCounterId = id
    · subst here
      have kept : (!decide (row.expiresAt < now * 1000000)) = true := by
        rw [expiry, Bool.not_eq_true', decide_eq_false_iff_not, not_lt]
        linarith
      rw [List.filter_cons, if_pos kept, reading_cons, if_pos rfl, if_pos rfl]
    · rw [if_neg here, ← rest_kept, List.filter_cons]
      split
      · rw [reading_cons, if_neg here]
      · rfl

theorem window_bounds (limits : Limits) (scope : Scope) :
    0 < limits.window scope ∧ limits.window scope ≤ 300 :=
  ⟨bounded_pos (by decide), min_le_right _ _⟩

theorem retryAfter_of_refused {scope : Scope} {endpointId : Nat} {sourceHash : String} {now : Int}
    {refusal : RateLimitExceeded}
    (refused : consume env limits rows scope endpointId sourceHash now = .error refusal) :
    now + refusal.retryAfter =
      windowStart (limits.window scope) now + limits.window scope := by
  obtain ⟨positive, short⟩ := window_bounds limits scope
  have started := windowStart_le positive now
  have ends := lt_windowStart_add positive now
  unfold consume at refused
  dsimp only at refused
  split at refused
  · cases refused
  · obtain rfl := Except.error.inj refused
    have told : min 300 (max 1 ((counterOf env limits scope endpointId sourceHash
        now).bucketStart + limits.window scope - now)) =
          windowStart (limits.window scope) now + limits.window scope - now := by
      change min 300 (max 1 (windowStart (limits.window scope) now + limits.window scope - now)) = _
      omega
    dsimp only
    rw [told]
    omega

theorem mem_cleanup_of_open (expires : Expires limits rows) {row : ConnectorInboundRateCounter}
    (member : row ∈ rows) {now : Int} (isOpen : now < row.bucketStart + limits.window row.scope) :
    row ∈ cleanup rows now := by
  obtain ⟨positive, -⟩ := window_bounds limits row.scope
  refine List.mem_filter.mpr ⟨member, ?_⟩
  rw [expires row member, Bool.not_eq_true', decide_eq_false_iff_not, not_lt]
  linarith

end Steps

/-! ## What a counter reads -/

section Runs

variable {env : RateRuntime} {limits : Limits} {calls : List TimedRateCall}

/-- The requests that a counter has accepted. -/
def unitsOf (env : RateRuntime) (limits : Limits) (calls : List TimedRateCall)
    (id : CounterId) : Nat :=
  acceptedIn env limits calls id.scope id.keyHash (limits.window id.scope) id.bucketStart

theorem acceptedTimes_concat (scope : Scope) (keyHash : String) (timed : TimedRateCall) :
    acceptedTimes env limits (calls ++ [timed]) scope keyHash =
      acceptedTimes env limits calls scope keyHash ++
        (acceptedAt env limits scope keyHash ⟨countersAfter env limits calls, timed,
          takeCall env limits (countersAfter env limits calls) timed⟩).toList := by
  unfold acceptedTimes
  rw [trace_concat, List.filterMap_append]
  rfl

theorem unitsOf_consume (scope : Scope) (endpointId : Nat) (sourceHash : String) (now : Int)
    (id : CounterId) :
    unitsOf env limits (calls ++ [⟨now, .consume scope endpointId sourceHash⟩]) id =
      unitsOf env limits calls id +
        if (consume env limits (countersAfter env limits calls) scope endpointId sourceHash
            now).isOk = true ∧ counterOf env limits scope endpointId sourceHash now = id then 1
        else 0 := by
  unfold unitsOf acceptedIn
  rw [acceptedTimes_concat, List.countP_append]
  congr 1
  obtain ⟨place, keyHash, bucket⟩ := id
  unfold acceptedAt counterOf
  dsimp only
  by_cases keyed : scope = place ∧ rateKey env scope endpointId sourceHash = keyHash ∧
      (consume env limits (countersAfter env limits calls) scope endpointId sourceHash
        now).isOk = true
  · obtain ⟨rfl, sameHash, accepted⟩ := keyed
    rw [if_pos ⟨rfl, sameHash, accepted⟩, Option.toList_some, List.countP_singleton]
    refine if_congr ?_ rfl rfl
    rw [decide_eq_true_eq, CounterId.mk.injEq]
    exact ⟨fun here => ⟨accepted, rfl, sameHash, here⟩, fun all => all.2.2.2⟩
  · rw [if_neg keyed, Option.toList_none, List.countP_nil, if_neg]
    rw [CounterId.mk.injEq]
    rintro ⟨accepted, samePlace, sameHash, -⟩
    exact keyed ⟨samePlace, sameHash, accepted⟩

theorem unitsOf_cleanup (now : Int) (id : CounterId) :
    unitsOf env limits (calls ++ [⟨now, .cleanup⟩]) id =
      unitsOf env limits calls id := by
  unfold unitsOf acceptedIn
  rw [acceptedTimes_concat, List.countP_append]
  rfl

/-- What holds after a sequence of calls. -/
structure Counted (env : RateRuntime) (limits : Limits) (calls : List TimedRateCall) :
    Prop where
  expires : Expires limits (countersAfter env limits calls)
  atMost : ∀ id, (unitsOf env limits calls id : Int) ≤ limits.limit id.scope
  /-- A counter that is not out of date reads what it has accepted. -/
  reads : ∀ id, (∀ timed ∈ calls, timed.now ≤ id.bucketStart + 2 * limits.window id.scope) →
    reading (countersAfter env limits calls) id = unitsOf env limits calls id

theorem countersAfter_concat (timed : TimedRateCall) :
    countersAfter env limits (calls ++ [timed]) =
      takeCall env limits (countersAfter env limits calls) timed :=
  final_concat ..

theorem counterOf_current {scope : Scope} {endpointId : Nat} {sourceHash : String} {now : Int}
    {past : List TimedRateCall} (before : ∀ timed ∈ past, timed.now ≤ now) :
    ∀ timed ∈ past, timed.now ≤ (counterOf env limits scope endpointId sourceHash
      now).bucketStart + 2 * limits.window scope := by
  intro timed member
  obtain ⟨positive, -⟩ := window_bounds limits scope
  have earlier := before timed member
  have ends : now < (counterOf env limits scope endpointId sourceHash now).bucketStart +
      limits.window scope := lt_windowStart_add positive now
  omega

/-- **One call keeps the count.** -/
theorem Counted.concat (counted : Counted env limits calls) {timed : TimedRateCall}
    (before : ∀ earlier ∈ calls, earlier.now ≤ timed.now) :
    Counted env limits (calls ++ [timed]) := by
  obtain ⟨expires, atMost, reads⟩ := counted
  obtain ⟨now, call⟩ := timed
  have stillExpires : Expires limits (countersAfter env limits (calls ++ [⟨now, call⟩])) := by
    rw [countersAfter_concat]
    exact expires_takeCall expires _
  cases call with
  | consume scope endpointId sourceHash =>
    have current := reads (counterOf env limits scope endpointId sourceHash now)
      (counterOf_current before)
    rcases consume_cases env limits (countersAfter env limits calls) scope endpointId
      sourceHash now with ⟨-, retryAfter, refused⟩ | ⟨room, after, taken, units⟩
    · have same : ∀ id, unitsOf env limits
          (calls ++ [⟨now, .consume scope endpointId sourceHash⟩]) id =
            unitsOf env limits calls id := by
        intro id
        rw [unitsOf_consume, refused, if_neg fun both => Bool.false_ne_true both.1, Nat.add_zero]
      refine ⟨stillExpires, fun id => ?_, fun id early => ?_⟩
      · rw [same]
        exact atMost id
      · rw [same, countersAfter_concat, takeCall]
        dsimp only
        rw [refused]
        exact reads id fun timed member => early timed (List.mem_append_left _ member)
    · have more : ∀ id, unitsOf env limits
          (calls ++ [⟨now, .consume scope endpointId sourceHash⟩]) id =
            unitsOf env limits calls id +
              if counterOf env limits scope endpointId sourceHash now = id then 1 else 0 := by
        intro id
        rw [unitsOf_consume, taken]
        exact congrArg _ (if_congr (and_iff_right rfl) rfl rfl)
      refine ⟨stillExpires, fun id => ?_, fun id early => ?_⟩
      · rw [more]
        split
        · rename_i here
          rw [current, here] at room
          rw [← here] at room ⊢
          change _ < limits.limit scope at room
          change _ ≤ limits.limit scope
          omega
        · exact atMost id
      · rw [more, countersAfter_concat, takeCall]
        dsimp only
        rw [taken]
        dsimp only
        rw [units, reads id fun timed member => early timed (List.mem_append_left _ member)]
  | cleanup =>
    refine ⟨stillExpires, fun id => ?_, fun id early => ?_⟩
    · rw [unitsOf_cleanup]
      exact atMost id
    · rw [unitsOf_cleanup, countersAfter_concat]
      refine (reading_cleanup expires ?_).trans
        (reads id fun timed member => early timed (List.mem_append_left _ member))
      exact early ⟨now, .cleanup⟩ (List.mem_append_right _ (List.mem_singleton_self _))

/-- **Every sequence of calls is counted.** -/
theorem counted_calls (env : RateRuntime) (limits : Limits) (ordered : Ordered calls) :
    Counted env limits calls := by
  unfold Ordered at ordered
  induction calls using List.reverseRecOn with
  | nil =>
    refine ⟨fun row member => ?_, fun id => ?_, fun _ _ => rfl⟩
    · cases member
    · exact (bounded_pos (by decide : (0 : Int) < 1000)).le
  | append_singleton calls timed ih =>
    rw [List.pairwise_append] at ordered
    obtain ⟨first, -, across⟩ := ordered
    exact (ih first).concat fun earlier member =>
      across earlier member timed (List.mem_singleton_self _)

theorem Ordered.past {past rest : List TimedRateCall} {timed : TimedRateCall}
    (ordered : Ordered (past ++ timed :: rest)) :
    Ordered past ∧ ∀ earlier ∈ past, earlier.now ≤ timed.now := by
  obtain ⟨first, -, across⟩ := List.pairwise_append.mp ordered
  exact ⟨first, fun earlier member => across earlier member timed (List.mem_cons_self ..)⟩

end Runs

/-- **Fixed windows.** As time goes on, whatever calls are made, the counters of every key keep
the limit that `consume` applies in the windows that it applies. -/
theorem fixed_windows (env : RateRuntime) (limits : Limits) (calls : List TimedRateCall)
    (ordered : Ordered calls) (scope : Scope) (keyHash : String) :
    KeepsWindows env limits calls scope keyHash (limits.limit scope) (limits.window scope) := by
  obtain ⟨positive, -⟩ := window_bounds limits scope
  have counted := counted_calls env limits ordered
  have atMost : ∀ bucket, (acceptedIn env limits calls scope keyHash (limits.window scope)
      bucket : Int) ≤ limits.limit scope := fun bucket => counted.atMost ⟨scope, keyHash, bucket⟩
  refine ⟨atMost, fun start => ?_, ?_, ?_⟩
  · have whole : 0 < limits.limit scope := bounded_pos (by decide)
    have most : ∀ bucket, (acceptedTimes env limits calls scope keyHash).countP
        (fun now => decide (windowStart (limits.window scope) now = bucket)) ≤
          (limits.limit scope).toNat := fun bucket => (Int.le_toNat whole.le).mpr (atMost bucket)
    have twice := countP_interval_le positive most start
    omega
  · rintro past rest endpointId sourceHash now refusal rfl rfl refused
    obtain ⟨pastOrdered, before⟩ := ordered.past
    have pastCounted := counted_calls env limits pastOrdered
    constructor
    · have bound := pastCounted.atMost (counterOf env limits scope endpointId sourceHash now)
      have read := pastCounted.reads (counterOf env limits scope endpointId sourceHash now)
        (counterOf_current before)
      rcases consume_cases env limits (countersAfter env limits past) scope endpointId
        sourceHash now with ⟨full, -⟩ | ⟨-, after, taken, -⟩
      · rw [read] at full
        exact le_antisymm bound full
      · rw [taken] at refused
        cases refused
    · intro later waited
      rw [retryAfter_of_refused refused] at waited
      exact windowStart_lt_of_le positive waited
  · rintro past rest now rfl row member rfl rfl isOpen
    exact mem_cleanup_of_open (counted_calls env limits ordered.past.1).expires member isOpen

/-! ## Every key on its own -/

/-- The time at which a call asks the counters of a key. -/
def requestedAt (env : RateRuntime) (scope : Scope) (keyHash : String)
    (timed : TimedRateCall) : Option Int :=
  match timed.call with
  | .consume other endpointId sourceHash =>
    if other = scope ∧ rateKey env other endpointId sourceHash = keyHash then some timed.now
    else none
  | .cleanup => none

/-- What one limiter of fixed windows does with a request. -/
def admitInWindow (limit window : Int) (accepted : List Int) (now : Int) : List Int :=
  if (accepted.countP fun earlier =>
      decide (windowStart window earlier = windowStart window now) : Int) < limit then
    accepted ++ [now]
  else accepted

/-- The requests that one limiter of fixed windows lets through. -/
def fixedWindow (limit window : Int) (times : List Int) : List Int :=
  times.foldl (admitInWindow limit window) []

/-- **The table of counters refines a limiter for every key.** As time goes on, the counters of a
key let through what a limiter of their own would, whatever is asked of other keys and whenever
the table is cleaned. -/
theorem limiter_refines_fixedWindow (env : RateRuntime) (limits : Limits)
    (calls : List TimedRateCall) (ordered : Ordered calls) (scope : Scope) (keyHash : String) :
    acceptedTimes env limits calls scope keyHash =
      fixedWindow (limits.limit scope) (limits.window scope)
        (calls.filterMap (requestedAt env scope keyHash)) := by
  induction calls using List.reverseRecOn with
  | nil => rfl
  | append_singleton calls timed ih =>
    obtain ⟨first, before⟩ := ordered.past
    have read := (counted_calls env limits first).reads
    specialize ih first
    rw [acceptedTimes_concat, List.filterMap_append, fixedWindow, List.foldl_append,
      ← fixedWindow, ← ih]
    obtain ⟨now, call⟩ := timed
    cases call with
    | cleanup => exact List.append_nil _
    | consume other endpointId sourceHash =>
      by_cases keyed : other = scope ∧ rateKey env other endpointId sourceHash = keyHash
      · obtain ⟨rfl, rfl⟩ := keyed
        have asked : requestedAt env other (rateKey env other endpointId sourceHash)
            ⟨now, .consume other endpointId sourceHash⟩ = some now := if_pos ⟨rfl, rfl⟩
        rw [List.filterMap_cons_some asked, List.filterMap_nil, List.foldl_cons, List.foldl_nil,
          admitInWindow]
        have units : reading (countersAfter env limits calls)
            (counterOf env limits other endpointId sourceHash now) =
            (acceptedTimes env limits calls other
              (rateKey env other endpointId sourceHash)).countP fun earlier =>
                decide (windowStart (limits.window other) earlier =
                  windowStart (limits.window other) now) :=
          read _ (counterOf_current before)
        rcases consume_cases env limits (countersAfter env limits calls) other endpointId
          sourceHash now with ⟨full, _, refused⟩ | ⟨room, after, taken, -⟩
        · rw [units] at full
          have late : acceptedAt env limits other (rateKey env other endpointId sourceHash)
              ⟨countersAfter env limits calls, ⟨now, .consume other endpointId sourceHash⟩,
                takeCall env limits (countersAfter env limits calls)
                  ⟨now, .consume other endpointId sourceHash⟩⟩ = none := by
            unfold acceptedAt
            dsimp only
            rw [refused]
            exact if_neg fun all => Bool.false_ne_true all.2.2
          rw [late, if_neg (not_lt.mpr full)]
          exact List.append_nil _
        · rw [units] at room
          have early : acceptedAt env limits other (rateKey env other endpointId sourceHash)
              ⟨countersAfter env limits calls, ⟨now, .consume other endpointId sourceHash⟩,
                takeCall env limits (countersAfter env limits calls)
                  ⟨now, .consume other endpointId sourceHash⟩⟩ = some now := by
            unfold acceptedAt
            dsimp only
            rw [taken]
            exact if_pos ⟨rfl, rfl, rfl⟩
          rw [early, if_pos room]
          rfl
      · have unasked : requestedAt env scope keyHash
            ⟨now, .consume other endpointId sourceHash⟩ = none := if_neg keyed
        have elsewhere : acceptedAt env limits scope keyHash
            ⟨countersAfter env limits calls, ⟨now, .consume other endpointId sourceHash⟩,
              takeCall env limits (countersAfter env limits calls)
                ⟨now, .consume other endpointId sourceHash⟩⟩ = none :=
          if_neg fun all => keyed ⟨all.1, all.2.1⟩
        rw [List.filterMap_cons_none unasked, elsewhere]
        exact List.append_nil _

/-! ## A limit of zero -/

/-- A call that asks for no requests at all from a source, in windows of a minute. -/
def zeroLimits : Limits
  | .source => some (0, 60)
  | _ => none

/-- Two requests of a source, and a cleaning in between. -/
def zeroCalls : List TimedRateCall :=
  [⟨59, .consume .source 1 "abc"⟩, ⟨60, .cleanup⟩, ⟨61, .consume .source 1 "abc"⟩]

theorem fixed_windows_zero :
    KeepsWindows plainRates zeroLimits zeroCalls .source
      (rateKey plainRates .source 1 "abc") (zeroLimits.limit .source)
      (zeroLimits.window .source) :=
  fixed_windows plainRates zeroLimits zeroCalls (by unfold Ordered zeroCalls; simp) .source
    (rateKey plainRates .source 1 "abc")

theorem limiter_refines_fixedWindow_zero :
    acceptedTimes plainRates zeroLimits zeroCalls .source (rateKey plainRates .source 1 "abc") =
      fixedWindow (zeroLimits.limit .source) (zeroLimits.window .source)
        (zeroCalls.filterMap
          (requestedAt plainRates .source (rateKey plainRates .source 1 "abc"))) :=
  limiter_refines_fixedWindow plainRates zeroLimits zeroCalls (by unfold Ordered zeroCalls; simp)
    .source (rateKey plainRates .source 1 "abc")

/-- **Zero stands for the default**: a limit of zero accepts requests. -/
theorem zero_limit_accepts :
    zeroLimits .source = some (0, 60) ∧
      acceptedTimes plainRates zeroLimits zeroCalls .source (rateKey plainRates .source 1 "abc") =
        [59, 61] ∧
      ¬ KeepsWindows plainRates zeroLimits zeroCalls .source
        (rateKey plainRates .source 1 "abc") 0 60 := by
  have accepted : acceptedTimes plainRates zeroLimits zeroCalls .source
      (rateKey plainRates .source 1 "abc") = [59, 61] := by
    decide +kernel
  refine ⟨rfl, accepted, fun keeps => ?_⟩
  have none := keeps.atMost 0
  rw [acceptedIn, accepted] at none
  revert none
  decide

end ThreatScope.Integrations
