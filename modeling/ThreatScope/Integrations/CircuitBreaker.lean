import ThreatScope.Integrations.DeliverySteps

/-!
# The circuit breaker

A connector whose circuit is half open accepts no attempt, and a delivery under way is
picked up by no one: both are states inside `deliver`, which has to leave them before it
returns. It does after a response, and after an error of the service, because an open
circuit always has five failures behind it and one more failure opens it again.

Any other exception passes the handler by. Its `finally` clause commits the delivery as it
is, under way, and the circuit stays half open if it was being probed. It also stays half open
when the handler itself raises, over the letter of a delivery that the probe has killed.

`process_due` hands at most a batch of due deliveries to `deliver`, and none behind one that
lets an exception out.
-/

set_option autoImplicit false

namespace ThreatScope.Integrations

open Library AccessControl

/-! ## The invariant -/

/-- A circuit is closed, or open with a time at which it may be probed. -/
structure ConnectorInstance.Unwedged (connector : ConnectorInstance) : Prop where
  whole : connector.circuitState ≠ .halfOpen
  retries : connector.circuitState = .opened → connector.circuitRetryAt.isSome = true

/-- No circuit is half open and no delivery is under way. -/
structure DeliveryHub.Unwedged (hub : DeliveryHub) : Prop where
  circuits : hub.connectors.Each fun _ connector => connector.Unwedged
  deliveries : hub.deliveries.Each fun _ delivery => delivery.status ≠ .delivering

/-- **The invariant of a circuit**: an open one has five failures behind it. -/
structure ConnectorInstance.Sound (connector : ConnectorInstance) : Prop
    extends connector.Unwedged where
  failing : connector.circuitState = .opened → 5 ≤ connector.consecutiveFailures

/-- The invariant of the tables. -/
structure DeliveryHub.Sound (hub : DeliveryHub) : Prop where
  circuits : hub.connectors.Each fun _ connector => connector.Sound
  deliveries : hub.deliveries.Each fun _ delivery => delivery.status ≠ .delivering

theorem DeliveryHub.Sound.unwedged {hub : DeliveryHub} (sound : hub.Sound) : hub.Unwedged :=
  ⟨sound.circuits.mono fun _ _ row => row.toUnwedged, sound.deliveries⟩

/-- Every circuit is closed and nothing is under way. -/
structure DeliveryHub.Fresh (hub : DeliveryHub) : Prop where
  closed : hub.connectors.Each fun _ connector => connector.circuitState = .closed
  idle : hub.deliveries.Each fun _ delivery => delivery.status ≠ .delivering

/-- A delivery of an active connector is attempted once the pause of the circuit is over. -/
def DeliveryHub.Resumes (hub : DeliveryHub) (py : Interpreter) : Prop :=
  ∀ key delivery connector attempted, hub.deliveries.get? key = some delivery →
    delivery.status.terminal = false →
    hub.connectors.get? delivery.connectorId = some connector → connector.running = true →
    (connector.circuitState = .opened →
      ∀ retryAt ∈ connector.circuitRetryAt, retryAt ≤ attempted.started) →
    (∀ commits, attempted.outcome ≠ .raised commits) →
    ∃ attempt, (deliver py hub key attempted).1.attempts.get? hub.attempts.nextKey =
        some attempt ∧ attempt.deliveryId = key ∧ attempt.completedAt = some attempted.finished

/-! ## Attempts that get stuck -/

/-- The error of the service that an exchange ends in. -/
def Outcome.error? : Outcome → Option SecurityError
  | .response answer => answer.refusal
  | .refused error _ => some error
  | .raised _ => none

/-- The exchange ends in an exception that the handler does not see, and the session can commit
or the circuit is being probed; or the handler of a probe raises. -/
def Outcome.sticks (py : Interpreter) (hub : DeliveryHub) (key : Nat)
    (delivery : ConnectorDelivery) (connector : ConnectorInstance) : Outcome → Bool
  | .raised commits => commits || connector.circuitState == .opened
  | outcome => connector.circuitState == .opened &&
      outcome.error?.any fun error => hub.failRaises py key delivery error

/-- The exchange ends in an exception that leaves `deliver`. -/
def Outcome.raises (py : Interpreter) (hub : DeliveryHub) (key : Nat)
    (delivery : ConnectorDelivery) : Outcome → Bool
  | .raised _ => true
  | outcome => outcome.error?.any fun error => hub.failRaises py key delivery error

/-- The delivery is attempted, and the attempt gets stuck. -/
def stuckAttempt (py : Interpreter) (hub : DeliveryHub) (key : Nat) (attempted : Attempted) :
    Bool :=
  match hub.deliveries.get? key with
  | none => false
  | some delivery =>
    match hub.disposition delivery attempted.started with
    | .due connector => attempted.outcome.sticks py hub key delivery connector
    | _ => false

/-- The delivery is attempted, and an exception leaves the attempt. -/
def raisingAttempt (py : Interpreter) (hub : DeliveryHub) (key : Nat) (attempted : Attempted) :
    Bool :=
  match hub.deliveries.get? key with
  | none => false
  | some delivery =>
    match hub.disposition delivery attempted.started with
    | .due _ => attempted.outcome.raises py hub key delivery
    | _ => false

/-- One of the deliveries that are attempted in turn gets stuck. -/
def stuckAll (py : Interpreter) (attempts : Nat → Attempted) :
    List Nat → DeliveryHub → Bool
  | [], _ => false
  | key :: rest, hub =>
    stuckAttempt py hub key (attempts key) ||
      match deliver py hub key (attempts key) with
      | (_, true) => false
      | (after, false) => stuckAll py attempts rest after

/-- An exception leaves one of the deliveries that are attempted in turn. -/
def raisesAll (py : Interpreter) (attempts : Nat → Attempted) :
    List Nat → DeliveryHub → Bool
  | [], _ => false
  | key :: rest, hub =>
    raisingAttempt py hub key (attempts key) ||
      raisesAll py attempts rest (deliver py hub key (attempts key)).1

/-- An attempt that the call makes gets stuck. -/
def DeliveryHub.getsStuck (env : DeliveryRuntime) (hub : DeliveryHub)
    (input : TimedDelivery) : Bool :=
  match input.call with
  | .deliver key attempted => stuckAttempt env.py hub key attempted
  | .processDue batchSize attempts =>
    let drained := hub.drainOutbox env batchSize input.now
    stuckAll env.py attempts
      (drained.dueDeliveries (batchLimit batchSize) input.now) drained
  | _ => false

/-! ## Deliveries that are handed over -/

/-- The deliveries that are handed to `deliver` in turn, with the tables that it finds. -/
def handed (py : Interpreter) (attempts : Nat → Attempted) :
    List Nat → DeliveryHub → List (DeliveryHub × Nat)
  | [], _ => []
  | key :: rest, hub =>
    (hub, key) :: match deliver py hub key (attempts key) with
      | (_, true) => []
      | (after, false) => handed py attempts rest after

/-- The connector of a delivery is active, and its circuit may be asked. -/
def DeliveryHub.awaits (hub : DeliveryHub) (key : Nat) (now : Instant) : Bool :=
  (hub.deliveries.get? key).any fun delivery =>
    (hub.connectors.get? delivery.connectorId).any fun connector =>
      connector.running && !(connector.circuitState == .opened &&
        connector.circuitRetryAt.any fun retryAt => decide (now < retryAt))

/-- `process_due` hands every due delivery of an active connector whose circuit may be asked to
`deliver`, which attempts it. -/
def DeliveryHub.Serves (env : DeliveryRuntime) (hub : DeliveryHub) (input : TimedDelivery) :
    Prop :=
  match input.call with
  | .processDue batchSize attempts =>
    let drained := hub.drainOutbox env batchSize input.now
    ∀ key ∈ drained.due input.now, drained.awaits key input.now = true →
      ∃ middle, (middle, key) ∈ handed env.py attempts
        (drained.dueDeliveries (batchLimit batchSize) input.now) drained ∧
        middle.Resumes env.py
  | _ => True

/-- A due delivery of an active connector whose circuit may be asked has a whole batch of due
deliveries before it, or one of them lets an exception out. -/
def DeliveryHub.overlooks (env : DeliveryRuntime) (hub : DeliveryHub)
    (input : TimedDelivery) : Bool :=
  match input.call with
  | .processDue batchSize attempts =>
    let drained := hub.drainOutbox env batchSize input.now
    (drained.due input.now).any fun key =>
      let before := (drained.due input.now).takeWhile fun other => other != key
      drained.awaits key input.now &&
        (decide (batchLimit batchSize ≤ before.length) ||
          raisesAll env.py attempts before drained)
  | _ => false

/-! ## Connectors -/

section Connectors

variable {connector : ConnectorInstance}

theorem ConnectorInstance.sound_of_closed (closed : connector.circuitState = .closed) :
    connector.Sound := by
  refine ⟨⟨?_, ?_⟩, ?_⟩ <;> rw [closed] <;> intro contrary <;> cases contrary

theorem ConnectorInstance.Sound.congr {other : ConnectorInstance} (sound : connector.Sound)
    (state : other.circuitState = connector.circuitState)
    (retryAt : other.circuitRetryAt = connector.circuitRetryAt)
    (failures : other.consecutiveFailures = connector.consecutiveFailures) : other.Sound := by
  refine ⟨⟨?_, ?_⟩, ?_⟩
  · rw [state]
    exact sound.whole
  · rw [state, retryAt]
    exact sound.retries
  · rw [state, failures]
    exact sound.failing

theorem ConnectorInstance.sound_recovered (now : Instant) : (connector.recovered now).Sound :=
  sound_of_closed rfl

theorem ConnectorInstance.sound_circuitReset : connector.circuitReset.Sound :=
  sound_of_closed rfl

/-- **A probe that fails opens the circuit again.** -/
theorem ConnectorInstance.Sound.faulted (sound : connector.Sound) (code : ErrorCode)
    (now : Instant) : (connector.probing.faulted code now).Sound := by
  by_cases enough : 5 ≤ connector.consecutiveFailures + if code.retryable then 1 else 0
  · have reached : (connector.probing.faulted code now).circuitState = .opened ∧
        (connector.probing.faulted code now).circuitRetryAt = some (now + minutes 15) ∧
        5 ≤ (connector.probing.faulted code now).consecutiveFailures := by
      unfold probing ConnectorInstance.faulted ConnectorInstance.counted
      split <;> simp only [if_pos enough, true_and] <;> exact enough
    obtain ⟨state, retryAt, failures⟩ := reached
    refine ⟨⟨?_, fun _ => ?_⟩, fun _ => failures⟩
    · rw [state]
      intro contrary
      cases contrary
    · rw [retryAt]
      rfl
  · have closed : connector.circuitState ≠ .opened := fun opened =>
      enough (Nat.le_add_right_of_le (sound.failing opened))
    have same : connector.probing = connector := if_neg closed
    have state : (connector.faulted code now).circuitState = connector.circuitState := by
      unfold ConnectorInstance.faulted ConnectorInstance.counted
      simp only [if_neg enough]
    rw [same]
    refine ⟨⟨?_, ?_⟩, ?_⟩
    · rw [state]
      exact sound.whole
    · rw [state]
      exact fun opened => absurd opened closed
    · rw [state]
      exact fun opened => absurd opened closed

/-- A failure that is only counted leaves the circuit as it is. -/
theorem ConnectorInstance.Sound.counted (sound : connector.Sound) (code : ErrorCode)
    (now : Instant) (unopened : connector.circuitState ≠ .opened) :
    (connector.probing.counted code now).Sound := by
  rw [ConnectorInstance.probing, if_neg unopened]
  exact ⟨⟨sound.whole, sound.retries⟩, fun opened => absurd opened unopened⟩

theorem ConnectorInstance.Sound.transition (sound : connector.Sound) {action : LifecycleAction}
    {lockVersion : Nat} {validation : Validation} {moved : ConnectorInstance}
    (done : transitionConnector connector action lockVersion validation = .ok moved) :
    moved.Sound := by
  unfold transitionConnector at done
  split at done
  · cases done
  · split at done
    · cases done
    · split at done
      · cases done
      · split at done
        · cases done
        · cases done
          exact sound.congr rfl rfl rfl

end Connectors

/-! ## Deliveries and the outbox -/

section Steps

variable {env : DeliveryRuntime} {py : Interpreter} {hub after : DeliveryHub}
  {connectorId key : Nat} {now : Instant}

theorem DeliveryHub.Sound.of_same (sound : hub.Sound)
    (connectors : after.connectors = hub.connectors)
    (deliveries : after.deliveries = hub.deliveries) : after.Sound :=
  ⟨connectors ▸ sound.circuits, deliveries ▸ sound.deliveries⟩

theorem DeliveryHub.Sound.queueDelivery (sound : hub.Sound) {connector : ConnectorInstance}
    {request : DeliveryRequest}
    (done : queueDelivery py hub connectorId connector request now = .ok after) :
    after.Sound := by
  rcases (queueDelivery_ok done).2 with ⟨-, -, rfl⟩ | ⟨safe, -, -, rfl⟩
  · exact sound
  · refine ⟨sound.circuits, sound.deliveries.insert ?_⟩
    intro contrary
    cases contrary

theorem DeliveryHub.Sound.settle (sound : hub.Sound) {result : Except Fault DeliveryHub}
    (kept : ∀ after, result = .ok after → after.Sound) : (hub.settle result).Sound := by
  cases result with
  | error fault => exact sound
  | ok after => exact kept after rfl

theorem DeliveryHub.Sound.fanOutAll {eventId : Nat} {event : IntegrationOutboxEvent}
    {rows : List (Nat × ConnectorSubscription)} :
    ∀ {hub : DeliveryHub} {created : Bool} {result : DeliveryHub × Bool}, hub.Sound →
      DeliveryHub.fanOutAll env eventId event now rows hub created = .ok result →
        result.1.Sound := by
  induction rows with
  | nil =>
    intro hub created result sound done
    cases done
    exact sound
  | cons row rest ih =>
    intro hub created result sound done
    obtain ⟨⟨middle, asked⟩, first, done⟩ := bind_eq_ok_iff.mp done
    refine ih ?_ done
    rcases fanOutTo_ok first with ⟨rfl, -⟩ | ⟨connector, payload, -, -, queueing⟩
    · exact sound
    · exact sound.queueDelivery queueing

theorem DeliveryHub.Sound.fanOut (sound : hub.Sound) (eventId : Nat) (now : Instant) :
    (hub.fanOut env eventId now).Sound := by
  unfold DeliveryHub.fanOut
  split
  · exact sound
  · split
    · rename_i done
      have kept := sound.fanOutAll done
      exact kept.of_same rfl rfl
    · exact sound.of_same rfl rfl

theorem DeliveryHub.Sound.drainOutbox (sound : hub.Sound) (batchSize : Int) (now : Instant) :
    (hub.drainOutbox env batchSize now).Sound := by
  unfold DeliveryHub.drainOutbox
  generalize hub.pendingEvents (batchLimit batchSize) now = events
  induction events generalizing hub with
  | nil => exact sound
  | cons eventId rest ih => exact ih (sound.fanOut eventId now)

/-! ## Attempts -/

theorem sound_after_begin (sound : hub.Sound) (delivery : ConnectorDelivery)
    (connectors : ConnectorInstance → ConnectorInstance)
    (deliveries : ConnectorDelivery → ConnectorDelivery)
    (restored : ∀ row, hub.connectors.get? delivery.connectorId = some row → row.Sound →
      (connectors row.probing).Sound)
    (left : ∀ row, (deliveries row).status ≠ .delivering)
    (ends : after.connectors = ((hub.probe delivery.connectorId).begin key delivery
      now).connectors.modify delivery.connectorId connectors)
    (ended : after.deliveries = ((hub.probe delivery.connectorId).begin key delivery
      now).deliveries.modify key deliveries) : after.Sound := by
  constructor
  · rw [ends]
    intro place row stored
    simp only [DeliveryHub.begin, DeliveryHub.probe, Table.get?_modify] at stored
    split at stored
    · rename_i here
      rw [Option.map_map] at stored
      obtain ⟨old, found, rfl⟩ := Option.map_eq_some_iff.mp stored
      exact restored old (here ▸ found) (sound.circuits place old found)
    · exact sound.circuits place row stored
  · rw [ended]
    intro place row stored
    simp only [DeliveryHub.begin, DeliveryHub.probe, Table.get?_modify] at stored
    split at stored
    · obtain ⟨old, -, rfl⟩ := Option.map_eq_some_iff.mp stored
      exact left old
    · exact sound.deliveries place row stored

/-- **A failed attempt** leaves the tables sound unless its handler raises over a probe. -/
theorem DeliveryHub.Sound.fail (sound : hub.Sound) {delivery : ConnectorDelivery}
    {connector : ConnectorInstance} {attemptKey : Nat} {error : SecurityError}
    {answer earlier : Option AdapterResponse} {finished : Instant}
    (stored : hub.connectors.get? delivery.connectorId = some connector)
    (unstuck : (connector.circuitState == .opened &&
      hub.failRaises py key delivery error) = false) :
    (((hub.probe delivery.connectorId).begin key delivery now).fail py key attemptKey delivery
      error answer earlier finished).Sound := by
  have restored : ∀ row, hub.connectors.get? delivery.connectorId = some row → row.Sound →
      (if hub.failRaises py key delivery error then row.probing.counted error.code finished
        else row.probing.faulted error.code finished).Sound := by
    intro row found sound
    obtain rfl := Option.some.inj (stored.symm.trans found)
    split
    · rename_i raises
      rw [raises, Bool.and_true] at unstuck
      exact sound.counted error.code finished (beq_eq_false_iff_ne.mp unstuck)
    · exact sound.faulted error.code finished
  rcases deliveries_fail with ⟨next, changed⟩ | changed
  · refine sound_after_begin sound delivery _ _ restored (fun row contrary => ?_) connectors_fail
      changed
    cases contrary
  · refine sound_after_begin sound delivery _ _ restored (fun row contrary => ?_) connectors_fail
      changed
    cases contrary

/-- **An attempt that does not get stuck leaves the tables sound.** -/
theorem DeliveryHub.Sound.attempt (sound : hub.Sound) {delivery : ConnectorDelivery}
    {connector : ConnectorInstance} {attempted : Attempted}
    (due : hub.disposition delivery attempted.started = .due connector)
    (unstuck : attempted.outcome.sticks py hub key delivery connector = false) :
    (hub.attempt py key delivery attempted).1.Sound := by
  obtain ⟨stored, -⟩ := disposition_due due
  unfold DeliveryHub.attempt DeliveryHub.conclude
  cases ends : attempted.outcome with
  | response answer =>
    rw [ends] at unstuck
    cases refused : answer.refusal with
    | none =>
      simp only [refused]
      refine sound_after_begin sound delivery
        (fun row => row.recovered attempted.finished)
        (fun row => row.accepted answer attempted.finished)
        (fun _ _ _ => ConnectorInstance.sound_recovered _) (fun row => ?_) rfl rfl
      intro contrary
      cases contrary
    | some error =>
      simp only [Outcome.sticks, Outcome.error?, refused, Option.any_some] at unstuck
      simp only [refused]
      exact sound.fail stored unstuck
  | refused error earlier =>
    rw [ends] at unstuck
    exact sound.fail stored unstuck
  | raised commits =>
    rw [ends] at unstuck
    obtain ⟨uncommitted, closed⟩ := Bool.or_eq_false_iff.mp unstuck
    subst uncommitted
    refine ⟨sound.circuits.modify fun row found kept => ?_, sound.deliveries⟩
    obtain rfl := Option.some.inj (found.symm.trans stored)
    rw [ConnectorInstance.probing, if_neg (beq_eq_false_iff_ne.mp closed)]
    exact kept

/-- A probe whose handler raises leaves its circuit half open. -/
theorem not_unwedged_fail {delivery : ConnectorDelivery} {connector : ConnectorInstance}
    {attemptKey : Nat} {error : SecurityError} {answer earlier : Option AdapterResponse}
    {finished : Instant} (stored : hub.connectors.get? delivery.connectorId = some connector)
    (opened : connector.circuitState = .opened)
    (raises : hub.failRaises py key delivery error = true) :
    ¬ (((hub.probe delivery.connectorId).begin key delivery now).fail py key attemptKey
      delivery error answer earlier finished).Unwedged := by
  intro unwedged
  have state : (connector.probing.counted error.code finished).circuitState = .halfOpen := by
    rw [ConnectorInstance.probing, if_pos opened]
    rfl
  refine (unwedged.circuits delivery.connectorId (connector.probing.counted error.code finished)
    ?_).whole state
  have same : ((hub.probe delivery.connectorId).begin key delivery now).failRaises py key
      delivery error = true := raises
  rw [connectors_fail, Table.get?_modify_self]
  simp only [DeliveryHub.begin, DeliveryHub.probe] at same ⊢
  simp only [same, if_true, Table.get?_modify_self, stored, Option.map_some]

/-- **An attempt that gets stuck** leaves its delivery under way or its circuit half open. -/
theorem not_unwedged_attempt {delivery : ConnectorDelivery} {connector : ConnectorInstance}
    {attempted : Attempted} (found : hub.deliveries.get? key = some delivery)
    (due : hub.disposition delivery attempted.started = .due connector)
    (stuck : attempted.outcome.sticks py hub key delivery connector = true) :
    ¬ (hub.attempt py key delivery attempted).1.Unwedged := by
  obtain ⟨stored, -⟩ := disposition_due due
  unfold DeliveryHub.attempt DeliveryHub.conclude
  cases ends : attempted.outcome with
  | response answer =>
    rw [ends] at stuck
    obtain ⟨opened, handler⟩ := Bool.and_eq_true_iff.mp stuck
    obtain ⟨error, refused, raises⟩ := (Option.any_eq_true _ _).mp handler
    simp only [Outcome.error?] at refused
    simp only [refused]
    exact not_unwedged_fail stored (beq_iff_eq.mp opened) raises
  | refused error earlier =>
    rw [ends] at stuck
    obtain ⟨opened, raises⟩ := Bool.and_eq_true_iff.mp stuck
    exact not_unwedged_fail stored (beq_iff_eq.mp opened) raises
  | raised commits =>
    rw [ends] at stuck
    intro unwedged
    cases commits with
    | true =>
      refine unwedged.deliveries key (delivery.begun attempted.started) ?_ rfl
      simp only [DeliveryHub.begin, DeliveryHub.probe, Table.get?_modify_self, found,
        Option.map_some]
    | false =>
      have opened : connector.circuitState = .opened := beq_iff_eq.mp stuck
      refine (unwedged.circuits delivery.connectorId connector.probing ?_).whole ?_
      · simp only [DeliveryHub.probe, Table.get?_modify_self, stored, Option.map_some]
      · rw [ConnectorInstance.probing, if_pos opened]

theorem raises_of_sticks {delivery : ConnectorDelivery} {connector : ConnectorInstance}
    {outcome : Outcome} (stuck : outcome.sticks py hub key delivery connector = true) :
    outcome.raises py hub key delivery = true := by
  cases outcome with
  | response answer => exact (Bool.and_eq_true_iff.mp stuck).2
  | refused error earlier => exact (Bool.and_eq_true_iff.mp stuck).2
  | raised commits => rfl

theorem raised_attempt {delivery : ConnectorDelivery} (attempted : Attempted) :
    (hub.attempt py key delivery attempted).2 =
      attempted.outcome.raises py hub key delivery := by
  unfold DeliveryHub.attempt DeliveryHub.conclude
  cases attempted.outcome with
  | response answer =>
    cases refused : answer.refusal with
    | none => simp only [refused, Outcome.raises, Outcome.error?, Option.any_none]
    | some error =>
      simp only [refused, Outcome.raises, Outcome.error?, Option.any_some]
      rfl
  | refused error earlier => rfl
  | raised commits => cases commits <;> rfl

/-- **When an exception leaves `deliver`.** -/
theorem deliver_raises (py : Interpreter) (hub : DeliveryHub) (key : Nat) (attempted : Attempted) :
    (deliver py hub key attempted).2 = raisingAttempt py hub key attempted := by
  unfold deliver raisingAttempt
  cases hub.deliveries.get? key with
  | none => rfl
  | some delivery =>
    dsimp only
    cases hub.disposition delivery attempted.started with
    | inactive => rfl
    | settled => rfl
    | deferred pauseEnd => rfl
    | due connector => exact raised_attempt attempted

theorem stuckAttempt_eq_false {attempted : Attempted} (idle : hub.Idle key attempted.started) :
    stuckAttempt py hub key attempted = false := by
  unfold stuckAttempt
  split
  · rfl
  · rename_i delivery found
    split
    · rename_i connector due
      exact absurd due (idle delivery connector found)
    · rfl

/-- **One delivery**: the tables stay sound exactly when the attempt does not get stuck. -/
theorem DeliveryHub.Sound.deliver (sound : hub.Sound) (py : Interpreter) (key : Nat)
    (attempted : Attempted) :
    (stuckAttempt py hub key attempted = false →
      (deliver py hub key attempted).1.Sound) ∧
    (stuckAttempt py hub key attempted = true →
      (deliver py hub key attempted).2 = true ∧
        ¬ (deliver py hub key attempted).1.Unwedged) := by
  rcases deliver_cases py hub key attempted with
    ⟨idle, quiet⟩ | ⟨delivery, connector, found, due, same⟩
  · have unstuck : stuckAttempt py hub key attempted = false := stuckAttempt_eq_false idle
    refine ⟨fun _ => ?_, fun stuck => ?_⟩
    · rcases quiet with same | ⟨change, waits, same⟩
      · rw [same]
        exact sound
      · rw [same]
        refine ⟨sound.circuits, sound.deliveries.modify fun row _ _ => ?_⟩
        rw [waits row]
        decide
    · rw [unstuck] at stuck
      cases stuck
  · have sticks : stuckAttempt py hub key attempted =
        attempted.outcome.sticks py hub key delivery connector := by
      simp only [stuckAttempt, found, due]
    rw [same, sticks]
    refine ⟨sound.attempt due, fun stuck => ⟨?_, not_unwedged_attempt found due stuck⟩⟩
    rw [raised_attempt]
    exact raises_of_sticks stuck

/-- **Deliveries in turn.** -/
theorem DeliveryHub.Sound.deliverAll {attempts : Nat → Attempted} {keys : List Nat} :
    ∀ {hub : DeliveryHub}, hub.Sound →
      (stuckAll py attempts keys hub = false →
        (deliverAll py attempts keys hub).1.Sound) ∧
      (stuckAll py attempts keys hub = true →
        ¬ (deliverAll py attempts keys hub).1.Unwedged) := by
  induction keys with
  | nil =>
    intro hub sound
    refine ⟨fun _ => sound, fun stuck => ?_⟩
    cases stuck
  | cons key rest ih =>
    intro hub sound
    obtain ⟨kept, wedged⟩ := sound.deliver py key (attempts key)
    unfold stuckAll Integrations.deliverAll
    rcases result : Integrations.deliver py hub key (attempts key) with ⟨after, crashed⟩
    rw [result] at kept wedged
    cases crashed with
    | true =>
      simp only [Bool.or_false]
      exact ⟨kept, fun stuck => (wedged stuck).2⟩
    | false =>
      have unstuck : stuckAttempt py hub key (attempts key) = false := by
        refine Bool.eq_false_iff.mpr fun stuck => ?_
        cases (wedged stuck).1
      simp only [unstuck, Bool.false_or]
      exact ih (kept unstuck)

/-- **One call.** -/
theorem DeliveryHub.Sound.next (sound : hub.Sound) (input : TimedDelivery) :
    (hub.getsStuck env input = false → (hub.next env input).Sound) ∧
    (hub.getsStuck env input = true → ¬ (hub.next env input).Unwedged) := by
  obtain ⟨now, call⟩ := input
  cases call with
  | deliver key attempted =>
    obtain ⟨kept, wedged⟩ := sound.deliver env.py key attempted
    exact ⟨kept, fun stuck => (wedged stuck).2⟩
  | processDue batchSize attempts => exact (sound.drainOutbox batchSize now).deliverAll
  | queue connectorId request =>
    refine ⟨fun _ => ?_, fun stuck => by cases stuck⟩
    simp only [DeliveryHub.next, createDelivery]
    split
    · exact sound
    · exact sound.settle fun after done => sound.queueDelivery done
  | transition connectorId action lockVersion validation =>
    refine ⟨fun _ => ?_, fun stuck => by cases stuck⟩
    simp only [DeliveryHub.next]
    split
    · exact sound
    · rename_i connector found
      split
      · exact sound
      · rename_i moved done
        refine ⟨sound.circuits.modify fun _ _ _ => ?_, sound.deliveries⟩
        exact (sound.circuits connectorId connector found).transition done
  | retry key =>
    refine ⟨fun _ => ?_, fun stuck => by cases stuck⟩
    simp only [DeliveryHub.next, retryDelivery]
    split
    · exact sound
    · split
      · refine ⟨sound.circuits, sound.deliveries.modify fun _ _ _ contrary => ?_⟩
        cases contrary
      · exact sound
  | cancel key reason =>
    refine ⟨fun _ => ?_, fun stuck => by cases stuck⟩
    simp only [DeliveryHub.next, cancelDelivery]
    split
    · exact sound
    · split
      · refine ⟨sound.circuits, sound.deliveries.modify fun _ _ _ contrary => ?_⟩
        cases contrary
      · exact sound
  | resetCircuit connectorId =>
    refine ⟨fun _ => ?_, fun stuck => by cases stuck⟩
    exact ⟨sound.circuits.modify fun _ _ _ => ConnectorInstance.sound_circuitReset,
      sound.deliveries⟩

/-! ## Attempts are made again -/

/-- **A delivery of an active connector is due once the circuit's pause is over.** -/
theorem DeliveryHub.Unwedged.due (unwedged : hub.Unwedged) {delivery : ConnectorDelivery}
    {connector : ConnectorInstance} (pending : delivery.status.terminal = false)
    (stored : hub.connectors.get? delivery.connectorId = some connector)
    (running : connector.running = true)
    (elapsed : connector.circuitState = .opened →
      ∀ retryAt ∈ connector.circuitRetryAt, retryAt ≤ now) :
    hub.disposition delivery now = .due connector := by
  obtain ⟨whole, retries⟩ := unwedged.circuits _ _ stored
  unfold DeliveryHub.disposition
  rw [stored, Option.filter_some_pos running]
  simp only [pending, Bool.false_eq_true, if_false]
  cases state : connector.circuitState with
  | closed => rfl
  | halfOpen => exact absurd state whole
  | opened =>
    obtain ⟨retryAt, retry⟩ := Option.isSome_iff_exists.mp (retries state)
    simp only [retry]
    exact if_neg (not_lt.mpr (elapsed state retryAt retry))

theorem attempt_of_due {delivery : ConnectorDelivery} {attempted : Attempted}
    (handled : ∀ commits, attempted.outcome ≠ .raised commits) :
    ∃ attempt, (hub.attempt py key delivery attempted).1.attempts.get?
        hub.attempts.nextKey = some attempt ∧ attempt.deliveryId = key ∧
      attempt.completedAt = some attempted.finished := by
  unfold DeliveryHub.attempt DeliveryHub.conclude
  cases ends : attempted.outcome with
  | raised commits => exact absurd ends (handled commits)
  | response answer =>
    cases refused : answer.refusal with
    | none =>
      simp only [refused, DeliveryHub.succeed, DeliveryHub.begin, DeliveryHub.probe,
        Table.get?_modify_self, Table.get?_insert_nextKey, Option.map_some]
      exact ⟨_, rfl, rfl, rfl⟩
    | some error =>
      simp only [refused, DeliveryHub.fail, DeliveryHub.begin, DeliveryHub.probe]
      split <;>
      · simp only [Table.get?_modify_self, Table.get?_insert_nextKey, Option.map_some]
        exact ⟨_, rfl, rfl, rfl⟩
  | refused error earlier =>
    simp only [DeliveryHub.fail, DeliveryHub.begin, DeliveryHub.probe]
    split <;>
    · simp only [Table.get?_modify_self, Table.get?_insert_nextKey, Option.map_some]
      exact ⟨_, rfl, rfl, rfl⟩

theorem DeliveryHub.Unwedged.resumes (unwedged : hub.Unwedged) : hub.Resumes py := by
  intro key delivery connector attempted found pending stored running elapsed handled
  have due := unwedged.due pending stored running elapsed
  have attempts : deliver py hub key attempted = hub.attempt py key delivery attempted := by
    simp only [deliver, found, due]
  rw [attempts]
  exact attempt_of_due handled

/-! ## Batches -/

section Batches

variable {attempts : Nat → Attempted} {before keys rest : List Nat}

theorem mem_of_mem_handed : ∀ {hub middle : DeliveryHub},
    (middle, key) ∈ handed py attempts keys hub → key ∈ keys := by
  induction keys with
  | nil => exact fun absent => absurd absent List.not_mem_nil
  | cons first rest ih =>
    intro hub middle member
    unfold handed at member
    rcases List.mem_cons.mp member with same | behind
    · cases same
      exact List.mem_cons_self ..
    · split at behind
      · cases behind
      · exact List.mem_cons_of_mem _ (ih behind)

/-- **A delivery is handed over** when no exception leaves those before it. -/
theorem handed_of_quiet : ∀ {hub : DeliveryHub}, hub.Sound →
    stuckAll py attempts (before ++ key :: rest) hub = false →
    raisesAll py attempts before hub = false →
    ∃ middle, (middle, key) ∈ handed py attempts (before ++ key :: rest) hub ∧
      middle.Sound := by
  induction before with
  | nil => exact fun sound _ _ => ⟨_, List.mem_cons_self .., sound⟩
  | cons first earlier ih =>
    intro hub sound unstuck quiet
    rw [List.cons_append, stuckAll, Bool.or_eq_false_iff] at unstuck
    rw [raisesAll, Bool.or_eq_false_iff, ← deliver_raises] at quiet
    have kept := (sound.deliver py first (attempts first)).1 unstuck.1
    rcases result : deliver py hub first (attempts first) with ⟨after, crashed⟩
    rw [result] at unstuck quiet kept
    obtain ⟨rfl, quiet⟩ := quiet
    obtain ⟨middle, member, sound⟩ := ih kept unstuck.2 quiet
    refine ⟨middle, ?_, sound⟩
    rw [List.cons_append, handed, result]
    exact List.mem_cons_of_mem _ member

theorem not_handed_of_raises (apart : key ∉ before) : ∀ {hub middle : DeliveryHub},
    raisesAll py attempts before hub = true →
    (middle, key) ∉ handed py attempts (before ++ rest) hub := by
  induction before with
  | nil =>
    intro hub middle raises
    cases raises
  | cons first earlier ih =>
    rw [List.mem_cons, not_or] at apart
    intro hub middle raises member
    rw [raisesAll, ← deliver_raises] at raises
    rw [List.cons_append, handed] at member
    rcases result : deliver py hub first (attempts first) with ⟨after, crashed⟩
    rw [result] at raises member
    rcases List.mem_cons.mp member with same | behind
    · cases same
      exact apart.1 rfl
    · cases crashed with
      | true => cases behind
      | false => exact ih apart.2 raises behind

theorem DeliveryHub.nodup_due (hub : DeliveryHub) (now : Instant) : (hub.due now).Nodup :=
  (List.filter_sublist.map Prod.fst).nodup hub.deliveries.keys_nodup

theorem takeWhile_ne_append (member : key ∈ keys) :
    ∃ rest, keys = keys.takeWhile (fun other => other != key) ++ key :: rest := by
  induction keys with
  | nil => cases member
  | cons first later ih =>
    by_cases same : first = key
    · subst same
      exact ⟨later, by simp⟩
    · obtain ⟨rest, split⟩ := ih ((List.mem_cons.mp member).resolve_left (Ne.symm same))
      refine ⟨rest, ?_⟩
      rw [List.takeWhile_cons, if_pos (bne_iff_ne.mpr same), List.cons_append, ← split]

/-- **One batch** serves the deliveries that await an attempt unless it overlooks one. -/
theorem DeliveryHub.Sound.serves_iff (sound : hub.Sound) {input : TimedDelivery}
    (unstuck : hub.getsStuck env input = false) :
    hub.Serves env input ↔ hub.overlooks env input = false := by
  obtain ⟨now, call⟩ := input
  cases call with
  | processDue batchSize attempts =>
    have drained : (hub.drainOutbox env batchSize now).Sound := sound.drainOutbox batchSize now
    unfold DeliveryHub.getsStuck DeliveryHub.dueDeliveries at unstuck
    unfold DeliveryHub.Serves DeliveryHub.overlooks DeliveryHub.dueDeliveries
    dsimp only at unstuck ⊢
    generalize hub.drainOutbox env batchSize now = hub at drained unstuck ⊢
    generalize batchLimit batchSize = limit at unstuck ⊢
    rw [List.any_eq_false]
    refine forall₂_congr fun key member => ?_
    obtain ⟨rest, split⟩ := takeWhile_ne_append member
    have apart : key ∉ (hub.due now).takeWhile fun other => other != key :=
      fun inside => by simpa using List.mem_takeWhile_imp inside
    rw [Bool.and_eq_true, Bool.or_eq_true, decide_eq_true_iff, not_and, not_or, not_le,
      Bool.not_eq_true]
    refine imp_congr_right fun _ => ⟨?_, ?_⟩
    · rintro ⟨middle, handed, -⟩
      have inside := mem_of_mem_handed handed
      have few : ((hub.due now).takeWhile fun other => other != key).length < limit := by
        by_contra many
        rw [split, List.take_append_of_le_length (not_lt.mp many)] at inside
        exact apart (List.mem_of_mem_take inside)
      refine ⟨few, Bool.eq_false_iff.mpr fun raises => ?_⟩
      rw [split, List.take_append, List.take_of_length_le few.le] at handed
      exact not_handed_of_raises apart raises handed
    · rintro ⟨few, quiet⟩
      obtain ⟨room, more⟩ := Nat.exists_eq_add_of_lt few
      have batch : (hub.due now).take limit =
          ((hub.due now).takeWhile fun other => other != key) ++ key :: rest.take room := by
        conv_lhs => rw [split]
        rw [more, Nat.add_assoc, List.take_length_add_append, List.take_succ_cons]
      rw [batch] at unstuck ⊢
      obtain ⟨middle, handed, kept⟩ := handed_of_quiet drained unstuck quiet
      exact ⟨middle, handed, kept.unwedged.resumes⟩
  | _ => exact iff_of_true trivial rfl

end Batches

end Steps

/-! ## Runs -/

/-- Every state of a run is unwedged and resumes its deliveries, and `process_due` serves those
that await an attempt. -/
def KeepsUnwedged (env : DeliveryRuntime)
    (past : List (Transition DeliveryHub TimedDelivery)) : Prop :=
  ∀ move ∈ past, move.after.Unwedged ∧ move.after.Resumes env.py ∧
    move.before.Serves env move.input

/-- No attempt of a run gets stuck, and no batch overlooks a delivery. -/
def NoneStuck (env : DeliveryRuntime) (past : List (Transition DeliveryHub TimedDelivery)) : Prop :=
  ∀ move ∈ past, move.before.getsStuck env move.input = false ∧
    move.before.overlooks env move.input = false

/-- **The run lemma.** -/
theorem unwedged_of_run (env : DeliveryRuntime) {start : DeliveryHub} (fresh : start.Fresh)
    (calls : List TimedDelivery) :
    (KeepsUnwedged env (trace (DeliveryHub.next env) start calls) ↔
        NoneStuck env (trace (DeliveryHub.next env) start calls)) ∧
      (NoneStuck env (trace (DeliveryHub.next env) start calls) →
        (final (DeliveryHub.next env) start calls).Sound) := by
  refine run_induction (DeliveryHub.next env) (motive := fun past hub =>
    (KeepsUnwedged env past ↔ NoneStuck env past) ∧
      (NoneStuck env past → hub.Sound)) ?_ ?_ calls
  · refine ⟨⟨fun _ _ absent => absurd absent (List.not_mem_nil),
      fun _ _ absent => absurd absent (List.not_mem_nil)⟩, fun _ => ⟨?_, fresh.idle⟩⟩
    exact fresh.closed.mono fun _ _ closed => ConnectorInstance.sound_of_closed closed
  · intro past hub input ih
    obtain ⟨same, sound⟩ := ih
    simp only [KeepsUnwedged, NoneStuck, List.forall_mem_append, List.forall_mem_singleton]
      at same sound ⊢
    refine ⟨⟨fun kept => ?_, fun unstuck => ?_⟩, fun unstuck => ?_⟩
    · have before := same.mp kept.1
      have moving : hub.getsStuck env input = false :=
        Bool.eq_false_iff.mpr fun stuck => ((sound before).next input).2 stuck kept.2.1
      exact ⟨before, moving, ((sound before).serves_iff moving).mp kept.2.2.2⟩
    · have after := ((sound unstuck.1).next input).1 unstuck.2.1
      exact ⟨same.mpr unstuck.1, after.unwedged, after.unwedged.resumes,
        ((sound unstuck.1).serves_iff unstuck.2.1).mpr unstuck.2.2⟩
    · exact ((sound unstuck.1).next input).1 unstuck.2.1

/-- **The circuit breaker never wedges exactly when no attempt gets stuck and no batch overlooks
a delivery.** In every run from closed circuits, all states are unwedged and resume their
deliveries, which `process_due` hands over, if and only if no attempt leaves its delivery under
way or its circuit half open, and no delivery that may be attempted is behind a full batch or
behind one that lets an exception out. -/
theorem circuit_never_wedges (env : DeliveryRuntime) (start : DeliveryHub)
    (fresh : start.Fresh) (calls : List TimedDelivery) :
    KeepsUnwedged env (trace (DeliveryHub.next env) start calls) ↔
      NoneStuck env (trace (DeliveryHub.next env) start calls) :=
  (unwedged_of_run env fresh calls).1

/-! ## A connector whose server misbehaves -/

/-- A runtime for the samples. -/
def plainDelivery : DeliveryRuntime where
  py := plainHubPlatform.py
  upper := id
  normalizeDatetime := fun _ => .invalid
  sha256 := id

/-- A webhook connector that is active. -/
def outboundConnector : ConnectorInstance where
  connectorType := .genericHmacWebhookOutbound
  lifecycleStatus := .active
  healthStatus := .healthy
  enabled := true
  configuration := [("url", .str "https://hooks.example/in")]
  payloadProfile := "minimal"
  retryLimit := 7
  testPassed := some true
  consecutiveFailures := 0
  circuitState := .closed
  circuitOpenedAt := none
  circuitRetryAt := none
  lastSuccessAt := none
  lastFailureAt := none
  optimisticLockVersion := 1

/-- A hub with that connector and nothing to send. -/
def outboundHub : DeliveryHub where
  connectors := Table.empty.insert outboundConnector
  subscriptions := Table.empty
  mappings := Table.empty
  outboxEvents := Table.empty
  deliveries := Table.empty
  attempts := Table.empty
  deadLetters := Table.empty
  externalReferences := Table.empty

theorem fresh_outboundHub : outboundHub.Fresh := by
  constructor
  · exact Table.Each.empty.insert rfl
  · exact Table.Each.empty

/-- A delivery with the empty payload. -/
def plainRequest : DeliveryRequest where
  payload := .obj []
  eventType := "case.created"
  externalOperation := "notify"
  idempotencyKey := "case-1-created"
  actorId := some 1
  subscriptionId := none
  outboxId := none

/-- An attempt on the first delivery, some minutes after noon. -/
def attemptCall (minute : Nat) (outcome : Outcome) : TimedDelivery :=
  ⟨noon + minutes minute, .deliver 1 ⟨noon + minutes minute, noon + minutes minute, outcome⟩⟩

/-- The server does not answer in time. -/
def timedOut : Outcome := .refused ⟨.timeout, "Connector request timed out"⟩ none

/-- Five attempts time out and open the circuit, and the probe of the batch after the pause is
answered. -/
def recoveringCalls : List TimedDelivery :=
  [⟨noon, .queue 1 plainRequest⟩, attemptCall 1 timedOut, attemptCall 2 timedOut,
    attemptCall 3 timedOut, attemptCall 4 timedOut, attemptCall 5 timedOut,
    ⟨noon + minutes 90, .processDue 10 fun _ =>
      ⟨noon + minutes 90, noon + minutes 90, .response ⟨200, [], none⟩⟩⟩]

theorem circuit_never_wedges_recovering :
    KeepsUnwedged plainDelivery
      (trace (DeliveryHub.next plainDelivery) outboundHub recoveringCalls) :=
  (circuit_never_wedges plainDelivery outboundHub fresh_outboundHub recoveringCalls).mpr
    (by unfold NoneStuck; decide +kernel)

/-- The probe after the pause is answered with something that is not a status line. -/
def wedgedCalls : List TimedDelivery :=
  [⟨noon, .queue 1 plainRequest⟩, attemptCall 1 timedOut, attemptCall 2 timedOut,
    attemptCall 3 timedOut, attemptCall 4 timedOut, attemptCall 5 timedOut,
    attemptCall 30 (.raised true)]

theorem halfOpen_wedgedCalls :
    ((final (DeliveryHub.next plainDelivery) outboundHub wedgedCalls).connectors.get? 1).map
      ConnectorInstance.circuitState = some .halfOpen := by
  decide +kernel

/-- **The circuit stays half open and the delivery stays under way.** -/
theorem wedged_circuit :
    outboundHub.Fresh ∧
      ((final (DeliveryHub.next plainDelivery) outboundHub wedgedCalls).deliveries.get? 1).map
        ConnectorDelivery.status = some .delivering ∧
      ¬ KeepsUnwedged plainDelivery
        (trace (DeliveryHub.next plainDelivery) outboundHub wedgedCalls) := by
  refine ⟨fresh_outboundHub, by decide +kernel, fun kept => ?_⟩
  obtain ⟨connector, stored, state⟩ := Option.map_eq_some_iff.mp halfOpen_wedgedCalls
  have last := mem_trace_concat (DeliveryHub.next plainDelivery) outboundHub
    (wedgedCalls.take 6) (attemptCall 30 (.raised true))
  exact ((kept _ last).1.circuits 1 connector stored).whole state

end ThreatScope.Integrations
