import ThreatScope.Integrations.CircuitBreaker
import ThreatScope.Library.Selections
import ThreatScope.Library.UnitOfWork

/-!
# The life of a delivery

A delivery is looked at together with the rows that refer to it: its attempts and its dead
letters. It waits for an attempt, it may be cancelled while it waits, and each attempt ends
its life or makes it wait again. Every attempt is numbered after the last one, and only an
attempt below the maximum leaves the delivery waiting.

The calls of the service refine this. `queue_delivery` starts a life under a new key, and
`process_due`, a retry, a cancellation and the changes of a connector move lives or leave
them. A life that has ended has no moves, so `deliver`, which tests the status only after
it has written to a delivery of an inactive connector, relies on `process_due` to choose
waiting deliveries.

One move loses the dead letter: `_dead_letter` sets the status first, and the letter is refused
when its payload has outgrown the bound. All else holds of every run, and each dead delivery
has its letter exactly as long as none is lost (`delivery_lifecycle_iff`).
-/

set_option autoImplicit false

namespace ThreatScope.Integrations

open Library AccessControl Relation

/-! ## Lives -/

/-- A delivery waits for an attempt. -/
def DeliveryStatus.waiting : DeliveryStatus → Bool
  | .queued | .waitingRetry => true
  | _ => false

/-- What is known of a delivery. -/
structure Life where
  status : DeliveryStatus
  attemptCount : Nat
  maximumAttempts : Nat
  completedAt : Option Instant
  attempts : List ConnectorDeliveryAttempt
  deadLetters : List ConnectorDeadLetter

namespace Life

/-- What may happen to a delivery, and whether its dead letter is lost. Only one that waits has
moves. -/
inductive Moves (life : Life) : Bool → Life → Prop where
  | waits (waiting : life.status.waiting = true) (status : DeliveryStatus)
      (still : status.waiting = true) : Moves life false { life with status }
  | cancels (waiting : life.status.waiting = true) (now : Instant) :
      Moves life false { life with status := .cancelled, completedAt := some now }
  | retries (waiting : life.status.waiting = true) (attempt : ConnectorDeliveryAttempt)
      (number : attempt.attemptNumber = life.attemptCount + 1)
      (more : life.attemptCount + 1 < life.maximumAttempts) :
      Moves life false { life with
        status := .waitingRetry
        attemptCount := life.attemptCount + 1
        attempts := life.attempts ++ [attempt] }
  | succeeds (waiting : life.status.waiting = true) (attempt : ConnectorDeliveryAttempt)
      (number : attempt.attemptNumber = life.attemptCount + 1) (now : Instant) :
      Moves life false { life with
        status := .succeeded
        attemptCount := life.attemptCount + 1
        completedAt := some now
        attempts := life.attempts ++ [attempt] }
  | dies (waiting : life.status.waiting = true) (attempt : ConnectorDeliveryAttempt)
      (number : attempt.attemptNumber = life.attemptCount + 1) (letter : ConnectorDeadLetter)
      (now : Instant) :
      Moves life false { life with
        status := .deadLetter
        attemptCount := life.attemptCount + 1
        completedAt := some now
        attempts := life.attempts ++ [attempt]
        deadLetters := life.deadLetters ++ [letter] }
  | loses (waiting : life.status.waiting = true) (attempt : ConnectorDeliveryAttempt)
      (number : attempt.attemptNumber = life.attemptCount + 1) (now : Instant) :
      Moves life true { life with
        status := .deadLetter
        attemptCount := life.attemptCount + 1
        completedAt := some now
        attempts := life.attempts ++ [attempt] }

/-- A move of either kind. -/
def Leads (life later : Life) : Prop := ∃ lost, life.Moves lost later

/-- The attempts are numbered and bounded, and only a dead delivery has a letter. -/
structure Sound (life : Life) : Prop where
  numbered : life.attempts.map ConnectorDeliveryAttempt.attemptNumber =
    List.range' 1 life.attemptCount
  bounded : life.attemptCount ≤ life.maximumAttempts
  limited : life.maximumAttempts ≤ 7
  waiting : life.status.waiting = true → life.attemptCount < life.maximumAttempts
  letters : life.deadLetters.length ≤ if life.status = .deadLetter then 1 else 0
  notFailed : life.status ≠ .failed

/-- A dead delivery has exactly one letter. -/
def Lettered (life : Life) : Prop :=
  life.status = .deadLetter ↔ life.deadLetters.length = 1

variable {life later : Life} {lost : Bool}

theorem Moves.waiting (moves : life.Moves lost later) : life.status.waiting = true := by
  cases moves <;> assumption

theorem Sound.numbered_append (sound : life.Sound) {attempt : ConnectorDeliveryAttempt}
    (number : attempt.attemptNumber = life.attemptCount + 1) :
    (life.attempts ++ [attempt]).map ConnectorDeliveryAttempt.attemptNumber =
      List.range' 1 (life.attemptCount + 1) := by
  rw [List.map_append, sound.numbered, List.range'_concat, List.map_singleton, number, one_mul,
    Nat.add_comm 1]

theorem Sound.deadLetters_eq_nil (sound : life.Sound) (waiting : life.status.waiting = true) :
    life.deadLetters = [] := by
  have count := sound.letters
  rw [if_neg (fun dead => by rw [dead] at waiting; cases waiting)] at count
  exact List.eq_nil_of_length_eq_zero (Nat.le_zero.mp count)

/-- A move keeps a life sound. -/
theorem Sound.moves (sound : life.Sound) (moves : life.Moves lost later) : later.Sound := by
  have room := sound.waiting moves.waiting
  have none := sound.deadLetters_eq_nil moves.waiting
  have alive (status : DeliveryStatus) :
      life.deadLetters.length ≤ if status = .deadLetter then 1 else 0 := by
    rw [none]
    exact Nat.zero_le _
  cases moves with
  | waits _ status still =>
    refine ⟨sound.numbered, sound.bounded, sound.limited, fun _ => room, alive status, ?_⟩
    rintro rfl
    cases still
  | cancels _ now =>
    exact ⟨sound.numbered, sound.bounded, sound.limited, (fun waits => by cases waits),
      alive .cancelled, by simp⟩
  | retries _ attempt number more =>
    exact ⟨sound.numbered_append number, more.le, sound.limited, fun _ => more,
      alive .waitingRetry, by simp⟩
  | succeeds _ attempt number now =>
    exact ⟨sound.numbered_append number, room, sound.limited, (fun waits => by cases waits),
      alive .succeeded, by simp⟩
  | dies _ attempt number letter now =>
    refine ⟨sound.numbered_append number, room, sound.limited, (fun waits => by cases waits), ?_,
      by simp⟩
    rw [none]
    rfl
  | loses _ attempt number now =>
    exact ⟨sound.numbered_append number, room, sound.limited, (fun waits => by cases waits),
      alive .deadLetter, by simp⟩

/-- **The letter of a delivery** is there after a move exactly if the move does not lose it. -/
theorem Sound.lettered_iff (sound : life.Sound) (moves : life.Moves lost later) :
    later.Lettered ↔ lost = false := by
  have none := sound.deadLetters_eq_nil moves.waiting
  unfold Lettered
  cases moves with
  | waits _ status still =>
    have alive : status ≠ .deadLetter := by
      rintro rfl
      cases still
    simp [none, alive]
  | cancels _ now => simp [none]
  | retries _ attempt number more => simp [none]
  | succeeds _ attempt number now => simp [none]
  | dies _ attempt number letter now => simp [none]
  | loses _ attempt number now => simp [none]

theorem eq_of_reflTransGen (run : ReflTransGen Leads life later)
    (settled : life.status.waiting = false) : later = life := by
  induction run with
  | refl => rfl
  | tail _ last ih =>
    obtain ⟨_, moves⟩ := last
    have waiting := moves.waiting
    rw [ih, settled] at waiting
    cases waiting

end Life

/-! ## The lives that the tables store -/

namespace DeliveryHub

/-- The attempts of a delivery. -/
def attemptsOf (hub : DeliveryHub) (key : Nat) : List ConnectorDeliveryAttempt :=
  hub.attempts.select fun attempt => attempt.deliveryId == key

/-- The dead letters of a delivery. -/
def deadLettersOf (hub : DeliveryHub) (key : Nat) : List ConnectorDeadLetter :=
  hub.deadLetters.select fun letter => letter.deliveryId == key

/-- The life of a stored delivery. -/
def lifeOf (hub : DeliveryHub) (key : Nat) (delivery : ConnectorDelivery) : Life where
  status := delivery.status
  attemptCount := delivery.attemptCount
  maximumAttempts := delivery.maximumAttempts
  completedAt := delivery.completedAt
  attempts := hub.attemptsOf key
  deadLetters := hub.deadLettersOf key

/-- Keys without a delivery have no history. -/
def Referenced (hub : DeliveryHub) : Prop :=
  ∀ key, hub.deliveries.nextKey ≤ key → hub.attemptsOf key = [] ∧ hub.deadLettersOf key = []

/-- The tables of deliveries are in order. -/
structure Orderly (hub : DeliveryHub) : Prop where
  distinct : Distinct ConnectorDelivery.idempotencyKey hub.deliveries
  referenced : hub.Referenced
  sound : ∀ key delivery, hub.deliveries.get? key = some delivery →
    (hub.lifeOf key delivery).Sound

/-- A delivery and its history are as before. -/
structure Untouched (hub after : DeliveryHub) (key : Nat) : Prop where
  delivery : after.deliveries.get? key = hub.deliveries.get? key
  attempts : after.attemptsOf key = hub.attemptsOf key
  deadLetters : after.deadLettersOf key = hub.deadLettersOf key

/-- One delivery moves and the others are untouched. -/
structure Advances (hub : DeliveryHub) (lost : Bool) (after : DeliveryHub) (key : Nat)
    (delivery later : ConnectorDelivery) : Prop where
  found : hub.deliveries.get? key = some delivery
  kept : after.deliveries.get? key = some later
  sameKey : later.idempotencyKey = delivery.idempotencyKey
  moves : (hub.lifeOf key delivery).Moves lost (after.lifeOf key later)
  nextKey : after.deliveries.nextKey = hub.deliveries.nextKey
  others : ∀ other, other ≠ key → hub.Untouched after other

/-- A delivery that has just been queued. -/
structure Begins (delivery : ConnectorDelivery) : Prop where
  status : delivery.status = .queued
  attemptCount : delivery.attemptCount = 0
  completedAt : delivery.completedAt = none
  room : 0 < delivery.maximumAttempts
  limited : delivery.maximumAttempts ≤ 7

/-- What a call does to the lives, one change at a time, and whether a letter is lost. -/
inductive Step (hub : DeliveryHub) : Bool → DeliveryHub → Prop where
  | idle (after : DeliveryHub) (deliveries : after.deliveries = hub.deliveries)
      (attempts : after.attempts = hub.attempts)
      (deadLetters : after.deadLetters = hub.deadLetters) : Step hub false after
  | queues (after : DeliveryHub) (new : ConnectorDelivery) (begins : Begins new)
      (unused : ∀ key row, hub.deliveries.get? key = some row →
        row.idempotencyKey ≠ new.idempotencyKey)
      (deliveries : after.deliveries = hub.deliveries.insert new)
      (attempts : after.attempts = hub.attempts)
      (deadLetters : after.deadLetters = hub.deadLetters) : Step hub false after
  | advances (lost : Bool) (after : DeliveryHub) (key : Nat) (delivery later : ConnectorDelivery)
      (advances : hub.Advances lost after key delivery later) : Step hub lost after

/-- Changes one after another. -/
def Leads (hub after : DeliveryHub) : Prop := ReflTransGen (fun hub after => ∃ lost,
  hub.Step lost after) hub after

/-- Every dead delivery has exactly one letter, and no other has one. -/
def Lettered (hub : DeliveryHub) : Prop :=
  ∀ key delivery, hub.deliveries.get? key = some delivery → (hub.lifeOf key delivery).Lettered

/-- Changes that keep the letters complete exactly if none is lost. -/
structure Passes (hub : DeliveryHub) (lost : Bool) (after : DeliveryHub) : Prop where
  leads : hub.Leads after
  lettered : hub.Lettered → (after.Lettered ↔ lost = false)

end DeliveryHub

section Steps

variable {hub middle after : DeliveryHub} {key : Nat} {delivery : ConnectorDelivery} {lost : Bool}

theorem DeliveryHub.lifeOf_congr (attempts : after.attemptsOf key = hub.attemptsOf key)
    (deadLetters : after.deadLettersOf key = hub.deadLettersOf key) :
    after.lifeOf key delivery = hub.lifeOf key delivery := by
  unfold DeliveryHub.lifeOf
  rw [attempts, deadLetters]

theorem DeliveryHub.attemptsOf_congr (attempts : after.attempts = hub.attempts) (key : Nat) :
    after.attemptsOf key = hub.attemptsOf key := by
  unfold DeliveryHub.attemptsOf
  rw [attempts]

theorem DeliveryHub.deadLettersOf_congr (deadLetters : after.deadLetters = hub.deadLetters)
    (key : Nat) : after.deadLettersOf key = hub.deadLettersOf key := by
  unfold DeliveryHub.deadLettersOf
  rw [deadLetters]

theorem DeliveryHub.Referenced.sound_begins (referenced : hub.Referenced)
    (begins : DeliveryHub.Begins delivery) :
    (hub.lifeOf hub.deliveries.nextKey delivery).Sound := by
  obtain ⟨attempts, deadLetters⟩ := referenced _ le_rfl
  constructor
  · simp only [DeliveryHub.lifeOf, attempts, begins.attemptCount, List.map_nil, List.range'_zero]
  · exact begins.attemptCount.trans_le (Nat.zero_le _)
  · exact begins.limited
  · intro _
    exact begins.attemptCount.trans_lt begins.room
  · simp only [DeliveryHub.lifeOf, deadLetters, List.length_nil, Nat.zero_le]
  · simp only [DeliveryHub.lifeOf, begins.status]
    decide

/-- **Every step keeps the tables in order.** -/
theorem DeliveryHub.Orderly.step (orderly : hub.Orderly) (step : hub.Step lost after) :
    after.Orderly := by
  cases step with
  | idle _ deliveries attempts deadLetters =>
    refine ⟨deliveries ▸ orderly.distinct, fun key beyond => ?_, fun key delivery stored => ?_⟩
    · rw [attemptsOf_congr attempts, deadLettersOf_congr deadLetters]
      exact orderly.referenced key (deliveries ▸ beyond)
    · rw [lifeOf_congr (attemptsOf_congr attempts key) (deadLettersOf_congr deadLetters key)]
      exact orderly.sound key delivery (deliveries ▸ stored)
  | queues _ new begins unused deliveries attempts deadLetters =>
    refine ⟨?_, fun key beyond => ?_, fun key delivery stored => ?_⟩
    · rw [deliveries]
      refine orderly.distinct.extend (hub.deliveries.get?_insert_nextKey new) unused
        fun key row other stored => ?_
      rw [Table.get?_insert_of_ne _ _ other] at stored
      exact ⟨row, stored, rfl⟩
    · rw [deliveries, Table.nextKey_insert] at beyond
      rw [attemptsOf_congr attempts, deadLettersOf_congr deadLetters]
      exact orderly.referenced key (Nat.le_of_succ_le beyond)
    · rw [lifeOf_congr (attemptsOf_congr attempts key) (deadLettersOf_congr deadLetters key)]
      rw [deliveries, Table.get?_insert] at stored
      split at stored
      · rename_i fresh
        cases stored
        rw [fresh]
        exact orderly.referenced.sound_begins begins
      · exact orderly.sound key delivery stored
  | advances _ _ key delivery later advances =>
    refine ⟨?_, fun other beyond => ?_, fun other row stored => ?_⟩
    · refine orderly.distinct.of_rows fun other row stored => ?_
      by_cases here : other = key
      · subst here
        obtain rfl := Option.some.inj (advances.kept.symm.trans stored)
        exact ⟨delivery, advances.found, advances.sameKey⟩
      · rw [(advances.others other here).delivery] at stored
        exact ⟨row, stored, rfl⟩
    · rw [advances.nextKey] at beyond
      have apart : other ≠ key := by
        have bound := Table.lt_nextKey_of_get? advances.found
        omega
      rw [(advances.others other apart).attempts, (advances.others other apart).deadLetters]
      exact orderly.referenced other beyond
    · by_cases here : other = key
      · subst here
        obtain rfl := Option.some.inj (advances.kept.symm.trans stored)
        exact (orderly.sound _ delivery advances.found).moves advances.moves
      · have untouched := advances.others other here
        rw [untouched.delivery] at stored
        rw [lifeOf_congr untouched.attempts untouched.deadLetters]
        exact orderly.sound other row stored

/-- **A step keeps the letters complete** exactly if it does not lose one. -/
theorem DeliveryHub.Orderly.lettered_iff (orderly : hub.Orderly) (lettered : hub.Lettered)
    (step : hub.Step lost after) : after.Lettered ↔ lost = false := by
  cases step with
  | idle _ deliveries attempts deadLetters =>
    refine iff_of_true (fun key delivery stored => ?_) rfl
    rw [lifeOf_congr (attemptsOf_congr attempts key) (deadLettersOf_congr deadLetters key)]
    exact lettered key delivery (deliveries ▸ stored)
  | queues _ new begins unused deliveries attempts deadLetters =>
    refine iff_of_true (fun key delivery stored => ?_) rfl
    rw [lifeOf_congr (attemptsOf_congr attempts key) (deadLettersOf_congr deadLetters key)]
    rw [deliveries, Table.get?_insert] at stored
    split at stored
    · rename_i fresh
      cases stored
      rw [fresh]
      simp [Life.Lettered, DeliveryHub.lifeOf, begins.status, (orderly.referenced _ le_rfl).2]
    · exact lettered key delivery stored
  | advances _ _ key delivery later advances =>
    rw [← (orderly.sound key delivery advances.found).lettered_iff advances.moves]
    refine ⟨fun complete => complete key later advances.kept, fun own other row stored => ?_⟩
    by_cases here : other = key
    · subst here
      obtain rfl := Option.some.inj (advances.kept.symm.trans stored)
      exact own
    · have untouched := advances.others other here
      rw [untouched.delivery] at stored
      rw [lifeOf_congr untouched.attempts untouched.deadLetters]
      exact lettered other row stored

theorem DeliveryHub.Orderly.passes (orderly : hub.Orderly) (step : hub.Step lost after) :
    hub.Passes lost after :=
  ⟨.single ⟨lost, step⟩, fun lettered => orderly.lettered_iff lettered step⟩

theorem DeliveryHub.Passes.refl : hub.Passes false hub :=
  ⟨.refl, fun lettered => iff_of_true lettered rfl⟩

theorem DeliveryHub.Passes.trans (first : hub.Passes false middle)
    (second : middle.Passes lost after) : hub.Passes lost after :=
  ⟨first.leads.trans second.leads,
    fun lettered => second.lettered ((first.lettered lettered).mpr rfl)⟩

/-- Any number of steps keeps the hub in order. -/
theorem DeliveryHub.Orderly.steps (orderly : hub.Orderly) (steps : hub.Leads after) :
    after.Orderly := by
  induction steps with
  | refl => exact orderly
  | tail _ last ih =>
    obtain ⟨_, step⟩ := last
    exact ih.step step

theorem DeliveryHub.Step.lifeOf (step : hub.Step lost after)
    (stored : hub.deliveries.get? key = some delivery) :
    ∃ later, after.deliveries.get? key = some later ∧
      ReflTransGen Life.Leads (hub.lifeOf key delivery) (after.lifeOf key later) := by
  cases step with
  | idle _ deliveries attempts deadLetters =>
    refine ⟨delivery, deliveries ▸ stored, ?_⟩
    rw [lifeOf_congr (attemptsOf_congr attempts key) (deadLettersOf_congr deadLetters key)]
  | queues _ new begins unused deliveries attempts deadLetters =>
    refine ⟨delivery, ?_, ?_⟩
    · rw [deliveries, Table.get?_insert_of_ne _ _ (Table.lt_nextKey_of_get? stored).ne]
      exact stored
    · rw [lifeOf_congr (attemptsOf_congr attempts key) (deadLettersOf_congr deadLetters key)]
  | advances _ _ place row later advances =>
    by_cases here : key = place
    · subst here
      obtain rfl := Option.some.inj (advances.found.symm.trans stored)
      exact ⟨later, advances.kept, .single ⟨lost, advances.moves⟩⟩
    · have untouched := advances.others key here
      refine ⟨delivery, untouched.delivery.trans stored, ?_⟩
      rw [lifeOf_congr untouched.attempts untouched.deadLetters]

/-- Any number of steps moves each delivery along its life. -/
theorem DeliveryHub.lifeOf_steps (steps : hub.Leads after)
    (stored : hub.deliveries.get? key = some delivery) :
    ∃ later, after.deliveries.get? key = some later ∧
      ReflTransGen Life.Leads (hub.lifeOf key delivery) (after.lifeOf key later) := by
  induction steps with
  | refl => exact ⟨delivery, stored, .refl⟩
  | tail _ last ih =>
    obtain ⟨row, found, moved⟩ := ih
    obtain ⟨_, step⟩ := last
    obtain ⟨later, kept, moves⟩ := step.lifeOf found
    exact ⟨later, kept, moved.trans moves⟩

end Steps

/-! ## What the calls do to the lives -/

section Calls

variable {env : DeliveryRuntime} {py : Interpreter} {hub after : DeliveryHub}
  {key : Nat} {delivery : ConnectorDelivery} {now : Instant} {lost : Bool}

theorem begins_newDelivery (connectorId : Nat) (connector : ConnectorInstance)
    (request : DeliveryRequest) (payload : Json) :
    DeliveryHub.Begins (newDelivery connectorId connector request payload) := by
  have positive : 0 < if connector.retryLimit = 0 then 1 else connector.retryLimit := by
    split <;> omega
  exact ⟨rfl, rfl, rfl, lt_min positive (by decide), min_le_right _ _⟩

/-- A row under a new key starts a life. -/
theorem step_queued {connectorId : Nat} {connector : ConnectorInstance}
    {request : DeliveryRequest} {safe : Json}
    (missing : hub.deliveryFor request.idempotencyKey = none) :
    hub.Step false { hub with
      deliveries := hub.deliveries.insert (newDelivery connectorId connector request safe) } := by
  refine .queues _ _ (begins_newDelivery connectorId connector request safe) ?_ rfl rfl rfl
  intro key row stored
  exact ne_of_beq_false (Table.first?_eq_none_iff.mp missing key row stored)

theorem step_queueDelivery {connectorId : Nat} {connector : ConnectorInstance}
    {request : DeliveryRequest}
    (done : queueDelivery py hub connectorId connector request now = .ok after) :
    hub.Step false after := by
  rcases (queueDelivery_ok done).2 with ⟨place, -, rfl⟩ | ⟨safe, missing, -, rfl⟩
  · exact .idle _ rfl rfl rfl
  · exact step_queued missing

theorem passes_fanOut (orderly : hub.Orderly) (eventId : Nat) (now : Instant) :
    hub.Passes false (hub.fanOut env eventId now) := by
  unfold DeliveryHub.fanOut
  split
  · exact .refl
  · rename_i event found
    split
    · rename_i result created done
      have queued : hub.Passes false result :=
        fanOutAll_induction
          (fun middle connectorId connector subscriptionId payload safe passes missing =>
            passes.trans ((orderly.steps passes.leads).passes (step_queued missing))) .refl done
      exact queued.trans ((orderly.steps queued.leads).passes (.idle _ rfl rfl rfl))
    · exact orderly.passes (.idle _ rfl rfl rfl)

/-- **The outbox only queues deliveries.** -/
theorem passes_drainOutbox (env : DeliveryRuntime) (orderly : hub.Orderly) (batchSize : Int)
    (now : Instant) : hub.Passes false (hub.drainOutbox env batchSize now) := by
  unfold DeliveryHub.drainOutbox
  generalize hub.pendingEvents (batchLimit batchSize) now = events
  induction events generalizing hub with
  | nil => exact .refl
  | cons event rest ih =>
    have first : hub.Passes false (hub.fanOut env event now) :=
      passes_fanOut orderly event now
    exact first.trans (ih (orderly.steps first.leads))

/-- Writing one row is a step of the hub if its life moves. -/
theorem step_modify {change : ConnectorDelivery → ConnectorDelivery}
    (found : hub.deliveries.get? key = some delivery)
    (sameKey : (change delivery).idempotencyKey = delivery.idempotencyKey)
    (moves : (hub.lifeOf key delivery).Moves false (hub.lifeOf key (change delivery))) :
    hub.Step false { hub with deliveries := hub.deliveries.modify key change } := by
  refine .advances _ _ key delivery (change delivery) ⟨found, ?_, sameKey, moves, rfl, ?_⟩
  · rw [Table.get?_modify_self, found, Option.map_some]
  · exact fun other apart => ⟨Table.get?_modify_of_ne _ _ apart, rfl, rfl⟩

/-- A retry by hand is a step of one life. -/
theorem step_retryDelivery (orderly : hub.Orderly) (done : retryDelivery hub key = .ok after) :
    hub.Step false after := by
  unfold retryDelivery at done
  split at done
  · cases done
  · rename_i delivery found
    split at done
    · rename_i retryable
      cases done
      have waiting : delivery.status.waiting = true := by
        rcases retryable with failed | again
        · exact absurd failed (orderly.sound key delivery found).notFailed
        · rw [again]
          rfl
      exact step_modify found rfl (.waits waiting .queued rfl)
    · cases done

/-- A cancellation is a step of one life. -/
theorem step_cancelDelivery {reason : String}
    (done : cancelDelivery hub key reason now = .ok after) : hub.Step false after := by
  unfold cancelDelivery at done
  split at done
  · cases done
  · rename_i delivery found
    split at done
    · rename_i open_
      cases done
      have waiting : delivery.status.waiting = true := by
        rcases open_ with queued | again
        · rw [queued]
          rfl
        · rw [again]
          rfl
      exact step_modify found rfl (.cancels waiting now)
    · cases done

/-! ### Attempts -/

/-- The outcome is one that `deliver` handles. -/
def Outcome.handled : Outcome → Bool
  | .response _ | .refused _ _ => true
  | .raised _ => false

/-- An attempt that has ended is a row under its delivery, and its end moves the delivery. -/
theorem step_ended (row : ConnectorDeliveryAttempt)
    (change : ConnectorDelivery → ConnectorDelivery) {letters : List ConnectorDeadLetter}
    (found : hub.deliveries.get? key = some delivery) (own : row.deliveryId = key)
    (deliveries : after.deliveries =
      (hub.deliveries.modify key fun row => row.begun now).modify key change)
    (attempts : after.attempts = hub.attempts.insert row)
    (others : ∀ other, other ≠ key → after.deadLettersOf other = hub.deadLettersOf other)
    (ownLetters : after.deadLettersOf key = letters)
    (sameKey : (change (delivery.begun now)).idempotencyKey = delivery.idempotencyKey)
    (moves : (hub.lifeOf key delivery).Moves lost
      { status := (change (delivery.begun now)).status
        attemptCount := (change (delivery.begun now)).attemptCount
        maximumAttempts := (change (delivery.begun now)).maximumAttempts
        completedAt := (change (delivery.begun now)).completedAt
        attempts := hub.attemptsOf key ++ [row]
        deadLetters := letters }) :
    hub.Step lost after := by
  have ownAttempts : after.attemptsOf key = hub.attemptsOf key ++ [row] := by
    unfold DeliveryHub.attemptsOf
    rw [attempts, Table.select_insert_of_true]
    exact beq_iff_eq.mpr own
  refine .advances _ _ key delivery (change (delivery.begun now))
    ⟨found, ?_, sameKey, ?_, ?_, fun other apart => ⟨?_, ?_, others other apart⟩⟩
  · rw [deliveries, Table.get?_modify_self, Table.get?_modify_self, found]
    rfl
  · unfold DeliveryHub.lifeOf
    rw [ownAttempts, ownLetters]
    exact moves
  · rw [deliveries]
    rfl
  · rw [deliveries, Table.get?_modify_of_ne _ _ apart, Table.get?_modify_of_ne _ _ apart]
  · unfold DeliveryHub.attemptsOf
    rw [attempts, Table.select_insert_of_false]
    rw [own]
    exact beq_false_of_ne apart.symm

variable {started finished : Instant} {error : SecurityError}
  {answer earlier : Option AdapterResponse}

/-- A delivered request ends its life. -/
theorem step_succeed (waiting : delivery.status.waiting = true)
    (found : hub.deliveries.get? key = some delivery) (answer : AdapterResponse) :
    hub.Step false (((hub.probe delivery.connectorId).begin key delivery started).succeed py
      key hub.attempts.nextKey delivery answer finished) :=
  step_ended
    ((newAttempt key delivery started).ended .succeeded (some answer) none none finished)
    (fun row => row.accepted answer finished) found rfl rfl
    (Table.modify_insert hub.attempts (newAttempt key delivery started) fun attempt =>
      attempt.ended .succeeded (some answer) none none finished)
    (fun _ _ => rfl) rfl rfl (.succeeds waiting _ rfl finished)

/-- The letter of a delivery as `_dead_letter` writes it. -/
def ConnectorDelivery.letter (py : Interpreter) (delivery : ConnectorDelivery) (key : Nat)
    (error : SecurityError) : ConnectorDeadLetter :=
  ⟨key, delivery.connectorId, error.code, Text.truncate 1000 error.summary,
    redact py delivery.payload, delivery.attemptCount + 1⟩

theorem hasLetter_of_none (none : hub.deadLettersOf key = []) : hub.hasLetter key = false := by
  unfold DeliveryHub.hasLetter
  rw [Table.select_eq_nil_iff.mp none, Option.isSome_none]

/-- **The letters after a burial**: one more for the delivery, unless it is lost. -/
theorem select_bury (py : Interpreter) (delivery : ConnectorDelivery) (error : SecurityError)
    (none : hub.deadLettersOf key = []) (other : Nat) :
    ((hub.bury py key delivery error).select fun letter => letter.deliveryId == other) =
      hub.deadLettersOf other ++
        if other = key ∧ hub.letterRaises py key delivery = false then
          [delivery.letter py key error] else [] := by
  unfold DeliveryHub.bury DeliveryHub.deadLettersOf
  rw [hasLetter_of_none none, Bool.false_or]
  cases hub.letterRaises py key delivery with
  | true => simp
  | false =>
    rw [if_neg Bool.false_ne_true]
    by_cases here : other = key
    · rw [if_pos ⟨here, rfl⟩, Table.select_insert_of_true]
      · rfl
      · exact beq_iff_eq.mpr here.symm
    · rw [if_neg fun both => here both.1, Table.select_insert_of_false, List.append_nil]
      exact beq_false_of_ne fun same => here same.symm

/-- **A failed attempt** makes its delivery wait or ends it, and loses the letter exactly if the
handler raises. -/
theorem step_fail (orderly : hub.Orderly) (waiting : delivery.status.waiting = true)
    (found : hub.deliveries.get? key = some delivery) :
    hub.Step (hub.failRaises py key delivery error)
      (((hub.probe delivery.connectorId).begin key delivery started).fail py key
        hub.attempts.nextKey delivery error answer earlier finished) := by
  unfold DeliveryHub.fail DeliveryHub.failRaises
  dsimp only
  split
  · rename_i again
    rw [again, Bool.not_true, Bool.false_and]
    refine step_ended ((newAttempt key delivery started).ended .failedRetryable answer (some error)
        (some (retryDelay py error.code earlier (delivery.attemptCount + 1))) finished)
      (fun row => (row.answered answer).retried error
        (finished + seconds (retryDelay py error.code earlier (delivery.attemptCount + 1))))
      found rfl rfl
      (Table.modify_insert hub.attempts (newAttempt key delivery started) fun attempt =>
        attempt.ended .failedRetryable answer (some error)
          (some (retryDelay py error.code earlier (delivery.attemptCount + 1))) finished)
      (fun _ _ => rfl) rfl (sameIdentity_answered _ answer).key ?_
    have more := of_decide_eq_true (Bool.and_eq_true_iff.mp again).2
    cases answer <;> exact .retries waiting _ rfl more
  · rename_i spent
    rw [Bool.eq_false_iff.mpr spent, Bool.not_false, Bool.true_and]
    have letters := select_bury py delivery error
      ((orderly.sound key delivery found).deadLetters_eq_nil waiting)
    refine step_ended ((newAttempt key delivery started).ended .failedTerminal answer (some error)
        none finished)
      (fun row => (row.answered answer).buried error finished) found rfl rfl
      (Table.modify_insert hub.attempts (newAttempt key delivery started) fun attempt =>
        attempt.ended .failedTerminal answer (some error) none finished)
      (fun other apart => ?_) (letters key) (sameIdentity_answered _ answer).key ?_
    · refine (letters other).trans ?_
      rw [if_neg fun both => apart both.1, List.append_nil]
    · cases hub.letterRaises py key delivery with
      | true =>
        rw [if_neg fun both => Bool.false_ne_true both.2.symm, List.append_nil]
        cases answer <;> exact .loses waiting _ rfl finished
      | false =>
        rw [if_pos ⟨rfl, rfl⟩]
        cases answer <;> exact .dies waiting _ rfl _ finished

/-- **An attempt moves its delivery**, when it waits and the outcome is handled. -/
theorem step_deliver (py : Interpreter) (orderly : hub.Orderly)
    (found : hub.deliveries.get? key = some delivery)
    (waiting : delivery.status.waiting = true) {attempted : Attempted}
    (handled : attempted.outcome.handled = true) :
    hub.Step (raisingAttempt py hub key attempted) (deliver py hub key attempted).1 := by
  unfold deliver raisingAttempt
  rw [found]
  dsimp only
  cases hub.disposition delivery attempted.started with
  | inactive => exact step_modify found rfl (.waits waiting .waitingRetry rfl)
  | settled => exact .idle _ rfl rfl rfl
  | deferred pauseEnd => exact step_modify found rfl (.waits waiting .waitingRetry rfl)
  | due connector =>
    unfold DeliveryHub.attempt DeliveryHub.conclude Outcome.raises Outcome.error?
    dsimp only
    cases outcome : attempted.outcome with
    | response answer =>
      dsimp only
      cases answer.refusal with
      | none => exact step_succeed waiting found answer
      | some error => exact step_fail orderly waiting found
    | refused error earlier => exact step_fail orderly waiting found
    | raised commits =>
      rw [outcome] at handled
      cases handled

/-- **Attempts one after another.** A letter is lost exactly if one of them raises, which is the
last one. -/
theorem passes_deliverAll {attempts : Nat → Attempted}
    (handled : ∀ key, (attempts key).outcome.handled = true) {keys : List Nat} :
    ∀ {hub : DeliveryHub}, hub.Orderly → keys.Nodup →
      (∀ key ∈ keys, ∃ delivery, hub.deliveries.get? key = some delivery ∧
        delivery.status.waiting = true) →
      hub.Passes (raisesAll py attempts keys hub) (deliverAll py attempts keys hub).1 := by
  induction keys with
  | nil => exact fun _ _ _ => .refl
  | cons key rest ih =>
    intro hub orderly distinct due
    rw [List.nodup_cons] at distinct
    rw [List.forall_mem_cons] at due
    obtain ⟨delivery, found, waiting⟩ := due.1
    have step := step_deliver py orderly found waiting (handled key)
    have others : ∀ other ∈ rest, ∃ row,
        (deliver py hub key (attempts key)).1.deliveries.get? other = some row ∧
          row.status.waiting = true := by
      intro other member
      have apart : other ≠ key := fun same => distinct.1 (same ▸ member)
      rw [get?_deliver_of_ne _ apart]
      exact due.2 other member
    have raised := deliver_raises py hub key (attempts key)
    unfold deliverAll raisesAll
    rw [← raised] at step ⊢
    generalize deliver py hub key (attempts key) = result at step others ⊢
    obtain ⟨after, crashed⟩ := result
    cases crashed with
    | true => exact orderly.passes step
    | false => exact (orderly.passes step).trans (ih (orderly.step step) distinct.2 others)

theorem waiting_of_mem_dueDeliveries {limit : Nat} (due : key ∈ hub.dueDeliveries limit now) :
    ∃ delivery, hub.deliveries.get? key = some delivery ∧ delivery.status.waiting = true := by
  obtain ⟨⟨place, delivery⟩, member, rfl⟩ := List.mem_map.mp (List.mem_of_mem_take due)
  obtain ⟨stored, chosen⟩ := List.mem_filter.mp member
  refine ⟨delivery, (Table.get?_eq_some_iff _ _ _).mpr stored, ?_⟩
  rw [Bool.and_eq_true, Bool.or_eq_true, decide_eq_true_iff, decide_eq_true_iff] at chosen
  rcases chosen.1 with queued | again
  · rw [queued]
    rfl
  · rw [again]
    rfl

/-- The call loses the letter of a delivery: one of the attempts of `process_due` ends in an error
that its delivery is not tried again after, and the stored payload exceeds the bound once it is
redacted again. -/
def DeliveryHub.losesLetter (env : DeliveryRuntime) (hub : DeliveryHub)
    (input : TimedDelivery) : Bool :=
  match input.call with
  | .processDue batchSize attempts =>
    let drained := hub.drainOutbox env batchSize input.now
    raisesAll env.py attempts
      (drained.dueDeliveries (batchLimit batchSize) input.now) drained
  | _ => false

theorem passes_processDue (orderly : hub.Orderly) {batchSize : Int} {attempts : Nat → Attempted}
    (handled : ∀ key, (attempts key).outcome.handled = true) :
    hub.Passes (hub.losesLetter env ⟨now, .processDue batchSize attempts⟩)
      (processDue env hub batchSize now attempts).1 := by
  have drained := passes_drainOutbox env orderly batchSize now
  refine drained.trans (passes_deliverAll handled (orderly.steps drained.leads)
    ((List.take_sublist _ _).nodup (DeliveryHub.nodup_due ..)) ?_)
  exact fun key due => waiting_of_mem_dueDeliveries due

end Calls

/-! ## Runs -/

/-- A call of the life cycle: deliveries are attempted by `process_due` alone, and every
attempt ends in a response or an error of the service. -/
def TimedDelivery.Ordinary (input : TimedDelivery) : Prop :=
  match input.call with
  | .deliver _ _ => False
  | .processDue _ attempts => ∀ key, (attempts key).outcome.handled = true
  | _ => True

/-- No delivery was ever made. -/
structure DeliveryHub.Undelivered (hub : DeliveryHub) : Prop where
  deliveries : hub.deliveries.rows = []
  attempts : hub.attempts.rows = []
  deadLetters : hub.deadLetters.rows = []

section Runs

variable {env : DeliveryRuntime} {hub : DeliveryHub}

theorem DeliveryHub.Undelivered.orderly (fresh : hub.Undelivered) : hub.Orderly := by
  have none : ∀ key delivery, hub.deliveries.get? key ≠ some delivery := by
    intro key delivery stored
    have member := (Table.get?_eq_some_iff _ _ _).mp stored
    rw [fresh.deliveries] at member
    cases member
  refine ⟨fun key delivery _ _ stored => absurd stored (none key delivery), fun key _ => ?_,
    fun key delivery stored => absurd stored (none key delivery)⟩
  unfold DeliveryHub.attemptsOf DeliveryHub.deadLettersOf Table.select
  rw [fresh.attempts, fresh.deadLetters]
  exact ⟨rfl, rfl⟩

theorem DeliveryHub.Undelivered.lettered (fresh : hub.Undelivered) : hub.Lettered := by
  intro key delivery stored
  have member := (Table.get?_eq_some_iff _ _ _).mp stored
  rw [fresh.deliveries] at member
  cases member

/-- **One call.** The letters stay complete exactly if the call loses none. -/
theorem DeliveryHub.Orderly.next (env : DeliveryRuntime) (orderly : hub.Orderly)
    {input : TimedDelivery} (ordinary : input.Ordinary) :
    hub.Passes (hub.losesLetter env input) (hub.next env input) := by
  obtain ⟨now, call⟩ := input
  cases call with
  | queue connectorId request =>
    cases result : createDelivery env.py hub connectorId request now with
    | error fault =>
      simp only [DeliveryHub.next, DeliveryHub.settle, result]
      exact .refl
    | ok after =>
      simp only [DeliveryHub.next, DeliveryHub.settle, result]
      unfold createDelivery at result
      split at result
      · cases result
      · exact orderly.passes (step_queueDelivery result)
  | deliver key attempted => exact ordinary.elim
  | processDue batchSize attempts => exact passes_processDue orderly ordinary
  | transition connectorId action lockVersion validation =>
    simp only [DeliveryHub.next]
    split
    · exact .refl
    · split
      · exact .refl
      · exact orderly.passes (.idle _ rfl rfl rfl)
  | retry key =>
    cases result : retryDelivery hub key with
    | error fault =>
      simp only [DeliveryHub.next, DeliveryHub.settle, result]
      exact .refl
    | ok after =>
      simp only [DeliveryHub.next, DeliveryHub.settle, result]
      exact orderly.passes (step_retryDelivery orderly result)
  | cancel key reason =>
    cases result : cancelDelivery hub key reason now with
    | error fault =>
      simp only [DeliveryHub.next, DeliveryHub.settle, result]
      exact .refl
    | ok after =>
      simp only [DeliveryHub.next, DeliveryHub.settle, result]
      exact orderly.passes (step_cancelDelivery result)
  | resetCircuit connectorId => exact orderly.passes (.idle _ rfl rfl rfl)

theorem DeliveryHub.Orderly.final (env : DeliveryRuntime) (orderly : hub.Orderly)
    {calls : List TimedDelivery} (ordinary : ∀ input ∈ calls, input.Ordinary) :
    hub.Leads (Library.final (DeliveryHub.next env) hub calls) := by
  induction calls generalizing hub with
  | nil => exact .refl
  | cons input rest ih =>
    rw [List.forall_mem_cons] at ordinary
    have first := (orderly.next env ordinary.1).leads
    exact first.trans (ih (orderly.steps first) ordinary.2)

/-- What is promised of the deliveries: one for each idempotency key, numbered attempts
within the bound, exactly one dead letter for those that have died, and no change of those
that have ended. -/
structure DeliveryHub.Lifecycle (env : DeliveryRuntime) (hub : DeliveryHub) : Prop where
  single : Distinct ConnectorDelivery.idempotencyKey hub.deliveries
  numbered : ∀ key delivery, hub.deliveries.get? key = some delivery →
    (hub.attemptsOf key).map ConnectorDeliveryAttempt.attemptNumber =
      List.range' 1 delivery.attemptCount
  bounded : ∀ key delivery, hub.deliveries.get? key = some delivery →
    delivery.attemptCount ≤ delivery.maximumAttempts ∧ delivery.maximumAttempts ≤ 7
  buried : hub.Lettered
  ended : ∀ key delivery, hub.deliveries.get? key = some delivery →
    delivery.status = .succeeded ∨ delivery.status = .deadLetter ∨
      delivery.status = .cancelled →
    ∀ calls : List TimedDelivery, (∀ input ∈ calls, input.Ordinary) →
      let after := Library.final (DeliveryHub.next env) hub calls
      ∃ later, after.deliveries.get? key = some later ∧ later.status = delivery.status ∧
        later.attemptCount = delivery.attemptCount ∧ after.attemptsOf key = hub.attemptsOf key ∧
        later.completedAt = delivery.completedAt

/-- **Tables in order keep every promise but the letters.** -/
theorem DeliveryHub.Orderly.lifecycle_iff (env : DeliveryRuntime) (orderly : hub.Orderly) :
    hub.Lifecycle env ↔ hub.Lettered := by
  refine ⟨Lifecycle.buried, fun lettered => ⟨orderly.distinct,
    fun key delivery stored => (orderly.sound key delivery stored).numbered,
    fun key delivery stored => ⟨(orderly.sound key delivery stored).bounded,
      (orderly.sound key delivery stored).limited⟩, lettered, ?_⟩⟩
  intro key delivery stored ended calls ordinary after
  obtain ⟨later, kept, moves⟩ := DeliveryHub.lifeOf_steps (orderly.final env ordinary) stored
  have settled : (hub.lifeOf key delivery).status.waiting = false := by
    rcases ended with done | done | done <;> · simp only [DeliveryHub.lifeOf, done]; rfl
  have same := Life.eq_of_reflTransGen moves settled
  simp only [DeliveryHub.lifeOf, Life.mk.injEq] at same
  exact ⟨later, kept, same.1, same.2.1, same.2.2.2.2.1, same.2.2.2.1⟩

/-- Every state of a run keeps what is promised of the deliveries. -/
def KeepsLifecycle (env : DeliveryRuntime)
    (past : List (Transition DeliveryHub TimedDelivery)) : Prop :=
  ∀ move ∈ past, move.after.Lifecycle env

/-- No call of a run loses a letter. -/
def LosesNone (env : DeliveryRuntime) (past : List (Transition DeliveryHub TimedDelivery)) : Prop :=
  ∀ move ∈ past, move.before.losesLetter env move.input = false

/-- **The run lemma.** The tables stay in order whatever happens, and the letters are complete as
long as none is lost. -/
theorem lifecycle_of_run (env : DeliveryRuntime) {calls : List TimedDelivery} :
    ∀ {start : DeliveryHub}, start.Orderly → start.Lettered →
      (∀ input ∈ calls, input.Ordinary) →
      (KeepsLifecycle env (trace (DeliveryHub.next env) start calls) ↔
        LosesNone env (trace (DeliveryHub.next env) start calls)) := by
  unfold KeepsLifecycle LosesNone
  induction calls with
  | nil =>
    exact fun _ _ _ => iff_of_true (fun _ absent => absurd absent List.not_mem_nil)
      fun _ absent => absurd absent List.not_mem_nil
  | cons input rest ih =>
    intro start orderly lettered ordinary
    rw [List.forall_mem_cons] at ordinary
    have passes := orderly.next env ordinary.1
    have after := orderly.steps passes.leads
    rw [trace, List.forall_mem_cons, List.forall_mem_cons, after.lifecycle_iff,
      passes.lettered lettered]
    exact and_congr_right fun none =>
      ih after ((passes.lettered lettered).mpr none) ordinary.2

end Runs

/-- **Life cycle of a delivery.** In every run from no deliveries, each state has one delivery for
each idempotency key, whose attempts are numbered without gaps and bounded by seven, which is in
the dead letters exactly when it has died, and which nothing changes once it has ended, if and
only if no attempt ends a delivery whose payload outgrows the bound when it is redacted again. -/
theorem delivery_lifecycle_iff (env : DeliveryRuntime) (start : DeliveryHub)
    (fresh : start.Undelivered) (calls : List TimedDelivery)
    (ordinary : ∀ input ∈ calls, input.Ordinary) :
    KeepsLifecycle env (trace (DeliveryHub.next env) start calls) ↔
      LosesNone env (trace (DeliveryHub.next env) start calls) :=
  lifecycle_of_run env fresh.orderly fresh.lettered ordinary

theorem delivery_lifecycle_retried :
    KeepsLifecycle plainDelivery (trace (DeliveryHub.next plainDelivery) outboundHub
      [⟨noon, .queue 1 plainRequest⟩, ⟨noon, .queue 1 plainRequest⟩,
        ⟨noon, .processDue 10 fun _ => ⟨noon, noon, .refused ⟨.timeout, "Timed out"⟩ none⟩⟩,
        ⟨noon, .retry 1⟩,
        ⟨noon, .processDue 10 fun _ => ⟨noon, noon, .response ⟨404, [], none⟩⟩⟩]) := by
  refine (delivery_lifecycle_iff plainDelivery outboundHub ⟨rfl, rfl, rfl⟩ _ ?_).mpr ?_
  · intro input member
    fin_cases member <;> simp [TimedDelivery.Ordinary, Outcome.handled]
  · unfold LosesNone
    decide +kernel

/-! ## A payload that outgrows the bound -/

/-- A text of a length. -/
def filler (length : Nat) : Json := .str (String.ofList (List.replicate length 'x'))

/-- A key whose secret part is behind the first 100 characters. -/
def lateSecret : String := String.ofList (List.replicate 100 'k') ++ "token"

/-- Lists in lists. -/
def wrapped : Nat → Json → Json
  | 0, value => value
  | levels + 1, value => .arr [wrapped levels value]

/-- A payload whose eighth level has a value under a key; the fillers bring it up to the bound. -/
def heavyPayload (key : String) (value : Json) : Json :=
  .obj [("a", wrapped 7 (.obj [(key, value)])),
    ("b", .arr (List.replicate 65 (filler 4000))), ("c", filler 1799)]

theorem redactWithin_filler (py : Interpreter) {length : Nat} (short : length ≤ 4000)
    (levels : Nat) : redactWithin py (levels + 1) (filler length) = filler length := by
  simp only [filler, redactWithin, Text.truncate, String.toList_ofList, List.take_replicate,
    min_eq_right short]

theorem encodedSize_filler (py : Interpreter) (length : Nat) :
    py.encodedSize (filler length) = length + 2 := by
  have single : Interpreter.escapedSize 'x' = 1 := by decide
  simp [filler, Interpreter.encodedSize, Interpreter.stringSize, single]

theorem encodedItems_replicate (py : Interpreter) (count : Nat) (item : Json) :
    py.encodedItems (List.replicate count item) = count * (py.encodedSize item + 1) := by
  induction count with
  | zero => simp [Interpreter.encodedItems]
  | succ count ih =>
    rw [List.replicate_succ, Interpreter.encodedItems, ih]
    ring

/-- Redaction cuts the key and replaces the value, which is below the last level. -/
theorem redact_heavyPayload (key : String) (value : Json) :
    redact plainDelivery.py (heavyPayload key value) =
      heavyPayload (Text.truncate 100 key) (.str
        (if secretKeys.any fun part => Text.contains (plainDelivery.py.casefold key) part then
          "[REDACTED]" else "[TRUNCATED]")) := by
  have plain : ∀ name ∈ ["a", "b", "c"], Text.truncate 100 name = name ∧
      (secretKeys.any fun part => Text.contains (plainDelivery.py.casefold name) part) =
        false := by
    decide +kernel
  simp only [List.forall_mem_cons, List.not_mem_nil, IsEmpty.forall_iff, implies_true, and_true]
    at plain
  obtain ⟨⟨a, openA⟩, ⟨b, openB⟩, c, openC⟩ := plain
  have flat (levels : Nat) : redactWithin plainDelivery.py (levels + 2)
      (.arr (List.replicate 65 (filler 4000))) = .arr (List.replicate 65 (filler 4000)) := by
    rw [redactWithin, List.take_replicate, List.map_replicate, redactWithin_filler _ le_rfl]
    rfl
  have deep : redactWithin plainDelivery.py 8 (wrapped 7 (.obj [(key, value)])) =
      wrapped 7 (redactWithin plainDelivery.py 1 (.obj [(key, value)])) := by
    simp only [wrapped, redactWithin, List.take_succ_cons, List.take_nil, List.map_cons,
      List.map_nil]
  have leaf : redactWithin plainDelivery.py 1 (.obj [(key, value)]) =
      .obj [(Text.truncate 100 key, .str
        (if secretKeys.any fun part => Text.contains (plainDelivery.py.casefold key) part then
          "[REDACTED]" else "[TRUNCATED]"))] := by
    simp only [redactWithin, List.take_succ_cons, List.take_nil, List.foldl_cons, List.foldl_nil]
    cases secretKeys.any fun part => Text.contains (plainDelivery.py.casefold key) part <;> rfl
  rw [redact, heavyPayload, redactWithin]
  simp only [List.take_succ_cons, List.take_nil, List.foldl_cons, List.foldl_nil, a, b, c, openA,
    openB, openC, Bool.false_eq_true, if_false, deep, leaf, flat, redactWithin_filler _
      (show 1799 ≤ 4000 by decide)]
  rfl

/-- The key as it is stored. -/
def cutKey : String := String.ofList (List.replicate 100 'k')

theorem encodedSize_heavyPayload (py : Interpreter) (text : String) :
    py.encodedSize (heavyPayload cutKey (.str text)) =
      262132 + Interpreter.stringSize text := by
  have key : Interpreter.stringSize cutKey = 102 := by decide +kernel
  have name : ∀ name ∈ ["a", "b", "c"], Interpreter.stringSize name = 3 := by decide
  have items := encodedItems_replicate py 65 (filler 4000)
  rw [encodedSize_filler] at items
  simp only [heavyPayload, wrapped, Interpreter.encodedSize, Interpreter.encodedFields,
    Interpreter.encodedItems, List.isEmpty_cons, Bool.false_eq_true, if_false, key, items,
    encodedSize_filler, name "a" (by decide), name "b" (by decide), name "c" (by decide)]
  rw [if_neg (by decide)]
  omega

theorem redact_heavyPayload_lateSecret :
    redact plainDelivery.py (heavyPayload lateSecret (.int 1)) =
      heavyPayload cutKey (.str "[REDACTED]") := by
  have cut : Text.truncate 100 lateSecret = cutKey := by decide +kernel
  have secret : (secretKeys.any fun part =>
      Text.contains (plainDelivery.py.casefold lateSecret) part) = true := by decide +kernel
  rw [redact_heavyPayload, cut, if_pos secret]

theorem redact_heavyPayload_cutKey (value : Json) :
    redact plainDelivery.py (heavyPayload cutKey value) =
      heavyPayload cutKey (.str "[TRUNCATED]") := by
  have cut : Text.truncate 100 cutKey = cutKey := by decide +kernel
  have plain : (secretKeys.any fun part =>
      Text.contains (plainDelivery.py.casefold cutKey) part) = false := by decide +kernel
  rw [redact_heavyPayload, cut, plain]
  rfl

/-- A hub with a delivery of a stored payload. -/
def queuedHub (stored : Json) : DeliveryHub :=
  { outboundHub with
    deliveries := outboundHub.deliveries.insert
      (newDelivery 1 outboundConnector plainRequest stored) }

theorem next_queue {payload stored : Json}
    (safe : safePayload plainDelivery.py payload = .ok stored) :
    outboundHub.next plainDelivery ⟨noon, .queue 1 { plainRequest with payload }⟩ =
      queuedHub stored := by
  have found : outboundHub.connectors.get? 1 = some outboundConnector := rfl
  have admitted : outboundConnector.admit noon = .ok () := rfl
  have missing : outboundHub.deliveryFor "case-1-created" = none := rfl
  simp only [DeliveryHub.next, createDelivery, queueDelivery, found, admitted, missing,
    plainRequest,
    safe]
  rfl

/-- The batch in which the server refuses the delivery for good. -/
def refusedBatch : TimedDelivery :=
  ⟨noon, .processDue 10 fun _ => ⟨noon, noon, .response ⟨404, [], none⟩⟩⟩

theorem losesLetter_queuedHub {stored : Json}
    (outgrown : exceedsBound plainDelivery.py (redact plainDelivery.py stored) = true) :
    (queuedHub stored).losesLetter plainDelivery refusedBatch = true :=
  Bool.or_eq_true_iff.mpr (.inl outgrown)

/-- The heavy payload is queued, and its only attempt is refused. -/
def outgrownCalls : List TimedDelivery :=
  [⟨noon, .queue 1 { plainRequest with payload := heavyPayload lateSecret (.int 1) }⟩,
    refusedBatch]

/-- **The delivery dies without a letter.** -/
theorem outgrown_letter :
    outboundHub.Undelivered ∧ (∀ input ∈ outgrownCalls, input.Ordinary) ∧
      ¬ KeepsLifecycle plainDelivery
        (trace (DeliveryHub.next plainDelivery) outboundHub outgrownCalls) := by
  have fresh : outboundHub.Undelivered := ⟨rfl, rfl, rfl⟩
  have ordinary : ∀ input ∈ outgrownCalls, input.Ordinary := by
    intro input member
    fin_cases member
    · trivial
    · exact fun _ => rfl
  refine ⟨fresh, ordinary, fun kept => ?_⟩
  have none := (lifecycle_of_run plainDelivery fresh.orderly fresh.lettered ordinary).mp kept
  have bounded : safePayload plainDelivery.py (heavyPayload lateSecret (.int 1)) =
      .ok (heavyPayload cutKey (.str "[REDACTED]")) := by
    rw [safePayload, redact_heavyPayload_lateSecret, exceedsBound, encodedSize_heavyPayload,
      if_neg (by decide)]
  have outgrown : exceedsBound plainDelivery.py (redact plainDelivery.py
      (heavyPayload cutKey (.str "[REDACTED]"))) = true := by
    rw [redact_heavyPayload_cutKey, exceedsBound, encodedSize_heavyPayload]
    decide
  have quiet := none _ (List.mem_cons_of_mem _ (List.mem_cons_self ..))
  dsimp only at quiet
  rw [next_queue bounded, losesLetter_queuedHub outgrown] at quiet
  cases quiet

end ThreatScope.Integrations
