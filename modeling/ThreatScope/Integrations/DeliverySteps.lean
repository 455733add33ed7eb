import ThreatScope.Integrations.Deliveries

/-!
# What the calls on deliveries do

One inversion lemma for each function of the sending side, which the invariants of the
circuit, of the outbox and of the life of a delivery are derived from.
-/

set_option autoImplicit false

namespace ThreatScope.Integrations

open Library AccessControl

variable {env : DeliveryRuntime} {py : Interpreter} {hub after : DeliveryHub}
  {connectorId key : Nat} {now : Instant}

/-! ## Queueing -/

theorem queueDelivery_ok {connector : ConnectorInstance} {request : DeliveryRequest}
    (done : queueDelivery py hub connectorId connector request now = .ok after) :
    connector.admit now = .ok () ∧
    ((∃ place, hub.deliveryFor request.idempotencyKey = some place ∧ after = hub) ∨
      ∃ safe, hub.deliveryFor request.idempotencyKey = none ∧
        safePayload py request.payload = .ok safe ∧
        after = { hub with
          deliveries := hub.deliveries.insert (newDelivery connectorId connector request
            safe) }) := by
  obtain ⟨⟨⟩, admitted, done⟩ := bind_eq_ok_iff.mp done
  refine ⟨admitted, ?_⟩
  split at done
  · rename_i place found
    cases done
    exact .inl ⟨place, found, rfl⟩
  · rename_i missing
    obtain ⟨safe, bounded, done⟩ := bind_eq_ok_iff.mp done
    cases done
    exact .inr ⟨safe, missing, bounded, rfl⟩

theorem fanOutTo_ok {eventId subscriptionId : Nat} {event : IntegrationOutboxEvent}
    {subscription : ConnectorSubscription} {asked : Bool}
    (done : hub.fanOutTo env eventId event subscriptionId subscription now =
      .ok (after, asked)) :
    (after = hub ∧ asked = false) ∨ ∃ connector payload,
      hub.connectors.get? subscription.connectorId = some connector ∧ asked = true ∧
        queueDelivery env.py hub subscription.connectorId connector
          (fanOutRequest env eventId event subscriptionId payload) now = .ok after := by
  unfold DeliveryHub.fanOutTo at done
  split at done
  · cases done
    exact .inl ⟨rfl, rfl⟩
  · rename_i connector found
    split at done
    · cases done
      exact .inl ⟨rfl, rfl⟩
    · obtain ⟨passes, -, done⟩ := bind_eq_ok_iff.mp done
      split at done
      · obtain ⟨payload, -, done⟩ := bind_eq_ok_iff.mp done
        obtain ⟨queued, queueing, done⟩ := bind_eq_ok_iff.mp done
        cases done
        exact .inr ⟨connector, payload, found, rfl, queueing⟩
      · cases done
        exact .inl ⟨rfl, rfl⟩

/-- **The fan-out of an event only queues deliveries of that event.** What holds before and
is kept by queueing one holds afterwards. -/
theorem fanOutAll_induction {motive : DeliveryHub → Prop} {eventId : Nat}
    {event : IntegrationOutboxEvent} {rows : List (Nat × ConnectorSubscription)}
    (queues : ∀ hub connectorId connector subscriptionId payload safe, motive hub →
      hub.deliveryFor (fanOutKey env event subscriptionId) = none →
      motive { hub with
        deliveries := hub.deliveries.insert (newDelivery connectorId connector
          (fanOutRequest env eventId event subscriptionId payload) safe) }) :
    ∀ {hub : DeliveryHub} {created : Bool} {result : DeliveryHub × Bool}, motive hub →
      DeliveryHub.fanOutAll env eventId event now rows hub created = .ok result →
        motive result.1 := by
  induction rows with
  | nil =>
    intro hub created result before done
    cases done
    exact before
  | cons row rest ih =>
    intro hub created result before done
    obtain ⟨⟨middle, asked⟩, first, done⟩ := bind_eq_ok_iff.mp done
    refine ih ?_ done
    rcases fanOutTo_ok first with ⟨rfl, -⟩ | ⟨connector, payload, -, -, queueing⟩
    · exact before
    · rcases (queueDelivery_ok queueing).2 with ⟨-, -, rfl⟩ | ⟨safe, missing, -, rfl⟩
      · exact before
      · exact queues hub _ connector row.1 payload safe before missing

/-! ## Attempts -/

/-- What is known of a delivery that is due. -/
theorem disposition_due {delivery : ConnectorDelivery} {connector : ConnectorInstance}
    (due : hub.disposition delivery now = .due connector) :
    hub.connectors.get? delivery.connectorId = some connector ∧
      connector.running = true ∧ delivery.status.terminal = false ∧
      connector.circuitState ≠ .halfOpen := by
  unfold DeliveryHub.disposition at due
  split at due
  · cases due
  · rename_i owner found
    obtain ⟨stored, running⟩ := Option.filter_eq_some_iff.mp found
    split at due
    · cases due
    · rename_i unsettled
      have pending := Bool.eq_false_iff.mpr unsettled
      cases state : owner.circuitState with
      | closed =>
        simp only [state] at due
        cases due
        exact ⟨stored, running, pending, by rw [state]; decide⟩
      | halfOpen =>
        simp only [state] at due
        cases due
      | opened =>
        cases retry : owner.circuitRetryAt with
        | none =>
          simp only [state, retry] at due
          cases due
          exact ⟨stored, running, pending, by rw [state]; decide⟩
        | some retryAt =>
          simp only [state, retry] at due
          split at due
          · cases due
          · cases due
            exact ⟨stored, running, pending, by rw [state]; decide⟩

/-- The delivery is not attempted at a time. -/
def DeliveryHub.Idle (hub : DeliveryHub) (key : Nat) (now : Instant) : Prop :=
  ∀ delivery connector, hub.deliveries.get? key = some delivery →
    hub.disposition delivery now ≠ .due connector

/-- **What `deliver` does**: nothing, or it postpones the delivery, or it attempts it. -/
theorem deliver_cases (py : Interpreter) (hub : DeliveryHub) (key : Nat) (attempted : Attempted) :
    (hub.Idle key attempted.started ∧ (deliver py hub key attempted = (hub, false) ∨
      ∃ change, (∀ row, (change row : ConnectorDelivery).status = .waitingRetry) ∧
        deliver py hub key attempted =
          ({ hub with deliveries := hub.deliveries.modify key change }, false))) ∨
    ∃ delivery connector, hub.deliveries.get? key = some delivery ∧
      hub.disposition delivery attempted.started = .due connector ∧
      deliver py hub key attempted = hub.attempt py key delivery attempted := by
  cases found : hub.deliveries.get? key with
  | none =>
    refine .inl ⟨fun delivery connector stored => ?_, .inl (by simp only [deliver, found])⟩
    rw [found] at stored
    cases stored
  | some delivery =>
    have idle : (∀ connector, hub.disposition delivery attempted.started ≠ .due connector) →
        hub.Idle key attempted.started := by
      intro other row connector stored
      rw [found] at stored
      cases stored
      exact other connector
    cases verdict : hub.disposition delivery attempted.started with
    | inactive =>
      refine .inl ⟨idle fun _ => by rw [verdict]; simp, .inr ⟨ConnectorDelivery.inactive,
        fun _ => rfl, by simp only [deliver, found, verdict]⟩⟩
    | settled =>
      exact .inl ⟨idle fun _ => by rw [verdict]; simp,
        .inl (by simp only [deliver, found, verdict])⟩
    | deferred pauseEnd =>
      exact .inl ⟨idle fun _ => by rw [verdict]; simp,
        .inr ⟨fun delivery => delivery.deferred pauseEnd, fun _ => rfl,
          by simp only [deliver, found, verdict]⟩⟩
    | due connector =>
      exact .inr ⟨delivery, connector, rfl, verdict, by simp only [deliver, found, verdict]⟩

theorem connectors_fail {begun : DeliveryHub} {attemptKey : Nat} {delivery : ConnectorDelivery}
    {error : SecurityError} {answer earlier : Option AdapterResponse} :
    (begun.fail py key attemptKey delivery error answer earlier now).connectors =
      begun.connectors.modify delivery.connectorId fun connector =>
        if begun.failRaises py key delivery error then connector.counted error.code now
        else connector.faulted error.code now := by
  unfold DeliveryHub.fail
  dsimp only
  split <;> rfl

theorem deliveries_fail {begun : DeliveryHub} {attemptKey : Nat} {delivery : ConnectorDelivery}
    {error : SecurityError} {answer earlier : Option AdapterResponse} :
    (∃ next, (begun.fail py key attemptKey delivery error answer earlier now).deliveries =
      begun.deliveries.modify key fun row => (row.answered answer).retried error next) ∨
    (begun.fail py key attemptKey delivery error answer earlier now).deliveries =
      begun.deliveries.modify key fun row => (row.answered answer).buried error now := by
  unfold DeliveryHub.fail
  dsimp only
  split
  · exact .inl ⟨_, rfl⟩
  · exact .inr rfl

/-! ## What an attempt keeps of a delivery -/

/-- Two rows are the same delivery. -/
structure ConnectorDelivery.SameIdentity (first second : ConnectorDelivery) : Prop where
  connector : second.connectorId = first.connectorId
  subscription : second.subscriptionId = first.subscriptionId
  event : second.outboxEventId = first.outboxEventId
  key : second.idempotencyKey = first.idempotencyKey
  maximum : second.maximumAttempts = first.maximumAttempts

theorem sameIdentity_answered (row : ConnectorDelivery) (answer : Option AdapterResponse) :
    row.SameIdentity (row.answered answer) := by
  cases answer <;> exact ⟨rfl, rfl, rfl, rfl, rfl⟩

/-- **`deliver` changes the row of its delivery and keeps what it is.** -/
theorem deliver_induction {motive : Table ConnectorDelivery → Prop}
    (changes : ∀ table change, (∀ row : ConnectorDelivery, row.SameIdentity (change row)) →
      motive table → motive (table.modify key change))
    (before : motive hub.deliveries) (attempted : Attempted) :
    motive (deliver py hub key attempted).1.deliveries := by
  have begins (delivery : ConnectorDelivery) : motive ((hub.probe delivery.connectorId).begin key
      delivery attempted.started).deliveries :=
    changes hub.deliveries (fun row => row.begun attempted.started)
      (fun _ => ⟨rfl, rfl, rfl, rfl, rfl⟩) before
  have fails (delivery : ConnectorDelivery) {attemptKey : Nat} {error : SecurityError}
      {answer earlier : Option AdapterResponse} : motive (((hub.probe
        delivery.connectorId).begin key delivery attempted.started).fail py key attemptKey
          delivery error answer earlier attempted.finished).deliveries := by
    rcases deliveries_fail with ⟨next, same⟩ | same
    · rw [same]
      refine changes _ _ (fun row => ?_) (begins delivery)
      obtain ⟨connector, subscription, event, key, maximum⟩ := sameIdentity_answered row answer
      exact ⟨connector, subscription, event, key, maximum⟩
    · rw [same]
      refine changes _ _ (fun row => ?_) (begins delivery)
      obtain ⟨connector, subscription, event, key, maximum⟩ := sameIdentity_answered row answer
      exact ⟨connector, subscription, event, key, maximum⟩
  unfold deliver
  split
  · exact before
  · rename_i delivery found
    split
    · exact changes hub.deliveries ConnectorDelivery.inactive
        (fun _ => ⟨rfl, rfl, rfl, rfl, rfl⟩) before
    · exact before
    · rename_i pauseEnd _
      exact changes hub.deliveries (fun row => row.deferred pauseEnd)
        (fun _ => ⟨rfl, rfl, rfl, rfl, rfl⟩) before
    · unfold DeliveryHub.attempt DeliveryHub.conclude
      dsimp only
      cases attempted.outcome with
      | response answer =>
        dsimp only
        cases answer.refusal with
        | none =>
          exact changes _ (fun row => row.accepted answer attempted.finished)
            (fun _ => ⟨rfl, rfl, rfl, rfl, rfl⟩) (begins delivery)
        | some error => exact fails delivery
      | refused error earlier => exact fails delivery
      | raised commits =>
        cases commits with
        | true => exact begins delivery
        | false => exact before

theorem get?_deliver_of_ne (attempted : Attempted) {other : Nat} (apart : other ≠ key) :
    (deliver py hub key attempted).1.deliveries.get? other = hub.deliveries.get? other := by
  refine deliver_induction (motive := fun table => table.get? other = hub.deliveries.get? other)
    ?_ rfl attempted
  intro table change _ same
  rw [Table.get?_modify_of_ne _ _ apart, same]

theorem outboxEvents_deliver (py : Interpreter) (hub : DeliveryHub) (key : Nat)
    (attempted : Attempted) :
    (deliver py hub key attempted).1.outboxEvents = hub.outboxEvents := by
  have fails (delivery : ConnectorDelivery) {attemptKey : Nat} {error : SecurityError}
      {answer earlier : Option AdapterResponse} : (((hub.probe delivery.connectorId).begin key
        delivery attempted.started).fail py key attemptKey delivery error answer earlier
          attempted.finished).outboxEvents = hub.outboxEvents := by
    unfold DeliveryHub.fail
    dsimp only
    split <;> rfl
  unfold deliver
  split
  · rfl
  · split
    · rfl
    · rfl
    · rfl
    · unfold DeliveryHub.attempt DeliveryHub.conclude
      dsimp only
      cases attempted.outcome with
      | response answer =>
        dsimp only
        cases answer.refusal with
        | none => rfl
        | some error => exact fails _
      | refused error earlier => exact fails _
      | raised commits => cases commits <;> rfl

/-- What every delivery keeps, a pass over the due ones keeps. -/
theorem deliverAll_induction {motive : DeliveryHub → Prop} {attempts : Nat → Attempted}
    {keys : List Nat}
    (kept : ∀ hub key, motive hub → motive (deliver py hub key (attempts key)).1) :
    ∀ {hub : DeliveryHub}, motive hub → motive (deliverAll py attempts keys hub).1 := by
  induction keys with
  | nil => exact fun before => before
  | cons key rest ih =>
    intro hub before
    have first := kept hub key before
    unfold deliverAll
    rcases result : deliver py hub key (attempts key) with ⟨after, crashed⟩
    rw [result] at first
    cases crashed with
    | true => exact first
    | false => exact ih first

end ThreatScope.Integrations
