import ThreatScope.Integrations.CircuitBreaker
import ThreatScope.Library.Totals
import ThreatScope.Library.UnitOfWork

/-!
# The outbox

Each run of `process_due` takes the oldest pending events. For one event it walks through
the enabled subscriptions and queues a delivery for each one that matches, under a key made
from the event and the subscription, so that no delivery is queued twice.

All deliveries of an event are queued in one transaction. What a subscription would get is
its *draft*, which reads nothing but its own connector and its own mapping. When every draft
can be made, each matching subscription gets its delivery; when one cannot, none is queued,
the event has failed, and no later run takes it up.
-/

set_option autoImplicit false

namespace ThreatScope.Integrations

open Library AccessControl

/-! ## Drafts -/

/-- The delivery that an event gets for a subscription, none when it does not match. -/
def DeliveryHub.draft (env : DeliveryRuntime) (hub : DeliveryHub) (eventId : Nat)
    (event : IntegrationOutboxEvent) (now : Instant) (row : Nat × ConnectorSubscription) :
    Except Fault (Option ConnectorDelivery) :=
  match hub.connectors.get? row.2.connectorId with
  | none => .ok none
  | some connector =>
    if !connector.enabled then .ok none
    else do
      if ← row.2.severityPasses event.canonicalEvent then
        let payload ← hub.payloadFor env row.2 event
        connector.admit now
        let safe ← safePayload env.py payload
        .ok (some (newDelivery row.2.connectorId connector
          (fanOutRequest env eventId event row.1 payload) safe))
      else .ok none

/-- The draft of a subscription, none as well when it cannot be made. -/
def DeliveryHub.drafted (env : DeliveryRuntime) (hub : DeliveryHub) (eventId : Nat)
    (event : IntegrationOutboxEvent) (now : Instant) (row : Nat × ConnectorSubscription) :
    Option ConnectorDelivery :=
  match hub.draft env eventId event now row with
  | .ok draft => draft
  | .error _ => none

/-- Every subscription of the event can be drafted. -/
def DeliveryHub.AllDrafted (env : DeliveryRuntime) (hub : DeliveryHub) (eventId : Nat)
    (event : IntegrationOutboxEvent) (now : Instant) : Prop :=
  ∀ row ∈ hub.subscribers event.eventType,
    ∃ draft, hub.draft env eventId event now row = .ok draft

/-- A subscription matches an event: its connector is active and its filter lets the event
through. -/
def DeliveryHub.Matches (hub : DeliveryHub) (event : IntegrationOutboxEvent)
    (subscription : ConnectorSubscription) : Prop :=
  ∃ connector, hub.connectors.get? subscription.connectorId = some connector ∧
    connector.running = true ∧ subscription.severityPasses event.canonicalEvent = .ok true

/-- The delivery is that of an event for a subscription. -/
def isFor (eventId subscriptionId : Nat) (delivery : ConnectorDelivery) : Bool :=
  delivery.outboxEventId == some eventId && delivery.subscriptionId == some subscriptionId

/-- How many deliveries an event has for a subscription. -/
def DeliveryHub.deliveriesFor (hub : DeliveryHub) (eventId subscriptionId : Nat) : Nat :=
  hub.deliveries.count fun _ delivery => isFor eventId subscriptionId delivery

/-- The tables with further deliveries. -/
def DeliveryHub.withDeliveries (hub : DeliveryHub) (drafts : List ConnectorDelivery) :
    DeliveryHub :=
  { hub with deliveries := drafts.foldl Table.insert hub.deliveries }

/-- No delivery belongs to an event or holds one of its keys. -/
def DeliveryHub.Unserved (env : DeliveryRuntime) (hub : DeliveryHub) (eventId : Nat)
    (event : IntegrationOutboxEvent) : Prop :=
  hub.deliveries.Each fun _ delivery => delivery.outboxEventId ≠ some eventId ∧
    ∀ subscriptionId, delivery.idempotencyKey ≠ fanOutKey env event subscriptionId

/-! ## Keys -/

section Keys

variable {env : DeliveryRuntime}

/-- **A key belongs to one event and one subscription.** -/
theorem fanOutKey_injective (injective : Function.Injective env.sha256)
    {first second : IntegrationOutboxEvent} {one other : Nat}
    (same : fanOutKey env first one = fanOutKey env second other) :
    first.idempotencyKey = second.idempotencyKey ∧ one = other := by
  have texts := congrArg (fun text => text.toList.reverse) (injective same)
  simp only [String.toList_append, toList_toString, List.reverse_append] at texts
  obtain ⟨digits, keys⟩ := eq_of_append_cons texts
    (fun member => colon_toDigits one (List.mem_reverse.mp member))
    (fun member => colon_toDigits other (List.mem_reverse.mp member))
  exact ⟨String.toList_injective (List.reverse_injective keys),
    toDigits_injective (List.reverse_injective digits)⟩

end Keys

/-! ## One event -/

section Event

variable {env : DeliveryRuntime} {hub : DeliveryHub} {eventId : Nat}
  {event : IntegrationOutboxEvent} {now : Instant} {row : Nat × ConnectorSubscription}
  {rows : List (Nat × ConnectorSubscription)}

/-- **A subscription whose key is free** is queued as drafted. -/
theorem fanOutTo_of_draft (eventId : Nat) (now : Instant)
    (missing : hub.deliveryFor (fanOutKey env event row.1) = none) :
    hub.fanOutTo env eventId event row.1 row.2 now =
      match hub.draft env eventId event now row with
      | .error fault => .error fault
      | .ok none => .ok (hub, false)
      | .ok (some delivery) => .ok (hub.withDeliveries [delivery], true) := by
  unfold DeliveryHub.fanOutTo DeliveryHub.draft
  cases found : hub.connectors.get? row.2.connectorId with
  | none => rfl
  | some connector =>
    dsimp only
    by_cases disabled : (!connector.enabled) = true
    · rw [if_pos disabled, if_pos disabled]
    · rw [if_neg disabled, if_neg disabled]
      cases passes : row.2.severityPasses event.canonicalEvent with
      | error fault => rfl
      | ok matching =>
        cases matching with
        | false => rfl
        | true =>
          cases mapped : hub.payloadFor env row.2 event with
          | error fault => simp only [bind, Except.bind, if_true]
          | ok payload =>
            cases admitted : connector.admit now with
            | error fault =>
              simp only [queueDelivery, admitted, bind, Except.bind, if_true]
            | ok admission =>
              cases bounded : safePayload env.py payload with
              | error fault =>
                simp only [queueDelivery, admitted, fanOutRequest, missing,
                  bounded, bind, Except.bind, if_true]
              | ok safe =>
                simp only [queueDelivery, admitted, fanOutRequest, missing,
                  bounded, bind, Except.bind, if_true]
                rfl

theorem of_drafted {delivery : ConnectorDelivery}
    (drafted : hub.draft env eventId event now row = .ok (some delivery)) :
    delivery.outboxEventId = some eventId ∧ delivery.subscriptionId = some row.1 ∧
      delivery.idempotencyKey = fanOutKey env event row.1 := by
  unfold DeliveryHub.draft at drafted
  split at drafted
  · cases drafted
  · split at drafted
    · cases drafted
    · obtain ⟨passes, -, drafted⟩ := bind_eq_ok_iff.mp drafted
      split at drafted
      · obtain ⟨payload, -, drafted⟩ := bind_eq_ok_iff.mp drafted
        obtain ⟨⟨⟩, -, drafted⟩ := bind_eq_ok_iff.mp drafted
        obtain ⟨safe, -, drafted⟩ := bind_eq_ok_iff.mp drafted
        cases drafted
        exact ⟨rfl, rfl, rfl⟩
      · cases drafted

/-- **A matching subscription that can be drafted gets a delivery.** -/
theorem isSome_of_matches (matching : hub.Matches event row.2) {draft : Option ConnectorDelivery}
    (drafted : hub.draft env eventId event now row = .ok draft) : draft.isSome = true := by
  obtain ⟨connector, found, running, passes⟩ := matching
  have enabled : ¬ (!connector.enabled) = true := by
    rw [Bool.not_eq_true', Bool.not_eq_false]
    exact (Bool.and_eq_true_iff.mp running).2
  unfold DeliveryHub.draft at drafted
  rw [found] at drafted
  dsimp only at drafted
  rw [if_neg enabled, passes] at drafted
  obtain ⟨matched, ⟨⟩, drafted⟩ := bind_eq_ok_iff.mp drafted
  rw [if_pos rfl] at drafted
  obtain ⟨payload, -, drafted⟩ := bind_eq_ok_iff.mp drafted
  obtain ⟨⟨⟩, -, drafted⟩ := bind_eq_ok_iff.mp drafted
  obtain ⟨safe, -, drafted⟩ := bind_eq_ok_iff.mp drafted
  cases drafted
  rfl

theorem deliveryFor_withDeliveries {delivery : ConnectorDelivery} {key : String}
    (missing : hub.deliveryFor key = none) (other : delivery.idempotencyKey ≠ key) :
    (hub.withDeliveries [delivery]).deliveryFor key = none := by
  refine Table.first?_eq_none_iff.mpr fun place row stored => ?_
  have before := Table.first?_eq_none_iff.mp missing
  change (hub.deliveries.insert delivery).get? place = some row at stored
  rw [Table.get?_insert] at stored
  split at stored
  · cases stored
    exact beq_false_of_ne other
  · exact before place row stored

/-- **The fan-out of an event whose keys are free**: all drafts are queued, or one cannot be
made. -/
theorem fanOutAll_of_drafts (injective : Function.Injective env.sha256) (eventId : Nat)
    (now : Instant) :
    ∀ (hub : DeliveryHub) (created : Bool), (rows.map Prod.fst).Nodup →
      (∀ row ∈ rows, hub.deliveryFor (fanOutKey env event row.1) = none) →
      ((∀ row ∈ rows, ∃ draft, hub.draft env eventId event now row = .ok draft) →
        ∃ any, DeliveryHub.fanOutAll env eventId event now rows hub created =
          .ok (hub.withDeliveries (rows.filterMap (hub.drafted env eventId event now)),
            any)) ∧
      ((∃ row ∈ rows, ∃ fault, hub.draft env eventId event now row = .error fault) →
        ∃ fault, DeliveryHub.fanOutAll env eventId event now rows hub created =
          .error fault) := by
  induction rows with
  | nil =>
    intro hub created _ _
    refine ⟨fun _ => ⟨created, rfl⟩, ?_⟩
    rintro ⟨row, absent, -⟩
    cases absent
  | cons row rest ih =>
    intro hub created distinct missing
    obtain ⟨apart, distinct⟩ := List.nodup_cons.mp distinct
    rw [List.forall_mem_cons] at missing
    have first := fanOutTo_of_draft eventId now missing.1
    cases drafted : hub.draft env eventId event now row with
    | error fault =>
      rw [drafted] at first
      refine ⟨fun all => ?_, fun _ => ⟨fault, ?_⟩⟩
      · obtain ⟨draft, made⟩ := all row (List.mem_cons_self ..)
        rw [drafted] at made
        cases made
      · rw [DeliveryHub.fanOutAll, first]
        rfl
    | ok draft =>
      cases draft with
      | none =>
        obtain ⟨all, fails⟩ := ih hub (created || false) distinct missing.2
        rw [drafted] at first
        have skipped : DeliveryHub.fanOutAll env eventId event now (row :: rest) hub
            created = DeliveryHub.fanOutAll env eventId event now rest hub
              (created || false) := by
          rw [DeliveryHub.fanOutAll, first]
          rfl
        have skips : hub.drafted env eventId event now row = none := by
          rw [DeliveryHub.drafted, drafted]
        rw [skipped, List.filterMap_cons_none skips]
        refine ⟨fun each => all fun other place => each other (List.mem_cons_of_mem _ place),
          ?_⟩
        rintro ⟨other, place, fault, failed⟩
        rcases List.mem_cons.mp place with rfl | later
        · rw [drafted] at failed
          cases failed
        · exact fails ⟨other, later, fault, failed⟩
      | some delivery =>
        obtain ⟨-, -, key⟩ := of_drafted drafted
        have free : ∀ other ∈ rest, (hub.withDeliveries [delivery]).deliveryFor
            (fanOutKey env event other.1) = none := by
          intro other place
          refine deliveryFor_withDeliveries (missing.2 other place) ?_
          rw [key]
          intro same
          rw [(fanOutKey_injective injective same).2] at apart
          exact apart (List.mem_map_of_mem place)
        obtain ⟨all, fails⟩ := ih (hub.withDeliveries [delivery]) (created || true) distinct
          free
        rw [drafted] at first
        have queued : DeliveryHub.fanOutAll env eventId event now (row :: rest) hub
            created = DeliveryHub.fanOutAll env eventId event now rest
              (hub.withDeliveries [delivery]) (created || true) := by
          rw [DeliveryHub.fanOutAll, first]
          rfl
        have made : hub.drafted env eventId event now row = some delivery := by
          rw [DeliveryHub.drafted, drafted]
        rw [queued, List.filterMap_cons_some made]
        refine ⟨fun each => all fun other place => each other (List.mem_cons_of_mem _ place),
          ?_⟩
        rintro ⟨other, place, fault, failed⟩
        rcases List.mem_cons.mp place with rfl | later
        · rw [drafted] at failed
          cases failed
        · exact fails ⟨other, later, fault, failed⟩

theorem countP_le_one {α : Type} {rows : List (Nat × α)} (key : Nat) {test : Nat × α → Bool}
    (distinct : (rows.map Prod.fst).Nodup) (only : ∀ row ∈ rows, test row = true → row.1 = key) :
    rows.countP test ≤ 1 := by
  induction rows with
  | nil => exact Nat.zero_le 1
  | cons row rest ih =>
    obtain ⟨apart, distinct⟩ := List.nodup_cons.mp distinct
    rw [List.forall_mem_cons] at only
    rw [List.countP_cons]
    split
    · rename_i passes
      have others : rest.countP test = 0 := by
        refine List.countP_eq_zero.mpr fun other place passing => apart ?_
        rw [only.1 passes, ← only.2 other place passing]
        exact List.mem_map_of_mem place
      rw [others]
    · exact ih distinct only.2

theorem deliveriesFor_withDeliveries (drafts : List ConnectorDelivery)
    (eventId subscriptionId : Nat) :
    ∀ hub : DeliveryHub, (hub.withDeliveries drafts).deliveriesFor eventId subscriptionId =
      hub.deliveriesFor eventId subscriptionId + drafts.countP (isFor eventId subscriptionId) := by
  induction drafts with
  | nil => exact fun _ => rfl
  | cons delivery rest ih =>
    intro hub
    have first : (hub.withDeliveries [delivery]).deliveriesFor eventId subscriptionId =
        hub.deliveriesFor eventId subscriptionId +
          if isFor eventId subscriptionId delivery then 1 else 0 := by
      rw [DeliveryHub.deliveriesFor, DeliveryHub.deliveriesFor, Table.count, Table.count]
      change (hub.deliveries.rows ++ [(hub.deliveries.nextKey, delivery)]).countP _ = _
      rw [List.countP_append, List.countP_singleton]
    have rest := ih (hub.withDeliveries [delivery])
    rw [first] at rest
    rw [List.countP_cons, Nat.add_comm (List.countP _ _), ← Nat.add_assoc]
    exact rest

theorem row_of_drafted {subscriptionId : Nat} {delivery : ConnectorDelivery}
    (drafted : hub.drafted env eventId event now row = some delivery)
    (counts : isFor eventId subscriptionId delivery = true) : row.1 = subscriptionId := by
  unfold DeliveryHub.drafted at drafted
  split at drafted
  · rename_i draft made
    rw [drafted] at made
    obtain ⟨-, mine, -⟩ := of_drafted made
    have same := beq_iff_eq.mp (Bool.and_eq_true_iff.mp counts).2
    rw [mine] at same
    exact Option.some.inj same
  · cases drafted

theorem countP_drafts_le (env : DeliveryRuntime) (hub : DeliveryHub) (eventId : Nat)
    (event : IntegrationOutboxEvent) (now : Instant) (distinct : (rows.map Prod.fst).Nodup)
    (subscriptionId : Nat) :
    (rows.filterMap (hub.drafted env eventId event now)).countP
      (isFor eventId subscriptionId) ≤ 1 := by
  rw [List.countP_filterMap]
  refine countP_le_one subscriptionId distinct fun row _ passes => ?_
  cases drafted : hub.drafted env eventId event now row with
  | none =>
    rw [drafted] at passes
    cases passes
  | some delivery =>
    rw [drafted] at passes
    exact row_of_drafted drafted passes

theorem countP_drafts_pos {delivery : ConnectorDelivery} (member : row ∈ rows)
    (drafted : hub.draft env eventId event now row = .ok (some delivery)) :
    0 < (rows.filterMap (hub.drafted env eventId event now)).countP
      (isFor eventId row.1) := by
  obtain ⟨own, mine, -⟩ := of_drafted drafted
  refine List.countP_pos_iff.mpr ⟨delivery, List.mem_filterMap.mpr ⟨row, member, ?_⟩, ?_⟩
  · rw [DeliveryHub.drafted, drafted]
  · rw [isFor, own, mine, beq_self_eq_true, beq_self_eq_true, Bool.and_self]

theorem deliveriesFor_of_unserved (unserved : hub.Unserved env eventId event)
    (subscriptionId : Nat) : hub.deliveriesFor eventId subscriptionId = 0 := by
  refine List.countP_eq_zero.mpr fun row member counts => ?_
  obtain ⟨key, delivery⟩ := row
  have stored := (hub.deliveries.get?_eq_some_iff key delivery).mpr member
  exact (unserved key delivery stored).1 (beq_iff_eq.mp (Bool.and_eq_true_iff.mp counts).1)

theorem nodup_subscribers (hub : DeliveryHub) (eventType : String) :
    ((hub.subscribers eventType).map Prod.fst).Nodup :=
  (List.filter_sublist.map Prod.fst).nodup hub.subscriptions.keys_nodup

/-- **The turn of an event**: all its drafts are queued, or none. -/
theorem deliveriesFor_fanOut (injective : Function.Injective env.sha256) (now : Instant)
    (stored : hub.outboxEvents.get? eventId = some event)
    (unserved : hub.Unserved env eventId event) (subscriptionId : Nat) :
    (hub.AllDrafted env eventId event now →
      (hub.fanOut env eventId now).deliveriesFor eventId subscriptionId =
        ((hub.subscribers event.eventType).filterMap
          (hub.drafted env eventId event now)).countP (isFor eventId subscriptionId)) ∧
    (¬ hub.AllDrafted env eventId event now →
      (hub.fanOut env eventId now).deliveriesFor eventId subscriptionId = 0) := by
  have free : ∀ row ∈ hub.subscribers event.eventType,
      hub.deliveryFor (fanOutKey env event row.1) = none := by
    intro row _
    refine Table.first?_eq_none_iff.mpr fun key delivery found => ?_
    exact beq_false_of_ne ((unserved key delivery found).2 row.1)
  have none := deliveriesFor_of_unserved unserved subscriptionId
  obtain ⟨all, fails⟩ := fanOutAll_of_drafts injective eventId now hub false
    (nodup_subscribers hub event.eventType) free
  constructor
  · intro drafted
    obtain ⟨created, done⟩ := all drafted
    have queued := deliveriesFor_withDeliveries ((hub.subscribers event.eventType).filterMap
      (hub.drafted env eventId event now)) eventId subscriptionId hub
    rw [none, Nat.zero_add] at queued
    rw [DeliveryHub.fanOut, stored]
    dsimp only
    rw [done]
    exact queued
  · intro undrafted
    obtain ⟨row, member, failed⟩ : ∃ row ∈ hub.subscribers event.eventType,
        ∃ fault, hub.draft env eventId event now row = .error fault := by
      by_contra fine
      refine undrafted fun row member => ?_
      cases draft : hub.draft env eventId event now row with
      | ok delivery => exact ⟨delivery, rfl⟩
      | error fault => exact absurd ⟨row, member, fault, draft⟩ fine
    obtain ⟨fault, done⟩ := fails ⟨row, member, failed⟩
    rw [DeliveryHub.fanOut, stored]
    dsimp only
    rw [done]
    exact none

/-- **A matching subscription gets exactly one delivery exactly when all subscriptions of
the event can be drafted.** -/
theorem deliveriesFor_fanOut_eq_one (injective : Function.Injective env.sha256)
    (stored : hub.outboxEvents.get? eventId = some event)
    (unserved : hub.Unserved env eventId event)
    (member : row ∈ hub.subscribers event.eventType) (matching : hub.Matches event row.2) :
    (hub.fanOut env eventId now).deliveriesFor eventId row.1 = 1 ↔
      hub.AllDrafted env eventId event now := by
  obtain ⟨all, fails⟩ := deliveriesFor_fanOut injective now stored unserved row.1
  constructor
  · intro one
    by_contra undrafted
    rw [fails undrafted] at one
    cases one
  · intro drafted
    obtain ⟨draft, made⟩ := drafted row member
    obtain ⟨delivery, rfl⟩ := Option.isSome_iff_exists.mp (isSome_of_matches matching made)
    have least := countP_drafts_pos member made
    have most := countP_drafts_le env hub eventId event now
      (nodup_subscribers hub event.eventType) row.1
    rw [all drafted]
    omega

theorem deliveriesFor_fanOut_le (injective : Function.Injective env.sha256)
    (stored : hub.outboxEvents.get? eventId = some event)
    (unserved : hub.Unserved env eventId event) (subscriptionId : Nat) :
    (hub.fanOut env eventId now).deliveriesFor eventId subscriptionId ≤ 1 := by
  obtain ⟨all, fails⟩ := deliveriesFor_fanOut injective now stored unserved
    subscriptionId
  by_cases drafted : hub.AllDrafted env eventId event now
  · rw [all drafted]
    exact countP_drafts_le env hub eventId event now
      (nodup_subscribers hub event.eventType) subscriptionId
  · rw [fails drafted]
    exact Nat.zero_le 1

end Event

/-! ## Other events and attempts -/

/-- An event waits for its turn: it is pending and has no deliveries. -/
structure DeliveryHub.Waiting (env : DeliveryRuntime) (hub : DeliveryHub) (eventId : Nat)
    (event : IntegrationOutboxEvent) : Prop where
  stored : hub.outboxEvents.get? eventId = some event
  pending : event.status = .pending
  unique : Distinct IntegrationOutboxEvent.idempotencyKey hub.outboxEvents
  unserved : hub.Unserved env eventId event

/-- An event has had its turn. -/
def DeliveryHub.Settled (hub : DeliveryHub) (eventId : Nat) : Prop :=
  ∃ event, hub.outboxEvents.get? eventId = some event ∧ event.status ≠ .pending

/-- How many events are pending. -/
def DeliveryHub.pendingCount (hub : DeliveryHub) : Nat :=
  hub.outboxEvents.total fun event => if event.status = .pending then 1 else 0

section Others

variable {env : DeliveryRuntime} {py : Interpreter} {hub : DeliveryHub}
  {eventId other : Nat} {event : IntegrationOutboxEvent} {now : Instant}

/-- **The outbox after the turn of an event**: its row is no longer pending. -/
theorem outboxEvents_fanOut (env : DeliveryRuntime) (now : Instant)
    (stored : hub.outboxEvents.get? other = some event) :
    ∃ change, (∀ row : IntegrationOutboxEvent, (change row).status ≠ .pending ∧
        (change row).idempotencyKey = row.idempotencyKey) ∧
      (hub.fanOut env other now).outboxEvents = hub.outboxEvents.modify other change := by
  unfold DeliveryHub.fanOut
  rw [stored]
  dsimp only
  split
  · rename_i after created done
    have same : after.outboxEvents = hub.outboxEvents :=
      fanOutAll_induction (motive := fun middle => middle.outboxEvents = hub.outboxEvents)
        (fun _ _ _ _ _ _ kept _ => kept) rfl done
    refine ⟨fun row => { row with
      status := if created then .delivered else .partiallyDelivered
      processedAt := some now }, fun row => ⟨?_, rfl⟩, by rw [same]⟩
    cases created <;> simp
  · exact ⟨fun row => { row with status := .failed }, fun row => ⟨by simp, rfl⟩, rfl⟩

theorem pendingCount_fanOut (env : DeliveryRuntime) (now : Instant)
    (stored : hub.outboxEvents.get? other = some event) :
    (hub.fanOut env other now).pendingCount +
      (if event.status = .pending then 1 else 0) = hub.pendingCount := by
  obtain ⟨change, settles, same⟩ := outboxEvents_fanOut env now stored
  have exchanged := Table.total_modify
    (fun event : IntegrationOutboxEvent => if event.status = .pending then 1 else 0) stored change
  rw [if_neg (settles event).1, Nat.add_zero] at exchanged
  rw [DeliveryHub.pendingCount, DeliveryHub.pendingCount, same]
  exact exchanged

theorem pendingCount_fanOut_le (hub : DeliveryHub) (other : Nat) (now : Instant) :
    (hub.fanOut env other now).pendingCount ≤ hub.pendingCount := by
  cases stored : hub.outboxEvents.get? other with
  | none =>
    rw [DeliveryHub.fanOut, stored]
  | some event => exact Nat.le_of_add_right_le (pendingCount_fanOut env now stored).le

theorem get?_fanOut_of_ne (apart : eventId ≠ other) :
    (hub.fanOut env other now).outboxEvents.get? eventId = hub.outboxEvents.get? eventId := by
  cases stored : hub.outboxEvents.get? other with
  | none => rw [DeliveryHub.fanOut, stored]
  | some event =>
    obtain ⟨change, -, same⟩ := outboxEvents_fanOut env now stored
    rw [same, Table.get?_modify_of_ne _ _ apart]

/-- **The turn of one event leaves the deliveries of another.** -/
theorem deliveriesFor_fanOut_of_ne (apart : eventId ≠ other) (subscriptionId : Nat) :
    (hub.fanOut env other now).deliveriesFor eventId subscriptionId =
      hub.deliveriesFor eventId subscriptionId := by
  unfold DeliveryHub.fanOut
  split
  · rfl
  · rename_i row stored
    split
    · rename_i after created done
      refine fanOutAll_induction (motive := fun middle =>
        middle.deliveriesFor eventId subscriptionId =
        hub.deliveriesFor eventId subscriptionId) ?_ rfl done
      intro middle connectorId connector place payload safe kept _
      rw [← kept]
      refine (deliveriesFor_withDeliveries [newDelivery connectorId connector
        (fanOutRequest env other row place payload) safe] eventId subscriptionId
        middle).trans ?_
      rw [List.countP_singleton, isFor]
      have foreign : ((newDelivery connectorId connector (fanOutRequest env other row place
          payload) safe).outboxEventId == some eventId) = false :=
        beq_false_of_ne fun same => apart (Option.some.inj same).symm
      rw [foreign, Bool.false_and]
      rfl
    · rfl

/-- **The turn of one event leaves another waiting.** -/
theorem DeliveryHub.Waiting.fanOut (injective : Function.Injective env.sha256)
    (waiting : hub.Waiting env eventId event) (apart : eventId ≠ other) :
    (hub.fanOut env other now).Waiting env eventId event := by
  obtain ⟨stored, pending, unique, unserved⟩ := waiting
  refine ⟨(get?_fanOut_of_ne apart).trans stored, pending, ?_, ?_⟩
  · cases found : hub.outboxEvents.get? other with
    | none =>
      rw [DeliveryHub.fanOut, found]
      exact unique
    | some row =>
      obtain ⟨change, kept, same⟩ := outboxEvents_fanOut env now found
      rw [same]
      exact unique.of_agree (Agree.modify _ fun value => (kept value).2)
  · unfold DeliveryHub.fanOut
    split
    · exact unserved
    · rename_i row found
      split
      · rename_i after created done
        refine fanOutAll_induction (motive := fun middle => middle.Unserved env eventId event)
          ?_ unserved done
        intro middle connectorId connector place payload safe kept _
        refine kept.insert ⟨fun same => apart (Option.some.inj same).symm,
          fun subscriptionId same => ?_⟩
        have keys := (fanOutKey_injective injective same).1
        exact apart (unique eventId event other row stored found keys.symm)
      · exact unserved

theorem DeliveryHub.Settled.fanOut (settled : hub.Settled eventId)
    (env : DeliveryRuntime) (now : Instant) (apart : eventId ≠ other) :
    (hub.fanOut env other now).Settled eventId := by
  obtain ⟨row, stored, ended⟩ := settled
  exact ⟨row, (get?_fanOut_of_ne apart).trans stored, ended⟩

theorem DeliveryHub.Waiting.settled (waiting : hub.Waiting env eventId event) (now : Instant) :
    (hub.fanOut env eventId now).Settled eventId := by
  obtain ⟨change, settles, same⟩ := outboxEvents_fanOut env now
    waiting.stored
  refine ⟨change event, ?_, (settles event).1⟩
  rw [same, Table.get?_modify_self, waiting.stored, Option.map_some]

/-! ## Attempts -/

theorem deliveriesFor_deliver (attempted : Attempted) (key subscriptionId : Nat) :
    (deliver py hub key attempted).1.deliveriesFor eventId subscriptionId =
      hub.deliveriesFor eventId subscriptionId := by
  unfold DeliveryHub.deliveriesFor
  rw [Table.count_eq_total, Table.count_eq_total]
  refine deliver_induction (motive := fun table => (table.total fun delivery =>
    if isFor eventId subscriptionId delivery then 1 else 0) =
      hub.deliveries.total fun delivery =>
        if isFor eventId subscriptionId delivery then 1 else 0) ?_ rfl attempted
  intro table change kept same
  rw [Table.total_modify_of_eq, same]
  intro row
  rw [isFor, isFor, (kept row).event, (kept row).subscription]

theorem DeliveryHub.Waiting.deliver (waiting : hub.Waiting env eventId event) (key : Nat)
    (attempted : Attempted) :
    (deliver py hub key attempted).1.Waiting env eventId event := by
  obtain ⟨stored, pending, unique, unserved⟩ := waiting
  have same := outboxEvents_deliver py hub key attempted
  refine ⟨same ▸ stored, pending, same ▸ unique, ?_⟩
  refine deliver_induction (motive := Table.Each fun _ (delivery : ConnectorDelivery) =>
    delivery.outboxEventId ≠ some eventId ∧
      ∀ subscriptionId, delivery.idempotencyKey ≠ fanOutKey env event subscriptionId)
    ?_ unserved attempted
  intro table change kept each
  refine each.modify fun row _ holds => ?_
  rw [(kept row).event, (kept row).key]
  exact holds

theorem DeliveryHub.Settled.deliver (settled : hub.Settled eventId) (key : Nat)
    (attempted : Attempted) : (deliver py hub key attempted).1.Settled eventId := by
  obtain ⟨row, stored, ended⟩ := settled
  refine ⟨row, ?_, ended⟩
  rw [outboxEvents_deliver]
  exact stored

end Others

/-! ## Runs of `process_due` -/

/-- A call of `process_due`. -/
structure DueCall where
  now : Instant
  batchSize : Int
  attempts : Nat → Attempted

/-- One call. -/
def DeliveryHub.nextDue (env : DeliveryRuntime) (hub : DeliveryHub) (call : DueCall) :
    DeliveryHub :=
  (processDue env hub call.batchSize call.now call.attempts).1

/-- The tables after the events of a call that come before a given one. -/
def DeliveryHub.afterEvents (env : DeliveryRuntime) (hub : DeliveryHub) (now : Instant)
    (events : List Nat) : DeliveryHub :=
  events.foldl (fun hub eventId => hub.fanOut env eventId now) hub

/-- In a run of `process_due`, the event has its turn in the given tables at the given time. -/
def TurnOf (env : DeliveryRuntime) (start : DeliveryHub) (calls : List DueCall)
    (eventId : Nat) (turn : DeliveryHub) (now : Instant) : Prop :=
  ∃ first call rest before after, calls = first ++ call :: rest ∧ now = call.now ∧
    (final (DeliveryHub.nextDue env) start first).pendingEvents (batchLimit call.batchSize)
      call.now = before ++ eventId :: after ∧
    turn = (final (DeliveryHub.nextDue env) start first).afterEvents env call.now before

section Runs

variable {env : DeliveryRuntime} {hub : DeliveryHub} {eventId : Nat}
  {event : IntegrationOutboxEvent} {now : Instant}

theorem DeliveryHub.Waiting.afterEvents (injective : Function.Injective env.sha256)
    (now : Instant) {events : List Nat} :
    ∀ {hub : DeliveryHub}, hub.Waiting env eventId event → eventId ∉ events →
      (hub.afterEvents env now events).Waiting env eventId event := by
  induction events with
  | nil => exact fun waiting _ => waiting
  | cons other rest ih =>
    intro hub waiting absent
    obtain ⟨apart, absent⟩ := not_or.mp (mt List.mem_cons.mpr absent)
    exact ih (waiting.fanOut injective apart) absent

theorem DeliveryHub.Settled.afterEvents (env : DeliveryRuntime) (now : Instant)
    {events : List Nat} :
    ∀ {hub : DeliveryHub}, hub.Settled eventId → eventId ∉ events →
      (hub.afterEvents env now events).Settled eventId ∧
        ∀ subscriptionId, (hub.afterEvents env now events).deliveriesFor eventId
          subscriptionId = hub.deliveriesFor eventId subscriptionId := by
  induction events with
  | nil => exact fun settled _ => ⟨settled, fun _ => rfl⟩
  | cons other rest ih =>
    intro hub settled absent
    obtain ⟨apart, absent⟩ := not_or.mp (mt List.mem_cons.mpr absent)
    obtain ⟨kept, same⟩ := ih (settled.fanOut env now apart) absent
    exact ⟨kept, fun subscriptionId =>
      (same subscriptionId).trans (deliveriesFor_fanOut_of_ne apart subscriptionId)⟩

theorem pendingCount_afterEvents_le (env : DeliveryRuntime) (now : Instant) (events : List Nat) :
    ∀ hub : DeliveryHub, (hub.afterEvents env now events).pendingCount ≤ hub.pendingCount := by
  induction events with
  | nil => exact fun _ => le_rfl
  | cons other rest ih => exact fun hub => (ih _).trans (pendingCount_fanOut_le hub other now)

theorem nodup_pendingEvents (hub : DeliveryHub) (limit : Nat) (now : Instant) :
    (hub.pendingEvents limit now).Nodup :=
  (((List.take_sublist _ _).trans List.filter_sublist).map Prod.fst).nodup
    hub.outboxEvents.keys_nodup

theorem of_mem_pendingEvents {limit other : Nat} (member : other ∈ hub.pendingEvents limit now) :
    ∃ row, hub.outboxEvents.get? other = some row ∧ row.status = .pending := by
  obtain ⟨⟨key, row⟩, place, rfl⟩ := List.mem_map.mp member
  obtain ⟨stored, passes⟩ := List.mem_filter.mp (List.mem_of_mem_take place)
  exact ⟨row, (hub.outboxEvents.get?_eq_some_iff key row).mpr stored,
    of_decide_eq_true (Bool.and_eq_true_iff.mp passes).1⟩

theorem DeliveryHub.Settled.notMem (settled : hub.Settled eventId) (limit : Nat) (now : Instant) :
    eventId ∉ hub.pendingEvents limit now := by
  intro member
  obtain ⟨row, stored, ended⟩ := settled
  obtain ⟨other, found, pending⟩ := of_mem_pendingEvents member
  rw [stored] at found
  cases found
  exact ended pending

theorem pendingEvents_ne_nil (waiting : hub.Waiting env eventId event)
    (available : event.availableAt ≤ now) (batchSize : Int) :
    hub.pendingEvents (batchLimit batchSize) now ≠ [] := by
  have positive : 0 < batchLimit batchSize := by
    unfold batchLimit
    omega
  have passes : (eventId, event) ∈ hub.outboxEvents.rows.filter fun row =>
      decide (row.2.status = .pending) && decide (row.2.availableAt ≤ now) := by
    refine List.mem_filter.mpr ⟨(hub.outboxEvents.get?_eq_some_iff _ _).mp waiting.stored, ?_⟩
    rw [decide_eq_true waiting.pending, decide_eq_true available, Bool.and_self]
  intro none
  have short := congrArg List.length none
  rw [DeliveryHub.pendingEvents, List.length_map, List.length_take, List.length_nil] at short
  have long := List.length_pos_of_mem passes
  omega

/-- **A settled event keeps its deliveries** through every further call. -/
theorem DeliveryHub.Settled.nextDue (settled : hub.Settled eventId) (env : DeliveryRuntime)
    (call : DueCall) :
    (hub.nextDue env call).Settled eventId ∧
      ∀ subscriptionId, (hub.nextDue env call).deliveriesFor eventId subscriptionId =
        hub.deliveriesFor eventId subscriptionId := by
  obtain ⟨kept, same⟩ := settled.afterEvents env call.now
    (settled.notMem (batchLimit call.batchSize) call.now)
  refine deliverAll_induction (motive := fun after => after.Settled eventId ∧
    ∀ subscriptionId, after.deliveriesFor eventId subscriptionId =
      hub.deliveriesFor eventId subscriptionId) ?_ ⟨kept, same⟩
  rintro middle key ⟨settled, same⟩
  exact ⟨settled.deliver key _, fun subscriptionId =>
    (deliveriesFor_deliver _ key subscriptionId).trans (same subscriptionId)⟩

theorem DeliveryHub.Settled.final (env : DeliveryRuntime) (settled : hub.Settled eventId)
    (calls : List DueCall) (subscriptionId : Nat) :
    (Library.final (DeliveryHub.nextDue env) hub calls).deliveriesFor eventId subscriptionId =
      hub.deliveriesFor eventId subscriptionId := by
  induction calls generalizing hub with
  | nil => rfl
  | cons call rest ih =>
    obtain ⟨kept, same⟩ := settled.nextDue env call
    exact (ih kept).trans (same subscriptionId)

/-- **One call while an event waits**: it has its turn, or fewer events are pending. -/
theorem DeliveryHub.Waiting.nextDue (injective : Function.Injective env.sha256)
    (waiting : hub.Waiting env eventId event) (call : DueCall)
    (available : event.availableAt ≤ call.now) :
    (∃ before after, hub.pendingEvents (batchLimit call.batchSize) call.now =
        before ++ eventId :: after ∧
      (hub.afterEvents env call.now before).Waiting env eventId event ∧
      (hub.nextDue env call).Settled eventId ∧
      ∀ subscriptionId, (hub.nextDue env call).deliveriesFor eventId subscriptionId =
        ((hub.afterEvents env call.now before).fanOut env eventId call.now).deliveriesFor
          eventId subscriptionId) ∨
    (hub.nextDue env call).Waiting env eventId event ∧
      (hub.nextDue env call).pendingCount < hub.pendingCount := by
  by_cases member : eventId ∈ hub.pendingEvents (batchLimit call.batchSize) call.now
  · left
    obtain ⟨before, after, events⟩ := List.append_of_mem member
    have distinct := nodup_pendingEvents hub (batchLimit call.batchSize) call.now
    rw [events, List.nodup_append] at distinct
    obtain ⟨-, later, apart⟩ := distinct
    have absent : eventId ∉ before := fun inside =>
      apart eventId inside eventId (List.mem_cons_self ..) rfl
    have turn := waiting.afterEvents injective call.now absent
    obtain ⟨settled, same⟩ := (turn.settled call.now).afterEvents env call.now
      (List.nodup_cons.mp later).1
    have drained : hub.drainOutbox env call.batchSize call.now =
        ((hub.afterEvents env call.now before).fanOut env eventId call.now).afterEvents
          env call.now after := by
      rw [DeliveryHub.drainOutbox, events, List.foldl_append, List.foldl_cons]
      rfl
    refine ⟨before, after, events, turn, ?_⟩
    unfold DeliveryHub.nextDue processDue
    rw [drained]
    refine deliverAll_induction (motive := fun hub' => hub'.Settled eventId ∧
      ∀ subscriptionId, hub'.deliveriesFor eventId subscriptionId =
        ((hub.afterEvents env call.now before).fanOut env eventId call.now).deliveriesFor
          eventId subscriptionId) ?_ ⟨settled, same⟩
    rintro middle key ⟨settled, same⟩
    exact ⟨settled.deliver key _, fun subscriptionId =>
      (deliveriesFor_deliver _ key subscriptionId).trans (same subscriptionId)⟩
  · right
    have drained := waiting.afterEvents injective call.now member
    have fewer : (hub.drainOutbox env call.batchSize call.now).pendingCount <
        hub.pendingCount := by
      unfold DeliveryHub.drainOutbox
      obtain ⟨other, rest, events⟩ := List.exists_cons_of_ne_nil
        (pendingEvents_ne_nil waiting available call.batchSize)
      obtain ⟨row, stored, pending⟩ := of_mem_pendingEvents (events ▸ List.mem_cons_self ..)
      have first := pendingCount_fanOut env call.now stored
      rw [if_pos pending] at first
      rw [events, List.foldl_cons]
      have others := pendingCount_afterEvents_le env call.now rest
        (hub.fanOut env other call.now)
      unfold DeliveryHub.afterEvents at others
      omega
    refine deliverAll_induction (motive := fun hub' => hub'.Waiting env eventId event ∧
      hub'.pendingCount < hub.pendingCount) ?_ ⟨drained, fewer⟩
    rintro middle key ⟨waiting, fewer⟩
    refine ⟨waiting.deliver key _, ?_⟩
    unfold DeliveryHub.pendingCount at fewer ⊢
    rw [outboxEvents_deliver]
    exact fewer

/-- **An available event has its turn** within as many calls as there are pending events. -/
theorem DeliveryHub.Waiting.exists_turn (injective : Function.Injective env.sha256)
    {calls : List DueCall} :
    ∀ {start : DeliveryHub}, start.Waiting env eventId event →
      (∀ call ∈ calls, event.availableAt ≤ call.now) → start.pendingCount ≤ calls.length →
      ∃ turn now, TurnOf env start calls eventId turn now ∧
        turn.Waiting env eventId event ∧
        ∀ subscriptionId, (Library.final (DeliveryHub.nextDue env) start calls).deliveriesFor
          eventId subscriptionId =
            (turn.fanOut env eventId now).deliveriesFor eventId subscriptionId := by
  induction calls with
  | nil =>
    intro start waiting _ enough
    have counted := pendingCount_fanOut env 0 waiting.stored
    rw [if_pos waiting.pending] at counted
    rw [List.length_nil] at enough
    omega
  | cons call rest ih =>
    intro start waiting available enough
    rw [List.forall_mem_cons] at available
    rcases waiting.nextDue injective call available.1 with
      ⟨before, after, events, turn, settled, same⟩ | ⟨still, fewer⟩
    · refine ⟨start.afterEvents env call.now before, call.now, ?_, turn, ?_⟩
      · exact ⟨[], call, rest, before, after, rfl, rfl, events, rfl⟩
      · intro subscriptionId
        exact (settled.final env rest subscriptionId).trans (same subscriptionId)
    · rw [List.length_cons] at enough
      obtain ⟨turn, now, taken, waits, same⟩ := ih still available.2 (by omega)
      obtain ⟨first, at_, others, before, after, rfl, rfl, events, rfl⟩ := taken
      exact ⟨_, at_.now, ⟨call :: first, at_, others, before, after, rfl, rfl, events, rfl⟩,
        waits, same⟩

end Runs

/-- **Outbox fan-out.** In every run of `process_due` that is at least as long as the list of
pending events, an available event has its turn. A subscription never gets two deliveries
for it, and each one that matches at that time gets exactly one if and only if every
subscription of the event could be drafted. -/
theorem outbox_fan_out (env : DeliveryRuntime) (injective : Function.Injective env.sha256)
    (start : DeliveryHub) (eventId : Nat) (event : IntegrationOutboxEvent)
    (waiting : start.Waiting env eventId event) (calls : List DueCall)
    (available : ∀ call ∈ calls, event.availableAt ≤ call.now)
    (enough : start.pendingCount ≤ calls.length) :
    ∃ turn now, TurnOf env start calls eventId turn now ∧
      (∀ subscriptionId, (final (DeliveryHub.nextDue env) start calls).deliveriesFor eventId
        subscriptionId ≤ 1) ∧
      ∀ row ∈ turn.subscribers event.eventType, turn.Matches event row.2 →
        ((final (DeliveryHub.nextDue env) start calls).deliveriesFor eventId row.1 = 1 ↔
          turn.AllDrafted env eventId event now) := by
  obtain ⟨turn, now, taken, waits, same⟩ := waiting.exists_turn injective available enough
  refine ⟨turn, now, taken, fun subscriptionId => ?_, fun row member matching => ?_⟩
  · rw [same]
    exact deliveriesFor_fanOut_le injective waits.stored waits.unserved subscriptionId
  · rw [same]
    exact deliveriesFor_fanOut_eq_one injective waits.stored waits.unserved member matching

/-! ## Two connectors -/

/-- A subscription of a connector to new cases. -/
def caseSubscription (connectorId : Nat) : ConnectorSubscription where
  connectorId
  eventType := "case.created"
  filter := []
  mappingId := none
  enabled := true
  minimumSeverity := none

def caseEvent : IntegrationOutboxEvent where
  eventType := "case.created"
  idempotencyKey := "case-1"
  canonicalEvent := [("severity", .str "high")]
  status := .pending
  availableAt := noon
  processedAt := none

/-- Two connectors that subscribe to new cases, and one new case. -/
def twoConnectors (second : ConnectorInstance) : DeliveryHub :=
  { outboundHub with
    connectors := (Table.empty.insert outboundConnector).insert second
    subscriptions := (Table.empty.insert (caseSubscription 1)).insert (caseSubscription 2)
    outboxEvents := Table.empty.insert caseEvent }

/-- A call at noon whose attempts are all answered. -/
def noonCall : DueCall := ⟨noon, 100, fun _ => ⟨noon, noon, .response ⟨200, [], none⟩⟩⟩

theorem waiting_twoConnectors (second : ConnectorInstance) :
    (twoConnectors second).Waiting plainDelivery 1 caseEvent := by
  have only : ∀ key event, (Table.empty.insert caseEvent).get? key = some event → key = 1 := by
    intro key event stored
    by_contra other
    rw [Table.get?_insert_of_ne _ _ other] at stored
    cases stored
  refine ⟨rfl, rfl, ?_, Table.Each.empty⟩
  intro key event other row stored found _
  rw [only key event stored, only other row found]

theorem outbox_fan_out_two :
    ∃ turn now, TurnOf plainDelivery (twoConnectors outboundConnector) [noonCall] 1 turn now ∧
      (∀ subscriptionId, (final (DeliveryHub.nextDue plainDelivery)
        (twoConnectors outboundConnector) [noonCall]).deliveriesFor 1 subscriptionId ≤ 1) ∧
      ∀ row ∈ turn.subscribers caseEvent.eventType, turn.Matches caseEvent row.2 →
        ((final (DeliveryHub.nextDue plainDelivery) (twoConnectors outboundConnector)
            [noonCall]).deliveriesFor 1 row.1 = 1 ↔
          turn.AllDrafted plainDelivery 1 caseEvent now) :=
  outbox_fan_out plainDelivery (fun _ _ same => same) (twoConnectors outboundConnector) 1 caseEvent
    (waiting_twoConnectors _) [noonCall] (List.forall_mem_singleton.mpr le_rfl) (by decide)

/-- A connector whose circuit is open for another hour. -/
def brokenConnector : ConnectorInstance :=
  { outboundConnector with
    consecutiveFailures := 5
    circuitState := .opened
    circuitOpenedAt := some noon
    circuitRetryAt := some (noon + minutes 60) }

theorem failed_noonCall :
    (((twoConnectors brokenConnector).nextDue plainDelivery noonCall).outboxEvents.get? 1).map
      IntegrationOutboxEvent.status = some .failed := by
  decide +kernel

theorem deliveriesFor_noonCall :
    ((twoConnectors brokenConnector).nextDue plainDelivery noonCall).deliveriesFor 1 1 = 0 := by
  decide +kernel

theorem settled_noonCall :
    ((twoConnectors brokenConnector).nextDue plainDelivery noonCall).Settled 1 := by
  obtain ⟨event, stored, failed⟩ := Option.map_eq_some_iff.mp failed_noonCall
  refine ⟨event, stored, ?_⟩
  rw [failed]
  decide

/-- **An open circuit takes the delivery of another connector with it**, for good. -/
theorem broken_neighbour :
    (twoConnectors brokenConnector).Waiting plainDelivery 1 caseEvent ∧
      (twoConnectors brokenConnector).Matches caseEvent (caseSubscription 1) ∧
      ∀ rest, (final (DeliveryHub.nextDue plainDelivery) (twoConnectors brokenConnector)
        (noonCall :: rest)).deliveriesFor 1 1 = 0 := by
  refine ⟨waiting_twoConnectors _, ⟨outboundConnector, rfl, rfl, rfl⟩, fun rest => ?_⟩
  rw [final_cons, settled_noonCall.final plainDelivery rest 1, deliveriesFor_noonCall]

end ThreatScope.Integrations
