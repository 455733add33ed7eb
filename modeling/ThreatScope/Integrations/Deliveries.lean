import ThreatScope.Integrations.Inbound

/-!
# Outbound deliveries

`queue_delivery`, `deliver` and `process_due` of `integrations/service.py` with the routes
that retry and cancel a delivery and reset a circuit.

Events wait in an outbox. `process_due` gives each pending event one delivery for every
subscription that matches, in one transaction, and then attempts the deliveries that are
due. A delivery is attempted until it succeeds, is cancelled or becomes a dead letter. A
connector with five failures in a row opens its circuit, and the next attempt after the
pause is a single probe.

What happens between sending and the answer is the `Outcome` of an attempt: a response, an
error of the service, or any other exception. The last one is not handled: the attempt ends
in its `finally` clause, which commits whatever was written before. So does an error of the
handler itself, which redacts the payload of a dead letter a second time and refuses it when it
has outgrown the bound.
-/

set_option autoImplicit false

namespace ThreatScope.Integrations

open Library AccessControl

/-! ## Rows -/

/-- `ConnectorDelivery.status`. -/
inductive DeliveryStatus where
  | queued
  | delivering
  | waitingRetry
  | succeeded
  | succeededWithWarnings
  | failed
  | deadLetter
  | cancelled
deriving DecidableEq

def DeliveryStatus.terminal : DeliveryStatus → Bool
  | .succeeded | .succeededWithWarnings | .failed | .deadLetter | .cancelled => true
  | .queued | .delivering | .waitingRetry => false

/-- A row of `integration_deliveries`. -/
structure ConnectorDelivery where
  connectorId : Nat
  subscriptionId : Option Nat
  outboxEventId : Option Nat
  eventType : String
  externalOperation : String
  idempotencyKey : String
  payload : Json
  payloadProfile : String
  status : DeliveryStatus
  attemptCount : Nat
  maximumAttempts : Nat
  nextAttemptAt : Option Instant
  startedAt : Option Instant
  completedAt : Option Instant
  externalReference : Option String
  responseStatusCode : Option Int
  errorCode : Option ErrorCode
  errorSummary : Option String
  createdByUserId : Option Nat

/-- `ConnectorDeliveryAttempt.status`. -/
inductive AttemptStatus where
  | started
  | succeeded
  | failedRetryable
  | failedTerminal
deriving DecidableEq

/-- A row of `integration_delivery_attempts`. -/
structure ConnectorDeliveryAttempt where
  deliveryId : Nat
  attemptNumber : Nat
  status : AttemptStatus
  startedAt : Instant
  completedAt : Option Instant
  responseStatusCode : Option Int
  errorCode : Option ErrorCode
  errorSummary : Option String
  retryAfterSeconds : Option Nat

/-- A row of `integration_dead_letters`. -/
structure ConnectorDeadLetter where
  deliveryId : Nat
  connectorId : Nat
  reasonCode : ErrorCode
  reasonSummary : String
  payloadSummary : Json
  finalAttemptNumber : Nat

/-- A row of `integration_external_references`. -/
structure ConnectorExternalReference where
  connectorId : Nat
  externalReferenceId : String
  linkedEntityType : String
  linkedEntityId : String

/-- A row of `integration_subscriptions`. -/
structure ConnectorSubscription where
  connectorId : Nat
  eventType : String
  filter : Dict
  mappingId : Option Nat
  enabled : Bool
  minimumSeverity : Option String

/-- `IntegrationOutboxEvent.status`. -/
inductive OutboxStatus where
  | pending
  | delivered
  | partiallyDelivered
  | failed
deriving DecidableEq

/-- A row of `integration_outbox_events`. -/
structure IntegrationOutboxEvent where
  eventType : String
  idempotencyKey : String
  canonicalEvent : Dict
  status : OutboxStatus
  availableAt : Instant
  processedAt : Option Instant

/-- The tables that sending reads and writes. -/
structure DeliveryHub where
  connectors : Table ConnectorInstance
  subscriptions : Table ConnectorSubscription
  mappings : Table Json
  outboxEvents : Table IntegrationOutboxEvent
  deliveries : Table ConnectorDelivery
  attempts : Table ConnectorDeliveryAttempt
  deadLetters : Table ConnectorDeadLetter
  externalReferences : Table ConnectorExternalReference

/-- What sending takes from the Python runtime. -/
structure DeliveryRuntime extends MappingRuntime where
  /-- `sha256` of a text. -/
  sha256 : String → String

/-! ## Outcomes -/

/-- `AdapterResponse`. -/
structure AdapterResponse where
  statusCode : Int
  headers : List (String × String)
  externalReference : Option String

/-- How the exchange of an attempt ends. -/
inductive Outcome where
  /-- A response, with any status. -/
  | response (answer : AdapterResponse)
  /-- An `IntegrationSecurityError`, after the first of two responses perhaps. -/
  | refused (error : SecurityError) (earlier : Option AdapterResponse)
  /-- Any other exception; the session can still commit, or a flush has failed. -/
  | raised (commits : Bool)

/-- An attempt: when it starts, when it ends and how. -/
structure Attempted where
  started : Instant
  finished : Instant
  outcome : Outcome

def retryableHttp : List Int := [408, 425, 429, 500, 502, 503, 504]

/-- The error that a response is turned into, none for a success. -/
def AdapterResponse.refusal (answer : AdapterResponse) : Option SecurityError :=
  if 200 ≤ answer.statusCode ∧ answer.statusCode < 300 then none
  else if retryableHttp.contains answer.statusCode then
    some ⟨if answer.statusCode = 429 then .rateLimited else .timeout,
      "Temporary external response " ++ toString answer.statusCode⟩
  else
    some ⟨if answer.statusCode = 401 then .authenticationFailed
        else if answer.statusCode = 403 then .authorizationFailed else .deliveryTerminal,
      "Terminal external response " ++ toString answer.statusCode⟩

/-- The codes after which a delivery is tried again. -/
def ErrorCode.retryable (code : ErrorCode) : Bool := code == .timeout || code == .rateLimited

/-- `RETRY_SCHEDULE[min(attempt_no, len(RETRY_SCHEDULE) - 1)]`. -/
def retrySchedule (attemptNumber : Nat) : Nat :=
  [0, 30, 120, 600, 1800, 3600, 7200].getD (min attemptNumber 6) 7200

/-- `_retry_after`, `none` for a pause of zero. -/
def retryAfter (py : Interpreter) (headers : List (String × String)) : Option Nat :=
  match headers.find? fun header => header.1 == "retry-after" with
  | none => none
  | some header =>
    match py.parseInt header.2 with
    | none => none
    | some requested =>
      if min (max requested 0) 3600 = 0 then none else some (min (max requested 0) 3600).toNat

/-- The pause before the next attempt, in seconds. -/
def retryDelay (py : Interpreter) (code : ErrorCode) (earlier : Option AdapterResponse)
    (attemptNumber : Nat) : Nat :=
  let requested := if code = .rateLimited then
    earlier.bind fun answer => retryAfter py answer.headers else none
  requested.getD (retrySchedule attemptNumber)

/-! ## What an attempt does to the rows -/

/-- A connector whose open circuit is probed. -/
def ConnectorInstance.probing (connector : ConnectorInstance) : ConnectorInstance :=
  if connector.circuitState = .opened then { connector with circuitState := .halfOpen }
  else connector

/-- A connector that has delivered. -/
def ConnectorInstance.recovered (connector : ConnectorInstance) (now : Instant) :
    ConnectorInstance :=
  { connector with
    consecutiveFailures := 0
    circuitState := .closed
    healthStatus := .healthy
    lastSuccessAt := some now }

/-- A connector whose failure has been counted. -/
def ConnectorInstance.counted (connector : ConnectorInstance) (code : ErrorCode) (now : Instant) :
    ConnectorInstance :=
  { connector with
    lastFailureAt := some now
    consecutiveFailures := connector.consecutiveFailures + if code.retryable then 1 else 0 }

/-- A connector that has failed to deliver. -/
def ConnectorInstance.faulted (connector : ConnectorInstance) (code : ErrorCode) (now : Instant) :
    ConnectorInstance :=
  let counted := connector.counted code now
  if 5 ≤ counted.consecutiveFailures then
    { counted with
      circuitState := .opened
      circuitOpenedAt := some now
      circuitRetryAt := some (now + minutes 15)
      healthStatus := .unhealthy }
  else counted

/-- A delivery whose attempt has started. -/
def ConnectorDelivery.begun (delivery : ConnectorDelivery) (now : Instant) : ConnectorDelivery :=
  { delivery with
    status := .delivering
    startedAt := some (delivery.startedAt.getD now)
    attemptCount := delivery.attemptCount + 1 }

/-- A delivery of a connector that is not active. -/
def ConnectorDelivery.inactive (delivery : ConnectorDelivery) : ConnectorDelivery :=
  { delivery with
    status := .waitingRetry
    errorCode := some .disabled
    errorSummary := some "Connector is disabled" }

/-- A delivery that waits for the circuit. -/
def ConnectorDelivery.deferred (delivery : ConnectorDelivery) (pauseEnd : Instant) :
    ConnectorDelivery :=
  { delivery with status := .waitingRetry, nextAttemptAt := some pauseEnd }

/-- A delivery that has been answered with success. -/
def ConnectorDelivery.accepted (delivery : ConnectorDelivery) (answer : AdapterResponse)
    (now : Instant) : ConnectorDelivery :=
  { delivery with
    responseStatusCode := some answer.statusCode
    status := .succeeded
    completedAt := some now
    errorCode := none
    errorSummary := none
    externalReference := match answer.externalReference with
      | some reference =>
        if reference = "" then delivery.externalReference
        else some (Text.truncate 200 reference)
      | none => delivery.externalReference }

/-- The response code of an answer, the old one when there was none. -/
def ConnectorDelivery.answered (delivery : ConnectorDelivery) (answer : Option AdapterResponse) :
    ConnectorDelivery :=
  match answer with
  | some answer => { delivery with responseStatusCode := some answer.statusCode }
  | none => delivery

/-- A delivery that will be tried again. -/
def ConnectorDelivery.retried (delivery : ConnectorDelivery) (error : SecurityError)
    (next : Instant) : ConnectorDelivery :=
  { delivery with
    status := .waitingRetry
    nextAttemptAt := some next
    errorCode := some error.code
    errorSummary := some (Text.truncate 1000 error.summary) }

/-- A delivery that is given up. -/
def ConnectorDelivery.buried (delivery : ConnectorDelivery) (error : SecurityError)
    (now : Instant) : ConnectorDelivery :=
  { delivery with
    status := .deadLetter
    completedAt := some now
    errorCode := some error.code
    errorSummary := some (Text.truncate 1000 error.summary) }

/-- The attempt row as it is first written. -/
def newAttempt (deliveryId : Nat) (delivery : ConnectorDelivery) (now : Instant) :
    ConnectorDeliveryAttempt where
  deliveryId
  attemptNumber := delivery.attemptCount + 1
  status := .started
  startedAt := now
  completedAt := none
  responseStatusCode := none
  errorCode := none
  errorSummary := none
  retryAfterSeconds := none

/-- An attempt that has ended. -/
def ConnectorDeliveryAttempt.ended (attempt : ConnectorDeliveryAttempt) (status : AttemptStatus)
    (answer : Option AdapterResponse) (error : Option SecurityError) (pause : Option Nat)
    (now : Instant) : ConnectorDeliveryAttempt :=
  { attempt with
    status
    completedAt := some now
    responseStatusCode := answer.map AdapterResponse.statusCode
    errorCode := error.map SecurityError.code
    errorSummary := error.map fun error => Text.truncate 500 error.summary
    retryAfterSeconds := pause }

/-! ## Queueing -/

/-- A connector that may deliver. -/
def ConnectorInstance.running (connector : ConnectorInstance) : Bool :=
  connector.lifecycleStatus == .active && connector.enabled

/-- What `queue_delivery` is asked to deliver. -/
structure DeliveryRequest where
  payload : Json
  eventType : String
  externalOperation : String
  idempotencyKey : String
  actorId : Option Nat
  subscriptionId : Option Nat
  outboxId : Option Nat

/-- The delivery that holds an idempotency key. -/
def DeliveryHub.deliveryFor (hub : DeliveryHub) (idempotencyKey : String) :
    Option (Nat × ConnectorDelivery) :=
  hub.deliveries.first? fun _ delivery => delivery.idempotencyKey == idempotencyKey

/-- `min(connector.retry_limit or 1, 7)`. -/
def ConnectorInstance.maximumAttempts (connector : ConnectorInstance) : Nat :=
  min (if connector.retryLimit = 0 then 1 else connector.retryLimit) 7

/-- A delivery as `queue_delivery` creates it. -/
def newDelivery (connectorId : Nat) (connector : ConnectorInstance) (request : DeliveryRequest)
    (payload : Json) : ConnectorDelivery where
  connectorId
  subscriptionId := request.subscriptionId
  outboxEventId := request.outboxId
  eventType := request.eventType
  externalOperation := request.externalOperation
  idempotencyKey := request.idempotencyKey
  payload
  payloadProfile := connector.payloadProfile
  status := .queued
  attemptCount := 0
  maximumAttempts := connector.maximumAttempts
  nextAttemptAt := none
  startedAt := none
  completedAt := none
  externalReference := none
  responseStatusCode := none
  errorCode := none
  errorSummary := none
  createdByUserId := request.actorId

/-- The connector takes a delivery: it is active, and its circuit is not open. -/
def ConnectorInstance.admit (connector : ConnectorInstance) (now : Instant) :
    Except Fault Unit :=
  if !connector.running then refuse .notActive "Connector is not active"
  else if connector.circuitState = .opened ∧
      connector.circuitRetryAt.all (fun retryAt => decide (now < retryAt)) = true then
    refuse .circuitOpen "Connector circuit is open"
  else .ok ()

/-- The payload as it is stored, redacted and within the bound. -/
def safePayload (py : Interpreter) (payload : Json) : Except Fault Json :=
  let safe := redact py payload
  if exceedsBound py safe then
    refuse .payloadTooLarge "JSON payload exceeds the configured bound"
  else .ok safe

/-- `queue_delivery`, for a connector that was found. -/
def queueDelivery (py : Interpreter) (hub : DeliveryHub) (connectorId : Nat)
    (connector : ConnectorInstance) (request : DeliveryRequest) (now : Instant) :
    Except Fault DeliveryHub := do
  connector.admit now
  match hub.deliveryFor request.idempotencyKey with
  | some _ => .ok hub
  | none => do
    let safe ← safePayload py request.payload
    .ok { hub with
      deliveries := hub.deliveries.insert (newDelivery connectorId connector request safe) }

def createDelivery (py : Interpreter) (hub : DeliveryHub) (connectorId : Nat)
    (request : DeliveryRequest) (now : Instant) : Except Fault DeliveryHub :=
  match hub.connectors.get? connectorId with
  | none => .error (.http 404)
  | some connector => queueDelivery py hub connectorId connector request now

/-! ## Attempting a delivery -/

/-- What `deliver` decides before it attempts anything. -/
inductive Disposition where
  | inactive
  | settled
  | deferred (pauseEnd : Instant)
  | due (connector : ConnectorInstance)

/-- The checks at the head of `deliver`, in the order of the source. -/
def DeliveryHub.disposition (hub : DeliveryHub) (delivery : ConnectorDelivery) (now : Instant) :
    Disposition :=
  match (hub.connectors.get? delivery.connectorId).filter ConnectorInstance.running with
  | none => .inactive
  | some connector =>
    if delivery.status.terminal then .settled
    else match connector.circuitState, connector.circuitRetryAt with
      | .opened, some retryAt => if now < retryAt then .deferred retryAt else .due connector
      | .halfOpen, retryAt => .deferred (retryAt.getD (now + seconds 30))
      | _, _ => .due connector

/-- The circuit of the connector is probed, which is committed at once. -/
def DeliveryHub.probe (hub : DeliveryHub) (connectorId : Nat) : DeliveryHub :=
  { hub with connectors := hub.connectors.modify connectorId ConnectorInstance.probing }

/-- The attempt is recorded and the delivery is under way. -/
def DeliveryHub.begin (hub : DeliveryHub) (key : Nat) (delivery : ConnectorDelivery)
    (now : Instant) : DeliveryHub :=
  { hub with
    attempts := hub.attempts.insert (newAttempt key delivery now)
    deliveries := hub.deliveries.modify key fun delivery => delivery.begun now }

/-- The entity an external reference is linked to. -/
def linkedEntity (py : Interpreter) (key : Nat) (payload : Dict) : String × String :=
  let caseId := Dict.get payload "case_id"
  let kind := if caseId.truthy then "incident_case"
    else Text.truncate 80 (py.str
      ((Dict.get payload "linked_entity_type").orElse (.str "integration_delivery")))
  let entity := Text.truncate 100 (py.str
    (caseId.orElse ((Dict.get payload "linked_entity_id").orElse (.int key))))
  (kind, entity)

/-- The reference of a response is stored unless the connector has it already. -/
def DeliveryHub.link (py : Interpreter) (hub : DeliveryHub) (key : Nat)
    (delivery : ConnectorDelivery) (answer : AdapterResponse) :
    Table ConnectorExternalReference :=
  match answer.externalReference with
  | none => hub.externalReferences
  | some reference =>
    let identifier := Text.truncate 200 reference
    if reference = "" || (hub.externalReferences.first? fun _ row =>
        row.connectorId == delivery.connectorId &&
          row.externalReferenceId == identifier).isSome then hub.externalReferences
    else
      let linked := linkedEntity py key delivery.payload.fields
      hub.externalReferences.insert ⟨delivery.connectorId, identifier, linked.1, linked.2⟩

/-- The attempt succeeds. -/
def DeliveryHub.succeed (py : Interpreter) (hub : DeliveryHub) (key attemptKey : Nat)
    (delivery : ConnectorDelivery) (answer : AdapterResponse) (now : Instant) : DeliveryHub :=
  { hub with
    attempts := hub.attempts.modify attemptKey fun attempt =>
      attempt.ended .succeeded (some answer) none none now
    deliveries := hub.deliveries.modify key fun delivery => delivery.accepted answer now
    connectors := hub.connectors.modify delivery.connectorId fun connector =>
      connector.recovered now
    externalReferences := hub.link py key delivery answer }

/-- A dead letter of the delivery is stored. -/
def DeliveryHub.hasLetter (hub : DeliveryHub) (key : Nat) : Bool :=
  (hub.deadLetters.first? fun _ row => row.deliveryId == key).isSome

/-- `_dead_letter` raises: it has to write a letter, and the stored payload exceeds the bound
once it is redacted again. -/
def DeliveryHub.letterRaises (py : Interpreter) (hub : DeliveryHub) (key : Nat)
    (delivery : ConnectorDelivery) : Bool :=
  !hub.hasLetter key && exceedsBound py (redact py delivery.payload)

/-- The dead letter of a delivery is written unless there is one or its payload is refused. -/
def DeliveryHub.bury (py : Interpreter) (hub : DeliveryHub) (key : Nat)
    (delivery : ConnectorDelivery) (error : SecurityError) : Table ConnectorDeadLetter :=
  if hub.hasLetter key || hub.letterRaises py key delivery then hub.deadLetters
  else hub.deadLetters.insert
    ⟨key, delivery.connectorId, error.code, Text.truncate 1000 error.summary,
      redact py delivery.payload, delivery.attemptCount + 1⟩

/-- The delivery is tried again after the error. -/
def ConnectorDelivery.triesAgain (delivery : ConnectorDelivery) (error : SecurityError) : Bool :=
  error.code.retryable && decide (delivery.attemptCount + 1 < delivery.maximumAttempts)

/-- The handler of an error of the service raises itself, before it looks at the circuit. -/
def DeliveryHub.failRaises (py : Interpreter) (hub : DeliveryHub) (key : Nat)
    (delivery : ConnectorDelivery) (error : SecurityError) : Bool :=
  !delivery.triesAgain error && hub.letterRaises py key delivery

/-- The attempt fails with an error of the service. `delivery` is the row before the
attempt. -/
def DeliveryHub.fail (py : Interpreter) (hub : DeliveryHub) (key attemptKey : Nat)
    (delivery : ConnectorDelivery) (error : SecurityError)
    (answer earlier : Option AdapterResponse) (now : Instant) : DeliveryHub :=
  let attemptNumber := delivery.attemptCount + 1
  let connectors := hub.connectors.modify delivery.connectorId fun connector =>
    if hub.failRaises py key delivery error then connector.counted error.code now
    else connector.faulted error.code now
  if delivery.triesAgain error then
    let delay := retryDelay py error.code earlier attemptNumber
    { hub with
      connectors
      attempts := hub.attempts.modify attemptKey fun attempt =>
        attempt.ended .failedRetryable answer (some error) (some delay) now
      deliveries := hub.deliveries.modify key fun delivery =>
        (delivery.answered answer).retried error (now + seconds delay) }
  else
    { hub with
      connectors
      attempts := hub.attempts.modify attemptKey fun attempt =>
        attempt.ended .failedTerminal answer (some error) none now
      deliveries := hub.deliveries.modify key fun delivery =>
        (delivery.answered answer).buried error now
      deadLetters := hub.bury py key delivery error }

/-- What the attempt's end commits, and whether an exception leaves `deliver`. -/
def DeliveryHub.conclude (py : Interpreter) (hub begun : DeliveryHub) (key : Nat)
    (delivery : ConnectorDelivery) (attempted : Attempted) : DeliveryHub × Bool :=
  let attemptKey := hub.attempts.nextKey
  let now := attempted.finished
  match attempted.outcome with
  | .response answer =>
    match answer.refusal with
    | none => (begun.succeed py key attemptKey delivery answer now, false)
    | some error =>
      (begun.fail py key attemptKey delivery error (some answer) (some answer) now,
        begun.failRaises py key delivery error)
  | .refused error earlier =>
    (begun.fail py key attemptKey delivery error none earlier now,
      begun.failRaises py key delivery error)
  | .raised true =>
    ({ begun with
      attempts := begun.attempts.modify attemptKey fun attempt =>
        { attempt with completedAt := some now } }, true)
  | .raised false => (hub, true)

/-- One attempt, for a delivery that is due. -/
def DeliveryHub.attempt (py : Interpreter) (hub : DeliveryHub) (key : Nat)
    (delivery : ConnectorDelivery) (attempted : Attempted) : DeliveryHub × Bool :=
  let probed := hub.probe delivery.connectorId
  probed.conclude py (probed.begin key delivery attempted.started) key delivery attempted

/-- `deliver`: the tables afterwards, and whether an exception leaves the call. -/
def deliver (py : Interpreter) (hub : DeliveryHub) (key : Nat) (attempted : Attempted) :
    DeliveryHub × Bool :=
  match hub.deliveries.get? key with
  | none => (hub, false)
  | some delivery =>
    match hub.disposition delivery attempted.started with
    | .inactive =>
      ({ hub with deliveries := hub.deliveries.modify key ConnectorDelivery.inactive }, false)
    | .settled => (hub, false)
    | .deferred pauseEnd =>
      ({ hub with
        deliveries := hub.deliveries.modify key fun delivery => delivery.deferred pauseEnd },
        false)
    | .due _ => hub.attempt py key delivery attempted

/-! ## The outbox -/

/-- The rank of a severity, `none` for a value that cannot be looked up. -/
def severityRank (missing : Int) : Json → Option Int
  | .str "info" => some 0
  | .str "low" => some 1
  | .str "medium" => some 2
  | .str "high" => some 3
  | .str "critical" => some 4
  | .arr _ | .obj _ => none
  | _ => some missing

/-- The severity filter of a subscription lets an event through. -/
def ConnectorSubscription.severityPasses (subscription : ConnectorSubscription)
    (event : Dict) : Except Fault Bool :=
  let minimum := (Dict.get subscription.filter "minimum_severity").orElse
    (match subscription.minimumSeverity with
      | some severity => .str severity
      | none => .null)
  if minimum.truthy then
    match severityRank (-1) (Dict.get event "severity"), severityRank 0 minimum with
    | some severity, some least => .ok (decide (least ≤ severity))
    | _, _ => .error .crashed
  else .ok true

/-- The payload a subscription sends for an event. -/
def DeliveryHub.payloadFor (env : DeliveryRuntime) (hub : DeliveryHub)
    (subscription : ConnectorSubscription) (event : IntegrationOutboxEvent) :
    Except Fault Json :=
  match subscription.mappingId with
  | none => .ok (.obj event.canonicalEvent)
  | some mappingId =>
    match hub.mappings.get? mappingId with
    | none => .error .crashed
    | some rules => applyMapping env.toMappingRuntime (.obj event.canonicalEvent) rules

/-- The idempotency key of the delivery of an event for a subscription. -/
def fanOutKey (env : DeliveryRuntime) (event : IntegrationOutboxEvent) (subscriptionId : Nat) :
    String :=
  env.sha256 (event.idempotencyKey ++ ":" ++ toString subscriptionId)

/-- The delivery an event asks for on behalf of a subscription. -/
def fanOutRequest (env : DeliveryRuntime) (eventId : Nat) (event : IntegrationOutboxEvent)
    (subscriptionId : Nat) (payload : Json) : DeliveryRequest where
  payload
  eventType := event.eventType
  externalOperation := "notify"
  idempotencyKey := fanOutKey env event subscriptionId
  actorId := none
  subscriptionId := some subscriptionId
  outboxId := some eventId

/-- One subscription of an event: the tables, and whether a delivery was asked for. -/
def DeliveryHub.fanOutTo (env : DeliveryRuntime) (hub : DeliveryHub) (eventId : Nat)
    (event : IntegrationOutboxEvent) (subscriptionId : Nat)
    (subscription : ConnectorSubscription) (now : Instant) : Except Fault (DeliveryHub × Bool) :=
  match hub.connectors.get? subscription.connectorId with
  | none => .ok (hub, false)
  | some connector =>
    if !connector.enabled then .ok (hub, false)
    else do
      if ← subscription.severityPasses event.canonicalEvent then
        let payload ← hub.payloadFor env subscription event
        let after ← queueDelivery env.py hub subscription.connectorId connector
          (fanOutRequest env eventId event subscriptionId payload) now
        .ok (after, true)
      else .ok (hub, false)

/-- The subscriptions of an event, in order. -/
def DeliveryHub.fanOutAll (env : DeliveryRuntime) (eventId : Nat)
    (event : IntegrationOutboxEvent) (now : Instant) :
    List (Nat × ConnectorSubscription) → DeliveryHub → Bool → Except Fault (DeliveryHub × Bool)
  | [], hub, created => .ok (hub, created)
  | (subscriptionId, subscription) :: rest, hub, created => do
    let (after, asked) ← hub.fanOutTo env eventId event subscriptionId subscription now
    DeliveryHub.fanOutAll env eventId event now rest after (created || asked)

/-- The enabled subscriptions of a type of event. -/
def DeliveryHub.subscribers (hub : DeliveryHub) (eventType : String) :
    List (Nat × ConnectorSubscription) :=
  hub.subscriptions.rows.filter fun row => row.2.eventType == eventType && row.2.enabled

/-- One event of the outbox: all its deliveries are created, or none and the event has
failed. -/
def DeliveryHub.fanOut (env : DeliveryRuntime) (hub : DeliveryHub) (eventId : Nat)
    (now : Instant) : DeliveryHub :=
  match hub.outboxEvents.get? eventId with
  | none => hub
  | some event =>
    match DeliveryHub.fanOutAll env eventId event now (hub.subscribers event.eventType) hub
        false with
    | .ok (after, created) =>
      { after with
        outboxEvents := after.outboxEvents.modify eventId fun event =>
          { event with
            status := if created then .delivered else .partiallyDelivered
            processedAt := some now } }
    | .error _ =>
      { hub with
        outboxEvents := hub.outboxEvents.modify eventId fun event =>
          { event with status := .failed } }

/-! ## `process_due` -/

/-- `min(max(int(batch_size), 1), 100)`. -/
def batchLimit (batchSize : Int) : Nat := (min (max batchSize 1) 100).toNat

/-- The pending events that are available, oldest first. -/
def DeliveryHub.pendingEvents (hub : DeliveryHub) (limit : Nat) (now : Instant) : List Nat :=
  ((hub.outboxEvents.rows.filter fun row =>
    decide (row.2.status = .pending) && decide (row.2.availableAt ≤ now)).take limit).map Prod.fst

/-- The deliveries that are due, oldest first. -/
def DeliveryHub.due (hub : DeliveryHub) (now : Instant) : List Nat :=
  (hub.deliveries.rows.filter fun row =>
    (decide (row.2.status = .queued) || decide (row.2.status = .waitingRetry)) &&
      row.2.nextAttemptAt.all fun next => decide (next ≤ now)).map Prod.fst

/-- Those of one batch. -/
def DeliveryHub.dueDeliveries (hub : DeliveryHub) (limit : Nat) (now : Instant) : List Nat :=
  (hub.due now).take limit

/-- Deliveries one after another, until an exception leaves one of them. -/
def deliverAll (py : Interpreter) (attempts : Nat → Attempted) :
    List Nat → DeliveryHub → DeliveryHub × Bool
  | [], hub => (hub, false)
  | key :: rest, hub =>
    match deliver py hub key (attempts key) with
    | (after, true) => (after, true)
    | (after, false) => deliverAll py attempts rest after

/-- The outbox part of `process_due`. -/
def DeliveryHub.drainOutbox (env : DeliveryRuntime) (hub : DeliveryHub) (batchSize : Int)
    (now : Instant) : DeliveryHub :=
  (hub.pendingEvents (batchLimit batchSize) now).foldl
    (fun hub eventId => hub.fanOut env eventId now) hub

/-- `process_due` without the clean-up of nonces, which touches none of these tables. -/
def processDue (env : DeliveryRuntime) (hub : DeliveryHub) (batchSize : Int) (now : Instant)
    (attempts : Nat → Attempted) : DeliveryHub × Bool :=
  let drained := hub.drainOutbox env batchSize now
  deliverAll env.py attempts (drained.dueDeliveries (batchLimit batchSize) now) drained

/-! ## Routes -/

def retryDelivery (hub : DeliveryHub) (key : Nat) : Except Fault DeliveryHub :=
  match hub.deliveries.get? key with
  | none => .error (.http 404)
  | some delivery =>
    if delivery.status = .failed ∨ delivery.status = .waitingRetry then
      .ok { hub with
        deliveries := hub.deliveries.modify key fun delivery =>
          { delivery with status := .queued, nextAttemptAt := none } }
    else refuse .retryNotAllowed "Delivery is not retryable"

def cancelDelivery (hub : DeliveryHub) (key : Nat) (reason : String) (now : Instant) :
    Except Fault DeliveryHub :=
  match hub.deliveries.get? key with
  | none => .error (.http 404)
  | some delivery =>
    if delivery.status = .queued ∨ delivery.status = .waitingRetry then
      .ok { hub with
        deliveries := hub.deliveries.modify key fun delivery =>
          { delivery with
            status := .cancelled
            completedAt := some now
            errorSummary := some reason } }
    else refuse .deliveryTerminal "Only queued deliveries can be cancelled"

/-- `reset_circuit`. -/
def ConnectorInstance.circuitReset (connector : ConnectorInstance) : ConnectorInstance :=
  { connector with
    circuitState := .closed
    circuitOpenedAt := none
    circuitRetryAt := none
    consecutiveFailures := 0 }

/-- The actions of `TRANSITIONS`. -/
inductive LifecycleAction where
  | moveToTesting
  | activate
  | disable
  | archive
deriving DecidableEq

/-- `TRANSITIONS[action].get(status)`. -/
def LifecycleAction.target : LifecycleAction → LifecycleStatus → Option LifecycleStatus
  | .moveToTesting, .draft | .moveToTesting, .disabled => some .testing
  | .activate, .testing | .activate, .disabled | .activate, .degraded => some .active
  | .disable, .active | .disable, .degraded => some .disabled
  | .archive, .draft | .archive, .testing | .archive, .disabled => some .archived
  | _, _ => none

/-- The part of `validate_configuration`'s result that `transition` reads. -/
structure Validation where
  valid : Bool
  activationEligible : Bool

/-- The row of a connector that has moved to another status. -/
def ConnectorInstance.moved (connector : ConnectorInstance) (target : LifecycleStatus) :
    ConnectorInstance :=
  { connector with
    lifecycleStatus := target
    enabled := target == .active
    healthStatus := match target with
      | .active => .healthy
      | .disabled | .archived => .disabled
      | _ => connector.healthStatus
    optimisticLockVersion := connector.optimisticLockVersion + 1 }

/-- `transition`, given what the validation of the configuration found. -/
def transitionConnector (connector : ConnectorInstance) (action : LifecycleAction)
    (lockVersion : Nat) (validation : Validation) : Except Fault ConnectorInstance :=
  if lockVersion ≠ connector.optimisticLockVersion then
    refuse .optimisticLockConflict "Connector version conflict"
  else match action.target connector.lifecycleStatus with
  | none => refuse .deliveryConflict "Connector lifecycle transition is not allowed"
  | some target =>
    if action = .moveToTesting ∧ validation.valid = false then
      refuse .configurationInvalid "Configuration must validate before testing"
    else if action = .activate ∧ validation.activationEligible = false then
      refuse .configurationInvalid
        "A successful test and required credential are required before activation"
    else .ok (connector.moved target)

/-! ## Steps -/

/-- A call that reaches the sending side. -/
inductive DeliveryCall where
  | queue (connectorId : Nat) (request : DeliveryRequest)
  | deliver (key : Nat) (attempted : Attempted)
  | processDue (batchSize : Int) (attempts : Nat → Attempted)
  | transition (connectorId : Nat) (action : LifecycleAction) (lockVersion : Nat)
      (validation : Validation)
  | retry (key : Nat)
  | cancel (key : Nat) (reason : String)
  | resetCircuit (connectorId : Nat)

/-- A call and the time of the clock when it starts. -/
structure TimedDelivery where
  now : Instant
  call : DeliveryCall

/-- The tables after a call that may fail. -/
def DeliveryHub.settle (hub : DeliveryHub) : Except Fault DeliveryHub → DeliveryHub
  | .ok after => after
  | .error _ => hub

/-- One call. -/
def DeliveryHub.next (env : DeliveryRuntime) (hub : DeliveryHub) (input : TimedDelivery) :
    DeliveryHub :=
  match input.call with
  | .queue connectorId request =>
    hub.settle (createDelivery env.py hub connectorId request input.now)
  | .deliver key attempted => (Integrations.deliver env.py hub key attempted).1
  | .processDue batchSize attempts =>
    (Integrations.processDue env hub batchSize input.now attempts).1
  | .transition connectorId action lockVersion validation =>
    match hub.connectors.get? connectorId with
    | none => hub
    | some connector =>
      match transitionConnector connector action lockVersion validation with
      | .error _ => hub
      | .ok moved =>
        { hub with connectors := hub.connectors.modify connectorId fun _ => moved }
  | .retry key => hub.settle (retryDelivery hub key)
  | .cancel key reason => hub.settle (cancelDelivery hub key reason input.now)
  | .resetCircuit connectorId =>
    { hub with
      connectors := hub.connectors.modify connectorId ConnectorInstance.circuitReset }

end ThreatScope.Integrations
