import ThreatScope.Integrations.Credentials
import ThreatScope.Integrations.Mappings
import ThreatScope.Library.Runs

/-!
# Receiving a signed event

`ingest_inbound` of `integrations/service.py`, the removal of expired nonces
(`process_due`, `retention_service.py`) and the routes that create endpoints and decide
about received events.

A sender presents four headers with a body. The signature covers the timestamp and the
body; the event identifier and the schema version are not signed. What is remembered of
an accepted request is a nonce, made from the endpoint and the event identifier, and the
event, of which an endpoint keeps one for each identifier.
-/

set_option autoImplicit false

namespace ThreatScope.Integrations

open Library AccessControl

variable {Ciphertext : Type}

/-! ## Redaction and size -/

def secretKeys : List String :=
  ["password", "secret", "token", "api_key", "authorization", "credential", "webhook_url",
    "signing_secret", "hec_token", "csrf", "totp", "recovery_code"]

/-- `security.redact` on a value that may still nest the given number of levels. -/
def redactWithin (py : Interpreter) : Nat → Json → Json
  | 0, _ => .str "[TRUNCATED]"
  | levels + 1, .obj fields =>
    .obj ((fields.take 100).foldl (fun result field =>
      Dict.set result (Text.truncate 100 field.1)
        (if secretKeys.any fun part => Text.contains (py.casefold field.1) part then
          .str "[REDACTED]"
        else redactWithin py levels field.2)) [])
  | levels + 1, .arr items => .arr ((items.take 100).map (redactWithin py levels))
  | _ + 1, .str text => .str (Text.truncate 4000 text)
  | _ + 1, value => value

/-- `security.redact(value)`. -/
def redact (py : Interpreter) (value : Json) : Json := redactWithin py 9 value

def maxJson : Nat := 262144

/-- `_json(value)` raises. -/
def exceedsBound (py : Interpreter) (value : Json) : Bool :=
  decide (maxJson < py.encodedSize value)

/-! ## Signatures -/

/-- The text is ASCII. -/
def isAscii (text : String) : Bool := text.toList.all fun c => c.toNat < 128

/-- `text.encode("ascii")` of an ASCII text. -/
def asciiBytes (text : String) : List UInt8 := text.toList.map fun c => c.toNat.toUInt8

/-- `sign_hmac` of an ASCII timestamp. -/
def signHmac (env : HubPlatform Ciphertext) (secret timestamp : String) (body : List UInt8) :
    String :=
  "sha256=" ++ env.hmacSha256 secret (asciiBytes timestamp ++ 46 :: body)

/-- `verify_hmac`. The timestamp is encoded as ASCII and `compare_digest` takes only ASCII
texts, so either may raise. -/
def verifyHmac (env : HubPlatform Ciphertext) (secret timestamp : String) (body : List UInt8)
    (presented : String) : Except Fault Bool :=
  if !isAscii timestamp || !isAscii (Text.strip presented) then .error .crashed
  else .ok (signHmac env secret timestamp body == Text.strip presented)

/-- The headers of a request, under lower-case names. -/
abbrev Headers := List (String × String)

/-- `str(headers.get(name, ""))`. -/
def Headers.get (headers : Headers) (name : String) : String := (headers.lookup name).getD ""

/-- The headers that `ingest_inbound` reads. -/
structure Presented where
  contentType : String
  timestamp : String
  externalId : String
  signature : String
  schema : String

/-- The headers as `ingest_inbound` reads them: the event identifier is cut to 160
characters. -/
def Headers.presented (headers : Headers) (py : Interpreter) : Presented where
  contentType := py.casefold (Text.strip
    (String.ofList ((headers.get "content-type").toList.takeWhile fun c => c != ';')))
  timestamp := headers.get "x-threatscope-timestamp"
  externalId := Text.truncate 160 (headers.get "x-threatscope-event-id")
  signature := headers.get "x-threatscope-signature"
  schema := headers.get "x-threatscope-schema-version"

/-- `datetime.fromtimestamp(int(timestamp), timezone.utc)`, `none` when it raises. -/
def instantOf (py : Interpreter) (timestamp : String) : Option Instant :=
  match py.parseInt timestamp with
  | none => none
  | some seconds =>
    if -62135596800 ≤ seconds ∧ seconds ≤ 253402300799 then some (seconds * 1000000) else none

/-- The largest distance between the clock and a timestamp. -/
def ConnectorInboundEndpoint.tolerance (endpoint : ConnectorInboundEndpoint) : Int :=
  (min endpoint.timestampToleranceSeconds 900 : Nat) * 1000000

/-- How long a nonce of the endpoint lasts. -/
def ConnectorInboundEndpoint.replayWindow (endpoint : ConnectorInboundEndpoint) : Int :=
  (min endpoint.replayWindowSeconds 3600 : Nat) * 1000000

/-- The previous secret of a credential, while its overlap lasts. -/
def overlapSecret (env : HubPlatform Ciphertext) (credentialPayload : Dict) (now : Instant) :
    Except Fault (Option String) :=
  let previousSecret := Dict.get credentialPayload "_previous_signing_secret"
  let validUntil := Dict.get credentialPayload "_previous_valid_until"
  if previousSecret.truthy && validUntil.truthy then
    match env.fromisoformat (env.py.str validUntil) with
    -- a text that is no date counts as an overlap that is over
    | none => .ok none
    | some (.aware _) => .error .crashed
    | some (.naive overlapUntil) =>
      .ok (if now ≤ overlapUntil then some (env.py.str previousSecret) else none)
  else .ok none

/-- The second check of `ingest_inbound`. -/
def verifyOverlap (env : HubPlatform Ciphertext) (credentialPayload : Dict)
    (request : Presented) (body : List UInt8) (now : Instant) : Except Fault Bool := do
  match ← overlapSecret env credentialPayload now with
  | none => .ok false
  | some secret => verifyHmac env secret request.timestamp body request.signature

/-- The text `ingest_inbound` signs with first. -/
def signingSecret (py : Interpreter) (credentialPayload : Dict) : String :=
  py.str ((Dict.find? credentialPayload "signing_secret").getD (.str ""))

/-- The signature check of `ingest_inbound`. -/
def verifySignature (env : HubPlatform Ciphertext) (credentialPayload : Dict) (request : Presented)
    (body : List UInt8) (now : Instant) : Except Fault Bool := do
  let valid ← verifyHmac env (signingSecret env.py credentialPayload)
    request.timestamp body request.signature
  if valid then .ok true else verifyOverlap env credentialPayload request body now

/-! ## `ingest_inbound` -/

def nonceHash (env : HubPlatform Ciphertext) (endpointId : Nat) (externalId : String) : String :=
  env.sha256 (toString endpointId ++ ":" ++ externalId)

/-- What a request that passes the checks leaves for the store. -/
structure Examined where
  request : Presented
  redacted : Json
  normalized : Json

/-- The configured credential of a connector. -/
def InboundHub.configuredCredential (hub : InboundHub Ciphertext) (connectorId : Nat) :
    Option (Nat × ConnectorCredential Ciphertext) :=
  hub.credentials.first? fun _ credential =>
    credential.connectorId == connectorId && credential.configured

/-- The checks on the headers, up to the signature. -/
def checkHeaders (env : HubPlatform Ciphertext) (endpoint : ConnectorInboundEndpoint)
    (request : Presented) (body : List UInt8) (now : Instant) : Except Fault Unit :=
  if !endpoint.enabled then
    refuse .disabled "Inbound endpoint is disabled"
  else if request.contentType != "application/json" then
    refuse .configurationInvalid "JSON content type is required"
  else if min endpoint.maximumBodyBytes 524288 < body.length then
    refuse .payloadTooLarge "Inbound body exceeds the configured limit"
  else match instantOf env.py request.timestamp with
    | none => refuse .timestampInvalid "Inbound authentication failed"
    | some instant =>
      if endpoint.tolerance < |now - instant| then
        refuse .timestampInvalid "Inbound authentication failed"
      else if request.externalId = "" ∨ request.signature = "" ∨
          request.schema ≠ endpoint.schemaVersion then
        refuse .signatureInvalid "Inbound authentication failed"
      else .ok ()

/-- The signature of a request, under the credential of the endpoint's connector. -/
def authenticate (env : HubPlatform Ciphertext) (hub : InboundHub Ciphertext)
    (endpoint : ConnectorInboundEndpoint)
    (request : Presented) (body : List UInt8) (now : Instant) : Except Fault Unit :=
  match hub.configuredCredential endpoint.connectorId with
  | none => refuse .signatureInvalid "Inbound authentication failed"
  | some (_, credential) => do
    let credentialPayload ← decryptSecret env credential.encryptedPayload
    let valid ← verifySignature env credentialPayload request body now
    if valid then .ok () else refuse .signatureInvalid "Inbound authentication failed"

/-- A nonce for the endpoint and the event identifier is stored. -/
def InboundHub.hasNonce (env : HubPlatform Ciphertext) (hub : InboundHub Ciphertext)
    (endpointId : Nat) (externalId : String) : Bool :=
  hub.replayNonces.rows.any fun row =>
    row.2.endpointId == endpointId && row.2.nonceHash == nonceHash env endpointId externalId

/-- An event of the endpoint with the identifier is stored. -/
def InboundHub.hasEvent (hub : InboundHub Ciphertext) (endpointId : Nat) (externalId : String) :
    Bool :=
  hub.inboundEvents.rows.any fun row =>
    row.2.endpointId == endpointId && row.2.externalEventId == externalId

/-- `str(payload.get("event_type", ""))`. -/
def eventTypeOf (py : Interpreter) (payload : Dict) : String :=
  py.str ((Dict.find? payload "event_type").getD (.str ""))

/-- The normalized event: the redacted payload, through the mapping of the endpoint. -/
def normalize (env : HubPlatform Ciphertext) (hub : InboundHub Ciphertext)
    (endpoint : ConnectorInboundEndpoint) (redacted : Json) : Except Fault Json :=
  match endpoint.mappingId with
  | none => .ok redacted
  | some mappingId =>
    match hub.mappings.get? mappingId with
    | none => .error .crashed
    | some rules => env.applyMapping redacted rules

/-- The checks on the body: an object of an allowed type, which the mapping accepts. -/
def readBody (env : HubPlatform Ciphertext) (hub : InboundHub Ciphertext)
    (endpoint : ConnectorInboundEndpoint)
    (request : Presented) (body : List UInt8) : Except Fault Examined :=
  match env.loads body with
  | .crashed => .error .crashed
  | .malformed => refuse .configurationInvalid "Inbound JSON is invalid"
  | .value (.obj payload) =>
    if !endpoint.allowedEventTypes.isEmpty &&
        !endpoint.allowedEventTypes.contains (eventTypeOf env.py payload) then
      refuse .configurationInvalid "Inbound event type is not allowlisted"
    else do
      let normalized ← normalize env hub endpoint (redact env.py (.obj payload))
      .ok ⟨request, redact env.py (.obj payload), normalized⟩
  | .value _ => refuse .configurationInvalid "Inbound payload must be an object"

/-- Everything `ingest_inbound` checks before it writes. -/
def examine (env : HubPlatform Ciphertext) (hub : InboundHub Ciphertext) (endpointId : Nat)
    (endpoint : ConnectorInboundEndpoint) (request : Presented) (body : List UInt8)
    (now : Instant) : Except Fault Examined := do
  checkHeaders env endpoint request body now
  authenticate env hub endpoint request body now
  if hub.hasNonce env endpointId request.externalId then
    refuse .replayDetected "Inbound authentication failed"
  else readBody env hub endpoint request body

/-- The nonce of an accepted request. -/
def newNonce (env : HubPlatform Ciphertext) (endpointId : Nat) (endpoint : ConnectorInboundEndpoint)
    (externalId : String) (now : Instant) : ConnectorReplayNonce where
  endpointId
  nonceHash := nonceHash env endpointId externalId
  firstSeenAt := now
  expiresAt := now + endpoint.replayWindow

/-- The event of an accepted request. -/
def newEvent (endpointId : Nat) (endpoint : ConnectorInboundEndpoint) (examined : Examined)
    (body : List UInt8) (now : Instant) : ConnectorInboundEvent where
  endpointId
  externalEventId := examined.request.externalId
  schemaVersion := examined.request.schema
  contentType := examined.request.contentType
  bodySizeBytes := body.length
  rawPayloadRedacted := examined.redacted
  normalizedEvent := examined.normalized
  status := if endpoint.trustedSource then .validated else .quarantined
  createdAt := now
  updatedAt := now

/-- `ingest_inbound`, with the key of the event it stores. A body too large to keep is
found after the nonce is added to the session, and the failure counter of the route
commits it. -/
def ingestInbound (env : HubPlatform Ciphertext) (hub : InboundHub Ciphertext) (endpointId : Nat)
    (body : List UInt8) (headers : Headers) (now : Instant) :
      InboundHub Ciphertext × Except Fault Nat :=
  match hub.endpoints.get? endpointId with
  | none => (hub, .error (.http 401))
  | some endpoint =>
    match examine env hub endpointId endpoint (headers.presented env.py) body
        now with
    | .error fault => (hub, .error fault)
    | .ok examined =>
      let pending := { hub with
        replayNonces := hub.replayNonces.insert
          (newNonce env endpointId endpoint examined.request.externalId now) }
      if exceedsBound env.py examined.redacted ||
          exceedsBound env.py examined.normalized then
        (pending, refuse .payloadTooLarge "JSON payload exceeds the configured bound")
      -- `uq_integration_inbound_external_event`
      else if hub.hasEvent endpointId examined.request.externalId then
        (hub, refuse .replayDetected "Inbound authentication failed")
      else
        ({ pending with
            inboundEvents := hub.inboundEvents.insert
              (newEvent endpointId endpoint examined body now) },
          .ok hub.inboundEvents.nextKey)

/-!
## Runs of the inbound side

The routes of `integrations/router.py` that change what an endpoint remembers, and the
clean-up that removes some of it, as steps of one machine. A call that fails leaves the
tables as they were, except that `ingest_inbound` may leave a nonce.

A retention policy keeps a rejected event for at least a day, which is the least number of
days the policy form takes.
-/

variable {Ciphertext : Type}

/-! ## Routes -/

/-- `EndpointWrite`, with the bounds of its form. -/
structure EndpointWrite where
  connectorId : Nat
  schemaVersion : String
  trustedSource : Bool
  maximumBodyBytes : Nat
  timestampToleranceSeconds : Nat
  replayWindowSeconds : Nat
  allowedEventTypes : List String
  mappingId : Option Nat
  secret : String
  schemaVersion_fits : schemaVersion.length ≤ 20
  maximumBodyBytes_fits : 1024 ≤ maximumBodyBytes ∧ maximumBodyBytes ≤ 524288
  timestampToleranceSeconds_fits :
    30 ≤ timestampToleranceSeconds ∧ timestampToleranceSeconds ≤ 900
  replayWindowSeconds_fits : 60 ≤ replayWindowSeconds ∧ replayWindowSeconds ≤ 3600
  allowedEventTypes_fits : allowedEventTypes.length ≤ 30
  secret_fits : 16 ≤ secret.length ∧ secret.length ≤ 500

/-- The row of a new endpoint. -/
def EndpointWrite.endpoint (payload : EndpointWrite) : ConnectorInboundEndpoint where
  connectorId := payload.connectorId
  schemaVersion := payload.schemaVersion
  enabled := true
  trustedSource := payload.trustedSource
  maximumBodyBytes := payload.maximumBodyBytes
  timestampToleranceSeconds := payload.timestampToleranceSeconds
  replayWindowSeconds := payload.replayWindowSeconds
  allowedEventTypes := payload.allowedEventTypes
  mappingId := payload.mappingId

/-- `create_inbound_endpoint`: the endpoint and the signing secret of its connector. -/
def createInboundEndpoint (env : HubPlatform Ciphertext) (hub : InboundHub Ciphertext)
    (payload : EndpointWrite) (actorId : Nat) (actorIsAdmin : Bool) (now : Instant) (draw : Nat) :
    Except Fault (InboundHub Ciphertext) :=
  match hub.connectors.get? payload.connectorId with
  | none => .error (.http 404)
  | some connector =>
    if connector.connectorType != .genericHmacWebhookInbound then .error (.http 422)
    else if payload.trustedSource && !actorIsAdmin then .error (.http 403)
    else
      setCredential env { hub with endpoints := hub.endpoints.insert payload.endpoint }
        payload.connectorId "hmac_signing" [("signing_secret", .str payload.secret)] actorId
        false now draw

def patchInboundEndpoint (hub : InboundHub Ciphertext) (endpointId : Nat)
    (enabled trustedSource : Option Bool)
    (actorIsAdmin : Bool) : Except Fault (InboundHub Ciphertext) :=
  match hub.endpoints.get? endpointId with
  | none => .error (.http 404)
  | some _ =>
    if trustedSource.isSome && !actorIsAdmin then .error (.http 403)
    else .ok { hub with
      endpoints := hub.endpoints.modify endpointId fun endpoint =>
        { endpoint with
          trustedSource := trustedSource.getD endpoint.trustedSource
          enabled := enabled.getD endpoint.enabled } }

def disableEndpoint (hub : InboundHub Ciphertext) (endpointId : Nat) :
    Except Fault (InboundHub Ciphertext) :=
  match hub.endpoints.get? endpointId with
  | none => .error (.http 404)
  | some _ => .ok { hub with
      endpoints := hub.endpoints.modify endpointId fun endpoint =>
        { endpoint with enabled := false } }

/-- `reject`. -/
def rejectInbound (hub : InboundHub Ciphertext) (eventId : Nat) (now : Instant) :
    Except Fault (InboundHub Ciphertext) :=
  match hub.inboundEvents.get? eventId with
  | none => .error (.http 404)
  | some _ => .ok { hub with
      inboundEvents := hub.inboundEvents.modify eventId fun event =>
        { event with status := .rejected, updatedAt := now } }

/-- The targets of `promote_inbound`. -/
def promotionTargets : List String :=
  ["soc_alert", "threat_intelligence", "case_evidence_proposal",
    "vulnerability_evidence_proposal", "analyst_review_task"]

def promoteInbound (hub : InboundHub Ciphertext) (eventId : Nat) (targetType : String)
    (now : Instant) :
    Except Fault (InboundHub Ciphertext) :=
  match hub.inboundEvents.get? eventId with
  | none => .error (.http 404)
  | some event =>
    if event.status = .promoted then
      refuse .deliveryConflict "Inbound event was already promoted"
    else if event.status = .rejected then
      refuse .promotionDenied "Inbound event is not eligible for promotion"
    else if !promotionTargets.contains targetType then
      refuse .promotionDenied "Promotion target is unsupported"
    else .ok { hub with
      inboundEvents := hub.inboundEvents.modify eventId fun event =>
        { event with status := .promoted, updatedAt := now } }

/-! ## Clean-up -/

/-- Remove nonces that have expired, among chosen ones. -/
def InboundHub.removeNonces (hub : InboundHub Ciphertext) (chosen : List Nat) (now : Instant) :
    InboundHub Ciphertext :=
  { hub with
    replayNonces := hub.replayNonces.deleteWhere fun key nonce =>
      chosen.contains key && decide (nonce.expiresAt < now) }

/-- The nonces that one run of `process_due` selects. -/
def InboundHub.expiredNonces (hub : InboundHub Ciphertext) (batchSize : Int) (now : Instant) :
    List Nat :=
  ((hub.replayNonces.rows.filter fun row => decide (row.2.expiresAt < now)).take
    (min (max batchSize 1) 100).toNat).map Prod.fst

/-- The days of a retention policy. -/
abbrev RetentionDays := { count : Nat // 1 ≤ count }

/-- Apply the retention policy of rejected events to chosen ones. -/
def InboundHub.removeRejected (hub : InboundHub Ciphertext) (chosen : List Nat)
    (retentionDays : RetentionDays) (now : Instant) : InboundHub Ciphertext :=
  { hub with
    inboundEvents := hub.inboundEvents.deleteWhere fun key event =>
      chosen.contains key && decide (event.status = .rejected) &&
        decide (event.updatedAt < now - days retentionDays) }

/-! ## Steps -/

/-- A call that reaches the inbound side. -/
inductive InboundCall where
  | setCredential (connectorId : Nat) (credentialType : String) (secretPayload : Dict)
      (actorId : Nat) (rotate : Bool) (draw : Nat)
  | removeCredential (connectorId draw : Nat) (token : String)
  | createEndpoint (payload : EndpointWrite) (actorId : Nat) (actorIsAdmin : Bool) (draw : Nat)
  | patchEndpoint (endpointId : Nat) (enabled trustedSource : Option Bool) (actorIsAdmin : Bool)
  | disableEndpoint (endpointId : Nat)
  | ingest (endpointId : Nat) (body : List UInt8) (headers : Headers)
  | reject (eventId : Nat)
  | promote (eventId : Nat) (targetType : String)
  | processDue (batchSize : Int)
  | retainNonces (chosen : List Nat)
  | retainEvents (chosen : List Nat) (retentionDays : RetentionDays)

/-- A call and the time of the clock during it. -/
structure TimedCall where
  now : Instant
  call : InboundCall

/-- The tables after a call that may fail. -/
def InboundHub.settle (hub : InboundHub Ciphertext) :
    Except Fault (InboundHub Ciphertext) → InboundHub Ciphertext
  | .ok after => after
  | .error _ => hub

/-- One call. -/
def InboundHub.next (env : HubPlatform Ciphertext) (hub : InboundHub Ciphertext)
    (input : TimedCall) : InboundHub Ciphertext :=
  match input.call with
  | .setCredential connectorId credentialType secretPayload actorId rotate draw =>
    hub.settle (Integrations.setCredential env hub connectorId credentialType secretPayload
      actorId rotate input.now draw)
  | .removeCredential connectorId draw token =>
    hub.settle (Integrations.removeCredential env hub connectorId input.now draw token)
  | .createEndpoint payload actorId actorIsAdmin draw =>
    hub.settle (createInboundEndpoint env hub payload actorId actorIsAdmin input.now draw)
  | .patchEndpoint endpointId enabled trustedSource actorIsAdmin =>
    hub.settle (patchInboundEndpoint hub endpointId enabled trustedSource actorIsAdmin)
  | .disableEndpoint endpointId => hub.settle (Integrations.disableEndpoint hub endpointId)
  | .ingest endpointId body headers =>
    (ingestInbound env hub endpointId body headers input.now).1
  | .reject eventId => hub.settle (rejectInbound hub eventId input.now)
  | .promote eventId targetType => hub.settle (promoteInbound hub eventId targetType input.now)
  | .processDue batchSize =>
    hub.removeNonces (hub.expiredNonces batchSize input.now) input.now
  | .retainNonces chosen => hub.removeNonces chosen input.now
  | .retainEvents chosen retentionDays => hub.removeRejected chosen retentionDays input.now

/-- The clock does not run backwards. -/
def Chronological (calls : List TimedCall) : Prop :=
  calls.Pairwise fun earlier later => earlier.now ≤ later.now

/-! ## What a call does to the credentials -/

/-- The credential of a connector is overwritten, or added when it has none. -/
def WritesCredential (hub after : InboundHub Ciphertext) (connectorId : Nat)
    (ciphertext : Ciphertext) (configured : Bool) : Prop :=
  (∃ key credential change, hub.credentialOf connectorId = some (key, credential) ∧
    after.credentials = hub.credentials.modify key change ∧
    ∀ row, (change row).connectorId = row.connectorId ∧
      (change row).encryptedPayload = ciphertext ∧ (change row).configured = configured) ∨
  (hub.credentialOf connectorId = none ∧ ∃ row,
    after.credentials = hub.credentials.insert row ∧ row.connectorId = connectorId ∧
      row.encryptedPayload = ciphertext ∧ row.configured = configured)

section Effects

variable {env : HubPlatform Ciphertext} {hub after : InboundHub Ciphertext}
  {connectorId draw : Nat} {now : Instant}

/-- **A new credential is the encryption of what `storedPayload` returns.** -/
theorem setCredential_ok {actorId : Nat} {credentialType : String} {secretPayload : Dict}
    {rotate : Bool}
    (done : setCredential env hub connectorId credentialType secretPayload actorId rotate now
      draw = .ok after) :
    ∃ connector stored ciphertext,
      hub.connectors.get? connectorId = some connector ∧
      checkSecret env connector.connectorType secretPayload = .ok () ∧
      storedPayload env connector.connectorType ((hub.credentialOf connectorId).map Prod.snd)
        secretPayload rotate now = .ok stored ∧
      encryptSecret env draw stored = .ok ciphertext ∧
      WritesCredential hub after connectorId ciphertext true ∧
      after = { hub with
        credentials := after.credentials
        connectors := hub.connectors.modify connectorId ConnectorInstance.recredentialed } := by
  unfold setCredential at done
  cases found : hub.connectors.get? connectorId with
  | none => rw [found] at done; cases done
  | some connector =>
    rw [found] at done
    obtain ⟨⟨⟩, checked, done⟩ := bind_eq_ok_iff.mp done
    obtain ⟨stored, storing, done⟩ := bind_eq_ok_iff.mp done
    obtain ⟨ciphertext, encrypted, done⟩ := bind_eq_ok_iff.mp done
    cases done
    refine ⟨connector, stored, ciphertext, rfl, checked, storing, encrypted, ?_, rfl⟩
    cases item : hub.credentialOf connectorId with
    | none => exact .inr ⟨item, _, rfl, rfl, rfl, rfl⟩
    | some row =>
      obtain ⟨key, credential⟩ := row
      exact .inl ⟨key, credential,
        fun row => row.renewed credentialType ciphertext actorId now, item, rfl,
        fun row => ⟨rfl, rfl, rfl⟩⟩

/-- **A removed credential is overwritten by an object without a secret.** -/
theorem removeCredential_ok {token : String}
    (done : removeCredential env hub connectorId now draw token = .ok after) :
    (hub.credentialOf connectorId = none ∧ after.credentials = hub.credentials ∨
      ∃ ciphertext, encryptSecret env draw [("removed", .bool true), ("nonce", .str token)] =
          .ok ciphertext ∧ WritesCredential hub after connectorId ciphertext false) ∧
      after = { hub with
        credentials := after.credentials
        connectors := hub.connectors.modify connectorId ConnectorInstance.decredentialed } := by
  unfold removeCredential at done
  split at done
  · cases done
  · obtain ⟨credentials, discarded, done⟩ := bind_eq_ok_iff.mp done
    cases done
    refine ⟨?_, rfl⟩
    unfold discardCredential at discarded
    cases item : hub.credentialOf connectorId with
    | none =>
      rw [item] at discarded
      cases discarded
      exact .inl ⟨rfl, rfl⟩
    | some row =>
      obtain ⟨key, credential⟩ := row
      rw [item] at discarded
      obtain ⟨ciphertext, encrypted, discarded⟩ := bind_eq_ok_iff.mp discarded
      cases discarded
      exact .inr ⟨ciphertext, encrypted, .inl ⟨key, credential,
        fun row => row.discarded ciphertext now, item, rfl, fun row => ⟨rfl, rfl, rfl⟩⟩⟩

theorem createInboundEndpoint_ok {payload : EndpointWrite} {actorId : Nat} {actorIsAdmin : Bool}
    (done : createInboundEndpoint env hub payload actorId actorIsAdmin now draw =
      .ok after) :
    setCredential env { hub with endpoints := hub.endpoints.insert payload.endpoint }
      payload.connectorId "hmac_signing" [("signing_secret", .str payload.secret)] actorId false
        now draw = .ok after := by
  unfold createInboundEndpoint at done
  split at done
  · cases done
  · split at done
    · cases done
    · split at done
      · cases done
      · exact done

end Effects

/-! ## A hub with one endpoint -/

/-- A time as its microseconds in decimal. -/
def decimalText (time : Instant) : String :=
  String.ofList ((if time < 0 then '-' else '+') :: Nat.toDigits 10 time.natAbs)

/-- Read a time from its decimal text, or the last second of the calendar from its date. -/
def readDate (text : String) : Option Moment :=
  if text = "9999-12-31T23:59:59" then some (.naive 253402300799000000)
  else match text.toList with
    | '-' :: digits => some (.naive (-(Nat.ofDigitChars 10 digits 0 : Int)))
    | '+' :: digits => some (.naive (Nat.ofDigitChars 10 digits 0 : Int))
    | _ => none

theorem readDate_decimalText (time : Instant) :
    readDate (decimalText time) = some (.naive time) := by
  have other : decimalText time ≠ "9999-12-31T23:59:59" := by
    intro same
    have first := congrArg (fun text => text.toList.head?) same
    by_cases negative : time < 0
    · simp [decimalText, negative] at first
    · simp [decimalText, negative] at first
  rw [readDate, if_neg other]
  by_cases negative : time < 0
  · have text : (decimalText time).toList = '-' :: Nat.toDigits 10 time.natAbs := by
      simp [decimalText, negative]
    rw [text]
    simp only [Nat.ofDigitChars_ten_toDigits, Option.some.injEq, Moment.naive.injEq]
    rw [Int.ofNat_natAbs_of_nonpos negative.le, neg_neg]
  · have text : (decimalText time).toList = '+' :: Nat.toDigits 10 time.natAbs := by
      simp [decimalText, negative]
    rw [text]
    simp only [Nat.ofDigitChars_ten_toDigits, Option.some.injEq, Moment.naive.injEq]
    exact Int.natAbs_of_nonneg (not_lt.mp negative)

/-- A runtime that reads one timestamp and the empty object. -/
def plainHubPlatform : HubPlatform Json where
  py :=
    { foldTable := fun c => [c]
      parseInt := fun text => if text = "1767268800" then some 1767268800 else none
      repr := fun _ => "object"
      floatText := fun _ => "0.0" }
  sha256 text := text
  hmacSha256 secret message :=
    secret ++ ":" ++ String.ofList (message.map fun byte => Char.ofNat byte.toNat)
  loads body := if body = [123, 125] then .value (.obj []) else .malformed
  applyMapping source _ := .ok source
  isoformat := decimalText
  fromisoformat := readDate
  fromisoformat_isoformat := readDate_decimalText
  vault := some ⟨fun _ payload => sortKeys payload, some, fun _ _ => rfl⟩

/-- An inbound connector as `create_connector` leaves it. -/
def inboundConnector : ConnectorInstance where
  connectorType := .genericHmacWebhookInbound
  lifecycleStatus := .draft
  healthStatus := .unknown
  enabled := false
  configuration := []
  payloadProfile := "minimal"
  retryLimit := 5
  testPassed := none
  consecutiveFailures := 0
  circuitState := .closed
  circuitOpenedAt := none
  circuitRetryAt := none
  lastSuccessAt := none
  lastFailureAt := none
  optimisticLockVersion := 1

def oneConnector : InboundHub Json where
  connectors := Table.empty.insert inboundConnector
  credentials := Table.empty
  endpoints := Table.empty
  mappings := Table.empty
  inboundEvents := Table.empty
  replayNonces := Table.empty

/-- Noon, in the runtime's only timestamp. -/
def noon : Instant := 1767268800000000

/-- The form of an endpoint with the defaults and the shortest replay window. -/
def endpointForm : EndpointWrite where
  connectorId := 1
  schemaVersion := "1.0"
  trustedSource := false
  maximumBodyBytes := 524288
  timestampToleranceSeconds := 300
  replayWindowSeconds := 60
  allowedEventTypes := []
  mappingId := none
  secret := "first-signing-secret"
  schemaVersion_fits := by decide
  maximumBodyBytes_fits := by decide
  timestampToleranceSeconds_fits := by decide
  replayWindowSeconds_fits := by decide
  allowedEventTypes_fits := by decide
  secret_fits := by decide

/-- The headers of a request with the empty object, signed with a secret. -/
def signedHeaders (secret eventId : String) : Headers :=
  [("content-type", "application/json"), ("x-threatscope-timestamp", "1767268800"),
    ("x-threatscope-event-id", eventId), ("x-threatscope-schema-version", "1.0"),
    ("x-threatscope-signature", signHmac plainHubPlatform secret "1767268800" [123, 125])]

def createCall : TimedCall := ⟨noon, .createEndpoint endpointForm 1 true 0⟩

/-- A request with the empty object, signed with a secret, some time after noon. -/
def signedCall (secret eventId : String) (delay : Int) : TimedCall :=
  ⟨noon + delay, .ingest 1 [123, 125] (signedHeaders secret eventId)⟩

end ThreatScope.Integrations
