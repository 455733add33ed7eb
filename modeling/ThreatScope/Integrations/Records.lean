import ThreatScope.AccessControl.Accounts
import ThreatScope.Library.JsonText
import ThreatScope.Library.Traversals

/-!
# Connectors and the rows of the integration hub

The rows of `integrations/models.py` and the part of `integrations/catalog.py` that the
service reads. A connector talks to one external system. It sends deliveries, which are
attempted until they end, and it receives inbound events through endpoints that check a
signature.

Columns that hold JSON are kept as the value they decode to. Names, descriptions and
texts that are only shown are left out.
-/

set_option autoImplicit false

namespace ThreatScope.Integrations

open Library AccessControl

/-! ## Errors -/

/-- The codes of `IntegrationSecurityError` that the modelled functions raise. -/
inductive ErrorCode where
  | disabled
  | notActive
  | circuitOpen
  | configurationInvalid
  | payloadTooLarge
  | timestampInvalid
  | signatureInvalid
  | replayDetected
  | secretInvalid
  | credentialUnavailable
  | credentialRequired
  | egressDisabled
  | mappingFailed
  | syncConflict
  | timeout
  | rateLimited
  | authenticationFailed
  | authorizationFailed
  | deliveryTerminal
  | deliveryConflict
  | retryNotAllowed
  | promotionDenied
  | optimisticLockConflict
  | typeUnknown
  | networkPolicyDenied
  | ssrfBlocked
  | dnsRebindingBlocked
  | tlsFailed
  | responseTooLarge
deriving DecidableEq

/-- `IntegrationSecurityError`. -/
structure SecurityError where
  code : ErrorCode
  summary : String
deriving DecidableEq

/-- How a call fails: with an error of the service, with an answer of the route, or with
any other exception. -/
inductive Fault where
  | refused (error : SecurityError)
  | http (status : Nat)
  | crashed
deriving DecidableEq

/-- `raise IntegrationSecurityError(code, summary)`. -/
def refuse {α : Type} (code : ErrorCode) (summary : String) : Except Fault α :=
  .error (.refused ⟨code, summary⟩)

/-! ## Connectors -/

/-- The keys of `CONNECTOR_CATALOG`. -/
inductive ConnectorType where
  | localTestSink
  | genericHmacWebhookOutbound
  | genericHmacWebhookInbound
  | slackIncomingWebhook
  | microsoftTeamsWebhook
  | smtpEmail
  | jiraIssue
  | servicenowIncident
  | splunkHec
  | stixBundleImport
  | taxii21CollectionPull
deriving DecidableEq

/-- `credential_schema["required"]`. -/
def ConnectorType.requiredCredentials : ConnectorType → List String
  | .localTestSink => []
  | .genericHmacWebhookOutbound => ["signing_secret"]
  | .genericHmacWebhookInbound => ["signing_secret"]
  | .slackIncomingWebhook => ["webhook_url"]
  | .microsoftTeamsWebhook => ["webhook_url"]
  | .smtpEmail => ["password"]
  | .jiraIssue => ["api_token"]
  | .servicenowIncident => ["token"]
  | .splunkHec => ["hec_token"]
  | .stixBundleImport => []
  | .taxii21CollectionPull => ["token"]

/-- `ConnectorInstance.lifecycle_status`. -/
inductive LifecycleStatus where
  | draft
  | testing
  | active
  | degraded
  | disabled
  | archived
deriving DecidableEq

/-- `ConnectorInstance.health_status`. -/
inductive HealthStatus where
  | unknown
  | healthy
  | unhealthy
  | degraded
  | disabled
deriving DecidableEq

/-- `ConnectorInstance.circuit_state`. -/
inductive CircuitState where
  | closed
  | opened
  | halfOpen
deriving DecidableEq

/-- A row of `integration_connectors`. -/
structure ConnectorInstance where
  connectorType : ConnectorType
  lifecycleStatus : LifecycleStatus
  healthStatus : HealthStatus
  enabled : Bool
  configuration : Dict
  payloadProfile : String
  retryLimit : Nat
  testPassed : Option Bool
  consecutiveFailures : Nat
  circuitState : CircuitState
  circuitOpenedAt : Option Instant
  circuitRetryAt : Option Instant
  lastSuccessAt : Option Instant
  lastFailureAt : Option Instant
  optimisticLockVersion : Nat

/-- A row of `integration_connector_credentials`. The service only stores what the
encryption hands out and hands it back, so its type stays abstract. -/
structure ConnectorCredential (Ciphertext : Type) where
  connectorId : Nat
  credentialType : String
  encryptedPayload : Ciphertext
  credentialVersion : Nat
  configured : Bool
  createdByUserId : Nat
  rotatedByUserId : Option Nat
  createdAt : Instant
  rotatedAt : Option Instant
  disabledAt : Option Instant

/-! ## Inbound events -/

/-- A row of `integration_inbound_endpoints`. -/
structure ConnectorInboundEndpoint where
  connectorId : Nat
  schemaVersion : String
  enabled : Bool
  trustedSource : Bool
  maximumBodyBytes : Nat
  timestampToleranceSeconds : Nat
  replayWindowSeconds : Nat
  allowedEventTypes : List String
  mappingId : Option Nat

/-- `ConnectorInboundEvent.status`. -/
inductive InboundStatus where
  | quarantined
  | validated
  | promoted
  | rejected
deriving DecidableEq

/-- A row of `integration_inbound_events`. -/
structure ConnectorInboundEvent where
  endpointId : Nat
  externalEventId : String
  schemaVersion : String
  contentType : String
  bodySizeBytes : Nat
  rawPayloadRedacted : Json
  normalizedEvent : Json
  status : InboundStatus
  createdAt : Instant
  updatedAt : Instant

/-- A row of `integration_replay_nonces`. -/
structure ConnectorReplayNonce where
  endpointId : Nat
  nonceHash : String
  firstSeenAt : Instant
  expiresAt : Instant

end ThreatScope.Integrations
