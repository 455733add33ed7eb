import ThreatScope.Integrations.Records

/-!
# Credentials of a connector

`set_credential` and `remove_credential` of `integrations/service.py`, over the
encryption of `integrations/security.py`. A credential is one JSON object, encrypted as a
whole: what the caller supplies and what the service adds to it during a rotation stand
next to each other in it.

The hash functions, Fernet, the reading of JSON and of ISO dates, and the declarative
mappings are a `HubPlatform`. It carries the two laws the service relies on: an encrypted
object can be read back, and so can a date that `isoformat` wrote.
-/

set_option autoImplicit false

namespace ThreatScope.Integrations

open Library AccessControl

variable {Ciphertext : Type}

/-! ## What the runtime supplies -/

/-- A `datetime` as `fromisoformat` returns it. -/
inductive Moment where
  | naive (time : Instant)
  | aware (time : Instant)

/-- What `json.loads(body)` does. -/
inductive Loaded where
  | value (json : Json)
  | malformed
  | crashed

/-- Encryption of a JSON object under the configured key. -/
structure Vault (Ciphertext : Type) where
  /-- `Fernet.encrypt` of `json.dumps(payload, sort_keys=True)`, with the bytes it draws. -/
  encrypt : Nat → Json → Ciphertext
  /-- `json.loads` of `Fernet.decrypt`, `none` when either raises. -/
  decrypt : Ciphertext → Option Json
  decrypt_encrypt : ∀ draw payload, decrypt (encrypt draw payload) = some (sortKeys payload)

/-- What the hub takes from the Python runtime and from the packages that encrypt. -/
structure HubPlatform (Ciphertext : Type) where
  py : Interpreter
  /-- `sha256` of a text. -/
  sha256 : String → String
  /-- `hmac.new(secret.encode("utf-8"), message, hashlib.sha256).hexdigest()`. -/
  hmacSha256 : String → List UInt8 → String
  /-- `json.loads(body)`. -/
  loads : List UInt8 → Loaded
  /-- `apply_mapping(source, rules)`. -/
  applyMapping : Json → Json → Except Fault Json
  /-- `time.isoformat()` of a naive time. -/
  isoformat : Instant → String
  /-- `datetime.fromisoformat(text)`, `none` for a `ValueError`. -/
  fromisoformat : String → Option Moment
  fromisoformat_isoformat : ∀ time, fromisoformat (isoformat time) = some (.naive time)
  /-- `_fernet()`, `none` when the key is missing or invalid. -/
  vault : Option (Vault Ciphertext)

/-- The tables that receiving an event reads and writes. -/
structure InboundHub (Ciphertext : Type) where
  connectors : Table ConnectorInstance
  credentials : Table (ConnectorCredential Ciphertext)
  endpoints : Table ConnectorInboundEndpoint
  mappings : Table Json
  inboundEvents : Table ConnectorInboundEvent
  replayNonces : Table ConnectorReplayNonce

/-! ## Encryption -/

def encryptSecret (env : HubPlatform Ciphertext) (draw : Nat) (payload : Dict) :
    Except Fault Ciphertext :=
  match env.vault with
  | none => refuse .credentialUnavailable "Connector secret encryption key is unavailable"
  | some vault => .ok (vault.encrypt draw (.obj payload))

def decryptSecret (env : HubPlatform Ciphertext) (ciphertext : Ciphertext) : Except Fault Dict :=
  match env.vault.bind fun vault => vault.decrypt ciphertext with
  | none => refuse .credentialUnavailable "Connector credential cannot be decrypted"
  | some (.obj fields) => .ok fields
  | some _ => refuse .secretInvalid "Connector credential format is invalid"

/-! ## Setting and removing a credential -/

/-- The values `set_credential` takes for a masked display. -/
def maskedPlaceholders : List String := ["********", "••••••••", "[REDACTED]"]

/-- The credential row of a connector. -/
def InboundHub.credentialOf (hub : InboundHub Ciphertext) (connectorId : Nat) :
    Option (Nat × ConnectorCredential Ciphertext) :=
  hub.credentials.first? fun _ credential => credential.connectorId == connectorId

/-- The signing secret that a rotation of an inbound connector replaces by another one,
`none` when the call replaces no secret in this way. -/
def supersededSecret (env : HubPlatform Ciphertext) (connectorType : ConnectorType)
    (item : Option (ConnectorCredential Ciphertext)) (secretPayload : Dict) (rotate : Bool) :
    Except Fault (Option Json) :=
  match item with
  | none => .ok none
  | some credential =>
    if rotate && connectorType == .genericHmacWebhookInbound then do
      let previous ← decryptSecret env credential.encryptedPayload
      let previousSecret := Dict.get previous "signing_secret"
      .ok (if previousSecret.truthy &&
          !Json.pyEq previousSecret (Dict.get secretPayload "signing_secret") then
        some previousSecret else none)
    else .ok none

/-- `stored_payload`: what the caller supplied, with the secret it supersedes and the end of
its overlap. -/
def storedPayload (env : HubPlatform Ciphertext) (connectorType : ConnectorType)
    (item : Option (ConnectorCredential Ciphertext)) (secretPayload : Dict) (rotate : Bool)
    (now : Instant) : Except Fault Dict := do
  match ← supersededSecret env connectorType item secretPayload rotate with
  | none => .ok secretPayload
  | some previousSecret =>
    .ok (Dict.set (Dict.set secretPayload "_previous_signing_secret" previousSecret)
      "_previous_valid_until" (.str (env.isoformat (now + minutes 5))))

/-- What a new credential does to the row of its connector. -/
def ConnectorInstance.recredentialed (connector : ConnectorInstance) : ConnectorInstance :=
  { connector with
    testPassed := none
    healthStatus := .unknown
    optimisticLockVersion := connector.optimisticLockVersion + 1 }

/-- The checks `set_credential` makes on the object it is given. -/
def checkSecret (env : HubPlatform Ciphertext) (connectorType : ConnectorType)
    (secretPayload : Dict) :
    Except Fault Unit :=
  if secretPayload.isEmpty then
    refuse .secretInvalid "A non-empty credential is required"
  else if secretPayload.any fun field =>
      maskedPlaceholders.contains (env.py.str field.2) then
    refuse .secretInvalid "Masked placeholders are not credentials"
  else if connectorType.requiredCredentials.any fun key =>
      !(Dict.get secretPayload key).truthy then
    refuse .secretInvalid "Required credential fields are missing"
  else .ok ()

/-- A credential that is set again. -/
def ConnectorCredential.renewed (credential : ConnectorCredential Ciphertext)
    (credentialType : String) (ciphertext : Ciphertext) (actorId : Nat) (now : Instant) :
    ConnectorCredential Ciphertext :=
  { credential with
    encryptedPayload := ciphertext
    credentialType
    credentialVersion := credential.credentialVersion + 1
    rotatedByUserId := some actorId
    rotatedAt := some now
    configured := true
    disabledAt := none }

/-- The first credential of a connector. -/
def newCredential (connectorId : Nat) (credentialType : String) (ciphertext : Ciphertext)
    (actorId : Nat) (now : Instant) : ConnectorCredential Ciphertext where
  connectorId
  credentialType
  encryptedPayload := ciphertext
  credentialVersion := 1
  configured := true
  createdByUserId := actorId
  rotatedByUserId := none
  createdAt := now
  rotatedAt := none
  disabledAt := none

def setCredential (env : HubPlatform Ciphertext) (hub : InboundHub Ciphertext) (connectorId : Nat)
    (credentialType : String) (secretPayload : Dict) (actorId : Nat) (rotate : Bool)
    (now : Instant) (draw : Nat) : Except Fault (InboundHub Ciphertext) :=
  match hub.connectors.get? connectorId with
  | none => .error (.http 404)
  | some connector => do
    checkSecret env connector.connectorType secretPayload
    let item := hub.credentialOf connectorId
    let stored ← storedPayload env connector.connectorType (item.map Prod.snd)
      secretPayload rotate now
    let ciphertext ← encryptSecret env draw stored
    let credentials := match item with
      | some (key, _) => hub.credentials.modify key fun credential =>
        credential.renewed credentialType ciphertext actorId now
      | none => hub.credentials.insert
          (newCredential connectorId credentialType ciphertext actorId now)
    .ok { hub with
      credentials
      connectors := hub.connectors.modify connectorId ConnectorInstance.recredentialed }

/-- What removing its credential does to the row of a connector. -/
def ConnectorInstance.decredentialed (connector : ConnectorInstance) : ConnectorInstance :=
  { connector with
    enabled := false
    lifecycleStatus := .disabled
    healthStatus := .disabled
    optimisticLockVersion := connector.optimisticLockVersion + 1 }

/-- A credential that is removed: its row stays, with an object that holds no secret. -/
def ConnectorCredential.discarded (credential : ConnectorCredential Ciphertext)
    (ciphertext : Ciphertext) (now : Instant) : ConnectorCredential Ciphertext :=
  { credential with
    configured := false
    disabledAt := some now
    encryptedPayload := ciphertext }

/-- The credentials of the hub after that of a connector is overwritten. -/
def discardCredential (env : HubPlatform Ciphertext) (hub : InboundHub Ciphertext)
    (connectorId : Nat) (now : Instant) (draw : Nat) (token : String) :
      Except Fault (Table (ConnectorCredential Ciphertext)) :=
  match hub.credentialOf connectorId with
  | none => .ok hub.credentials
  | some (key, _) => do
    let ciphertext ← encryptSecret env draw
      [("removed", .bool true), ("nonce", .str token)]
    .ok (hub.credentials.modify key fun credential => credential.discarded ciphertext now)

/-- `remove_credential`, with the token it draws. -/
def removeCredential (env : HubPlatform Ciphertext) (hub : InboundHub Ciphertext)
    (connectorId : Nat)
    (now : Instant) (draw : Nat) (token : String) : Except Fault (InboundHub Ciphertext) :=
  match hub.connectors.get? connectorId with
  | none => .error (.http 404)
  | some _ => do
    let credentials ← discardCredential env hub connectorId now draw token
    .ok { hub with
      credentials
      connectors := hub.connectors.modify connectorId ConnectorInstance.decredentialed }

end ThreatScope.Integrations
