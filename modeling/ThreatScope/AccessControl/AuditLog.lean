import ThreatScope.AccessControl.Accounts
import ThreatScope.Library.DateTime
import ThreatScope.Library.JsonText

/-!
# Redaction and the security audit log

`access_control/redaction.py`: what is kept of a value before it is stored.
Dictionaries and lists keep their first fifty entries, texts their first five
hundred characters, everything below the seventh level becomes a marker, and
the value under a sensitive key is replaced.
-/

set_option autoImplicit false

namespace ThreatScope.AccessControl

open Library

/-- `rules/sensitive_keys.json`. -/
def sensitiveKeys : List String :=
  ["password", "password_hash", "temporary_password", "secret", "token", "token_hash", "csrf",
    "cookie", "authorization", "otp", "totp", "recovery_code", "session"]

/-- `_sensitive`. -/
def isSensitive (py : Interpreter) (key : String) : Bool :=
  let normalized := Text.replaceChar '-' (some '_') (py.casefold key)
  sensitiveKeys.any fun part => Text.contains normalized part

/-- `redact` on a value that may still nest the given number of levels. -/
def redactWithin (py : Interpreter) : Nat → Json → Json
  | 0, _ => .str "[TRUNCATED]"
  | levels + 1, .obj fields =>
    .obj ((fields.take 50).foldl (fun result field =>
      let keyText := Text.truncate 100 field.1
      Dict.set result keyText
        (if isSensitive py keyText then .str "[REDACTED]"
          else redactWithin py levels field.2)) [])
  | levels + 1, .arr items => .arr ((items.take 50).map (redactWithin py levels))
  | _ + 1, .str text => .str (Text.truncate 500 text)
  | _ + 1, value => value

def redact (py : Interpreter) (value : Json) : Json := redactWithin py 7 value

/-!
## The security audit log

`access_control/audit_service.py`: an event is hashed over nineteen of its columns, the
hash of the event before it among them; `append_event` adds an event at the end and
`verify_integrity` recomputes every hash. The digest of a text is a parameter.
-/

/-- The columns of `security_audit_events` that are hashed. -/
structure AuditRecord where
  sequenceNumber : Int
  eventType : String
  actorUserId : Option Int
  actorUsernameSnapshot : Option String
  actorRoleKeysJson : String
  action : String
  resourceType : Option String
  resourceId : Option String
  routeTemplate : Option String
  requestMethod : Option String
  requestId : String
  outcome : String
  statusCode : Option Int
  reasonCode : Option String
  metadataJson : String
  clientIpHash : Option String
  userAgentSummary : Option String
  occurredAt : DateTime
  previousEventHash : Option String
deriving DecidableEq

/-- A row of `security_audit_events`. -/
structure SecurityAuditEvent extends AuditRecord where
  id : Nat
  eventHash : String

/-! ## Hashing -/

/-- A text column in JSON. -/
def optionalText : Option String → Json
  | some text => .str text
  | none => .null

/-- A number column in JSON. -/
def optionalNumber : Option Int → Json
  | some number => .int number
  | none => .null

/-- The `fields` of `_hash_payload`. -/
def hashFields (record : AuditRecord) : Dict :=
  [("sequence_number", .int record.sequenceNumber),
    ("event_type", .str record.eventType),
    ("actor_user_id", optionalNumber record.actorUserId),
    ("actor_username_snapshot", optionalText record.actorUsernameSnapshot),
    ("actor_role_keys_json", .str record.actorRoleKeysJson),
    ("action", .str record.action),
    ("resource_type", optionalText record.resourceType),
    ("resource_id", optionalText record.resourceId),
    ("route_template", optionalText record.routeTemplate),
    ("request_method", optionalText record.requestMethod),
    ("request_id", .str record.requestId),
    ("outcome", .str record.outcome),
    ("status_code", optionalNumber record.statusCode),
    ("reason_code", optionalText record.reasonCode),
    ("metadata_json", .str record.metadataJson),
    ("client_ip_hash", optionalText record.clientIpHash),
    ("user_agent_summary", optionalText record.userAgentSummary),
    ("occurred_at", .str record.occurredAt.isoformat),
    ("previous_event_hash", optionalText record.previousEventHash)]

section Service

variable (py : Interpreter) (sha256 : String → String)

/-- The text that is hashed. -/
def hashedText (record : AuditRecord) : String := canonical py (.obj (hashFields record))

/-- `_hash_payload`; the digest of the UTF-8 bytes of a text is `sha256`. -/
def hashPayload (record : AuditRecord) : String := sha256 (hashedText py record)

/-- The events in the order of their sequence numbers. -/
def bySequence (events : List SecurityAuditEvent) : List SecurityAuditEvent :=
  events.insertionSort fun event other => event.sequenceNumber ≤ other.sequenceNumber

/-! ## Appending -/

def Directory.roleKeys (directory : Directory) (user : Nat) : List String :=
  ((directory.assignments.filter fun assignment => assignment.1 == user).filterMap
    fun assignment => match directory.roles.get? assignment.2 with
      | some role => if role.enabled then some role.roleKey else none
      | none => none).insertionSort fun key other => key ≤ other

/-- The arguments of `append_event`, with the tables and the clock it reads. -/
structure AuditCall where
  eventType : String
  action : String
  requestId : String
  outcome : String
  actor : Option (Nat × UserAccount)
  resourceType : Option String
  resourceId : Option (String ⊕ Int)
  routeTemplate : Option String
  requestMethod : Option String
  statusCode : Option Int
  reasonCode : Option String
  metadata : Option Dict
  clientIpHash : Option String
  userAgentSummary : Option String
  directory : Directory
  now : DateTime

/-- `text[:count] if text else None`. -/
def shortened (count : Nat) (text : Option String) : Option String :=
  (text.filter fun value => value != "").map (Text.truncate count)

/-- `str(resource_id)`. -/
def resourceText : String ⊕ Int → String
  | .inl text => text
  | .inr number => Int.repr number

/-- The hashed columns `append_event` writes behind the given event. -/
def newRecord (previous : Option SecurityAuditEvent) (call : AuditCall) : AuditRecord where
  sequenceNumber := previous.elim 1 fun event => event.sequenceNumber + 1
  eventType := Text.truncate 80 call.eventType
  actorUserId := call.actor.map fun actor => (actor.1 : Int)
  actorUsernameSnapshot := call.actor.map fun actor => Text.truncate 64 actor.2.username
  actorRoleKeysJson := canonical py (.arr (call.actor.elim [] fun actor =>
    (call.directory.roleKeys actor.1).map Json.str))
  action := Text.truncate 120 call.action
  resourceType := shortened 80 call.resourceType
  resourceId := call.resourceId.map fun resource => Text.truncate 100 (resourceText resource)
  routeTemplate := shortened 250 call.routeTemplate
  requestMethod := shortened 10 call.requestMethod
  requestId := Text.truncate 64 call.requestId
  outcome := call.outcome
  statusCode := call.statusCode
  reasonCode := shortened 80 call.reasonCode
  metadataJson := canonical py (redact py (.obj (call.metadata.getD [])))
  clientIpHash := call.clientIpHash
  userAgentSummary := shortened 200 call.userAgentSummary
  occurredAt := call.now
  previousEventHash := previous.map fun event => event.eventHash

/-- The event `append_event` writes. -/
def newEvent (events : List SecurityAuditEvent) (call : AuditCall) : SecurityAuditEvent :=
  let record := newRecord py (bySequence events).getLast? call
  { record with
    id := (events.map fun event => event.id).foldl max 0 + 1
    eventHash := hashPayload py sha256 record }

/-- Whether the unique columns admit a new event. -/
def isUnique (events : List SecurityAuditEvent) (event : SecurityAuditEvent) : Bool :=
  events.all fun other =>
    other.sequenceNumber != event.sequenceNumber && other.eventHash != event.eventHash

/-- `append_event`, `none` when the commit is refused. -/
def appendEvent (events : List SecurityAuditEvent) (call : AuditCall) :
    Option (List SecurityAuditEvent × SecurityAuditEvent) :=
  let event := newEvent py sha256 events call
  if isUnique events event then some (events ++ [event], event) else none

/-- The log after a call: a refused call leaves it. -/
def auditNext (events : List SecurityAuditEvent) (call : AuditCall) : List SecurityAuditEvent :=
  (appendEvent py sha256 events call).elim events Prod.fst

/-! ## Verifying -/

def limitations : String :=
  "Audit hash chaining provides local tamper evidence. It does not provide external " ++
    "notarization or prevent a privileged database administrator from rewriting the complete chain."

/-- What `verify_integrity` returns. -/
structure IntegrityReport where
  eventsExamined : Nat
  validChain : Bool
  firstInvalidSequence : Option Int
  firstInvalidEventId : Option Nat
  expectedHash : Option String
  observedHash : Option String
  verifiedAt : String
  limitations : String

/-- The loop of `verify_integrity`: the events examined so far, the last hash and the
events to come. -/
def verifyFrom (verifiedAt : String) :
    Nat → Option String → List SecurityAuditEvent → IntegrityReport
  | examined, _, [] => ⟨examined, true, none, none, none, none, verifiedAt, limitations⟩
  | examined, previousHash, event :: rest =>
    let expectedHash := hashPayload py sha256 event.toAuditRecord
    if event.sequenceNumber ≠ examined + 1 ∨ event.previousEventHash ≠ previousHash ∨
        event.eventHash ≠ expectedHash then
      ⟨examined + 1, false, some event.sequenceNumber, some event.id, some expectedHash,
        some event.eventHash, verifiedAt, limitations⟩
    else verifyFrom verifiedAt (examined + 1) (some event.eventHash) rest

def verifyIntegrity (now : DateTime) (events : List SecurityAuditEvent) : IntegrityReport :=
  verifyFrom py sha256 (now.isoformat ++ "+00:00") 0 none (bySequence events)

end Service

end ThreatScope.AccessControl
