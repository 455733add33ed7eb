import ThreatScope.AccessControl.Accounts
import ThreatScope.Library.Dictionary
import ThreatScope.Library.Json
import ThreatScope.Library.Runs
import ThreatScope.Library.Selections
import ThreatScope.Library.SlidingWindow

/-!
# Records of the SOC monitor and their correlation

The rows of `soc_monitor/models.py` that the correlation of events reads and writes:
events, detection rules, alerts and the links between alerts and events.
-/

set_option autoImplicit false

namespace ThreatScope.SocMonitor

open Library AccessControl

/-- `SocEvent.severity` and the severity of a rule. -/
inductive Severity where
  | info
  | low
  | medium
  | high
  | critical
deriving DecidableEq

/-- The confidence of a rule. -/
inductive Confidence where
  | low
  | medium
  | high
deriving DecidableEq

/-- A row of `soc_events`. -/
structure SocEvent where
  sourceId : Nat
  importId : Option Nat
  receivedAt : Instant
  eventTime : Instant
  eventType : String
  action : Option String
  outcome : Option String
  severity : Severity
  sourceIp : Option String
  destinationIp : Option String
  username : Option String
  httpMethod : Option String
  requestPath : Option String
  statusCode : Option Int
  userAgent : Option String
  message : Option String
  normalizedJson : String
  rawEventHash : String
  rawPreviewRedacted : Option String
  createdAt : Instant
deriving DecidableEq

/-- The attributes that events may be grouped by, `APPROVED_GROUP_BY`. -/
inductive GroupBy where
  | sourceIp
  | username
  | eventType
  | outcome
  | statusCode
  | sourceId
deriving DecidableEq

/-- The attribute's name. -/
def GroupBy.text : GroupBy → String
  | .sourceIp => "source_ip"
  | .username => "username"
  | .eventType => "event_type"
  | .outcome => "outcome"
  | .statusCode => "status_code"
  | .sourceId => "source_id"

/-- `SocDetectionRule.rule_type`, where any other text is a threshold. -/
inductive RuleType where
  | threshold
  | distinctThreshold
  | blocklist
  | adminAfterFailures
deriving DecidableEq

/-- The text of a severity. -/
def Severity.text : Severity → String
  | .info => "info"
  | .low => "low"
  | .medium => "medium"
  | .high => "high"
  | .critical => "critical"

/-- A row of `soc_detection_rules`. The schema bounds the window and the threshold, and
restricts the letters of the code. -/
structure SocDetectionRule where
  ruleCode : String
  name : String
  description : String
  ruleType : RuleType
  enabled : Bool
  severity : Severity
  confidence : Confidence
  windowSeconds : Nat
  threshold : Nat
  groupBy : GroupBy
  /-- `json.loads(rule.conditions_json)`: the schema bounds the keys and not the values. -/
  conditions : Dict
  window_pos : 0 < windowSeconds
  threshold_pos : 0 < threshold
  code_clear : '|' ∉ ruleCode.toList

/-- `SocAlert.status`. -/
inductive AlertStatus where
  | opened
  | investigating
  | contained
  | resolved
  | falsePositive
  | reviewing
deriving DecidableEq

/-- What the summary of the evidence is made of. -/
structure Evidence where
  events : Nat
  groupBy : GroupBy
  value : String
  firstSeen : Instant
  lastSeen : Instant

/-- A row of `soc_alerts`. -/
structure SocAlert where
  ruleId : Nat
  title : String
  description : String
  severity : Severity
  confidence : Confidence
  status : AlertStatus
  firstSeen : Instant
  lastSeen : Instant
  eventCount : Nat
  correlationKey : String
  sourceIp : Option String
  username : Option String
  evidence : Evidence
  fingerprint : String
  createdAt : Instant
  updatedAt : Instant

/-- A row of `soc_alert_events`. -/
structure SocAlertEvent where
  alertId : Nat
  eventId : Nat

/-- The tables of the correlation. -/
structure SocStore where
  events : Table SocEvent
  rules : Table SocDetectionRule
  alerts : Table SocAlert
  links : Table SocAlertEvent

/-!
## Correlation of events

`soc_monitor/correlation.py`. A rule reads the events in order of time and keeps one sliding
window for each value it groups by. At every event it looks at the window, and what
qualifies is noted under the value, in place of what was noted before. Each noted window
becomes an alert, or extends the alert with the same fingerprint, which is made from the
rule, the value and the bucket of time in which the window begins.
-/

/-- An event with its key. -/
abbrev StoredEvent := Nat × SocEvent

/-- What the correlation takes from the runtime. -/
structure SocRuntime where
  /-- `hashlib.sha256(text.encode()).hexdigest()`. -/
  sha256 : String → String
  /-- `text.lower()`. -/
  lower : String → String
  /-- The object that a mapped event has under a name that is no column, such as a relationship
  or a method: the number of its identity, none when there is none or it is false. -/
  object : String → StoredEvent → Option Nat

/-! ## Grouping and conditions -/

/-- `value in container`, none when it raises. -/
def isIn (value : Json) : Json → Option Bool
  | .arr items => some (items.any value.pyEq)
  | .obj fields => some (fields.any fun field => value.isStr field.1)
  | .str text => value.str?.map (Text.contains text)
  | _ => none

/-- A value passes the condition under a key, if there is one. -/
def passes (conditions : Dict) (key : String) (value : Json) : Option Bool :=
  if (conditions.get key).truthy then isIn value (conditions.get key) else some true

/-- `matches(event, conditions)`, none when it raises. -/
def matches? (conditions : Dict) (event : SocEvent) : Option Bool := do
  if !(← passes conditions "event_types" (.str event.eventType)) then return false
  if !(← passes conditions "outcomes" ((event.outcome.map .str).getD .null)) then return false
  passes conditions "status_codes" ((event.statusCode.map .int).getD .null)

/-- The event matches the conditions of a rule. -/
def SocDetectionRule.matches (rule : SocDetectionRule) (event : SocEvent) : Bool :=
  matches? rule.conditions event == some true

/-- The text of a value, `"unknown"` for a missing or an empty one. -/
def groupText (value : Option String) : String :=
  match value with
  | some text => if text = "" then "unknown" else text
  | none => "unknown"

/-- The value, unless it is missing or empty. -/
def truthyText (value : Option String) : Option String := value.filter fun text => text != ""

def groupValue (event : SocEvent) : GroupBy → String
  | .sourceIp => groupText event.sourceIp
  | .username => groupText ((truthyText event.username).or event.sourceIp)
  | .eventType => groupText (some event.eventType)
  | .outcome => groupText event.outcome
  | .statusCode => groupText (event.statusCode.map toString)
  | .sourceId => groupText (some (toString event.sourceId))

/-- A value of an attribute. -/
inductive Attribute where
  | text (value : String)
  | number (value : Int)
  | object (identity : Nat)
deriving DecidableEq

/-- A text that is not empty. -/
def textColumn (value : Option String) : Option Attribute := (truthyText value).map .text

/-- The columns of an event, with their values when they are true. -/
def StoredEvent.columns (event : StoredEvent) : List (String × Option Attribute) :=
  [("id", some (.number event.1)), ("source_id", some (.number event.2.sourceId)),
    ("import_id", event.2.importId.map fun key => .number key),
    ("event_time", some (.number event.2.eventTime)),
    ("received_at", some (.number event.2.receivedAt)),
    ("event_type", textColumn (some event.2.eventType)), ("action", textColumn event.2.action),
    ("outcome", textColumn event.2.outcome), ("severity", some (.text event.2.severity.text)),
    ("source_ip", textColumn event.2.sourceIp),
    ("destination_ip", textColumn event.2.destinationIp),
    ("username", textColumn event.2.username), ("http_method", textColumn event.2.httpMethod),
    ("request_path", textColumn event.2.requestPath),
    ("status_code", (event.2.statusCode.filter fun code => code != 0).map .number),
    ("user_agent", textColumn event.2.userAgent), ("message", textColumn event.2.message),
    ("normalized_json", textColumn (some event.2.normalizedJson)),
    ("raw_event_hash", textColumn (some event.2.rawEventHash)),
    ("raw_preview_redacted", textColumn event.2.rawPreviewRedacted),
    ("created_at", some (.number event.2.createdAt))]

/-- `getattr(event, name, None)` when it is true. -/
def StoredEvent.getattr (env : SocRuntime) (event : StoredEvent) (name : String) :
    Option Attribute :=
  match event.columns.lookup name with
  | some value => value
  | none => (env.object name event).map .object

/-- `conditions.get("distinct_field")`, none when it is no name. -/
def SocDetectionRule.distinctField (rule : SocDetectionRule) : Option String :=
  (rule.conditions.get "distinct_field").str?

/-- How many values the distinct field has in a window. -/
def distinctCount (env : SocRuntime) (field : String) (window : List StoredEvent) : Nat :=
  (window.filterMap fun event => event.getattr env field).dedup.length

/-! ## Windows -/

/-- The events that a rule puts into its windows. -/
def SocDetectionRule.accepts (rule : SocDetectionRule) (activeBlocklist : List String)
    (event : SocEvent) : Bool :=
  match rule.ruleType with
  | .blocklist => event.sourceIp.any fun address => activeBlocklist.contains address
  | .adminAfterFailures => true
  | _ => rule.matches event

/-- The failures in a window, without one event. -/
def failuresBefore (window : List StoredEvent) (latest : StoredEvent) : List StoredEvent :=
  window.filter fun item =>
    (item.2.outcome == some "failure" || item.2.outcome == some "denied") && item.1 != latest.1

/-- `iter(value)`, none when it raises. -/
def iterate : Json → Option (List Json)
  | .arr items => some items
  | .obj fields => some (fields.map fun field => .str field.1)
  | .str text => some (text.toList.map fun c => .str (String.singleton c))
  | _ => none

/-- `any(fragment in path for fragment in fragments)`, none when it raises. -/
def anyIn (path : String) : List Json → Option Bool
  | [] => some false
  | .str fragment :: rest =>
    if Text.contains path fragment then some true else anyIn path rest
  | _ :: _ => none

/-- The path of an event has one of the fragments, none when reading them raises. -/
def isAdminPath (env : SocRuntime) (conditions : Dict) (event : SocEvent) : Option Bool :=
  match conditions.find? "path_contains" with
  | none => some false
  | some fragments =>
    (iterate fragments).bind (anyIn (env.lower (event.requestPath.getD "")))

/-- What a rule notes at an event, given the window that ends there. -/
def SocDetectionRule.verdict (env : SocRuntime) (rule : SocDetectionRule)
    (window : List StoredEvent) (latest : StoredEvent) : Option (List StoredEvent) :=
  match rule.ruleType with
  | .adminAfterFailures =>
    if isAdminPath env rule.conditions latest.2 = some true ∧
        rule.threshold ≤ (failuresBefore window latest).length then
      some (failuresBefore window latest ++ [latest])
    else none
  | .distinctThreshold =>
    if rule.threshold ≤ distinctCount env (rule.distinctField.getD "") window then
      some window
    else none
  | _ => if rule.threshold ≤ window.length then some window else none

/-- The windows and what was noted, by value. -/
structure Scan where
  groups : Dictionary String (List StoredEvent)
  results : Dictionary String (List StoredEvent)

/-- The time of an event. -/
def StoredEvent.time (event : StoredEvent) : Int := event.2.eventTime

/-- The width of the windows. -/
def SocDetectionRule.width (rule : SocDetectionRule) : Int := rule.windowSeconds * 1000000

/-- One event of the loop, for an event that the rule accepts. -/
def Scan.next (env : SocRuntime) (rule : SocDetectionRule) (scan : Scan)
    (event : StoredEvent) : Scan :=
  let key := groupValue event.2 rule.groupBy
  let window := slide StoredEvent.time rule.width ((scan.groups.get? key).getD []) event
  { groups := scan.groups.set key window
    results := match rule.verdict env window event with
      | some noted => scan.results.set key noted
      | none => scan.results }

def qualifyingWindows (env : SocRuntime) (rule : SocDetectionRule)
    (events : List StoredEvent) (activeBlocklist : List String) :
    Dictionary String (List StoredEvent) :=
  ((events.filter fun event => rule.accepts activeBlocklist event.2).foldl
    (Scan.next env rule) ⟨[], []⟩).results

/-- What the session of a run holds under a name that is no column and cannot be hashed, such as
a relationship with rows: a name and the key of the event. -/
abbrev Unhashable := String → Nat → Bool

/-- A rule raises at an event: its conditions cannot be read, or it counts distinct values of
what is no name or cannot be hashed. -/
def SocDetectionRule.raisesAt (env : SocRuntime) (unhashable : Unhashable)
    (rule : SocDetectionRule) (event : StoredEvent) : Bool :=
  match rule.ruleType with
  | .blocklist => false
  | .adminAfterFailures => (isAdminPath env rule.conditions event.2).isNone
  | .threshold => (matches? rule.conditions event.2).isNone
  | .distinctThreshold =>
    (matches? rule.conditions event.2).isNone || rule.matches event.2 &&
      rule.distinctField.all fun field =>
        (event.columns.lookup field).isNone && unhashable field event.1

/-! ## Alerts -/

/-- `int(first_seen.timestamp()) // rule.window_seconds`. -/
def bucketOf (rule : SocDetectionRule) (firstSeen : Instant) : Int :=
  firstSeen.tdiv 1000000 / rule.windowSeconds

/-- The text that the fingerprint is the digest of. -/
def fingerprintText (ruleCode value : String) (bucket : Int) : String :=
  ruleCode ++ "|" ++ value ++ "|" ++ toString bucket

/-- The fingerprint of a window. -/
def fingerprint (env : SocRuntime) (rule : SocDetectionRule) (value : String)
    (firstSeen : Instant) : String :=
  env.sha256 (fingerprintText rule.ruleCode value (bucketOf rule firstSeen))

/-- The `correlation_key` of an alert. -/
def correlationKeyOf (rule : SocDetectionRule) (value : String) : String :=
  rule.groupBy.text ++ ":" ++ value

/-- The events that are linked to an alert. -/
def SocStore.linked (store : SocStore) (alertId : Nat) : List Nat :=
  (store.links.select fun link => link.alertId == alertId).map SocAlertEvent.eventId

/-- Link events to an alert. -/
def SocStore.link (store : SocStore) (alertId : Nat) (ids : List Nat) : SocStore :=
  { store with links := ids.foldl (fun links id => links.insert ⟨alertId, id⟩) store.links }

/-- The alert as it is first written. -/
def newAlert (env : SocRuntime) (ruleId : Nat) (rule : SocDetectionRule) (value : String)
    (ids : List Nat) (first sample : SocEvent) (now : Instant) : SocAlert where
  ruleId
  title := rule.name
  description := rule.description
  severity := rule.severity
  confidence := rule.confidence
  status := .opened
  firstSeen := first.eventTime
  lastSeen := sample.eventTime
  eventCount := ids.length
  correlationKey := correlationKeyOf rule value
  sourceIp := if rule.groupBy = .sourceIp then sample.sourceIp else truthyText sample.sourceIp
  username := sample.username
  evidence := ⟨ids.length, rule.groupBy, value, first.eventTime, sample.eventTime⟩
  fingerprint := fingerprint env rule value first.eventTime
  createdAt := now
  updatedAt := now

/-- An alert that a window extends to a number of events. -/
def SocAlert.extended (alert : SocAlert) (rule : SocDetectionRule) (value : String)
    (ids : List Nat) (first last : SocEvent) (count : Nat) (now : Instant) : SocAlert :=
  { alert with
    firstSeen := min alert.firstSeen first.eventTime
    lastSeen := max alert.lastSeen last.eventTime
    eventCount := count
    evidence := ⟨ids.length, rule.groupBy, value, first.eventTime, last.eventTime⟩
    updatedAt := now }

/-- What a run does with a window: it extends the alert with the fingerprint, skips it, or
creates it. -/
def SocStore.report (env : SocRuntime) (now : Instant) (ruleId : Nat) (rule : SocDetectionRule)
    (store : SocStore) (noted : String × List StoredEvent) : SocStore :=
  match noted.2.head?, noted.2.getLast? with
  | some first, some last =>
    let ids := (noted.2.map Prod.fst).dedup
    match store.alerts.first? fun _ alert =>
        alert.fingerprint == fingerprint env rule noted.1 first.2.eventTime with
    | some (alertId, existing) =>
      let newIds := ids.filter fun id => !(store.linked alertId).contains id
      if newIds.isEmpty && existing.lastSeen == last.2.eventTime then store
      else
        { store.link alertId newIds with
          alerts := store.alerts.modify alertId fun alert =>
            alert.extended rule noted.1 ids first.2 last.2
              ((store.linked alertId).length + newIds.length) now }
    | none =>
      { store.link store.alerts.nextKey ids with
        alerts := store.alerts.insert
          (newAlert env ruleId rule noted.1 ids first.2 last.2 now) }
  | _, _ => store

/-- `DetectionRunRequest`. -/
structure DetectionRunRequest where
  ruleIds : List Nat
  sourceId : Option Nat
  startTime : Option Instant
  endTime : Option Instant

/-- The rules of a run. -/
def SocStore.selectedRules (store : SocStore) (payload : DetectionRunRequest) :
    List (Nat × SocDetectionRule) :=
  store.rules.rows.filter fun row => row.2.enabled &&
    (payload.ruleIds.isEmpty || payload.ruleIds.contains row.1)

/-- Events by time, and by key at the same time. -/
def eventLe (first second : StoredEvent) : Prop :=
  first.time < second.time ∨ first.time = second.time ∧ first.1 ≤ second.1

instance : DecidableRel eventLe := fun _ _ => inferInstanceAs (Decidable (_ ∨ _))

/-- The events of a run, in order. A source of zero is no filter. -/
def SocStore.selectedEvents (store : SocStore) (payload : DetectionRunRequest) :
    List StoredEvent :=
  (store.events.rows.filter fun row =>
    (payload.sourceId.all fun source => source == 0 || row.2.sourceId == source) &&
      (payload.startTime.all fun start => decide (start ≤ row.2.eventTime)) &&
      payload.endTime.all fun stop => decide (row.2.eventTime ≤ stop)).insertionSort eventLe

/-- One rule of a run. -/
def SocStore.applyRule (env : SocRuntime) (now : Instant) (events : List StoredEvent)
    (activeBlocklist : List String) (store : SocStore) (row : Nat × SocDetectionRule) : SocStore :=
  (qualifyingWindows env row.2 events activeBlocklist).foldl
    (SocStore.report env now row.1 row.2)
    store

/-- A rule of the run raises at one of its events. -/
def SocStore.raises (env : SocRuntime) (unhashable : Unhashable) (store : SocStore)
    (payload : DetectionRunRequest) (events : List StoredEvent) : Bool :=
  (store.selectedRules payload).any fun row =>
    events.any (row.2.raisesAt env unhashable)

/-- `run`. A rule that raises ends it, and nothing of it is committed. -/
def SocStore.run (env : SocRuntime) (store : SocStore) (payload : DetectionRunRequest)
    (activeBlocklist : List String) (unhashable : Unhashable) (now : Instant) : SocStore :=
  let events := store.selectedEvents payload
  if store.raises env unhashable payload events then store
  else (store.selectedRules payload).foldl (SocStore.applyRule env now events activeBlocklist)
    store

/-! ## Steps -/

/-- A call: events arrive, or a run is made. -/
inductive SocCall where
  | ingest (event : SocEvent)
  | run (payload : DetectionRunRequest) (activeBlocklist : List String)
    (unhashable : Unhashable) (now : Instant)

/-- One call. -/
def SocStore.next (env : SocRuntime) (store : SocStore) : SocCall → SocStore
  | .ingest event => { store with events := store.events.insert event }
  | .run payload activeBlocklist unhashable now =>
    store.run env payload activeBlocklist unhashable now

end ThreatScope.SocMonitor
