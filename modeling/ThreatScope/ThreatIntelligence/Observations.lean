import ThreatScope.AccessControl.Accounts
import ThreatScope.Library.Runs
import ThreatScope.Library.UrlText

/-!
# Stored observations

`threat_intelligence/correlation_service.py` reads the records of the other modules and makes
observations of them: addresses, domains, URLs, hashes and names, each with the record it
comes from. A URL gives a second observation of its host.

A run scans the tables one after the other. A maximum bounds it three times: it is the number
of rows that are read of each table, nothing is added once there are as many observations, and
what a URL adds beyond that is cut off at the end.
-/

set_option autoImplicit false

namespace ThreatScope.ThreatIntelligence

open Library AccessControl

/-! ## Kinds -/

/-- `INDICATOR_TYPES`. -/
inductive IndicatorType where
  | ipv4 | ipv6 | cidr | domain | hostname | url | email | sha256 | sha1 | md5 | fileName
  | userAgent | vulnerabilityId | custom
deriving DecidableEq

/-- An indicator type from its name. -/
def IndicatorType.ofText? : String → Option IndicatorType
  | "ipv4" => some .ipv4
  | "ipv6" => some .ipv6
  | "cidr" => some .cidr
  | "domain" => some .domain
  | "hostname" => some .hostname
  | "url" => some .url
  | "email" => some .email
  | "sha256" => some .sha256
  | "sha1" => some .sha1
  | "md5" => some .md5
  | "file_name" => some .fileName
  | "user_agent" => some .userAgent
  | "vulnerability_id" => some .vulnerabilityId
  | "custom" => some .custom
  | _ => none

/-- The mapping of `_map_kind`. -/
def mappedKind : String → Option IndicatorType
  | "ip" | "ip_address" | "source_ip" | "destination_ip" => some .ipv4
  | "domain_name" => some .domain
  | "host" => some .hostname
  | "sender" | "sender_email" | "reply_to" | "email_address" => some .email
  | "uri" | "link" => some .url
  | "hash" | "file_hash" => some .sha256
  | "filename" => some .fileName
  | _ => none

/-- What the scan takes from the Python runtime. -/
structure ScanRuntime extends UnicodeTables where
  /-- `str.isdigit` of one character. -/
  isDigit : Char → Bool

def mapKind (env : ScanRuntime) (value : String) : Option IndicatorType :=
  let kind := Text.replaceChar '-' (some '_') (String.ofList (env.lower value.toList))
  (IndicatorType.ofText? kind).or (mappedKind kind)

/-! ## Observations -/

/-- How exact a match with the observation is. -/
inductive MatchType where
  | exact
  | hostOnly
deriving DecidableEq

/-- What is observed, and the record it comes from. -/
structure Origin where
  kind : IndicatorType
  value : String
  sourceModule : String
  entityType : String
  entityId : Nat
  context : String
  confidence : Int
  matchType : MatchType
deriving DecidableEq

/-- `Observation`. -/
structure Observation extends Origin where
  observedAt : Instant

/-- A confidence as it is stored: points, or a level that may be missing. -/
inductive Confidence where
  | points (value : Int)
  | level (text : Option String)

/-- `_confidence`. -/
def Confidence.number (env : ScanRuntime) : Confidence → Int
  | .points value => max 0 (min 100 value)
  | .level text =>
    match String.ofList (env.lower (text.getD "None").toList) with
    | "low" => 35
    | "medium" => 65
    | "high" => 85
    | _ => 60

/-- The arguments of a call of `add`. -/
structure Reading where
  kind : String
  value : Option String
  sourceModule : String
  entityType : String
  entityId : Nat
  observedAt : Option Instant
  context : Option String
  confidence : Confidence

/-- Four numbers with dots between them. -/
def looksLikeIpv4 (env : ScanRuntime) (host : List Char) : Bool :=
  let parts := host.splitOn '.'
  (parts.all fun part => !part.isEmpty && part.all env.isDigit) && parts.length == 4

/-- `_expand_url`: the URL, and its host when it has one. -/
def expandUrl (env : ScanRuntime) (origin : Origin) : List Origin :=
  match urlsplit env.nfkc origin.value.toList with
  | none => [origin]
  | some parts =>
    let host := hostname env.lower parts.netloc
    if host = [] then [origin]
    else
      [origin,
        { origin with
          kind :=
            if ':' ∈ host then .ipv6 else if looksLikeIpv4 env host then .ipv4 else .domain
          value := String.ofList host
          matchType := .hostOnly }]

/-- What a call of `add` observes while there is room. -/
def Reading.origins (env : ScanRuntime) (reading : Reading) : List Origin :=
  match reading.value with
  | none => []
  | some value =>
    if value = "" then []
    else match mapKind env reading.kind with
      | none => []
      | some kind =>
        let origin : Origin :=
          { kind
            value
            sourceModule := reading.sourceModule
            entityType := reading.entityType
            entityId := reading.entityId
            context := Text.truncate 1000 (reading.context.getD "None")
            confidence := reading.confidence.number env
            matchType := .exact }
        if kind = .url then expandUrl env origin else [origin]

/-- The observations of a call of `add` while there is room. -/
def Reading.observations (env : ScanRuntime) (now : Instant) (reading : Reading) :
    List Observation :=
  (reading.origins env).map fun origin => ⟨origin, reading.observedAt.getD now⟩

def add (env : ScanRuntime) (maximum : Nat) (now : Instant) (result : List Observation)
    (reading : Reading) : List Observation :=
  if maximum ≤ result.length then result else result ++ reading.observations env now

/-! ## The scanned tables -/

/-- The columns of `soc_events` that are scanned. -/
structure SocEvent where
  eventTime : Instant
  eventType : String
  sourceIp : Option String
  destinationIp : Option String
  userAgent : Option String
  message : Option String

/-- `event.message or event.event_type`. -/
def SocEvent.context (event : SocEvent) : String :=
  match event.message with
  | none => event.eventType
  | some message => if message = "" then event.eventType else message

def SocEvent.readings (id : Nat) (event : SocEvent) : List Reading :=
  [⟨"source_ip", event.sourceIp, "soc", "event", id, some event.eventTime, some event.context,
      .points 75⟩,
    ⟨"destination_ip", event.destinationIp, "soc", "event", id, some event.eventTime,
      some event.context, .points 70⟩,
    ⟨"user_agent", event.userAgent, "soc", "event", id, some event.eventTime, some event.context,
      .points 60⟩]

/-- The columns of `soc_alerts` that are scanned. -/
structure SocAlert where
  lastSeen : Instant
  sourceIp : Option String
  evidenceSummary : String
  confidence : String

def SocAlert.readings (id : Nat) (alert : SocAlert) : List Reading :=
  [⟨"source_ip", alert.sourceIp, "soc", "alert", id, some alert.lastSeen,
    some alert.evidenceSummary, .level (some alert.confidence)⟩]

/-- The columns of `phishing_indicators` and of `document_indicators` that are scanned. -/
structure ExtractedIndicator where
  indicatorType : String
  normalizedValue : String
  context : String
  confidence : String
  createdAt : Instant

def ExtractedIndicator.readings (sourceModule : String) (id : Nat) (item : ExtractedIndicator) :
    List Reading :=
  [⟨item.indicatorType, some item.normalizedValue, sourceModule, "indicator", id,
    some item.createdAt, some item.context, .level (some item.confidence)⟩]

/-- The columns of `phishing_analyses` that are scanned. -/
structure PhishingAnalysis where
  senderAddressRedacted : Option String
  replyToRedacted : Option String
  confidence : String
  createdAt : Instant

def PhishingAnalysis.readings (id : Nat) (item : PhishingAnalysis) : List Reading :=
  [⟨"email", item.senderAddressRedacted, "phishing", "analysis", id, some item.createdAt,
      some "Stored sender address", .level (some item.confidence)⟩,
    ⟨"email", item.replyToRedacted, "phishing", "analysis", id, some item.createdAt,
      some "Stored reply-to address", .level (some item.confidence)⟩]

/-- The columns of `document_embedded_artifacts` that are scanned. -/
structure DocumentEmbeddedArtifact where
  filenameSanitized : String
  sha256 : Option String
  evidenceSummary : String
  createdAt : Instant

def DocumentEmbeddedArtifact.readings (id : Nat) (item : DocumentEmbeddedArtifact) : List Reading :=
  [⟨"sha256", item.sha256, "document", "embedded_artifact", id, some item.createdAt,
      some item.evidenceSummary, .points 75⟩,
    ⟨"file_name", some item.filenameSanitized, "document", "embedded_artifact", id,
      some item.createdAt, some item.evidenceSummary, .points 60⟩]

/-- The columns of `document_analyses` that are scanned. -/
structure DocumentAnalysis where
  fileHash : String
  confidence : String
  createdAt : Instant

def DocumentAnalysis.readings (id : Nat) (item : DocumentAnalysis) : List Reading :=
  [⟨"sha256", some item.fileHash, "document", "analysis", id, some item.createdAt,
    some "Stored document SHA-256", .level (some item.confidence)⟩]

/-- The columns of `targets` that are scanned. -/
structure Target where
  name : Option String
  baseUrl : Option String
  domain : Option String
  createdAt : Option Instant

def Target.readings (id : Nat) (item : Target) : List Reading :=
  [⟨"domain", item.domain, "web_exposure", "target", id, item.createdAt, item.name, .points 80⟩,
    ⟨"url", item.baseUrl, "web_exposure", "target", id, item.createdAt, item.name, .points 80⟩]

/-- The columns of `api_assessments` that are scanned. -/
structure ApiAssessment where
  name : String
  baseUrl : Option String
  createdAt : Option Instant

def ApiAssessment.readings (id : Nat) (item : ApiAssessment) : List Reading :=
  [⟨"url", item.baseUrl, "api_security", "assessment", id, item.createdAt, some item.name,
    .points 80⟩]

/-- The columns of `api_endpoints` that are scanned. -/
structure ApiEndpoint where
  assessmentId : Nat
  path : String
  method : String
  summary : Option String
  createdAt : Option Instant

/-- `item.summary or f"{item.method} {item.path}"`. -/
def ApiEndpoint.context (item : ApiEndpoint) : String :=
  match item.summary with
  | none => item.method ++ " " ++ item.path
  | some summary => if summary = "" then item.method ++ " " ++ item.path else summary

/-- The base without slashes at its end, and the path behind one slash. -/
def ApiEndpoint.url (baseUrl : String) (item : ApiEndpoint) : String :=
  String.ofList (stripEnd '/' baseUrl.toList) ++
    (if Text.startsWith item.path "/" then item.path else "/" ++ item.path)

def ApiEndpoint.readings (id : Nat) (assessment : ApiAssessment) (item : ApiEndpoint) :
    List Reading :=
  match assessment.baseUrl with
  | none => []
  | some baseUrl =>
    if baseUrl = "" then []
    else
      [⟨"url", some (item.url baseUrl), "api_security", "endpoint", id, item.createdAt,
        some item.context, .points 75⟩]

/-- The columns of `unified_entities` that are scanned. -/
structure UnifiedEntity where
  entityType : String
  normalizedValue : String
  confidence : Option String
  lastSeenAt : Option Instant

def UnifiedEntity.readings (id : Nat) (item : UnifiedEntity) : List Reading :=
  [⟨item.entityType, some item.normalizedValue, "unified_correlation", "entity", id,
    item.lastSeenAt, some "Stored unified entity", .level item.confidence⟩]

/-- The columns of `incident_evidence` that are scanned. -/
structure IncidentEvidence where
  entityId : Option Nat
  evidenceSnapshot : Option String
  confidence : Option String
  addedAt : Option Instant

def IncidentEvidence.readings (entities : Table UnifiedEntity) (id : Nat)
    (item : IncidentEvidence) : List Reading :=
  match item.entityId.bind entities.get? with
  | none => []
  | some entity =>
    [⟨entity.entityType, some entity.normalizedValue, "incident_cases", "evidence", id,
      item.addedAt, item.evidenceSnapshot, .level item.confidence⟩]

/-- The records of the other modules. -/
structure SourceStore where
  socEvents : Table SocEvent
  socAlerts : Table SocAlert
  phishingIndicators : Table ExtractedIndicator
  phishingAnalyses : Table PhishingAnalysis
  documentIndicators : Table ExtractedIndicator
  documentEmbeddedArtifacts : Table DocumentEmbeddedArtifact
  documentAnalyses : Table DocumentAnalysis
  targets : Table Target
  apiAssessments : Table ApiAssessment
  apiEndpoints : Table ApiEndpoint
  unifiedEntities : Table UnifiedEntity
  incidentEvidence : Table IncidentEvidence

/-- The endpoints with their assessments. -/
def SourceStore.joinedEndpoints (store : SourceStore) : List (List Reading) :=
  store.apiEndpoints.rows.filterMap fun row =>
    (store.apiAssessments.get? row.2.assessmentId).map fun assessment =>
      row.2.readings row.1 assessment

/-- The queries of a scan in their order: the rows of each, with the calls of `add` they make. -/
def SourceStore.queries (store : SourceStore) : List (List (List Reading)) :=
  [store.socEvents.rows.map fun row => row.2.readings row.1,
    store.socAlerts.rows.map fun row => row.2.readings row.1,
    store.phishingIndicators.rows.map fun row => row.2.readings "phishing" row.1,
    store.phishingAnalyses.rows.map fun row => row.2.readings row.1,
    store.documentIndicators.rows.map fun row => row.2.readings "document" row.1,
    store.documentEmbeddedArtifacts.rows.map fun row => row.2.readings row.1,
    store.documentAnalyses.rows.map fun row => row.2.readings row.1,
    store.targets.rows.map fun row => row.2.readings row.1,
    store.apiAssessments.rows.map fun row => row.2.readings row.1,
    store.joinedEndpoints,
    store.unifiedEntities.rows.map fun row => row.2.readings row.1,
    store.incidentEvidence.rows.map fun row => row.2.readings store.unifiedEntities row.1]

/-- The calls of `add` for the first rows of each query. -/
def SourceStore.readings (store : SourceStore) (maximum : Nat) : List Reading :=
  store.queries.flatMap fun rows => (rows.take maximum).flatten

def observations (env : ScanRuntime) (store : SourceStore) (maximum : Nat) (now : Instant) :
    List Observation :=
  ((store.readings maximum).foldl (add env maximum now) []).take maximum

/-! ## Runs -/

/-- A row of `threat_correlation_runs`, without the counts of matches. -/
structure ThreatCorrelationRun where
  requestedByUserId : Nat
  recordsExamined : Nat
  completedAt : Instant

/-- The records that are scanned, and the runs. What a run writes about sightings and matches
is left out, since no query of a scan reads it. -/
structure IntelStore where
  sources : SourceStore
  runs : Table ThreatCorrelationRun

/-- A call of `correlation_service.run`, and its time. -/
structure RunCall where
  userId : Nat
  maximum : Nat
  now : Instant

/-- The observations that a run examines. -/
def IntelStore.examined (env : ScanRuntime) (store : IntelStore) (call : RunCall) :
    List Observation :=
  observations env store.sources call.maximum call.now

def IntelStore.run (env : ScanRuntime) (store : IntelStore) (call : RunCall) : IntelStore :=
  { store with
    runs := store.runs.insert
      { requestedByUserId := call.userId
        recordsExamined := (store.examined env call).length
        completedAt := call.now } }

/-!
## What successive runs examine

The three bounds of a scan come to one: a scan makes the first observations of the first rows
of each table (`observations_eq`). Where a run starts does not depend on the runs before it, so
that successive runs examine the same observations over and over, and what the first run does
not reach is never examined (`correlation_reaches_iff`).
-/

variable {env : ScanRuntime}

/-! ## One scan -/

/-- The bounded scan makes the first observations of the readings. -/
theorem take_foldl_add (maximum : Nat) (now : Instant) (readings : List Reading) :
    ∀ result : List Observation,
      (readings.foldl (add env maximum now) result).take maximum =
        (result ++ readings.flatMap (Reading.observations env now)).take maximum := by
  induction readings with
  | nil =>
    intro result
    rw [List.foldl_nil, List.flatMap_nil, List.append_nil]
  | cons reading rest ih =>
    intro result
    rw [List.foldl_cons, ih, List.flatMap_cons, ← List.append_assoc]
    unfold add
    split
    · rename_i full
      rw [List.append_assoc, List.take_append_of_le_length full,
        List.take_append_of_le_length full]
    · rfl

/-- What is stored in the first rows of each table, in the order of the scan. -/
def SourceStore.originsWithin (env : ScanRuntime) (store : SourceStore) (rows : Nat) :
    List Origin :=
  (store.readings rows).flatMap (Reading.origins env)

/-- What a scan reaches. -/
def SourceStore.reached (env : ScanRuntime) (store : SourceStore) (maximum : Nat) :
    List Origin :=
  (store.originsWithin env maximum).take maximum

/-- What is stored at all. -/
def SourceStore.storedOrigins (env : ScanRuntime) (store : SourceStore) : List Origin :=
  (store.queries.flatMap List.flatten).flatMap (Reading.origins env)

/-- **The observations of a scan** are the first ones of the first rows. -/
theorem observations_eq (store : SourceStore) (maximum : Nat) (now : Instant) :
    (observations env store maximum now).map Observation.toOrigin =
      store.reached env maximum := by
  unfold observations SourceStore.reached SourceStore.originsWithin
  rw [take_foldl_add, List.nil_append, List.map_take, List.map_flatMap]
  congr 2
  funext reading
  unfold Reading.observations
  rw [List.map_map]
  exact List.map_id _

theorem reached_eq_stored {store : SourceStore} {maximum : Nat}
    (rows : ∀ query ∈ store.queries, query.length ≤ maximum)
    (few : (store.storedOrigins env).length ≤ maximum) :
    store.reached env maximum = store.storedOrigins env := by
  have whole : store.originsWithin env maximum = store.storedOrigins env := by
    unfold SourceStore.originsWithin SourceStore.storedOrigins SourceStore.readings
    congr 1
    refine List.flatMap_congr fun query member => ?_
    rw [List.take_of_length_le (rows query member)]
  unfold SourceStore.reached
  rw [whole, List.take_of_length_le few]

/-! ## Successive runs -/

/-- A run among several examines what comes from an origin. -/
def IntelStore.Examines (env : ScanRuntime) (store : IntelStore) (calls : List RunCall)
    (origin : Origin) : Prop :=
  ∃ move ∈ trace (IntelStore.run env) store calls,
    ∃ observation ∈ move.before.examined env move.input,
      observation.toOrigin = origin

theorem sources_run (store : IntelStore) (call : RunCall) :
    (store.run env call).sources = store.sources := rfl

/-- **The runs of a sequence** examine what each of them reaches by itself. -/
theorem examines_iff (calls : List RunCall) (origin : Origin) :
    ∀ store : IntelStore, store.Examines env calls origin ↔
      ∃ call ∈ calls, origin ∈ store.sources.reached env call.maximum := by
  unfold IntelStore.Examines
  induction calls with
  | nil =>
    intro store
    simp [trace]
  | cons call rest ih =>
    intro store
    have here : (∃ observation ∈ store.examined env call, observation.toOrigin = origin) ↔
        origin ∈ store.sources.reached env call.maximum := by
      rw [← observations_eq store.sources call.maximum call.now, List.mem_map]
      rfl
    rw [trace, List.exists_mem_cons_iff, List.exists_mem_cons_iff, ih, here, sources_run]

/-- **What bounded correlation reaches.** For every store and every maximum, some number of
successive runs examines a stored observation if and only if the first run does, and this is
one of the first observations of the first rows of each table. The whole store is reached when
no table has more rows, and no more is stored, than the maximum. -/
theorem correlation_reaches_iff (env : ScanRuntime) (store : IntelStore) (maximum : Nat) :
    (∀ origin ∈ store.sources.storedOrigins env,
      (∃ calls, (∀ call ∈ calls, call.maximum = maximum) ∧ store.Examines env calls origin) ↔
        origin ∈ store.sources.reached env maximum) ∧
    ((∀ query ∈ store.sources.queries, query.length ≤ maximum) →
      (store.sources.storedOrigins env).length ≤ maximum →
        ∀ origin ∈ store.sources.storedOrigins env,
          ∃ calls, (∀ call ∈ calls, call.maximum = maximum) ∧
            store.Examines env calls origin) := by
  have reaches (origin : Origin) :
      (∃ calls, (∀ call ∈ calls, call.maximum = maximum) ∧ store.Examines env calls origin) ↔
        origin ∈ store.sources.reached env maximum := by
    constructor
    · rintro ⟨calls, bounded, examined⟩
      obtain ⟨call, member, found⟩ := (examines_iff calls origin store).mp examined
      rwa [bounded call member] at found
    · intro found
      refine ⟨[⟨0, maximum, 0⟩], ?_, (examines_iff _ origin store).mpr ?_⟩
      · intro call member
        rw [List.mem_singleton.mp member]
      · exact ⟨_, List.mem_singleton_self _, found⟩
  refine ⟨fun origin _ => reaches origin, fun rows few origin stored => (reaches origin).mpr ?_⟩
  rwa [reached_eq_stored rows few]

/-! ## A second event -/

/-- A runtime for ASCII. -/
def asciiScans : ScanRuntime := { asciiTables with isDigit := Char.isDigit }

/-- An event with a source address only. -/
def eventFrom (sourceIp : String) : SocEvent where
  eventTime := 0
  eventType := "authentication"
  sourceIp := some sourceIp
  destinationIp := none
  userAgent := none
  message := none

/-- A store with two events. -/
def twoEvents : IntelStore where
  sources :=
    { socEvents := (Table.empty.insert (eventFrom "192.0.2.1")).insert (eventFrom "192.0.2.2")
      socAlerts := Table.empty
      phishingIndicators := Table.empty
      phishingAnalyses := Table.empty
      documentIndicators := Table.empty
      documentEmbeddedArtifacts := Table.empty
      documentAnalyses := Table.empty
      targets := Table.empty
      apiAssessments := Table.empty
      apiEndpoints := Table.empty
      unifiedEntities := Table.empty
      incidentEvidence := Table.empty }
  runs := Table.empty

/-- The address of the second event. -/
def secondAddress : Origin where
  kind := .ipv4
  value := "192.0.2.2"
  sourceModule := "soc"
  entityType := "event"
  entityId := 2
  context := "authentication"
  confidence := 75
  matchType := .exact

/-- **The second event is never examined** by runs of one observation each. -/
theorem second_event_never_examined :
    secondAddress ∈ twoEvents.sources.storedOrigins asciiScans ∧
      ¬ ∃ calls, (∀ call ∈ calls, call.maximum = 1) ∧
        twoEvents.Examines asciiScans calls secondAddress := by
  refine ⟨by decide +kernel, ?_⟩
  rintro ⟨calls, bounded, examined⟩
  obtain ⟨call, member, found⟩ := (examines_iff calls secondAddress twoEvents).mp examined
  rw [bounded call member] at found
  revert found
  decide +kernel

end ThreatScope.ThreatIntelligence
