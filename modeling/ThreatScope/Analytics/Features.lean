import ThreatScope.Analytics.Records
import ThreatScope.Integrations.Deliveries
import ThreatScope.Operations.Backups
import ThreatScope.Vulnerabilities.Priority

/-!
# Features and what they read

The tables that `extract_feature` counts, with the columns that it looks at, and what the rest of
the platform does to their rows as time passes: which rows are inserted, how a row changes, and
which rows are deleted. Columns that no feature looks at are left out, so a change of such a
column is no change here. Nor is a restore of the whole database.
-/

set_option autoImplicit false

namespace ThreatScope.Analytics

open Library AccessControl

/-! ## Rows -/

/-- A row of which only `created_at` is read. -/
structure CreatedRow where
  createdAt : Instant

/-- A row of `login_attempts`. -/
structure LoginAttemptRow where
  attemptedAt : Instant
  success : Bool

/-- A row of `security_audit_events`. -/
structure AuditEventRow where
  occurredAt : Instant
  eventType : String
  action : String
  statusCode : Option Nat

/-- A row of `auth_sessions`. -/
structure AuthSessionRow where
  createdAt : Instant
  revokedAt : Option Instant
deriving DecidableEq

/-- A row of `findings`. -/
structure FindingRow where
  createdAt : Instant
  targetId : Option Nat

/-- The severity of a finding or an alert. -/
inductive FindingSeverity where
  | info
  | low
  | medium
  | high
  | critical
deriving DecidableEq

/-- `severity.in_(["high", "critical"])`. -/
def FindingSeverity.isHigh : FindingSeverity → Bool
  | .high | .critical => true
  | _ => false

/-- A row of `api_endpoints`. -/
structure ApiEndpointRow where
  createdAt : Instant
  assessmentId : Nat

/-- A row of `api_findings`. -/
structure ApiFindingRow where
  createdAt : Instant
  assessmentId : Nat
  severity : FindingSeverity

/-- A row of `soc_alerts`. -/
structure SocAlertRow where
  createdAt : Instant
  severity : FindingSeverity

/-- `DocumentAnalysis.analysis_status`. -/
inductive AnalysisStatus where
  | processing
  | completed
  | limited
  | failed
deriving DecidableEq

/-- A row of `document_analyses`. -/
structure DocumentAnalysisRow where
  createdAt : Instant
  analysisStatus : AnalysisStatus

/-- A row of `threat_indicators`. -/
structure ThreatIndicatorRow where
  active : Bool
  validUntil : Option Instant

/-- A row of `detection_matches`. -/
structure DetectionMatchRow where
  eventTimestamp : Instant

/-- `DetectionExecution.status`. -/
inductive DetectionExecutionStatus where
  | running
  | completed
  | failed
deriving DecidableEq

/-- A row of `detection_executions`. -/
structure DetectionExecutionRow where
  startedAt : Instant
  status : DetectionExecutionStatus

/-- A row of `vm_vulnerabilities`. -/
structure VulnerabilityRow where
  firstSeenAt : Instant
  severity : Vulnerabilities.Severity
  dueAt : Option Instant
  status : Vulnerabilities.VulnerabilityStatus

/-- `RemediationTask.status`. -/
inductive TaskStatus where
  | todo
  | inProgress
  | blocked
  | completed
  | cancelled
deriving DecidableEq

/-- The status as it is stored. -/
def TaskStatus.text : TaskStatus → String
  | .todo => "todo"
  | .inProgress => "in_progress"
  | .blocked => "blocked"
  | .completed => "completed"
  | .cancelled => "cancelled"

/-- A row of `vm_remediation_tasks`. -/
structure RemediationTaskRow where
  createdAt : Instant
  status : TaskStatus

/-- A row of `soar_executions`. -/
structure SoarExecutionRow where
  createdAt : Instant
  status : Soar.ExecutionStatus

/-- A row of `soar_approvals`. -/
structure SoarApprovalRow where
  createdAt : Instant
  status : Soar.ApprovalStatus

/-- A row of `integration_deliveries`. -/
structure ConnectorDeliveryRow where
  createdAt : Instant
  connectorId : Nat
  status : Integrations.DeliveryStatus
  attemptCount : Nat
  startedAt : Option Instant
  completedAt : Option Instant

/-- A row of `integration_connectors`. -/
structure ConnectorInstanceRow where
  circuitState : Integrations.CircuitState

/-- A row of `integration_inbound_events`. -/
structure InboundEventRow where
  createdAt : Instant
  signatureStatus : String
  replayStatus : String

/-- A row of `integration_health_checks`. -/
structure HealthCheckRow where
  createdAt : Instant
  /-- The status is "passed". -/
  passed : Bool

/-- A row of `backup_records`. -/
structure BackupRow where
  createdAt : Instant
  status : Operations.BackupStatus

/-- `RestoreRecord.status`. -/
inductive RestoreState where
  | validating
  | validated
  | validationFailed
  | pendingRestart
  | stageFailed
  | succeeded
deriving DecidableEq

/-- The status as it is stored. -/
def RestoreState.text : RestoreState → String
  | .validating => "validating"
  | .validated => "validated"
  | .validationFailed => "validation_failed"
  | .pendingRestart => "pending_restart"
  | .stageFailed => "stage_failed"
  | .succeeded => "succeeded"

/-- A row of `restore_records`. -/
structure RestoreRow where
  createdAt : Instant
  status : RestoreState

/-- `OperationalJob.status`. -/
inductive OperationalJobStatus where
  | running
  | succeeded
  | failed
  | consumed
deriving DecidableEq

/-- A row of `operational_jobs`. -/
structure OperationalJobRow where
  createdAt : Instant
  jobType : String
  status : OperationalJobStatus

/-! ## Tables -/

/-- The tables. -/
inductive Source where
  | loginAttempt
  | securityAuditEvent
  | authSession
  | finding
  | apiEndpoint
  | apiFinding
  | socAlert
  | documentAnalysis
  | documentFinding
  | phishingFinding
  | incidentCase
  | indicatorMatch
  | threatIndicator
  | detectionMatch
  | detectionExecution
  | vulnerabilityRecord
  | remediationTask
  | soarExecution
  | soarApproval
  | connectorDelivery
  | connectorInstance
  | connectorDeadLetter
  | connectorInboundEvent
  | connectorHealthCheck
  | backupRecord
  | restoreRecord
  | operationalJob
deriving DecidableEq

/-- The rows of a table. -/
abbrev Source.Row : Source → Type
  | .loginAttempt => LoginAttemptRow
  | .securityAuditEvent => AuditEventRow
  | .authSession => AuthSessionRow
  | .finding => FindingRow
  | .apiEndpoint => ApiEndpointRow
  | .apiFinding => ApiFindingRow
  | .socAlert => SocAlertRow
  | .documentAnalysis => DocumentAnalysisRow
  | .documentFinding => CreatedRow
  | .phishingFinding => CreatedRow
  | .incidentCase => CreatedRow
  | .indicatorMatch => CreatedRow
  | .threatIndicator => ThreatIndicatorRow
  | .detectionMatch => DetectionMatchRow
  | .detectionExecution => DetectionExecutionRow
  | .vulnerabilityRecord => VulnerabilityRow
  | .remediationTask => RemediationTaskRow
  | .soarExecution => SoarExecutionRow
  | .soarApproval => SoarApprovalRow
  | .connectorDelivery => ConnectorDeliveryRow
  | .connectorInstance => ConnectorInstanceRow
  | .connectorDeadLetter => CreatedRow
  | .connectorInboundEvent => InboundEventRow
  | .connectorHealthCheck => HealthCheckRow
  | .backupRecord => BackupRow
  | .restoreRecord => RestoreRow
  | .operationalJob => OperationalJobRow

/-- The contents of the tables. -/
abbrev SourceTables := (source : Source) → Table source.Row

/-- No rows yet. -/
def SourceTables.empty : SourceTables := fun _ => .empty

/-- The tables with one of them changed. -/
def SourceTables.modify (tables : SourceTables) (source : Source)
    (change : Table source.Row → Table source.Row) : SourceTables :=
  Function.update tables source (change (tables source))

/-! ## What the platform does to them -/

/-- The rows that are inserted at a time. Most tables keep the time of the insertion; a match of a
detection has the time of the event that it matches, and a vulnerability the time at which its
evidence was observed. -/
def Inserts (now : Instant) : (source : Source) → source.Row → Prop
  | .loginAttempt, row => row.attemptedAt = now
  | .securityAuditEvent, row => row.occurredAt = now
  | .authSession, row => row = ⟨now, none⟩
  | .finding, row => row.createdAt = now
  | .apiEndpoint, row => row.createdAt = now
  | .apiFinding, row => row.createdAt = now
  | .socAlert, row => row.createdAt = now
  | .documentAnalysis, row => row.createdAt = now
  | .documentFinding, row => row.createdAt = now
  | .phishingFinding, row => row.createdAt = now
  | .incidentCase, row => row.createdAt = now
  | .indicatorMatch, row => row.createdAt = now
  | .threatIndicator, row => row.active = true
  | .detectionMatch, _ => True
  | .detectionExecution, row => row = ⟨now, .running⟩
  | .vulnerabilityRecord, row => row.status = .new
  | .remediationTask, row => row = ⟨now, .todo⟩
  | .soarExecution, row => row.createdAt = now
  | .soarApproval, row => row = ⟨now, .pending⟩
  | .connectorDelivery, row =>
    row = { createdAt := now, connectorId := row.connectorId, status := .queued,
            attemptCount := 0, startedAt := none, completedAt := none }
  | .connectorInstance, row => row.circuitState = .closed
  | .connectorDeadLetter, row => row.createdAt = now
  | .connectorInboundEvent, row => row = ⟨now, "valid", "accepted"⟩
  | .connectorHealthCheck, row => row.createdAt = now
  | .backupRecord, row => row = ⟨now, .verified⟩
  | .restoreRecord, row => row = ⟨now, .validating⟩
  | .operationalJob, row =>
    row.createdAt = now ∧ row.status = .running ∧
      (row.jobType = "database_backup" ∨ row.jobType = "backup_retention_preview")

/-- The changes of a row at a time. -/
def Changes (now : Instant) : (source : Source) → source.Row → source.Row → Prop
  -- `revoke_session` and `revoke_user_sessions`.
  | .authSession, old, new => old.revokedAt = none ∧ new = { old with revokedAt := some now }
  -- The revocation of an indicator, and its reversal.
  | .threatIndicator, old, new => new = { old with active := new.active }
  | .detectionExecution, old, new => old.status = .running ∧ new = { old with status := new.status }
  -- Another sighting, a merge, an edit or a change of status.
  | .vulnerabilityRecord, old, new => new.firstSeenAt ≤ old.firstSeenAt
  | .remediationTask, old, new => new = { old with status := new.status }
  | .soarExecution, old, new => new = { old with status := new.status }
  | .soarApproval, old, new =>
    old.status.isOpen = true ∧ new = { old with status := new.status }
  | .connectorDelivery, old, new =>
    new.createdAt = old.createdAt ∧ new.connectorId = old.connectorId
  | .connectorInstance, _, _ => True
  | .backupRecord, old, new => new = { old with status := new.status }
  | .restoreRecord, old, new => new = { old with status := new.status }
  | .operationalJob, old, new => new = { old with status := new.status }
  | _, _, _ => False

/-- The rows that can be deleted at a time: by the user, by retention, or with demo data. -/
def Deletes (now : Instant) : (source : Source) → source.Row → Prop
  -- `clear_failures` and the cleanup of `record_attempt`.
  | .loginAttempt, row => row.success = false ∨ row.attemptedAt < now - days 30
  | .authSession, row => row.revokedAt.isSome = true
  | .finding, _ => True
  | .apiEndpoint, _ => True
  | .apiFinding, _ => True
  | .documentAnalysis, _ => True
  | .documentFinding, _ => True
  | .phishingFinding, _ => True
  | .incidentCase, _ => True
  -- With an indicator of the demo.
  | .indicatorMatch, _ => True
  | .threatIndicator, _ => True
  | .detectionMatch, _ => True
  | .detectionExecution, row => row.status ≠ .running
  | .remediationTask, _ => True
  | .soarExecution, _ => True
  | .soarApproval, _ => True
  | .connectorDelivery, _ => True
  | .connectorInstance, _ => True
  -- With a connector of the demo.
  | .connectorDeadLetter, _ => True
  | .connectorInboundEvent, _ => True
  | .connectorHealthCheck, row => row.createdAt < now - days 90
  -- A deleted backup may be verified again, and is then invalid.
  | .backupRecord, row => row.status = .deleted ∨ row.status = .invalid
  | .operationalJob, row => row.status = .succeeded
  | _, _ => False

/-- A change of one row of one table. -/
inductive Mutation where
  | insert (source : Source) (row : source.Row)
  | change (source : Source) (id : Nat) (row : source.Row)
  | delete (source : Source) (id : Nat)

/-- What happens at a time. -/
structure Occurrence where
  time : Instant
  mutation : Mutation

/-- The tables after something has happened. -/
def SourceTables.next (tables : SourceTables) (occurrence : Occurrence) : SourceTables :=
  match occurrence.mutation with
  | .insert source row => tables.modify source fun table => table.insert row
  | .change source id row => tables.modify source fun table => table.modify id fun _ => row
  | .delete source id => tables.modify source fun table => table.deleteWhere fun key _ => key == id

/-- It can happen to the tables as they are. -/
def Occurrence.Possible (tables : SourceTables) (occurrence : Occurrence) : Prop :=
  match occurrence.mutation with
  | .insert source row => Inserts occurrence.time source row
  | .change source id row =>
    ∃ old, (tables source).get? id = some old ∧ Changes occurrence.time source old row
  | .delete source id => ∃ old, (tables source).get? id = some old ∧
      Deletes occurrence.time source old

/-- A history of the platform, in the order of time: what happens in it is possible when it
happens. -/
structure IsHistory (occurrences : List Occurrence) : Prop where
  ordered : occurrences.Pairwise fun first second => first.time ≤ second.time
  possible : ∀ move ∈ trace SourceTables.next .empty occurrences,
    move.input.Possible move.before

/-!
## Features

`extract_feature` of `analytics/features.py`: the value of a feature of the catalog in a window.
Most features count the rows of a table whose time lies in the window. Five do not: stale
indicators, the remediation backlog, overdue vulnerabilities and open circuits are counted as they
are now, and the latency and the retries of deliveries are read off the rows.
-/

/-! ## The catalog -/

/-- The keys of `FEATURE_CATALOG`, each with its domain first. -/
inductive FeatureKey where
  | authFailureCount
  | authSuccessCount
  | authAccessDenialCount
  | authPermissionChangeCount
  | authRoleAssignmentCount
  | authMfaFailureCount
  | authSessionCreationCount
  | authSessionInvalidationCount
  | webFindingCount
  | apiEndpointCount
  | apiFindingCount
  | apiHighSeverityFindingCount
  | socAlertCount
  | socHighSeverityAlertCount
  | documentFindingCount
  | documentAnalysisFailureCount
  | phishingFindingCount
  | caseCreationCount
  | threatIntelMatchCount
  | threatIntelStaleIndicatorCount
  | detectionsMatchCount
  | detectionsExecutionFailureCount
  | vulnerabilityNewCount
  | vulnerabilityCriticalCount
  | vulnerabilityRemediationBacklogCount
  | vulnerabilityOverdueCount
  | soarExecutionFailureCount
  | soarApprovalRejectionCount
  | integrationDeliveryFailureCount
  | integrationDeliveryLatencyMs
  | integrationRetryCount
  | integrationCircuitOpenCount
  | integrationDeadLetterCount
  | integrationSignatureFailureCount
  | integrationReplayAttemptCount
  | integrationHealthDegradationCount
  | operationsDiagnosticFailureCount
  | operationsBackupFailureCount
  | operationsRestoreFailureCount
  | operationsReportFailureCount
  | auditIntegrityWarningCount
  | platformRateLimitCount
deriving DecidableEq

def maxValues : Nat := 10000

def maxRangeSeconds : Int := 366 * 86400

/-! ## Queries -/

section Queries

variable (tables : SourceTables) (start stop : Instant)

/-- `timestamp >= start, timestamp < end`. -/
def within (timestamp : Instant) : Bool := decide (start ≤ timestamp) && decide (timestamp < stop)

/-- `float(query.limit(MAX_VALUES + 1).count())`. -/
def countRows (source : Source) (test : source.Row → Bool) : Rat :=
  (min ((tables source).count fun _ row => test row) (maxValues + 1) : Nat)

/-- `_count`. -/
def countWithin (source : Source) (timestamp : source.Row → Instant) (filter : source.Row → Bool) :
    Rat :=
  countRows tables source fun row => within start stop (timestamp row) && filter row

/-- `_count` over the audit events. -/
def countAudit (condition : AuditEventRow → Bool) : Rat :=
  countWithin tables start stop .securityAuditEvent AuditEventRow.occurredAt condition

/-- The rows of a query with a limit, in the order of their keys. -/
def limitedRows (source : Source) (test : source.Row → Bool) : List source.Row :=
  (((tables source).rows.filter fun row => test row.2).take (maxValues + 1)).map Prod.snd

end Queries

/-- `OperationalJob.job_type.like("%report%")`. -/
def likeReport (jobType : String) : Bool :=
  jobType.toLower.toList.tails.any fun rest => "report".toList.isPrefixOf rest

/-- `max(0.0, (completed_at - started_at).total_seconds() * 1000)`. -/
def durationMs (started completed : Instant) : Rat :=
  max 0 ((completed - started : Int) / 1000 : Rat)

/-- The mean of durations, none without one. `average` is `stable_round(fmean(values))`. -/
def meanDuration (average : List Rat → Rat) (durations : List Rat) :
    Except ServiceError (Option Rat) :=
  if maxValues < durations.length then .error (.valueError "Feature sample limit exceeded")
  else if durations.isEmpty then .ok none
  else .ok (some (average durations))

/-- The value that `extract_feature` reads, for a window that has been checked. -/
def FeatureKey.read (average : List Rat → Rat) (tables : SourceTables) (start stop : Instant)
    (entityId : Option Nat) : FeatureKey → Except ServiceError (Option Rat)
  | .authFailureCount => .ok (countWithin tables start stop .loginAttempt
      LoginAttemptRow.attemptedAt fun row => !row.success)
  | .authSuccessCount => .ok (countWithin tables start stop .loginAttempt
      LoginAttemptRow.attemptedAt LoginAttemptRow.success)
  | .authAccessDenialCount => .ok (countAudit tables start stop fun row =>
    row.eventType == "authorization_denied")
  | .authPermissionChangeCount => .ok (countAudit tables start stop fun row =>
    ["set_role_permissions", "permission_check"].contains row.action)
  | .authRoleAssignmentCount => .ok (countAudit tables start stop fun row =>
    row.eventType == "role_assigned")
  | .authMfaFailureCount => .ok (countAudit tables start stop fun row =>
    ["mfa_login_failure", "totp_enrollment_failed"].contains row.eventType)
  | .authSessionCreationCount => .ok (countWithin tables start stop .authSession
      AuthSessionRow.createdAt fun _ => true)
  | .authSessionInvalidationCount => .ok (countRows tables .authSession fun row =>
    row.revokedAt.any (within start stop))
  | .webFindingCount => .ok (countWithin tables start stop .finding
      FindingRow.createdAt fun row => entityId.all fun id => row.targetId == some id)
  | .apiEndpointCount => .ok (countWithin tables start stop .apiEndpoint
      ApiEndpointRow.createdAt fun row => entityId.all fun id => row.assessmentId == id)
  | .apiFindingCount => .ok (countWithin tables start stop .apiFinding
      ApiFindingRow.createdAt fun row => entityId.all fun id => row.assessmentId == id)
  | .apiHighSeverityFindingCount => .ok (countWithin tables start stop .apiFinding
      ApiFindingRow.createdAt fun row =>
        row.severity.isHigh && entityId.all fun id => row.assessmentId == id)
  | .socAlertCount => .ok (countWithin tables start stop .socAlert
      SocAlertRow.createdAt fun _ => true)
  | .socHighSeverityAlertCount => .ok (countWithin tables start stop .socAlert
      SocAlertRow.createdAt fun row => row.severity.isHigh)
  | .documentFindingCount => .ok (countWithin tables start stop .documentFinding
      CreatedRow.createdAt fun _ => true)
  | .documentAnalysisFailureCount => .ok (countWithin tables start stop .documentAnalysis
      DocumentAnalysisRow.createdAt fun row => row.analysisStatus == .failed)
  | .phishingFindingCount => .ok (countWithin tables start stop .phishingFinding
      CreatedRow.createdAt fun _ => true)
  | .caseCreationCount => .ok (countWithin tables start stop .incidentCase
      CreatedRow.createdAt fun _ => true)
  | .threatIntelMatchCount => .ok (countWithin tables start stop .indicatorMatch
      CreatedRow.createdAt fun _ => true)
  | .threatIntelStaleIndicatorCount => .ok (countRows tables .threatIndicator fun row =>
    row.active && row.validUntil.any fun validUntil => validUntil < stop)
  | .detectionsMatchCount => .ok (countWithin tables start stop .detectionMatch
      DetectionMatchRow.eventTimestamp fun _ => true)
  | .detectionsExecutionFailureCount => .ok (countWithin tables start stop .detectionExecution
      DetectionExecutionRow.startedAt fun row => row.status == .failed)
  | .vulnerabilityNewCount => .ok (countWithin tables start stop .vulnerabilityRecord
      VulnerabilityRow.firstSeenAt fun _ => true)
  | .vulnerabilityCriticalCount => .ok (countWithin tables start stop .vulnerabilityRecord
      VulnerabilityRow.firstSeenAt fun row => row.severity == .critical)
  | .vulnerabilityRemediationBacklogCount => .ok (countRows tables .remediationTask fun row =>
    decide (row.createdAt < stop) && !(["done", "cancelled"].contains row.status.text))
  | .vulnerabilityOverdueCount => .ok (countRows tables .vulnerabilityRecord fun row =>
    row.dueAt.any (fun dueAt => dueAt < stop) &&
      !(["resolved", "closed"].contains row.status.text))
  | .soarExecutionFailureCount => .ok (countWithin tables start stop .soarExecution
      SoarExecutionRow.createdAt fun row =>
        row.status == .failed || row.status == .rollbackFailed)
  | .soarApprovalRejectionCount => .ok (countWithin tables start stop .soarApproval
      SoarApprovalRow.createdAt fun row => row.status == .rejected)
  | .integrationDeliveryFailureCount => .ok (countWithin tables start stop .connectorDelivery
      ConnectorDeliveryRow.createdAt fun row => row.status == .failed || row.status == .deadLetter)
  | .integrationDeliveryLatencyMs =>
    meanDuration average ((limitedRows tables .connectorDelivery fun row =>
      within start stop row.createdAt && row.startedAt.isSome && row.completedAt.isSome &&
        entityId.all fun id => row.connectorId == id).map fun row =>
          durationMs (row.startedAt.getD 0) (row.completedAt.getD 0))
  | .integrationRetryCount =>
    .ok (some ((limitedRows tables .connectorDelivery fun row =>
      within start stop row.createdAt && entityId.all fun id => row.connectorId == id).map
        ConnectorDeliveryRow.attemptCount).sum)
  | .integrationCircuitOpenCount => .ok (countRows tables .connectorInstance fun row =>
    row.circuitState == .opened)
  | .integrationDeadLetterCount => .ok (countWithin tables start stop .connectorDeadLetter
      CreatedRow.createdAt fun _ => true)
  | .integrationSignatureFailureCount => .ok (countWithin tables start stop
      .connectorInboundEvent InboundEventRow.createdAt fun row => row.signatureStatus != "valid")
  | .integrationReplayAttemptCount => .ok (countWithin tables start stop
      .connectorInboundEvent InboundEventRow.createdAt fun row => row.replayStatus != "accepted")
  | .integrationHealthDegradationCount => .ok (countWithin tables start stop
      .connectorHealthCheck HealthCheckRow.createdAt fun row => !row.passed)
  | .operationsDiagnosticFailureCount => .ok (countWithin tables start stop .operationalJob
      OperationalJobRow.createdAt fun row =>
        row.status == .failed && ["diagnostics", "health_check"].contains row.jobType)
  | .operationsBackupFailureCount => .ok (countWithin tables start stop .backupRecord
      BackupRow.createdAt fun row => row.status == .invalid)
  | .operationsRestoreFailureCount => .ok (countWithin tables start stop .restoreRecord
      RestoreRow.createdAt fun row => ["failed", "invalid"].contains row.status.text)
  | .operationsReportFailureCount => .ok (countWithin tables start stop .operationalJob
      OperationalJobRow.createdAt fun row => row.status == .failed && likeReport row.jobType)
  | .auditIntegrityWarningCount => .ok (countAudit tables start stop fun row =>
    ["audit_integrity_warning", "audit_integrity_failure"].contains row.eventType)
  | .platformRateLimitCount => .ok (countAudit tables start stop fun row =>
    row.statusCode == some 429)

def validateWindow (start stop : Instant) : Except ServiceError Unit :=
  let seconds := (stop - start).tdiv 1000000
  if seconds ≤ 0 ∨ maxRangeSeconds < seconds then
    .error (.valueError "Time range must be positive and within the server bound")
  else .ok ()

/-- `_bounded_scope`, for an entity. -/
def boundedScope (entityId : Option Nat) : Except ServiceError Unit :=
  if entityId = some 0 then .error (.valueError "Entity identifier must be a positive integer")
  else .ok ()

/-- The value of `extract_feature`. -/
def FeatureKey.extract (average : List Rat → Rat) (tables : SourceTables) (feature : FeatureKey)
    (start stop : Instant) (entityId : Option Nat) : Except ServiceError (Option Rat) := do
  validateWindow start stop
  boundedScope entityId
  feature.read average tables start stop entityId

end ThreatScope.Analytics
