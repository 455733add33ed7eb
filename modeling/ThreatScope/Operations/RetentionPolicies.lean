import ThreatScope.AccessControl.Accounts

/-!
# Retention policies

The preview of `platform_operations/retention_service.py`. A policy names an entity type,
an age and a number of rows to keep. The preview selects the rows that are old enough,
sorts their ids and offers all but the last ones for deletion.

The last ones are cut off by a slice with a negative end, `all_ids[:-k]`. Without a row to
keep the end is not negative any more: `all_ids[:-0]` is the empty list, and such a policy
never offers anything (`preview_keeps_newest_iff`). Four of the shipped policies keep zero
rows.
-/

set_option autoImplicit false

namespace ThreatScope.Operations

open Library AccessControl

/-! ## Rows that a policy can select -/

/-- The models that `_model_and_filters` selects from. -/
inductive RetainedModel where
  | operationalJob | backupRecord | exportPackage | loginAttempt | authSession
  | mfaLoginChallenge | notification | socActivity | threatIntelImport | threatCorrelationRun
  | detectionExecution | detectionReport | assetSynchronizationRun | vulnerabilityIngestionRun
  | soarExecution | soarReport | connectorDeliveryAttempt | connectorDelivery
  | connectorInboundEvent | connectorHealthCheck | connectorReplayNonce
  | connectorInboundRateCounter | connectorReport | analyticsJob | analyticsBaseline
  | analyticsBacktest | anomalyContribution | anomalyFeedback | securityAnomaly
  | analyticsSuppression | analyticsDriftRecord | analyticsReport | analyticsDetector
deriving DecidableEq

/-- The columns that the filters read, and those of a notification and an activity. -/
inductive Column where
  | status | completedAt | deletedAt | isProtected | attemptedAt | revokedAt | expiresAt | usedAt
  | isRead | createdAt | updatedAt | entityType | entityId | mode | triggerSourceType | jobId
  | activeVersionId | detectorVersionId | baselineId | linkedCaseId | anomalyId | endsAt
  | detectedAt | title | message | type | action
deriving DecidableEq

/-- What a column holds. -/
inductive Cell where
  | null
  | text (value : String)
  | instant (value : Instant)
  | flag (value : Bool)
  | number (value : Nat)
deriving DecidableEq

/-- A row as its columns. -/
abbrev RetainedRow : Type := Column → Cell

/-- A row from the columns that are set. -/
def rowOf (cells : List (Column × Cell)) : RetainedRow :=
  fun column => ((cells.find? fun cell => cell.1 = column).map Prod.snd).getD .null

/-- The tables of the models. -/
abbrev RetainedTables : Type := RetainedModel → Table RetainedRow

/-! ## Filters

A comparison with `NULL` is not true, so it selects no row. -/

/-- A condition on the id and the columns of a row. -/
abbrev RowFilter : Type := Nat → RetainedRow → Bool

namespace RowFilter

/-- `column == value`. -/
def equals (column : Column) (value : String) : RowFilter :=
  fun _ row => row column = .text value

/-- `column != value`. -/
def differs (column : Column) (value : String) : RowFilter :=
  fun _ row => row column ≠ .null ∧ row column ≠ .text value

/-- `column.in_(values)`. -/
def among (column : Column) (values : List String) : RowFilter :=
  fun _ row => values.any fun value => row column = .text value

/-- `column < bound`. -/
def before (column : Column) (bound : Instant) : RowFilter :=
  fun _ row =>
    match row column with
    | .instant value => value < bound
    | _ => false

/-- `column.is_(value)`. -/
def isFlag (column : Column) (value : Bool) : RowFilter :=
  fun _ row => row column = .flag value

/-- `column.is_(None)`. -/
def isNull (column : Column) : RowFilter :=
  fun _ row => row column = .null

/-- `column.is_not(None)`. -/
def isNotNull (column : Column) : RowFilter :=
  fun _ row => row column ≠ .null

/-- `column.like("operational_%")`: the underscore stands for any one character, and letters
are compared without their case. -/
def likeOperational (column : Column) : RowFilter :=
  fun _ row =>
    match row column with
    | .text value =>
      "operational".toList.isPrefixOf (value.toList.map Char.toLower) &&
        "operational".length < value.length
    | _ => false

/-- `value NOT IN (cells)`, which is not true of a list with `NULL`. -/
def outside (value : Cell) (cells : List Cell) : Bool :=
  value ≠ .null ∧ .null ∉ cells ∧ value ∉ cells

end RowFilter

/-- The values of a column. -/
def RetainedTables.column (tables : RetainedTables) (model : RetainedModel) (column : Column) :
    List Cell :=
  (tables model).rows.map fun row => row.2 column

/-- The values of a column that are not `NULL`. -/
def RetainedTables.known (tables : RetainedTables) (model : RetainedModel) (column : Column) :
    List Cell :=
  (tables.column model column).filter (· ≠ .null)

/-! ## Policies -/

/-- A row of `retention_policies`. -/
structure RetentionPolicy where
  policyKey : String
  name : String
  entityType : String
  retentionDays : Nat
  enabled : Bool
  dryRunOnly : Bool
  minimumKeepCount : Nat
  lastPreviewAt : Option Instant

/-- The policies that are shipped: key, name, entity type, days and rows to keep. -/
def DEFAULTS : List (String × String × String × Nat × Nat) :=
  [("successful_jobs", "Old successful operational jobs", "operational_jobs", 90, 50),
    ("deleted_backups", "Deleted backup metadata", "deleted_backups", 365, 10),
    ("deleted_exports", "Deleted export metadata", "deleted_exports", 180, 10),
    ("login_attempts", "Expired login-attempt history", "login_attempts", 90, 100),
    ("revoked_sessions", "Revoked expired sessions", "revoked_sessions", 30, 20),
    ("used_mfa_challenges", "Used MFA challenges", "used_mfa_challenges", 7, 20),
    ("read_notifications", "Old read notifications", "read_notifications", 90, 20),
    ("old_activity", "Old operational activity", "old_activity", 180, 100),
    ("threat_intel_import_manifests", "Old threat-intelligence import manifests",
      "threat_intel_import_manifests", 365, 50),
    ("threat_correlation_runs", "Old completed threat-intelligence correlation runs",
      "threat_correlation_runs", 180, 50),
    ("detection_executions", "Old completed detection executions", "detection_executions", 180, 50),
    ("detection_reports", "Old generated detection reports", "detection_reports", 365, 25),
    ("vm_asset_sync_runs", "Old completed asset synchronization runs", "vm_asset_sync_runs",
      180, 25),
    ("vm_ingestion_runs", "Old completed vulnerability ingestion runs", "vm_ingestion_runs",
      180, 25),
    ("soar_dry_runs", "Old terminal SOAR dry runs", "soar_dry_runs", 90, 50),
    ("soar_simulations", "Old terminal SOAR simulations", "soar_simulations", 180, 50),
    ("soar_live_local_executions", "Old terminal SOAR live-local executions",
      "soar_live_local_executions", 365, 100),
    ("soar_reports", "Old generated SOAR reports", "soar_reports", 365, 25),
    ("integration_delivery_attempts", "Old connector delivery attempts",
      "integration_delivery_attempts", 180, 100),
    ("integration_successful_deliveries", "Old successful connector deliveries",
      "integration_successful_deliveries", 180, 100),
    ("integration_rejected_inbound", "Old rejected inbound events", "integration_rejected_inbound",
      90, 100),
    ("integration_health_checks", "Old connector health checks", "integration_health_checks",
      90, 50),
    ("integration_replay_nonces", "Expired inbound replay nonces", "integration_replay_nonces",
      1, 0),
    ("integration_inbound_rate_counters", "Expired inbound rate counters",
      "integration_inbound_rate_counters", 1, 0),
    ("integration_reports", "Old integration reports", "integration_reports", 365, 25),
    ("analytics_completed_jobs", "Old completed analytics jobs", "analytics_completed_jobs",
      90, 50),
    ("analytics_failed_jobs", "Old failed analytics jobs", "analytics_failed_jobs", 180, 50),
    ("analytics_baseline_history", "Inactive unreferenced analytics baseline history",
      "analytics_baseline_history", 365, 25),
    ("analytics_backtests", "Old analytics backtests", "analytics_backtests", 180, 25),
    ("analytics_anomaly_contributions",
      "Derived contributions for old dismissed unlinked anomalies",
      "analytics_anomaly_contributions", 365, 0),
    ("analytics_feedback_revisions", "Feedback revisions for old dismissed unlinked anomalies",
      "analytics_feedback_revisions", 365, 0),
    ("analytics_dismissed_anomalies", "Old dismissed unlinked analytics anomalies",
      "analytics_dismissed_anomalies", 365, 50),
    ("analytics_expired_suppressions", "Expired analytics suppressions",
      "analytics_expired_suppressions", 90, 10),
    ("analytics_drift_records", "Old acknowledged analytics drift records",
      "analytics_drift_records", 365, 25),
    ("analytics_reports", "Old generated analytics reports", "analytics_reports", 365, 25)]

/-- What `RetentionRun.summary_json` holds. -/
structure RetentionSummary where
  candidateIds : List Nat
  expiresAt : Instant
  entityType : String

/-- A row of `retention_runs` of mode `preview`. -/
structure RetentionRun where
  runKey : String
  policyId : Nat
  mode : String
  candidateCount : Nat
  deletedCount : Nat
  preservedCount : Nat
  status : String
  summary : RetentionSummary
  requestedByUserId : Nat
  completedAt : Instant

/-- The tables of the retention routes. -/
structure RetentionStore where
  policies : Table RetentionPolicy
  runs : Table RetentionRun
  tables : RetainedTables

def seedPolicies (store : RetentionStore) : RetentionStore :=
  { store with
    policies := DEFAULTS.foldl (fun policies (key, name, entity, days, keep) =>
      match policies.first? fun _ policy => policy.policyKey == key with
      | some _ => policies
      | none => policies.insert ⟨key, name, entity, days, true, true, keep, none⟩) store.policies }

/-! ## The query of a policy -/

/-- The states in which a SOAR execution has ended. -/
def terminal : List String :=
  ["completed", "completed_with_warnings", "failed", "cancelled", "rolled_back",
    "rollback_failed", "expired"]

section Query

open RowFilter

variable (tables : RetainedTables) (cutoff : Instant)

/-- The filters of the three kinds of SOAR executions. -/
def soarFilters (mode : String) : List RowFilter :=
  [equals .mode mode, among .status terminal, before .completedAt cutoff,
    differs .triggerSourceType "incident_case"]

/-- The ids of the anomalies that were closed long ago and belong to no case. -/
def oldDismissed : List Nat :=
  ((tables .securityAnomaly).rows.filter fun row =>
    [among .status ["dismissed", "resolved"], isNull .linkedCaseId,
      before .updatedAt cutoff].all fun clause => clause row.1 row.2).map Prod.fst

def unreferencedJob : RowFilter :=
  fun id _ => outside (.number id) (tables.known .analyticsBacktest .jobId)

/-- `anomaly_id.in_(old_dismissed)`. -/
def ofOldDismissed : RowFilter :=
  fun _ row => (oldDismissed tables cutoff).any fun id => row .anomalyId = .number id

end Query

open RowFilter in
def modelAndFilters (tables : RetainedTables) (policy : RetentionPolicy) (now : Instant) :
    Except String (RetainedModel × List RowFilter) :=
  let cutoff := now - days policy.retentionDays
  match policy.entityType with
  | "operational_jobs" =>
    .ok (.operationalJob, [equals .status "succeeded", before .completedAt cutoff])
  | "deleted_backups" =>
    .ok (.backupRecord,
      [isNotNull .deletedAt, before .deletedAt cutoff, isFlag .isProtected false])
  | "deleted_exports" => .ok (.exportPackage, [isNotNull .deletedAt, before .deletedAt cutoff])
  | "login_attempts" => .ok (.loginAttempt, [before .attemptedAt cutoff])
  | "revoked_sessions" => .ok (.authSession, [isNotNull .revokedAt, before .expiresAt now])
  | "used_mfa_challenges" =>
    .ok (.mfaLoginChallenge, [isNotNull .usedAt, before .usedAt cutoff])
  | "read_notifications" => .ok (.notification, [isFlag .isRead true, before .createdAt cutoff])
  | "old_activity" =>
    .ok (.socActivity, [before .createdAt cutoff, likeOperational .entityType])
  | "threat_intel_import_manifests" =>
    .ok (.threatIntelImport, [isNotNull .completedAt, before .completedAt cutoff])
  | "threat_correlation_runs" =>
    .ok (.threatCorrelationRun,
      [among .status ["completed", "failed"], before .completedAt cutoff])
  | "detection_executions" =>
    .ok (.detectionExecution,
      [among .status ["completed", "failed", "cancelled"], before .completedAt cutoff])
  | "detection_reports" => .ok (.detectionReport, [before .createdAt cutoff])
  | "vm_asset_sync_runs" =>
    .ok (.assetSynchronizationRun,
      [among .status ["completed", "failed"], before .completedAt cutoff])
  | "vm_ingestion_runs" =>
    .ok (.vulnerabilityIngestionRun,
      [among .status ["completed", "failed"], before .completedAt cutoff])
  | "soar_dry_runs" => .ok (.soarExecution, soarFilters cutoff "dry_run")
  | "soar_simulations" => .ok (.soarExecution, soarFilters cutoff "simulation")
  | "soar_live_local_executions" => .ok (.soarExecution, soarFilters cutoff "live_local")
  | "soar_reports" => .ok (.soarReport, [before .createdAt cutoff])
  | "integration_delivery_attempts" =>
    .ok (.connectorDeliveryAttempt, [isNotNull .completedAt, before .completedAt cutoff])
  | "integration_successful_deliveries" =>
    .ok (.connectorDelivery,
      [among .status ["succeeded", "succeeded_with_warnings"], before .completedAt cutoff])
  | "integration_rejected_inbound" =>
    .ok (.connectorInboundEvent, [equals .status "rejected", before .updatedAt cutoff])
  | "integration_health_checks" => .ok (.connectorHealthCheck, [before .createdAt cutoff])
  | "integration_replay_nonces" => .ok (.connectorReplayNonce, [before .expiresAt now])
  | "integration_inbound_rate_counters" =>
    .ok (.connectorInboundRateCounter, [before .expiresAt now])
  | "integration_reports" => .ok (.connectorReport, [before .createdAt cutoff])
  | "analytics_completed_jobs" =>
    .ok (.analyticsJob,
      [equals .status "succeeded", before .completedAt cutoff, unreferencedJob tables])
  | "analytics_failed_jobs" =>
    .ok (.analyticsJob,
      [equals .status "failed", before .completedAt cutoff, unreferencedJob tables])
  | "analytics_baseline_history" =>
    .ok (.analyticsBaseline,
      [before .createdAt cutoff,
        fun _ row => outside (row .detectorVersionId)
          (tables.known .analyticsDetector .activeVersionId),
        fun id _ => outside (.number id) (tables.known .securityAnomaly .baselineId),
        fun id _ => outside (.number id) (tables.column .analyticsDriftRecord .baselineId)])
  | "analytics_backtests" =>
    .ok (.analyticsBacktest,
      [among .status ["succeeded", "failed", "cancelled"], before .createdAt cutoff])
  | "analytics_anomaly_contributions" =>
    .ok (.anomalyContribution, [ofOldDismissed tables cutoff])
  | "analytics_feedback_revisions" => .ok (.anomalyFeedback, [ofOldDismissed tables cutoff])
  | "analytics_dismissed_anomalies" =>
    .ok (.securityAnomaly, [fun id _ => (oldDismissed tables cutoff).contains id])
  | "analytics_expired_suppressions" =>
    .ok (.analyticsSuppression, [before .endsAt now, before .createdAt cutoff])
  | "analytics_drift_records" =>
    .ok (.analyticsDriftRecord, [equals .status "acknowledged", before .detectedAt cutoff])
  | "analytics_reports" => .ok (.analyticsReport, [before .createdAt cutoff])
  | _ => .error "Unsupported retention entity"

/-! ## The preview -/

/-- `values[:stop]`: a negative end counts from the last element. -/
def sliceTo (values : List Nat) (stop : Int) : List Nat :=
  values.take (if stop < 0 then (values.length + stop).toNat else stop.toNat)

/-- Whether a row satisfies every filter. -/
def selects (filters : List RowFilter) (id : Nat) (row : RetainedRow) : Bool :=
  filters.all fun filter => filter id row

/-- The ids that the query of a policy returns, in order. -/
def allIds (table : Table RetainedRow) (filters : List RowFilter) : List Nat :=
  ((table.rows.filter fun row => selects filters row.1 row.2).map Prod.fst).insertionSort (· ≤ ·)

/-- The ids that a preview offers for deletion. -/
def previewCandidates (ids : List Nat) (minimumKeepCount : Nat) : List Nat :=
  if minimumKeepCount < ids.length then sliceTo ids (-minimumKeepCount) else []

/-- The notification and the activity about a preview. -/
def RetentionStore.announcePreview (store : RetentionStore) (run : RetentionRun) (runId : Nat)
    (now : Instant) : RetentionStore :=
  let activity := rowOf
    [(.action, .text "retention_previewed"),
      (.message, .text (Text.truncate 500
        ("Retention preview " ++ run.runKey ++ " identified " ++
          toString run.summary.candidateIds.length ++ " candidates."))),
      (.entityType, .text "operational_retention"), (.entityId, .number runId),
      (.createdAt, .instant now)]
  let message := "Retention preview " ++ run.runKey ++ " is ready for review."
  let notification := rowOf
    [(.title, .text "Retention preview ready"), (.message, .text (Text.truncate 500 message)),
      (.type, .text "info"), (.entityType, .text "operational_retention"),
      (.entityId, .number runId), (.isRead, .flag false), (.createdAt, .instant now)]
  let known := (store.tables .notification).rows.any fun row =>
    row.2 .title = .text "Retention preview ready" && row.2 .message = .text message &&
      row.2 .entityType = .text "operational_retention" && row.2 .entityId = .number runId
  { store with
    tables := fun model =>
      if model = .socActivity then (store.tables model).insert activity
      else if model = .notification ∧ known = false then (store.tables model).insert notification
      else store.tables model }

/-- `retention_preview` with `preview`: a 404, a refusal, or the stored run. -/
def preview (store : RetentionStore) (policyId userId : Nat) (runKey : String) (now : Instant) :
    Except String (RetentionStore × RetentionRun) :=
  match store.policies.get? policyId with
  | none => .error "Retention policy not found"
  | some policy =>
    if policy.enabled = false then .error "Retention policy is disabled"
    else
      match modelAndFilters store.tables policy now with
      | .error message => .error message
      | .ok (model, filters) =>
        let ids := allIds (store.tables model) filters
        let candidates := previewCandidates ids policy.minimumKeepCount
        let run : RetentionRun :=
          { runKey
            policyId
            mode := "preview"
            candidateCount := candidates.length
            deletedCount := 0
            preservedCount := ids.length - candidates.length
            status := "preview_ready"
            summary := ⟨candidates, now + minutes 15, policy.entityType⟩
            requestedByUserId := userId
            completedAt := now }
        if store.runs.rows.any fun row => row.2.runKey == runKey then
          .error "IntegrityError"
        else
          let noted := { store with
            policies := store.policies.modify policyId fun policy =>
              { policy with lastPreviewAt := some now }
            runs := store.runs.insert run }
          .ok (noted.announcePreview run store.runs.nextKey now, run)

/-! ## What a preview offers -/

/-- The rows that a policy selects. -/
def RetentionStore.matching (store : RetentionStore) (policy : RetentionPolicy) (now : Instant) :
    List (Nat × RetainedRow) :=
  match modelAndFilters store.tables policy now with
  | .error _ => []
  | .ok (model, filters) =>
    (store.tables model).rows.filter fun row => selects filters row.1 row.2

/-- A preview keeps exactly the newest rows: it offers a matching row when as many matching
rows as the policy keeps have a larger id, and its two counts add up. -/
structure RetentionRun.KeepsNewest (run : RetentionRun) (matching : List (Nat × RetainedRow))
    (minimumKeepCount : Nat) : Prop where
  offered : ∀ id, id ∈ run.summary.candidateIds ↔
    id ∈ matching.map Prod.fst ∧ minimumKeepCount ≤ matching.countP fun row => id < row.1
  once : run.summary.candidateIds.Nodup
  counted : run.candidateCount = run.summary.candidateIds.length
  added : run.candidateCount + run.preservedCount = matching.length

section Newest

variable {ids : List Nat}

theorem countP_larger_lt {id : Nat} (inside : id ∈ ids) : ids.countP (id < ·) < ids.length := by
  refine lt_of_le_of_ne List.countP_le_length fun all => ?_
  have larger := List.countP_eq_length.mp all id inside
  simp at larger

/-- In an increasing list, an element is among the first ones when enough elements are
larger. -/
theorem mem_take_iff (increasing : ids.Pairwise (· < ·)) {count : Nat}
    (short : count ≤ ids.length) (id : Nat) :
    id ∈ ids.take count ↔ id ∈ ids ∧ ids.length - count ≤ ids.countP (id < ·) := by
  induction ids generalizing count with
  | nil => simp
  | cons first rest ih =>
    obtain ⟨below, increasing⟩ := List.pairwise_cons.mp increasing
    cases count with
    | zero =>
      constructor
      · intro inside
        exact absurd inside List.not_mem_nil
      · rintro ⟨inside, enough⟩
        have := countP_larger_lt inside
        omega
    | succ count =>
      have short : count ≤ rest.length := Nat.le_of_succ_le_succ short
      rw [List.take_succ_cons, List.mem_cons, List.mem_cons, ih increasing short]
      by_cases here : id = first
      · have larger : (first :: rest).countP (id < ·) = rest.length := by
          subst here
          rw [List.countP_cons_of_neg (by simp)]
          exact List.countP_eq_length.mpr fun other inside => by simpa using below other inside
        rw [larger]
        exact iff_of_true (.inl here) ⟨.inl here, by simp⟩
      · have same (inside : id ∈ rest) :
            (first :: rest).countP (id < ·) = rest.countP (id < ·) := by
          have := below id inside
          exact List.countP_cons_of_neg (by simp; omega)
        constructor
        · rintro (found | ⟨inside, enough⟩)
          · exact absurd found here
          · refine ⟨.inr inside, ?_⟩
            rw [same inside, List.length_cons]
            omega
        · rintro ⟨found | inside, enough⟩
          · exact absurd found here
          · rw [same inside, List.length_cons] at enough
            exact .inr ⟨inside, by omega⟩

variable {table : Table RetainedRow} {filters : List RowFilter}

theorem allIds_perm (table : Table RetainedRow) (filters : List RowFilter) :
    (allIds table filters).Perm
      ((table.rows.filter fun row => selects filters row.1 row.2).map Prod.fst) :=
  List.perm_insertionSort _ _

theorem allIds_increasing (table : Table RetainedRow) (filters : List RowFilter) :
    (allIds table filters).Pairwise (· < ·) := by
  have ordered : (allIds table filters).Pairwise (· ≤ ·) := List.pairwise_insertionSort _ _
  have distinct : (allIds table filters).Nodup :=
    (allIds_perm table filters).nodup_iff.mpr
      ((List.filter_sublist.map Prod.fst).nodup table.keys_nodup)
  exact (ordered.and distinct).imp fun bounds => lt_of_le_of_ne bounds.1 bounds.2

theorem length_allIds (table : Table RetainedRow) (filters : List RowFilter) :
    (allIds table filters).length =
      (table.rows.filter fun row => selects filters row.1 row.2).length := by
  rw [(allIds_perm table filters).length_eq, List.length_map]

theorem countP_allIds (table : Table RetainedRow) (filters : List RowFilter) (id : Nat) :
    (allIds table filters).countP (id < ·) =
      (table.rows.filter fun row => selects filters row.1 row.2).countP fun row => id < row.1 := by
  rw [(allIds_perm table filters).countP_eq, List.countP_map]
  rfl

theorem previewCandidates_zero (ids : List Nat) : previewCandidates ids 0 = [] := by
  unfold previewCandidates sliceTo
  split <;> simp

theorem previewCandidates_of_pos (ids : List Nat) {count : Nat} (some_kept : 0 < count) :
    previewCandidates ids count = ids.take (ids.length - count) := by
  unfold previewCandidates sliceTo
  split
  · rw [if_pos (by omega)]
    congr 1
    omega
  · rw [Nat.sub_eq_zero_of_le (by omega), List.take_zero]

theorem length_previewCandidates_le (ids : List Nat) (count : Nat) :
    (previewCandidates ids count).length ≤ ids.length := by
  rcases Nat.eq_zero_or_pos count with rfl | some_kept
  · rw [previewCandidates_zero]
    exact Nat.zero_le _
  · rw [previewCandidates_of_pos ids some_kept]
    exact List.length_take_le' _ _

end Newest

section Preview

variable {store later : RetentionStore} {policyId userId : Nat} {runKey : String} {now : Instant}
  {policy : RetentionPolicy} {run : RetentionRun}

theorem of_preview (stored : store.policies.get? policyId = some policy)
    (previewed : preview store policyId userId runKey now = .ok (later, run)) :
    ∃ table filters, store.matching policy now =
        table.rows.filter (fun row => selects filters row.1 row.2) ∧
      run.summary.candidateIds =
        previewCandidates (allIds table filters) policy.minimumKeepCount ∧
      run.candidateCount = run.summary.candidateIds.length ∧
      run.preservedCount = (allIds table filters).length - run.candidateCount := by
  unfold preview at previewed
  rw [stored] at previewed
  simp only at previewed
  split at previewed
  · cases previewed
  · unfold RetentionStore.matching
    cases selected : modelAndFilters store.tables policy now with
    | error message =>
      rw [selected] at previewed
      cases previewed
    | ok query =>
      obtain ⟨model, filters⟩ := query
      rw [selected] at previewed
      simp only at previewed
      split at previewed
      · cases previewed
      · cases previewed
        exact ⟨store.tables model, filters, rfl, rfl, rfl, rfl⟩

/-- **A preview keeps exactly the newest rows, unless the policy keeps none.** A policy that
keeps no row offers nothing, so it does what it should only when it selects nothing. -/
theorem preview_keeps_newest_iff (stored : store.policies.get? policyId = some policy)
    (previewed : preview store policyId userId runKey now = .ok (later, run)) :
    run.KeepsNewest (store.matching policy now) policy.minimumKeepCount ↔
      (policy.minimumKeepCount = 0 → store.matching policy now = []) := by
  obtain ⟨table, filters, selected, offers, counts, preserves⟩ := of_preview stored previewed
  have length := length_allIds table filters
  rw [← selected] at length
  constructor
  · intro keeps none_kept
    by_contra some_match
    obtain ⟨row, inside⟩ := List.exists_mem_of_ne_nil _ some_match
    have offered := (keeps.offered row.1).mpr
      ⟨List.mem_map_of_mem inside, none_kept ▸ Nat.zero_le _⟩
    rw [offers, none_kept, previewCandidates_zero] at offered
    exact List.not_mem_nil offered
  · intro nonempty
    refine ⟨fun id => ?_, ?_, counts, ?_⟩
    · have larger := countP_allIds table filters id
      have inside := (allIds_perm table filters).mem_iff (a := id)
      rw [← selected] at larger inside
      rw [offers, ← inside, ← larger]
      rcases Nat.eq_zero_or_pos policy.minimumKeepCount with none_kept | some_kept
      · have empty : allIds table filters = [] := by
          rw [nonempty none_kept] at length
          exact List.length_eq_zero_iff.mp length
        rw [empty, none_kept, previewCandidates_zero]
        simp
      · rw [previewCandidates_of_pos _ some_kept,
          mem_take_iff (allIds_increasing table filters) (Nat.sub_le _ _)]
        refine and_congr_right fun found => ?_
        have strict := countP_larger_lt found
        omega
    · rw [offers]
      have distinct := (allIds_increasing table filters).imp fun below => Nat.ne_of_lt below
      rcases Nat.eq_zero_or_pos policy.minimumKeepCount with none_kept | some_kept
      · rw [none_kept, previewCandidates_zero]
        exact List.nodup_nil
      · rw [previewCandidates_of_pos _ some_kept]
        exact (List.take_sublist _ _).nodup distinct
    · have fewer := length_previewCandidates_le (allIds table filters) policy.minimumKeepCount
      rw [preserves, counts, offers, ← length]
      omega

end Preview

/-! ## Two runs -/

/-- No policies, no runs, and some replay nonces that expired at the given instants. -/
def expiredNonces (expiries : List Instant) : RetentionStore where
  policies := .empty
  runs := .empty
  tables := fun model =>
    if model = .connectorReplayNonce then
      expiries.foldl
        (fun table expiry => table.insert (rowOf [(.expiresAt, .instant expiry)])) .empty
    else .empty

/-- The replay nonces of a store whose policy for them keeps one row. -/
def policyKeepingOne : RetentionStore :=
  { expiredNonces [1, 2] with
    policies := Table.empty.insert
      ⟨"integration_replay_nonces", "Expired inbound replay nonces", "integration_replay_nonces",
        1, true, true, 1, none⟩ }

theorem older_nonce_offered :
    ∃ later run, preview policyKeepingOne 1 1 "retention-a" 9 = .ok (later, run) ∧
      run.summary.candidateIds = [1] ∧
      ∃ policy, policyKeepingOne.policies.get? 1 = some policy ∧
        run.KeepsNewest (policyKeepingOne.matching policy 9) policy.minimumKeepCount := by
  refine ⟨_, _, rfl, by decide +kernel, _, rfl, ?_⟩
  exact (@preview_keeps_newest_iff policyKeepingOne _ 1 1 _ _ _ _ rfl rfl).mpr (by decide)

/-- The shipped policy for replay nonces offers none of them, although it keeps none. -/
theorem expired_nonce_kept :
    ¬ ∀ (store : RetentionStore) (policyId userId : Nat) (runKey : String) (now : Instant)
      (policy : RetentionPolicy) (later : RetentionStore) (run : RetentionRun),
      store.policies.get? policyId = some policy →
      preview store policyId userId runKey now = .ok (later, run) →
      run.KeepsNewest (store.matching policy now) policy.minimumKeepCount := by
  intro keeps
  have newest := keeps (seedPolicies (expiredNonces [1])) 23 1 "retention-a" 9 _ _ _ rfl rfl
  have offered := (newest.offered 1).mpr (by decide +kernel)
  exact absurd offered (by decide +kernel)

end ThreatScope.Operations
