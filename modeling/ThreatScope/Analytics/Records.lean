import ThreatScope.Soar.Records

/-!
# Records of the analytics

The rows of `analytics/models.py` that the anomalies of a detector come from and go to: the
detector and its versions, the suppressions, the anomalies themselves and what analysts say
about them. A float is kept as the rational number it denotes.
-/

set_option autoImplicit false

namespace ThreatScope.Analytics

open Library AccessControl
open Soar (IncidentCase IncidentEvidence)

/-! ## Exceptions and the runtime -/

/-- An exception that a function of the service raises. -/
inductive ServiceError where
  /-- `HTTPException(status, detail)`. -/
  | http (status : Nat) (detail : String)
  | valueError (text : String)
  | permissionError (text : String)
  /-- Another exception of Python, the driver or the database. -/
  | raised (name : String)
deriving DecidableEq

/-- What the analytics take from the Python runtime and the database. -/
structure AnalyticsRuntime extends Interpreter where
  /-- `hashlib.sha256(text.encode("utf-8")).hexdigest()`. -/
  sha256 : String → String
  /-- `float(value)` of an integer, `none` when it overflows. -/
  toFloat : Int → Option Rat
  /-- `f"{value:.2f}"`. -/
  fixedTwo : Rat → String
  /-- The integer an `INTEGER` column keeps of a text or a float. -/
  integerAffinity : Json → Option Int
  /-- The text a `VARCHAR` column keeps of a number. -/
  textAffinity : Json → String

def AnalyticsRuntime.deterministicHash (env : AnalyticsRuntime) (value : Json) : String :=
  env.sha256 (canonical env.toInterpreter value)

/-- The account that calls. -/
structure Actor where
  id : Nat
  displayName : String
  isSystemAdmin : Bool

/-! ## Detectors -/

/-- `AnalyticsDetector.lifecycle_state`. -/
inductive LifecycleState where
  | draft
  | validating
  | validated
  | active
  | degraded
  | disabled
  | retired
deriving DecidableEq

/-- A row of `analytics_detectors`. -/
structure AnalyticsDetector where
  templateKey : String
  name : String
  sourceDomain : String
  sourceEntity : String
  lifecycleState : LifecycleState := .draft
  degradedReason : Option String := none
  currentVersionNumber : Nat := 1
  activeVersionId : Option Nat := none
  limitedValidation : Bool := false
  demoOwned : Bool
  updatedByUserId : Option Nat
  optimisticLockVersion : Nat := 1
  retiredAt : Option Instant := none

/-! ## Suppressions -/

/-- What a suppression is about. A dimension that is `none` is not set. -/
structure SuppressionScope where
  detectorId : Option Nat
  sourceEntityType : Option String
  sourceEntityIdentifier : Option String
  approvedTag : Option String
  connectorId : Option Nat
  assetId : Option Nat
  apiEndpointId : Option Nat
  alertSource : Option String
  minimumScore : Option Rat
  maximumScore : Option Rat

/-- `AnalyticsSuppression.approval_state`. -/
inductive ApprovalState where
  | approved
  | pending
deriving DecidableEq

/-- A row of `analytics_suppressions`. -/
structure AnalyticsSuppression extends SuppressionScope where
  ownerUserId : Nat
  reason : String
  approvalState : ApprovalState
  broadScope : Bool
  emergency : Bool
  enabled : Bool := true
  startsAt : Instant
  endsAt : Instant
  maximumDurationSeconds : Nat
  hitCount : Nat := 0
  optimisticLockVersion : Nat := 1
  demoOwned : Bool
  lastReviewedAt : Instant

/-! ## Anomalies -/

/-- `SecurityAnomaly.status`. -/
inductive AnomalyStatus where
  | new
  | acknowledged
  | investigating
  | confirmed
  | dismissed
  | linkedToCase
  | resolved
deriving DecidableEq

/-- `SecurityAnomaly.suppression_status`. -/
inductive SuppressionStatus where
  | suppressed
  | notSuppressed
deriving DecidableEq

/-- `SecurityAnomaly.review_status`. -/
inductive ReviewStatus where
  | unreviewed
  | inReview
  | reviewed
  | feedbackRecorded
deriving DecidableEq

/-- A row of `security_anomalies`. -/
structure SecurityAnomaly where
  detectorId : Nat
  detectorVersionId : Nat
  baselineId : Nat
  sourceDomain : String
  sourceEntityType : String
  sourceEntityIdentifier : String
  observationWindowStart : Instant
  observationWindowEnd : Instant
  anomalyScore : Rat
  confidence : String
  severity : String
  status : AnomalyStatus := .new
  summary : String
  occurrenceCount : Nat := 1
  firstObservedAt : Instant
  lastObservedAt : Instant
  deduplicationKey : String
  reasonCode : String
  assignedAnalystId : Option Nat := none
  linkedCaseId : Option Nat := none
  suppressionStatus : SuppressionStatus := .notSuppressed
  reviewStatus : ReviewStatus := .unreviewed
  resolutionReason : Option String := none
  optimisticLockVersion : Nat := 1
  demoOwned : Bool
deriving DecidableEq

/-- A row of `anomaly_feedback`. -/
structure AnomalyFeedback where
  anomalyId : Nat
  analystUserId : Nat
  detectorVersionId : Nat
  label : String
  confidence : String
  reason : String
  safeCategory : Option String
  revisionNumber : Nat := 1
  previousFeedbackId : Option Nat

/-! ## The tables -/

/-- The tables that anomalies and suppressions are kept in, and the rows of other modules
that they refer to. -/
structure AnomalyStore where
  detectors : Table AnalyticsDetector
  suppressions : Table AnalyticsSuppression
  anomalies : Table SecurityAnomaly
  feedback : Table AnomalyFeedback
  cases : Table IncidentCase
  evidence : Table IncidentEvidence
  /-- The active accounts that may review anomalies. -/
  analysts : List Nat
  /-- The keys of `integration_connectors`. -/
  connectorIds : List Nat
  /-- The keys of `vm_assets`. -/
  assetIds : List Nat
  /-- The keys of `api_endpoints`. -/
  apiEndpointIds : List Nat

end ThreatScope.Analytics
