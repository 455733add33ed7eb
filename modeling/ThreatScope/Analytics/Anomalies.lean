import ThreatScope.Analytics.Suppressions
import ThreatScope.Library.Runs

/-!
# Anomalies

What `analytics/service.py` does with anomalies: it stores the anomalous window of a detector
or counts it with the anomaly that has its deduplication key, and it moves an anomaly through
its review. A request that fails leaves the tables as they are.
-/

set_option autoImplicit false

namespace ThreatScope.Analytics

open Library AccessControl
open Soar (IncidentCase IncidentEvidence)

/-! ## Materialization -/

/-- A score of at least 70, in hundredths: `_bounded` rounds it to two digits, up to 100. -/
structure AnomalousScore where
  hundredths : Nat
  anomalous : 7000 ≤ hundredths
  bounded : hundredths ≤ 10000

/-- The score as a number. -/
def AnomalousScore.value (score : AnomalousScore) : Rat := score.hundredths / 100

/-- An anomalous window with its detector, version and baseline, as
`score_detector_window` hands it over. -/
structure ScoredWindow where
  detectorId : Nat
  versionId : Nat
  baselineId : Nat
  sourceScope : String
  deduplicationPeriodSeconds : Nat
  featureKeys : List String
  start : Instant
  finish : Instant
  entityId : Option Nat
  score : AnomalousScore
  confidence : String
  severity : String
  /-- `scoring.get("reason_code", "ABOVE_BASELINE")`. -/
  reasonCode : String

/-- `MAX_OCCURRENCES` of the counters. -/
def maxOccurrences : Nat := 1000000

/-- `str(entity_id or "platform")[:200]`. -/
def ScoredWindow.entityIdentifier (window : ScoredWindow) : String :=
  match window.entityId with
  | some (id + 1) => Text.truncate 200 (toString (id + 1))
  | _ => "platform"

/-- `int(end.timestamp()) // config["deduplication_period_seconds"]`. -/
def ScoredWindow.bucket (window : ScoredWindow) : Int :=
  Int.fdiv (Int.tdiv window.finish 1000000) window.deduplicationPeriodSeconds

section Runtime

variable (env : AnalyticsRuntime)

/-- The deduplication key of a window. -/
def ScoredWindow.deduplicationKey (window : ScoredWindow) : String :=
  env.deterministicHash (.obj [
    ("version", .int window.versionId),
    ("scope", .str window.sourceScope),
    ("entity", .str window.entityIdentifier),
    ("bucket", .int window.bucket),
    ("features", .arr ((window.featureKeys.insertionSort (· ≤ ·)).map .str)),
    ("reason", .str window.reasonCode)])

end Runtime

/-- What the suppressions are asked about a window. -/
def ScoredWindow.candidate (window : ScoredWindow) (detector : AnalyticsDetector) : Candidate where
  detectorId := window.detectorId
  entityType := detector.sourceEntity
  entityIdentifier := window.entityIdentifier
  score := window.score.value
  now := window.finish

/-- One more occurrence. -/
def SecurityAnomaly.seenAgain (item : SecurityAnomaly) (finish : Instant) : SecurityAnomaly :=
  { item with
    occurrenceCount := min maxOccurrences (item.occurrenceCount + 1)
    lastObservedAt := finish }

/-- The anomaly that a window opens. -/
def ScoredWindow.anomaly (window : ScoredWindow) (detector : AnalyticsDetector)
    (key : String) (status : SuppressionStatus) : SecurityAnomaly where
  detectorId := window.detectorId
  detectorVersionId := window.versionId
  baselineId := window.baselineId
  sourceDomain := detector.sourceDomain
  sourceEntityType := detector.sourceEntity
  sourceEntityIdentifier := window.entityIdentifier
  observationWindowStart := window.start
  observationWindowEnd := window.finish
  anomalyScore := window.score.value
  confidence := window.confidence
  severity := window.severity
  summary := Text.truncate 500
    (detector.name ++ ": statistical deviation requires analyst review.")
  firstObservedAt := window.finish
  lastObservedAt := window.finish
  deduplicationKey := key
  reasonCode := window.reasonCode
  suppressionStatus := status
  demoOwned := detector.demoOwned

/-- The anomaly with a deduplication key, of which there is at most one. -/
def AnomalyStore.withKey (store : AnomalyStore) (key : String) : Option (Nat × SecurityAnomaly) :=
  store.anomalies.first? fun _ row => row.deduplicationKey == key

/-- A suppression that applied counts it. -/
def AnomalyStore.countHit (store : AnomalyStore) (itemId : Nat) : AnomalyStore :=
  { store with
    suppressions := store.suppressions.modify itemId fun item =>
      { item with hitCount := min (item.hitCount + 1) maxOccurrences } }

/-- The anomaly is counted again. -/
def AnomalyStore.countAgain (store : AnomalyStore) (itemId : Nat) (finish : Instant) :
    AnomalyStore :=
  { store with anomalies := store.anomalies.modify itemId fun item => item.seenAgain finish }

/-- The anomaly is stored, suppressed or not. -/
def AnomalyStore.openAnomaly (store : AnomalyStore) (detector : AnalyticsDetector)
    (window : ScoredWindow) (key : String) : AnomalyStore :=
  match suppression store (window.candidate detector) with
  | some (hitId, _) =>
    { store.countHit hitId with
      anomalies := store.anomalies.insert (window.anomaly detector key .suppressed) }
  | none =>
    { store with
      anomalies := store.anomalies.insert (window.anomaly detector key .notSuppressed) }

/-- `materialize_anomaly`. Another worker may have stored the anomaly after `late` looked for
it; then the unique key refuses the row, the hit is rolled back and the occurrence counted. -/
def materializeAnomaly (env : AnalyticsRuntime) (store : AnomalyStore)
    (detector : AnalyticsDetector) (window : ScoredWindow) (late : Bool) : AnomalyStore :=
  let key := window.deduplicationKey env
  match if late then none else store.withKey key with
  | some (itemId, _) => store.countAgain itemId window.finish
  | none =>
    match store.withKey key with
    | some (itemId, _) => store.countAgain itemId window.finish
    | none => store.openAnomaly detector window key

/-- The end of `score_detector_window` for an anomalous window: only the active version of an
active detector may materialize it. -/
def materializeScored (env : AnalyticsRuntime) (store : AnomalyStore)
    (window : ScoredWindow) (late : Bool) : Except ServiceError AnomalyStore :=
  let refused := ServiceError.http 409
    "Only the active validated detector version can materialize production anomalies"
  match store.detectors.get? window.detectorId with
  | none => throw refused
  | some detector =>
    if detector.lifecycleState ≠ .active ∨ detector.activeVersionId ≠ some window.versionId then
      throw refused
    else return materializeAnomaly env store detector window late

/-! ## Review -/

def anomalyTransitions : AnomalyStatus → List AnomalyStatus
  | .new => [.acknowledged, .investigating, .confirmed, .dismissed, .linkedToCase, .resolved]
  | .acknowledged => [.investigating, .confirmed, .dismissed, .linkedToCase, .resolved]
  | .investigating => [.confirmed, .dismissed, .linkedToCase, .resolved]
  | .confirmed => [.linkedToCase, .resolved]
  | .dismissed => [.resolved]
  | .linkedToCase => [.resolved]
  | .resolved => []

/-- `item`, or the answer that it is missing. -/
def AnomalyStore.findAnomaly (store : AnomalyStore) (itemId : Nat) :
    Except ServiceError SecurityAnomaly :=
  match store.anomalies.get? itemId with
  | some item => return item
  | none => throw (.http 404 "Anomaly not found")

/-- `lock` and `claim_lock`: the row, with the next lock version. -/
def claimLock (item : SecurityAnomaly) (expected : Nat) : Except ServiceError SecurityAnomaly :=
  if item.optimisticLockVersion = expected then
    return { item with optimisticLockVersion := expected + 1 }
  else throw (.http 409 "Optimistic-lock conflict")

/-- Write the row of an anomaly. -/
def AnomalyStore.writeAnomaly (store : AnomalyStore) (itemId : Nat) (item : SecurityAnomaly) :
    AnomalyStore :=
  { store with anomalies := store.anomalies.modify itemId fun _ => item }

/-- `ReasonAction`. -/
structure ReasonAction where
  reason : String
  optimisticLockVersion : Nat

/-- The statuses that need a reason. -/
def AnomalyStatus.isConclusion : AnomalyStatus → Bool
  | .confirmed | .dismissed | .resolved => true
  | _ => false

/-- The row of an anomaly that has moved. -/
def SecurityAnomaly.moved (item : SecurityAnomaly) (target : AnomalyStatus) (reason : String) :
    SecurityAnomaly :=
  { item with
    status := target
    reviewStatus := if target.isConclusion then .reviewed else .inReview
    resolutionReason := if target.isConclusion then some reason else item.resolutionReason }

def transitionAnomaly (store : AnomalyStore) (itemId : Nat) (target : AnomalyStatus)
    (payload : ReasonAction) : Except ServiceError AnomalyStore := do
  let item ← store.findAnomaly itemId
  let claimed ← claimLock item payload.optimisticLockVersion
  if target ∉ anomalyTransitions claimed.status then
    throw (.http 409 "Invalid anomaly lifecycle transition")
  else if target.isConclusion = true ∧ Text.strip payload.reason = "" then
    throw (.valueError "An analyst reason is required")
  else return store.writeAnomaly itemId (claimed.moved target payload.reason)

/-- `AssignAction`. -/
structure AssignAction where
  analystUserId : Nat
  optimisticLockVersion : Nat

def assignAnomaly (store : AnomalyStore) (itemId : Nat) (payload : AssignAction) :
    Except ServiceError AnomalyStore := do
  let item ← store.findAnomaly itemId
  let claimed ← claimLock item payload.optimisticLockVersion
  if payload.analystUserId ∉ store.analysts then
    throw (.http 404 "Assignable analyst not found")
  else
    return store.writeAnomaly itemId
      { claimed with assignedAnalystId := some payload.analystUserId }

/-- `FeedbackCreate`. -/
structure FeedbackCreate where
  label : String
  confidence : String
  reason : String
  safeCategory : Option String

/-- The newest revision of an analyst's feedback. -/
def AnomalyStore.lastFeedback (store : AnomalyStore) (itemId userId : Nat) :
    Option (Nat × AnomalyFeedback) :=
  store.feedback.newest? (fun row => row.revisionNumber) fun _ row =>
    row.anomalyId == itemId && row.analystUserId == userId

/-- `add_feedback`. When another revision was stored meanwhile, the second attempt looks for
it again and ends like the first. -/
def addFeedback (store : AnomalyStore) (itemId : Nat) (payload : FeedbackCreate)
    (actor : Actor) : Except ServiceError AnomalyStore := do
  let item ← store.findAnomaly itemId
  let previous := store.lastFeedback itemId actor.id
  let row : AnomalyFeedback := {
    anomalyId := itemId
    analystUserId := actor.id
    detectorVersionId := item.detectorVersionId
    label := payload.label
    confidence := payload.confidence
    reason := payload.reason
    safeCategory := payload.safeCategory
    revisionNumber := match previous with
      | some (_, row) => row.revisionNumber + 1
      | none => 1
    previousFeedbackId := previous.map Prod.fst }
  let after := store.writeAnomaly itemId { item with reviewStatus := .feedbackRecorded }
  return { after with feedback := after.feedback.insert row }

/-- `LinkCaseAction`. -/
structure LinkCaseAction where
  caseId : Nat
  optimisticLockVersion : Nat

/-- The evidence that a case gets of an anomaly. -/
def SecurityAnomaly.evidence (env : AnalyticsRuntime) (item : SecurityAnomaly)
    (itemId caseId : Nat) (fingerprint : String) : IncidentEvidence where
  caseId := caseId
  sourceModule := "analytics"
  sourceRecordType := "security_anomaly"
  sourceRecordId := itemId
  sourceInternalRoute := some ("/analytics/anomalies/" ++ toString itemId)
  titleSnapshot := Text.truncate 500 item.summary
  evidenceSnapshot := "Score " ++ env.fixedTwo item.anomalyScore ++ "; confidence " ++
    item.confidence ++ "; detector version " ++ toString item.detectorVersionId ++
    ". Statistical deviation is not proof of compromise."
  severity := item.severity
  confidence := item.confidence
  evidenceFingerprint := fingerprint

/-- The evidence of an anomaly and the counter of its case, unless it is there. -/
def AnomalyStore.attach (store : AnomalyStore) (row : IncidentEvidence) : AnomalyStore :=
  match store.evidence.first? fun _ other => other.evidenceFingerprint == row.evidenceFingerprint
  with
  | some _ => store
  | none =>
    { store with
      evidence := store.evidence.insert row
      cases := store.cases.modify row.caseId fun item =>
        { item with evidenceCount := item.evidenceCount + 1 } }

/-- The row of an anomaly that has been linked. -/
def SecurityAnomaly.linked (item : SecurityAnomaly) (caseId : Nat) : SecurityAnomaly :=
  { item with linkedCaseId := some caseId, status := .linkedToCase, reviewStatus := .inReview }

/-- The evidence and the link of an anomaly. -/
def AnomalyStore.link (env : AnalyticsRuntime) (store : AnomalyStore) (itemId caseId : Nat)
    (item : SecurityAnomaly) : AnomalyStore :=
  let fingerprint := env.deterministicHash
    (.obj [("anomaly", .int itemId), ("case", .int caseId)])
  (store.attach (item.evidence env itemId caseId fingerprint)).writeAnomaly itemId
    (item.linked caseId)

/-- `link_case`. The status is written without a look at the table of transitions. -/
def linkCase (env : AnalyticsRuntime) (store : AnomalyStore) (itemId : Nat)
    (payload : LinkCaseAction) : Except ServiceError AnomalyStore := do
  let item ← store.findAnomaly itemId
  match store.cases.get? payload.caseId with
  | none => throw (.http 404 "Incident case not found")
  | some _ =>
    if item.linkedCaseId = some payload.caseId then return store
    else
      let claimed ← claimLock item payload.optimisticLockVersion
      if claimed.linkedCaseId.isSome = true then
        throw (.http 409 "Anomaly is already linked to another case")
      else return store.link env itemId payload.caseId claimed

/-! ## The machine -/

/-- A call that writes anomalies or suppressions. -/
inductive AnomalyCall where
  | materialize (window : ScoredWindow) (late : Bool)
  | transition (itemId : Nat) (target : AnomalyStatus) (payload : ReasonAction)
  | assign (itemId : Nat) (payload : AssignAction)
  | feedback (itemId : Nat) (payload : FeedbackCreate) (actor : Actor)
  | linkCase (itemId : Nat) (payload : LinkCaseAction)
  | createSuppression (payload : SuppressionCreate) (actor : Actor) (now : Instant)
  | patchSuppression (itemId : Nat) (payload : SuppressionPatch) (now : Instant)
  | disableSuppression (itemId : Nat) (now : Instant)

/-- How a call is served. -/
def AnomalyStore.serve (env : AnalyticsRuntime) (store : AnomalyStore) :
    AnomalyCall → Except ServiceError AnomalyStore
  | .materialize window late => materializeScored env store window late
  | .transition itemId target payload => transitionAnomaly store itemId target payload
  | .assign itemId payload => assignAnomaly store itemId payload
  | .feedback itemId payload actor => addFeedback store itemId payload actor
  | .linkCase itemId payload => Analytics.linkCase env store itemId payload
  | .createSuppression payload actor now =>
    Analytics.createSuppression env store payload actor now
  | .patchSuppression itemId payload now => Analytics.patchSuppression store itemId payload now
  | .disableSuppression itemId now => Analytics.disableSuppression store itemId now

/-- The tables after a call; one that fails is rolled back. -/
def AnomalyStore.next (env : AnalyticsRuntime) (store : AnomalyStore) (call : AnomalyCall) :
    AnomalyStore :=
  match store.serve env call with
  | .ok after => after
  | .error _ => store

/-!
## What a call does to anomalies and suppressions

One lemma for each call that says when it is served and what it leaves. The proofs about runs
use them and do not look at the calls again.
-/

variable {env : AnalyticsRuntime} {store after : AnomalyStore} {itemId : Nat}

/-! ## Materialization -/

section Materialization

variable {window : ScoredWindow} {late : Bool}

/-- A window is counted with the anomaly that has its key, and opens one when there is none. -/
theorem materializeAnomaly_eq (store : AnomalyStore) (detector : AnalyticsDetector)
    (window : ScoredWindow) (late : Bool) :
    materializeAnomaly env store detector window late =
      match store.withKey (window.deduplicationKey env) with
      | some (itemId, _) => store.countAgain itemId window.finish
      | none => store.openAnomaly detector window (window.deduplicationKey env) := by
  unfold materializeAnomaly
  cases known : store.withKey (window.deduplicationKey env) with
  | some found => cases late <;> simp only [known, Bool.false_eq_true, if_false, if_true]
  | none => cases late <;> simp only [known, Bool.false_eq_true, if_false, if_true]

theorem materializeScored_eq_ok_iff :
    materializeScored env store window late = .ok after ↔
      ∃ detector, store.detectors.get? window.detectorId = some detector ∧
        detector.lifecycleState = .active ∧ detector.activeVersionId = some window.versionId ∧
        after = materializeAnomaly env store detector window late := by
  unfold materializeScored
  cases found : store.detectors.get? window.detectorId with
  | none =>
    constructor
    · intro served
      cases served
    · rintro ⟨_, wrong, -⟩
      cases wrong
  | some detector =>
    dsimp only
    split
    · rename_i refused
      constructor
      · intro served
        cases served
      · rintro ⟨other, same, active, version, -⟩
        obtain rfl := Option.some.inj same
        exact absurd refused (by simp [active, version])
    · rename_i allowed
      rw [not_or, not_not, not_not] at allowed
      rw [pure_eq_ok_iff]
      constructor
      · intro same
        exact ⟨detector, rfl, allowed.1, allowed.2, same.symm⟩
      · rintro ⟨other, same, -, -, rfl⟩
        obtain rfl := Option.some.inj same
        rfl

theorem openAnomaly_anomalies (store : AnomalyStore) (detector : AnalyticsDetector)
    (window : ScoredWindow) (key : String) :
    (store.openAnomaly detector window key).anomalies =
      store.anomalies.insert (window.anomaly detector key
        (if (suppression store (window.candidate detector)).isSome then .suppressed
          else .notSuppressed)) := by
  unfold AnomalyStore.openAnomaly
  split <;> rename_i found <;> rw [found] <;> rfl

end Materialization

/-! ## Review -/

theorem findAnomaly_eq_ok_iff {item : SecurityAnomaly} :
    store.findAnomaly itemId = .ok item ↔ store.anomalies.get? itemId = some item := by
  unfold AnomalyStore.findAnomaly
  cases store.anomalies.get? itemId with
  | none =>
    constructor
    · intro wrong
      cases wrong
    · intro wrong
      cases wrong
  | some row => rw [pure_eq_ok_iff, Option.some.injEq]

/-- The row of an anomaly whose lock has been claimed. -/
def SecurityAnomaly.claimed (item : SecurityAnomaly) : SecurityAnomaly :=
  { item with optimisticLockVersion := item.optimisticLockVersion + 1 }

theorem claimLock_eq_ok_iff {item claimed : SecurityAnomaly} {expected : Nat} :
    claimLock item expected = .ok claimed ↔ item.optimisticLockVersion = expected ∧
      claimed = item.claimed := by
  unfold claimLock SecurityAnomaly.claimed
  split
  · rename_i current
    subst current
    rw [pure_eq_ok_iff]
    exact ⟨fun same => ⟨rfl, same.symm⟩, fun claims => claims.2.symm⟩
  · rename_i stale
    constructor
    · intro wrong
      cases wrong
    · intro claims
      exact absurd claims.1 stale

theorem transitionAnomaly_eq_ok_iff {target : AnomalyStatus} {payload : ReasonAction} :
    transitionAnomaly store itemId target payload = .ok after ↔
      ∃ item, store.anomalies.get? itemId = some item ∧
        item.optimisticLockVersion = payload.optimisticLockVersion ∧
        target ∈ anomalyTransitions item.status ∧
        ¬(target.isConclusion = true ∧ Text.strip payload.reason = "") ∧
        after = store.writeAnomaly itemId (item.claimed.moved target payload.reason) := by
  simp only [transitionAnomaly, bind_eq_ok_iff, findAnomaly_eq_ok_iff, claimLock_eq_ok_iff]
  constructor
  · rintro ⟨item, stored, claimed, ⟨current, rfl⟩, served⟩
    split at served
    · cases served
    · rename_i edge
      split at served
      · cases served
      · rename_i reasoned
        exact ⟨item, stored, current, not_not.mp edge, reasoned, (pure_eq_ok_iff.mp served).symm⟩
  · rintro ⟨item, stored, current, edge, reasoned, rfl⟩
    refine ⟨item, stored, item.claimed, ⟨current, rfl⟩, ?_⟩
    change (if target ∉ anomalyTransitions item.status then _ else _) = _
    rw [if_neg (not_not.mpr edge), if_neg reasoned]
    rfl

theorem assignAnomaly_eq_ok {payload : AssignAction}
    (served : assignAnomaly store itemId payload = .ok after) :
    ∃ item, store.anomalies.get? itemId = some item ∧
      item.optimisticLockVersion = payload.optimisticLockVersion ∧
      after = store.writeAnomaly itemId
        { item.claimed with assignedAnalystId := some payload.analystUserId } := by
  simp only [assignAnomaly, bind_eq_ok_iff, findAnomaly_eq_ok_iff, claimLock_eq_ok_iff] at served
  obtain ⟨item, stored, claimed, ⟨current, rfl⟩, served⟩ := served
  split at served
  · cases served
  · exact ⟨item, stored, current, (pure_eq_ok_iff.mp served).symm⟩

theorem addFeedback_eq_ok {payload : FeedbackCreate} {actor : Actor}
    (served : addFeedback store itemId payload actor = .ok after) :
    ∃ item row, store.anomalies.get? itemId = some item ∧
      after = { store.writeAnomaly itemId { item with reviewStatus := .feedbackRecorded } with
        feedback := store.feedback.insert row } := by
  simp only [addFeedback, bind_eq_ok_iff, findAnomaly_eq_ok_iff] at served
  obtain ⟨item, stored, served⟩ := served
  exact ⟨item, _, stored, (pure_eq_ok_iff.mp served).symm⟩

/-- A link takes effect when the anomaly has no case and the lock is current. -/
structure Links (store : AnomalyStore) (itemId : Nat) (payload : LinkCaseAction)
    (item : SecurityAnomaly) : Prop where
  stored : store.anomalies.get? itemId = some item
  known : ∃ row, store.cases.get? payload.caseId = some row
  unlinked : item.linkedCaseId = none
  current : item.optimisticLockVersion = payload.optimisticLockVersion

theorem link_eq (env : AnalyticsRuntime) (store : AnomalyStore) (itemId caseId : Nat)
    (item : SecurityAnomaly) :
    (store.link env itemId caseId item).anomalies =
        store.anomalies.modify itemId (fun _ => item.linked caseId) ∧
      (store.link env itemId caseId item).suppressions = store.suppressions := by
  unfold AnomalyStore.link AnomalyStore.writeAnomaly AnomalyStore.attach
  dsimp only
  split <;> exact ⟨rfl, rfl⟩

/-- A link is made, or it stands already and the call changes nothing. -/
theorem linkCase_eq_ok_iff {payload : LinkCaseAction} :
    linkCase env store itemId payload = .ok after ↔
      (∃ item, Links store itemId payload item ∧
        after = store.link env itemId payload.caseId item.claimed) ∨
      (∃ item row, store.anomalies.get? itemId = some item ∧
        store.cases.get? payload.caseId = some row ∧
        item.linkedCaseId = some payload.caseId ∧ after = store) := by
  simp only [linkCase, bind_eq_ok_iff, findAnomaly_eq_ok_iff]
  constructor
  · rintro ⟨item, stored, served⟩
    split at served
    · cases served
    · rename_i row known
      split at served
      · rename_i same
        exact .inr ⟨item, row, stored, known, same, (pure_eq_ok_iff.mp served).symm⟩
      · simp only [bind_eq_ok_iff, claimLock_eq_ok_iff] at served
        obtain ⟨claimed, ⟨current, rfl⟩, served⟩ := served
        split at served
        · cases served
        · rename_i free
          exact .inl ⟨item, ⟨stored, ⟨row, known⟩, by simpa [SecurityAnomaly.claimed] using free,
            current⟩,
            (pure_eq_ok_iff.mp served).symm⟩
  · rintro (⟨item, links, rfl⟩ | ⟨item, row, stored, known, same, rfl⟩)
    · obtain ⟨row, known⟩ := links.known
      have apart : item.linkedCaseId ≠ some payload.caseId := by
        rw [links.unlinked]
        exact Option.some_ne_none _ ∘ Eq.symm
      refine ⟨item, links.stored, ?_⟩
      rw [known]
      dsimp only
      rw [if_neg apart, bind_eq_ok_iff]
      refine ⟨item.claimed, claimLock_eq_ok_iff.mpr ⟨links.current, rfl⟩, ?_⟩
      rw [if_neg (by simp [SecurityAnomaly.claimed, links.unlinked])]
      rfl
    · refine ⟨item, stored, ?_⟩
      rw [known]
      dsimp only
      rw [if_pos same]
      rfl

/-! ## Suppressions -/

theorem createSuppression_eq_ok {payload : SuppressionCreate} {actor : Actor} {now : Instant}
    (served : createSuppression env store payload actor now = .ok after) :
    ∃ item, after = { store with suppressions := store.suppressions.insert item } := by
  simp only [createSuppression, bind_eq_ok_iff] at served
  obtain ⟨_, -, _, -, _, -, served⟩ := served
  exact ⟨_, (pure_eq_ok_iff.mp served).symm⟩

theorem patchSuppression_eq_ok {payload : SuppressionPatch} {now : Instant}
    (served : patchSuppression store itemId payload now = .ok after) :
    ∃ change : AnalyticsSuppression → AnalyticsSuppression,
      (∀ item, (change item).toSuppressionScope = item.toSuppressionScope) ∧
      after = { store with suppressions := store.suppressions.modify itemId change } := by
  unfold patchSuppression at served
  split at served
  · cases served
  · split at served
    · cases served
    · obtain ⟨_, -, served⟩ := bind_eq_ok_iff.mp served
      refine ⟨_, ?_, (pure_eq_ok_iff.mp served).symm⟩
      exact fun _ => rfl

theorem disableSuppression_eq_ok {now : Instant}
    (served : disableSuppression store itemId now = .ok after) :
    ∃ change : AnalyticsSuppression → AnalyticsSuppression,
      (∀ item, (change item).toSuppressionScope = item.toSuppressionScope) ∧
      after = { store with suppressions := store.suppressions.modify itemId change } := by
  unfold disableSuppression at served
  split at served
  · cases served
  · refine ⟨_, ?_, (pure_eq_ok_iff.mp served).symm⟩
    exact fun _ => rfl

end ThreatScope.Analytics
