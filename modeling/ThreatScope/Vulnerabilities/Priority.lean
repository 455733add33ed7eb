import ThreatScope.AccessControl.Accounts
import ThreatScope.Library.UnitOfWork

/-!
# Vulnerabilities, their occurrences and what is decided about them

The rows of `vulnerability_management/models.py`. A vulnerability is found by its
fingerprint, an occurrence by the stored record it was seen in. Acceptances and
verifications are records of their own, which the status of a vulnerability follows.

Texts that are only shown (descriptions of evidence, reasons, notes of a verification)
are left out.
-/

set_option autoImplicit false

namespace ThreatScope.Vulnerabilities

open Library AccessControl

/-- `VulnerabilityRecord.status`. -/
inductive VulnerabilityStatus where
  | new
  | triaged
  | confirmed
  | inProgress
  | mitigated
  | resolved
  | acceptedRisk
  | falsePositive
  | reopened
  | archived
deriving DecidableEq

/-- The status as it is stored. -/
def VulnerabilityStatus.text : VulnerabilityStatus → String
  | .new => "new"
  | .triaged => "triaged"
  | .confirmed => "confirmed"
  | .inProgress => "in_progress"
  | .mitigated => "mitigated"
  | .resolved => "resolved"
  | .acceptedRisk => "accepted_risk"
  | .falsePositive => "false_positive"
  | .reopened => "reopened"
  | .archived => "archived"

def VulnerabilityStatus.transitions : VulnerabilityStatus → List VulnerabilityStatus
  | .new => [.triaged, .falsePositive, .archived]
  | .triaged => [.confirmed, .falsePositive, .new, .archived]
  | .confirmed => [.inProgress, .acceptedRisk, .falsePositive, .mitigated]
  | .inProgress => [.mitigated, .acceptedRisk, .confirmed]
  | .mitigated => [.resolved, .inProgress]
  | .resolved => [.reopened]
  | .acceptedRisk => [.reopened, .inProgress]
  | .falsePositive => [.reopened]
  | .reopened => [.triaged, .confirmed, .inProgress, .falsePositive]
  | .archived => [.reopened]

/-- A severity that `_severity` answers with. -/
inductive Severity where
  | informational
  | low
  | medium
  | high
  | critical
deriving DecidableEq

/-- `SEVERITY_ORDER`. -/
def Severity.order : Severity → Nat
  | .informational => 0
  | .low => 1
  | .medium => 2
  | .high => 3
  | .critical => 4

/-- `Asset.business_criticality`. -/
inductive Criticality where
  | low
  | medium
  | high
  | critical
deriving DecidableEq

/-- `Asset.environment`. -/
inductive Environment where
  | development
  | testing
  | staging
  | production
  | unknown
deriving DecidableEq

/-- `RiskAcceptance.residual_risk`. -/
inductive ResidualRisk where
  | low
  | medium
  | high
  | critical
deriving DecidableEq

/-- `RiskAcceptance.status`. -/
inductive AcceptanceStatus where
  | pending
  | approved
  | rejected
  | expired
  | revoked
deriving DecidableEq

/-- `VerificationRequest.status`. -/
inductive VerificationStatus where
  | requested
  | running
  | passed
  | failed
  | inconclusive
  | cancelled
deriving DecidableEq

/-- A row of `vm_assets`. -/
structure Asset where
  identifierHash : String
  businessCriticality : Criticality
  environment : Environment
  internetExposed : Bool
  containsSensitiveData : Bool
deriving DecidableEq

/-- What a risk factor is read from. -/
inductive FactorBasis where
  | severity (severity : Severity)
  | confidence (confidence : Nat)
  | storedLocalContext

/-- An entry of `risk_factors_json`. -/
structure RiskFactor where
  factor : String
  points : Int
  basis : FactorBasis

/-- A row of `vm_vulnerabilities`. -/
structure VulnerabilityRecord where
  title : String
  description : String
  normalizedKey : String
  fingerprint : String
  category : String
  weaknessId : Option String
  vulnerabilityId : Option String
  sourceFamily : String
  severity : Severity
  confidence : Nat
  status : VulnerabilityStatus
  technicalScore : Int
  businessRiskScore : Int
  priorityScore : Int
  riskFactors : List RiskFactor
  residualRisk : Option ResidualRisk
  internetExploitable : Bool
  authenticationRequired : Option Bool
  userInteractionRequired : Option Bool
  knownExploitationObserved : Bool
  recurring : Bool
  recurrenceCount : Nat
  firstSeenAt : Instant
  lastSeenAt : Instant
  dueAt : Option Instant
  slaPolicyId : Option Nat
  resolvedAt : Option Instant
  resolvedByUserId : Option Nat
  reopenedAt : Option Instant
  reopenedReason : Option String
  currentOwnerUserId : Option Nat
  mergedIntoId : Option Nat

/-- A row of `vm_vulnerability_occurrences`. -/
structure VulnerabilityOccurrence where
  vulnerabilityId : Nat
  assetId : Option Nat
  sourceModule : String
  sourceEntityType : String
  sourceEntityId : Nat
  findingFingerprint : String
  originalSeverity : Severity
  sourceConfidence : Nat
  firstObservedAt : Instant
  lastObservedAt : Instant
  occurrenceCount : Nat
  active : Bool
  verifiedPresent : Bool
  verifiedAbsent : Bool
  lastVerifiedAt : Option Instant
deriving DecidableEq

/-- A row of `vm_vulnerability_evidence`. -/
structure VulnerabilityEvidence where
  vulnerabilityId : Nat
  occurrenceId : Option Nat
  evidenceType : String
  sourceModule : String
  sourceEntityType : String
  sourceEntityId : Nat
  contentSha256 : String
  createdByUserId : Option Nat

/-- A row of `vm_vulnerability_status_history`. -/
structure VulnerabilityStatusHistory where
  vulnerabilityId : Nat
  fromStatus : Option VulnerabilityStatus
  toStatus : VulnerabilityStatus
  note : Option String
  actorUserId : Option Nat
deriving DecidableEq

/-- A row of `vm_risk_acceptances`. -/
structure RiskAcceptance where
  vulnerabilityId : Nat
  residualRisk : ResidualRisk
  acceptedByUserId : Nat
  approvedByUserId : Option Nat
  expiresAt : Instant
  reviewAt : Option Instant
  status : AcceptanceStatus
  revokedByUserId : Option Nat
  revokedAt : Option Instant

/-- A row of `vm_verification_requests`. -/
structure VerificationRequest where
  vulnerabilityId : Nat
  requestedByUserId : Nat
  assignedToUserId : Option Nat
  status : VerificationStatus
  sourceModule : Option String
  sourceEntityType : Option String
  sourceEntityId : Option Nat
  startedAt : Option Instant
  completedAt : Option Instant

/-- A row of `vm_sla_policies`. -/
structure SlaPolicy where
  enabled : Bool
  severities : List Severity
  assetCriticalities : List Criticality
  environments : List Environment
  targetDays : Nat
  warningDaysBefore : Nat

/-- The tables of the module, and the accounts. -/
structure Store where
  users : Table UserAccount
  assets : Table Asset
  vulnerabilities : Table VulnerabilityRecord
  occurrences : Table VulnerabilityOccurrence
  evidence : Table VulnerabilityEvidence
  history : Table VulnerabilityStatusHistory
  acceptances : Table RiskAcceptance
  verifications : Table VerificationRequest
  policies : Table SlaPolicy

namespace Store

/-- No rows. -/
def empty : Store :=
  ⟨.empty, .empty, .empty, .empty, .empty, .empty, .empty, .empty, .empty⟩

/-- Write one vulnerability. -/
def modifyVulnerability (key : Nat) (change : VulnerabilityRecord → VulnerabilityRecord)
    (store : Store) : Store :=
  { store with vulnerabilities := store.vulnerabilities.modify key change }

/-- Write one occurrence. -/
def modifyOccurrence (key : Nat) (change : VulnerabilityOccurrence → VulnerabilityOccurrence)
    (store : Store) : Store :=
  { store with occurrences := store.occurrences.modify key change }

/-- Write one acceptance. -/
def modifyAcceptance (key : Nat) (change : RiskAcceptance → RiskAcceptance) (store : Store) :
    Store :=
  { store with acceptances := store.acceptances.modify key change }

/-- Write one verification. -/
def modifyVerification (key : Nat) (change : VerificationRequest → VerificationRequest)
    (store : Store) : Store :=
  { store with verifications := store.verifications.modify key change }

def addHistory (row : VulnerabilityStatusHistory) (store : Store) : Store :=
  { store with history := store.history.insert row }

def addAcceptance (row : RiskAcceptance) (store : Store) : Store :=
  { store with acceptances := store.acceptances.insert row }

def addVerification (row : VerificationRequest) (store : Store) : Store :=
  { store with verifications := store.verifications.insert row }

def addEvidence (row : VulnerabilityEvidence) (store : Store) : Store :=
  { store with evidence := store.evidence.insert row }

end Store

/-- A request's database session. -/
abbrev Work := UnitOfWork Store

/-- The vulnerability as the session has it. -/
def vulnerability? (work : Work) (key : Nat) : Option VulnerabilityRecord :=
  work.live.vulnerabilities.get? key

/-!
## Priorities, deadlines and the expiry of acceptances

The scores of a vulnerability, its deadline, and the acceptance of its risk
(`vulnerability_management/service.py`). Scoring asks whether the risk is accepted, and
asking expires an acceptance whose time is over: `accepted` writes. A second path expires
every such acceptance at once (`processExpiredAcceptances`).
-/

/-! ## Acceptances -/

/-- What both expiry paths write to a vulnerability whose acceptance expired. -/
def VulnerabilityRecord.lapse (now : Instant) (record : VulnerabilityRecord) :
    VulnerabilityRecord :=
  { record with
    status := .reopened
    reopenedAt := some now
    reopenedReason := some "Approved risk acceptance expired"
    recurrenceCount := record.recurrenceCount + 1
    recurring := true }

def RiskAcceptance.expire (acceptance : RiskAcceptance) : RiskAcceptance :=
  { acceptance with status := .expired }

/-- The approved acceptance that expires last, as the database has it. -/
def latestApproved? (store : Store) (vulnerability : Nat) : Option (Nat × RiskAcceptance) :=
  store.acceptances.newest? RiskAcceptance.expiresAt fun _ acceptance =>
    acceptance.vulnerabilityId == vulnerability && acceptance.status == .approved

/-- The writes of `_accepted` for an acceptance that is over. -/
def Store.lapse (vulnerability acceptance : Nat) (now : Instant) (store : Store) : Store :=
  let expired := store.modifyAcceptance acceptance RiskAcceptance.expire
  match store.vulnerabilities.get? vulnerability with
  | some record =>
    if record.status = .acceptedRisk then
      expired.modifyVulnerability vulnerability (VulnerabilityRecord.lapse now)
    else expired
  | none => expired

def accepted (work : Work) (vulnerability : Nat) (now : Instant) :
    Work × Option RiskAcceptance :=
  match (latestApproved? work.stored vulnerability).bind fun row =>
      (work.live.acceptances.get? row.1).map fun acceptance => (row.1, acceptance) with
  | none => (work, none)
  | some (key, acceptance) =>
    if acceptance.expiresAt ≤ now then
      (work.write (Store.lapse vulnerability key now), none)
    else (work, some acceptance)

/-! ## Scores -/

def affectedAssets (work : Work) (vulnerability : Nat) : List Asset :=
  ((work.query Store.assets fun key _ =>
    work.stored.occurrences.rows.any fun occurrence =>
      occurrence.2.vulnerabilityId == vulnerability &&
        occurrence.2.assetId == some key).take 500).map Prod.snd

/-- The occurrences the database has as active. -/
def activeOccurrences (work : Work) (vulnerability : Nat) : List VulnerabilityOccurrence :=
  ((work.query Store.occurrences fun _ occurrence =>
    occurrence.vulnerabilityId == vulnerability && occurrence.active).take 500).map Prod.snd

/-- `max(0, min(100, value))`. -/
def clamp (value : Int) : Int := max 0 (min 100 value)

/-- The points of a severity. -/
def Severity.points : Severity → Int
  | .informational => 5
  | .low => 25
  | .medium => 45
  | .high => 65
  | .critical => 85

/-- The points of a criticality. -/
def Criticality.points : Criticality → Int
  | .low => 0
  | .medium => 3
  | .high => 7
  | .critical => 12

/-- `round((confidence - 50) * 0.12)`. No confidence is half way between two values. -/
def confidencePoints (confidence : Nat) : Int := (12 * ((confidence : Int) - 50) + 50) / 100

/-- What `calculate_priority` computes. -/
structure PriorityScores where
  technical : Int
  business : Int
  inherent : Int
  factors : List RiskFactor

/-- The scores of a vulnerability with these assets and occurrences. -/
def priorityScores (record : VulnerabilityRecord) (assets : List Asset)
    (occurrences : List VulnerabilityOccurrence) (now : Instant) (breached : Bool) :
    PriorityScores :=
  let base := record.severity.points
  let confidenceDelta := confidencePoints record.confidence
  let criticality := (assets.map fun asset => asset.businessCriticality.points).foldl max 0
  let environment := if assets.any fun asset => asset.environment == .production then 6 else 0
  let internet :=
    if record.internetExploitable || assets.any Asset.internetExposed then 8 else 0
  let sensitive := if assets.any Asset.containsSensitiveData then 5 else 0
  let auth := if record.authenticationRequired = some false then 4 else 0
  let interaction := if record.userInteractionRequired = some false then 2 else 0
  let ageDays := max 0 ((now - record.firstSeenAt) / days 1)
  let age := min 8 (ageDays / 30)
  let recurrence := min 8 ((record.recurrenceCount : Int) * 2)
  let countPoints :=
    min 5 (max 0 (((occurrences.map VulnerabilityOccurrence.occurrenceCount).sum : Int) - 1))
  let assetCount := min 5 (max 0 ((assets.length : Int) - 1))
  let exploitation := if record.knownExploitationObserved then 8 else 0
  let overdue := if breached then 8 else 0
  let contextual : List (String × Int) :=
    [("asset criticality", criticality), ("production environment", environment),
      ("internet exposure", internet), ("sensitive data", sensitive),
      ("authentication not required", auth), ("no user interaction", interaction),
      ("age", age), ("recurrence", recurrence), ("occurrence count", countPoints),
      ("affected assets", assetCount), ("stored exploitation context", exploitation),
      ("SLA breach", overdue)]
  { technical := clamp (base + confidenceDelta + auth + interaction)
    business := clamp (base + criticality + environment + internet + sensitive)
    inherent := clamp (base + confidenceDelta + (contextual.map Prod.snd).sum)
    factors := ⟨"technical severity", base, .severity record.severity⟩ ::
      ⟨"confidence", confidenceDelta, .confidence record.confidence⟩ ::
      (contextual.filter fun factor => factor.2 ≠ 0).map fun factor =>
        ⟨factor.1, factor.2, .storedLocalContext⟩ }

/-- `0 if vulnerability.status in {"false_positive", "resolved", "archived"} else inherent`. -/
def VulnerabilityStatus.operational (status : VulnerabilityStatus) (inherent : Int) : Int :=
  match status with
  | .falsePositive => 0
  | .resolved => 0
  | .archived => 0
  | _ => inherent

/-- What `calculate_priority` writes. -/
def VulnerabilityRecord.score (scores : PriorityScores) (operational : Int)
    (residualRisk : Option ResidualRisk) (record : VulnerabilityRecord) : VulnerabilityRecord :=
  { record with
    technicalScore := scores.technical
    businessRiskScore := scores.business
    priorityScore := operational
    riskFactors := scores.factors
    residualRisk := residualRisk }

/-- The deadline is over. -/
def VulnerabilityRecord.pastDue (record : VulnerabilityRecord) (now : Instant) : Bool :=
  record.dueAt.any fun due => due < now

/-- The SLA factor of `calculate_priority`: the acceptance is looked up only when the
deadline is over. -/
def breached (work : Work) (record : VulnerabilityRecord) (key : Nat) (now : Instant) :
    Work × Bool :=
  if record.pastDue now then
    let result := accepted work key now
    (result.1, result.2.isNone)
  else (work, false)

/-- `calculate_priority`. The status is read between the two lookups. -/
def calculatePriority (work : Work) (key : Nat) (now : Instant) : Work :=
  match vulnerability? work key with
  | none => work
  | some record =>
    let scored := breached work record key now
    let scores := priorityScores record (affectedAssets work key) (activeOccurrences work key)
      now scored.2
    let status := ((vulnerability? scored.1 key).map VulnerabilityRecord.status).getD
      record.status
    let looked := accepted scored.1 key now
    looked.1.write fun store => store.modifyVulnerability key
      (VulnerabilityRecord.score scores (status.operational scores.inherent)
        (looked.2.map RiskAcceptance.residualRisk))

/-! ## Deadlines -/

/-- A policy applies to a vulnerability with these assets. -/
def SlaPolicy.applies (policy : SlaPolicy) (severity : Severity) (assets : List Asset) : Bool :=
  (policy.severities.isEmpty || policy.severities.contains severity) &&
    (policy.assetCriticalities.isEmpty || assets.any fun asset =>
      policy.assetCriticalities.contains asset.businessCriticality) &&
    (policy.environments.isEmpty || assets.any fun asset =>
      policy.environments.contains asset.environment)

/-- `select_sla_policy`: the first of the applicable ones with the fewest days. -/
def selectSlaPolicy (work : Work) (key : Nat) (record : VulnerabilityRecord) :
    Option (Nat × SlaPolicy) :=
  let assets := affectedAssets work key
  let candidates := ((work.query Store.policies fun _ policy => policy.enabled).take 500).filter
    fun row => row.2.applies record.severity assets
  candidates.argmin fun row => row.2.targetDays

/-- What `apply_sla` writes under a policy. -/
def VulnerabilityRecord.dueUnder (anchor : Option Instant) (policy : Nat × SlaPolicy)
    (record : VulnerabilityRecord) : VulnerabilityRecord :=
  { record with
    slaPolicyId := some policy.1
    dueAt := some (anchor.getD record.lastSeenAt + days policy.2.targetDays) }

def applySla (work : Work) (key : Nat) (anchor : Option Instant) (force : Bool) : Work :=
  match vulnerability? work key with
  | none => work
  | some record =>
    if record.dueAt.isSome && !force then work
    else match selectSlaPolicy work key record with
      | none => work
      | some policy => work.write fun store =>
        store.modifyVulnerability key (VulnerabilityRecord.dueUnder anchor policy)

/-- What `sla_state` answers. -/
inductive SlaState where
  | resolved
  | pausedByApprovedException
  | noPolicy
  | dueToday
  | overdue
  | warning
  | onTrack
deriving DecidableEq

/-- The state of a deadline that no acceptance pauses. -/
def deadlineState (store : Store) (record : VulnerabilityRecord) (now : Instant) : SlaState :=
  match record.dueAt with
  | none => .noPolicy
  | some due =>
    if due / days 1 = now / days 1 then .dueToday
    else if due < now then .overdue
    else match record.slaPolicyId.bind store.policies.get? with
      | some policy => if due - days policy.warningDaysBefore ≤ now then .warning else .onTrack
      | none => .onTrack

def slaState (work : Work) (key : Nat) (now : Instant) : Work × Option SlaState :=
  match vulnerability? work key with
  | none => (work, none)
  | some record =>
    if record.status = .resolved then (work, some .resolved)
    else match accepted work key now with
      | (looked, some _) => (looked, some .pausedByApprovedException)
      | (looked, none) => (looked, some (deadlineState looked.live record now))

/-! ## The batch -/

def VulnerabilityRecord.clearResidualRisk (record : VulnerabilityRecord) : VulnerabilityRecord :=
  { record with residualRisk := none }

def VulnerabilityRecord.clearDue (record : VulnerabilityRecord) : VulnerabilityRecord :=
  { record with dueAt := none }

/-- The reopening by `process_expired_acceptances`, with its line of history. -/
def Store.reopenExpired (key : Nat) (now : Instant) (store : Store) : Store :=
  (store.modifyVulnerability key fun record => (record.lapse now).clearDue).addHistory
    ⟨key, some .acceptedRisk, .reopened, some "Approved risk acceptance expired", none⟩

/-- What `process_expired_acceptances` does with one acceptance. -/
def expireAcceptance (work : Work) (now : Instant) (row : Nat × RiskAcceptance) : Work :=
  let key := row.2.vulnerabilityId
  let expired := work.write (Store.modifyAcceptance row.1 RiskAcceptance.expire)
  match vulnerability? work key with
  | none => expired
  | some record =>
    let cleared := expired.write (Store.modifyVulnerability key .clearResidualRisk)
    let reopened :=
      if record.status = .acceptedRisk then
        applySla (cleared.write (Store.reopenExpired key now)) key (some now) true
      else cleared
    calculatePriority reopened key now

/-- The acceptances that `process_expired_acceptances` expires. -/
def expiredAcceptances (work : Work) (now : Instant) : List (Nat × RiskAcceptance) :=
  (work.query Store.acceptances fun _ acceptance =>
    acceptance.status == .approved && acceptance.expiresAt ≤ now).take 1000

def processExpiredAcceptances (work : Work) (now : Instant) : Work :=
  (expiredAcceptances work now).foldl (fun work row => expireAcceptance work now row) work

end ThreatScope.Vulnerabilities
