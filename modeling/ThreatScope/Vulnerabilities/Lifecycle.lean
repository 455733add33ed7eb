import ThreatScope.AccessControl.Administration
import ThreatScope.Vulnerabilities.Ingestion

/-!
# The lifecycle of a vulnerability

The routes that move a vulnerability through its lifecycle, decide on the acceptance of
its risk, verify it, merge and split it (`vulnerability_management/router.py`). A route
works in one session and commits it; one that raises leaves the database as it was, save
where it commits before it raises (`Reply`). A run is any sequence of calls (`Store.next`).
-/

set_option autoImplicit false

namespace ThreatScope.Vulnerabilities

open Library AccessControl

variable (env : VmPlatform)

/-- The store a route leaves, and the error it raises. -/
structure Reply where
  store : Store
  error : Option HttpError

/-- A route commits its session, or raises and leaves the store. -/
def Store.reply (store : Store) (result : Except HttpError Work) : Reply :=
  match result with
  | .ok work => ⟨work.live, none⟩
  | .error error => ⟨store, some error⟩

/-- Who calls a route. -/
structure Actor where
  id : Nat
  isSystemAdmin : Bool

/-- A text that is given and not empty. -/
def given (text : Option String) : Option String := text.filter (· ≠ "")

/-! ## Transitions -/

/-- Change the activity of every occurrence of a vulnerability. -/
def setActive (work : Work) (key : Nat) (active : Bool) : Work :=
  (work.query Store.occurrences fun _ occurrence => occurrence.vulnerabilityId == key).foldl
    (fun work row => work.write (Store.modifyOccurrence row.1 fun occurrence =>
      { occurrence with active := active })) work

/-- Some verification passed. One that completed sorts before one that did not. -/
def passedVerification (store : Store) (key : Nat) : Bool :=
  store.verifications.rows.any fun row => row.2.vulnerabilityId == key &&
    row.2.status == .passed && row.2.completedAt.isSome

/-- What `_transition` asks and writes before the status changes. -/
def enter (work : Work) (actor : Nat) (now : Instant) (key : Nat) (record : VulnerabilityRecord)
    (toStatus : VulnerabilityStatus) (note basis : Option String) (reviewer : Option Nat) :
    Except HttpError Work :=
  match toStatus with
  | .falsePositive =>
    match given note, given basis, reviewer with
    | some _, some text, some user =>
      match work.live.users.get? user with
      | none => .error ⟨404, "Reviewer not found"⟩
      | some _ => .ok (setActive (work.write (Store.addEvidence
          { vulnerabilityId := key
            occurrenceId := none
            evidenceType := "false_positive_basis"
            sourceModule := "vulnerability_management"
            sourceEntityType := "vulnerability"
            sourceEntityId := key
            contentSha256 := hashParts env [text]
            createdByUserId := some actor })) key false)
    | _, _, _ => .error
        ⟨422, "False positive requires an analyst note, evidence basis, and reviewer"⟩
  | .acceptedRisk =>
    match accepted work key now with
    | (looked, some _) => .ok looked
    | (_, none) => .error ⟨422, "An approved unexpired risk acceptance is required"⟩
  | .resolved =>
    if passedVerification work.stored key then
      .ok (work.write (Store.modifyVulnerability key fun record =>
        { record with resolvedAt := some now, resolvedByUserId := some actor }))
    else .error ⟨422, "Passed verification evidence is required before resolution"⟩
  | .archived =>
    if record.severity = .critical ∧
        (work.query Store.occurrences fun _ occurrence =>
          occurrence.vulnerabilityId == key).any (fun row => row.2.active) = true then
      .error ⟨422, "Active critical vulnerabilities cannot be archived"⟩
    else .ok work
  | .reopened =>
    .ok (setActive (work.write (Store.modifyVulnerability key
      (.reopen now ((given note).getD "Manually reopened")))) key true)
  | _ => .ok work

/-- Write the status, and a line of history. -/
def Store.moveTo (row : VulnerabilityStatusHistory) (store : Store) : Store :=
  (store.modifyVulnerability row.vulnerabilityId fun record =>
    { record with status := row.toStatus }).addHistory row

/-- The end of `_transition`: the deadline and the scores. -/
def afterMove (work : Work) (key : Nat) (now : Instant) (toStatus : VulnerabilityStatus) : Work :=
  let due := if toStatus = .confirmed ∨ toStatus = .reopened then
      applySla work key none (toStatus == .reopened)
    else work
  calculatePriority due key now

/-- `_transition`. -/
def transition (work : Work) (actor : Nat) (now : Instant) (key : Nat)
    (record : VulnerabilityRecord) (toStatus : VulnerabilityStatus) (note basis : Option String)
    (reviewer : Option Nat) : Except HttpError Work :=
  if !record.status.transitions.contains toStatus then
    .error ⟨422, "Invalid lifecycle transition from " ++ record.status.text ++ " to " ++
      toStatus.text⟩
  else match enter env work actor now key record toStatus note basis reviewer with
    | .error error => .error error
    | .ok entered =>
      .ok (afterMove (entered.write (Store.moveTo ⟨key, some record.status, toStatus,
        orNone (boundedText env 8000 (note.getD "")), some actor⟩)) key now toStatus)

/-- A vulnerability that exists. -/
def withVulnerability (work : Work) (key : Nat)
    (service : VulnerabilityRecord → Except HttpError Work) : Except HttpError Work :=
  match vulnerability? work key with
  | none => .error ⟨404, "Vulnerability not found"⟩
  | some record => service record

def transitionVulnerability (store : Store) (actor : Actor) (now : Instant) (key : Nat)
    (toStatus : VulnerabilityStatus) (note basis : Option String) (reviewer : Option Nat) : Reply :=
  let work := UnitOfWork.start store
  store.reply (withVulnerability work key fun record =>
    transition env work actor.id now key record toStatus note basis reviewer)

/-! ## Acceptances -/

def maxAcceptanceDays : Nat := 730

def createRiskAcceptance (store : Store) (actor : Actor) (now : Instant) (key : Nat)
    (residualRisk : ResidualRisk) (expiresAt : Instant) (reviewAt : Option Instant) : Reply :=
  let work := UnitOfWork.start store
  store.reply (withVulnerability work key fun _ =>
    if expiresAt ≤ now then .error ⟨422, "Risk acceptance expiry must be in the future"⟩
    else if now + days maxAcceptanceDays < expiresAt then
      .error ⟨422, "Risk acceptance cannot exceed 730 days"⟩
    else if reviewAt.any fun review => review < now || expiresAt < review then
      .error ⟨422, "Review date must be between request and expiry"⟩
    else if (store.acceptances.first? fun _ acceptance =>
        acceptance.vulnerabilityId == key && acceptance.status == .pending).isSome then
      .error ⟨409, "A pending risk acceptance already exists"⟩
    else .ok (work.write (Store.addAcceptance
      { vulnerabilityId := key
        residualRisk := residualRisk
        acceptedByUserId := actor.id
        approvedByUserId := none
        expiresAt := expiresAt
        reviewAt := reviewAt
        status := .pending
        revokedByUserId := none
        revokedAt := none })))

def RiskAcceptance.approve (actor : Nat) (acceptance : RiskAcceptance) : RiskAcceptance :=
  { acceptance with status := .approved, approvedByUserId := some actor }

def RiskAcceptance.reject (actor : Nat) (acceptance : RiskAcceptance) : RiskAcceptance :=
  { acceptance with status := .rejected, approvedByUserId := some actor }

def RiskAcceptance.revoke (actor : Nat) (now : Instant) (acceptance : RiskAcceptance) :
    RiskAcceptance :=
  { acceptance with status := .revoked, revokedByUserId := some actor, revokedAt := some now }

def VulnerabilityRecord.withResidualRisk (residualRisk : ResidualRisk)
    (record : VulnerabilityRecord) : VulnerabilityRecord :=
  { record with residualRisk := some residualRisk }

/-- `approve_risk_acceptance`. An acceptance found expired is written so before the
error. -/
def approveRiskAcceptance (store : Store) (actor : Actor) (now : Instant) (acceptance : Nat)
    (note : String) : Reply :=
  match store.acceptances.get? acceptance with
  | none => ⟨store, some ⟨404, "Risk acceptance not found"⟩⟩
  | some item =>
    if item.status ≠ .pending then
      ⟨store, some ⟨422, "Only pending acceptances can be approved"⟩⟩
    else if item.acceptedByUserId = actor.id ∧ !actor.isSystemAdmin then
      ⟨store, some ⟨403, "Requesters cannot approve their own risk acceptance"⟩⟩
    else if item.expiresAt ≤ now then
      ⟨store.modifyAcceptance acceptance RiskAcceptance.expire,
        some ⟨422, "Risk acceptance has expired"⟩⟩
    else
      let work := (UnitOfWork.start store).write
        (Store.modifyAcceptance acceptance (.approve actor.id))
      store.reply (withVulnerability work item.vulnerabilityId fun record =>
        let flushed := (work.write (Store.modifyVulnerability item.vulnerabilityId
          (.withResidualRisk item.residualRisk))).flush
        if record.status = .confirmed ∨ record.status = .inProgress then
          transition env flushed actor.id now item.vulnerabilityId record .acceptedRisk
            (some note) none none
        else .ok flushed)

def rejectRiskAcceptance (store : Store) (actor : Actor) (acceptance : Nat) : Reply :=
  match store.acceptances.get? acceptance with
  | none => ⟨store, some ⟨404, "Risk acceptance not found"⟩⟩
  | some item =>
    if item.status ≠ .pending then
      ⟨store, some ⟨422, "Only pending acceptances can be rejected"⟩⟩
    else ⟨store.modifyAcceptance acceptance (.reject actor.id), none⟩

/-- `revoke_risk_acceptance`. The acceptance is revoked in the session, and still
approved in the database when the vulnerability is scored. -/
def revokeRiskAcceptance (store : Store) (actor : Actor) (now : Instant) (acceptance : Nat)
    (note : String) : Reply :=
  match store.acceptances.get? acceptance with
  | none => ⟨store, some ⟨404, "Risk acceptance not found"⟩⟩
  | some item =>
    if item.status ≠ .approved then
      ⟨store, some ⟨422, "Only approved acceptances can be revoked"⟩⟩
    else
      let work := (UnitOfWork.start store).write
        (Store.modifyAcceptance acceptance (.revoke actor.id now))
      store.reply (withVulnerability work item.vulnerabilityId fun record =>
        if record.status = .acceptedRisk then
          transition env work actor.id now item.vulnerabilityId record .reopened
            (some ("Risk acceptance revoked: " ++ note)) none none
        else .ok work)

/-! ## Verification -/

/-- What a verification is requested with. -/
structure VerificationCreate where
  assignedToUserId : Option Nat
  sourceModule : Option String
  sourceEntityType : Option String
  sourceEntityId : Option Nat

def createVerification (store : Store) (actor : Actor) (key : Nat)
    (payload : VerificationCreate) : Reply :=
  let work := UnitOfWork.start store
  store.reply (withVulnerability work key fun _ =>
    if payload.assignedToUserId.any fun user => (store.users.get? user).isNone then
      .error ⟨404, "Assignee not found"⟩
    else .ok (work.write (Store.addVerification
      { vulnerabilityId := key
        requestedByUserId := actor.id
        assignedToUserId := payload.assignedToUserId
        status := .requested
        sourceModule := payload.sourceModule
        sourceEntityType := payload.sourceEntityType
        sourceEntityId := payload.sourceEntityId
        startedAt := none
        completedAt := none })))

def startVerification (store : Store) (actor : Actor) (now : Instant) (verification : Nat) :
    Reply :=
  match store.verifications.get? verification with
  | none => ⟨store, some ⟨404, "Verification not found"⟩⟩
  | some item =>
    if item.status ≠ .requested then
      ⟨store, some ⟨422, "Only requested verification can be started"⟩⟩
    else ⟨store.modifyVerification verification fun row =>
      { row with
        status := .running
        startedAt := some now
        assignedToUserId := some (row.assignedToUserId.getD actor.id) }, none⟩

/-- The results a verification is completed with. -/
inductive VerificationResult where
  | passed
  | failed
  | inconclusive
deriving DecidableEq

/-- The status of a verification with the result. -/
def VerificationResult.status : VerificationResult → VerificationStatus
  | .passed => .passed
  | .failed => .failed
  | .inconclusive => .inconclusive

/-- What a verification is completed with. -/
structure VerificationComplete where
  result : VerificationResult
  resultSummary : String
  evidenceSummary : String
  occurrenceIds : List Nat

/-- What a result says of an occurrence. -/
def VulnerabilityOccurrence.verify (now : Instant) (result : VerificationResult)
    (occurrence : VulnerabilityOccurrence) : VulnerabilityOccurrence :=
  { occurrence with
    lastVerifiedAt := some now
    verifiedAbsent := result == .passed
    verifiedPresent := result == .failed
    active := match result with
      | .passed => false
      | .failed => true
      | .inconclusive => occurrence.active }

/-- The occurrences a verification is about, at most a hundred. -/
def verifiedOccurrences (work : Work) (key : Nat) (ids : List Nat) :
    List (Nat × VulnerabilityOccurrence) :=
  (work.query Store.occurrences fun id occurrence =>
    occurrence.vulnerabilityId == key && (ids.isEmpty || ids.contains id)).take 100

/-- The session of `complete_verification` when the lifecycle is asked. -/
def verified (work : Work) (actor : Actor) (now : Instant) (verification : Nat)
    (item : VerificationRequest) (payload : VerificationComplete) : Work :=
  let key := item.vulnerabilityId
  let completed := work.write (Store.modifyVerification verification fun row =>
    { row with
      status := payload.result.status
      startedAt := some (row.startedAt.getD now)
      completedAt := some now })
  let observed := (verifiedOccurrences completed key payload.occurrenceIds).foldl
    (fun work row => work.write (Store.modifyOccurrence row.1
      (.verify now payload.result))) completed
  (observed.write (Store.addEvidence
    { vulnerabilityId := key
      occurrenceId := none
      evidenceType := "verification"
      sourceModule := (given item.sourceModule).getD "vulnerability_management"
      sourceEntityType := (given item.sourceEntityType).getD "verification_request"
      sourceEntityId := item.sourceEntityId.getD verification
      contentSha256 := hashParts env [payload.evidenceSummary]
      createdByUserId := some actor.id })).flush

def completeVerification (store : Store) (actor : Actor) (now : Instant) (verification : Nat)
    (payload : VerificationComplete) : Reply :=
  match store.verifications.get? verification with
  | none => ⟨store, some ⟨404, "Verification not found"⟩⟩
  | some item =>
    if item.status ≠ .requested ∧ item.status ≠ .running then
      ⟨store, some ⟨422, "Verification is not active"⟩⟩
    else
      let key := item.vulnerabilityId
      store.reply (withVulnerability (UnitOfWork.start store) key fun record => do
        let flushed := verified env (UnitOfWork.start store) actor now verification item
          payload
        let moved ← (match payload.result, record.status with
          | .passed, .mitigated => transition env flushed actor.id now key record .resolved
              (some payload.resultSummary) none none
          | .failed, .resolved => transition env flushed actor.id now key record .reopened
              (some ("Verification failed: " ++ payload.resultSummary)) none none
          | _, _ => .ok flushed)
        return calculatePriority moved key now)

def cancelVerification (store : Store) (now : Instant) (verification : Nat) : Reply :=
  match store.verifications.get? verification with
  | none => ⟨store, some ⟨404, "Verification not found"⟩⟩
  | some item =>
    if item.status ≠ .requested ∧ item.status ≠ .running then
      ⟨store, some ⟨422, "Verification is not active"⟩⟩
    else ⟨store.modifyVerification verification fun row =>
      { row with status := .cancelled, completedAt := some now }, none⟩

/-! ## Merging and splitting -/

/-- An occurrence of the target seen in the same record. -/
def VulnerabilityOccurrence.sameSource (occurrence other : VulnerabilityOccurrence) : Bool :=
  other.sourceModule == occurrence.sourceModule &&
    other.sourceEntityType == occurrence.sourceEntityType &&
    other.sourceEntityId == occurrence.sourceEntityId &&
    other.findingFingerprint == occurrence.findingFingerprint

/-- Delete an occurrence; the evidence of it stays, without it. -/
def Store.deleteOccurrence (key : Nat) (store : Store) : Store :=
  { store with
    occurrences := store.occurrences.deleteWhere fun id _ => id == key
    evidence := store.evidence.update fun _ evidence =>
      if evidence.occurrenceId = some key then { evidence with occurrenceId := none }
      else evidence }

/-- `merge_vulnerabilities` on one occurrence of a source. -/
def mergeOccurrence (work : Work) (target : Nat) (row : Nat × VulnerabilityOccurrence) : Work :=
  match (work.query Store.occurrences fun _ other =>
      other.vulnerabilityId == target && row.2.sameSource other).head? with
  | some (duplicate, _) => work.write fun store =>
    (store.modifyOccurrence duplicate fun other =>
      { other with
        occurrenceCount := other.occurrenceCount + row.2.occurrenceCount
        lastObservedAt := max other.lastObservedAt row.2.lastObservedAt }).deleteOccurrence row.1
  | none => work.write (Store.modifyOccurrence row.1 fun occurrence =>
    { occurrence with vulnerabilityId := target })

/-- `merge_vulnerabilities` on one source. -/
def mergeSource (work : Work) (actor : Nat) (target : Nat) (note : String)
    (source : Nat × VulnerabilityRecord) : Work :=
  let occurrences := (work.query Store.occurrences fun _ occurrence =>
    occurrence.vulnerabilityId == source.1).foldl
      (fun work row => mergeOccurrence work target row) work
  let evidence := (occurrences.query Store.evidence fun _ evidence =>
    evidence.vulnerabilityId == source.1).foldl
      (fun work row => work.write fun store => { store with
        evidence := store.evidence.modify row.1 fun evidence =>
          { evidence with vulnerabilityId := target } }) occurrences
  evidence.write fun store =>
    (store.modifyVulnerability source.1 fun record =>
      { record with
        mergedIntoId := some target
        status := .archived
        priorityScore := 0 }).addHistory
      ⟨source.1, some source.2.status, .archived,
        some ("Merged into vulnerability " ++ toString target ++ ": " ++ note), some actor⟩

def mergeVulnerabilities (store : Store) (actor : Actor) (now : Instant) (target : Nat)
    (sourceIds : List Nat) (note : String) : Reply :=
  let work := UnitOfWork.start store
  store.reply (withVulnerability work target fun _ =>
    let ids := (sourceIds.filter (· ≠ target)).dedup
    let sources := work.query Store.vulnerabilities fun key _ => ids.contains key
    if ids.isEmpty then
      .error ⟨422, "At least one different source vulnerability is required"⟩
    else if sources.length ≠ ids.length then .error ⟨404, "Source vulnerability not found"⟩
    else
      let merged := sources.foldl
        (fun work source => mergeSource work actor.id target note source) work
      let seen := merged.write (Store.modifyVulnerability target fun record =>
        { record with
          firstSeenAt :=
            (sources.map fun source => source.2.firstSeenAt).foldl min record.firstSeenAt
          lastSeenAt :=
            (sources.map fun source => source.2.lastSeenAt).foldl max record.lastSeenAt })
      .ok (calculatePriority seen target now))

/-- The record a split creates. -/
def VulnerabilityRecord.split (record : VulnerabilityRecord) (fingerprint : String)
    (title : Option String) (first last : Instant) : VulnerabilityRecord :=
  { record with
    title := (given title).getD (record.title ++ " (split)")
    normalizedKey := record.normalizedKey ++ "|split:" ++ Text.truncate 12 fingerprint
    fingerprint := fingerprint
    status := .triaged
    technicalScore := 0
    businessRiskScore := 0
    priorityScore := 0
    riskFactors := []
    residualRisk := none
    recurring := false
    recurrenceCount := 0
    firstSeenAt := first
    lastSeenAt := last
    dueAt := none
    slaPolicyId := none
    resolvedAt := none
    resolvedByUserId := none
    reopenedAt := none
    reopenedReason := none
    mergedIntoId := none }

/-- `split_vulnerability` on one occurrence: it and its evidence move. -/
def splitOccurrence (work : Work) (key : Nat) (row : Nat × VulnerabilityOccurrence) : Work :=
  let moved := work.write (Store.modifyOccurrence row.1 fun occurrence =>
    { occurrence with vulnerabilityId := key })
  (moved.query Store.evidence fun _ evidence => evidence.occurrenceId == some row.1).foldl
    (fun work row => work.write fun store => { store with
      evidence := store.evidence.modify row.1 fun evidence =>
        { evidence with vulnerabilityId := key } }) moved

/-- `split_vulnerability`. The fingerprint is unique: the same split twice is refused by
the database. -/
def splitVulnerability (store : Store) (actor : Actor) (now : Instant) (source : Nat)
    (occurrenceIds : List Nat) (title : Option String) (note : String) : Reply :=
  let work := UnitOfWork.start store
  store.reply (withVulnerability work source fun record =>
    let occurrences := work.query Store.occurrences fun id occurrence =>
      occurrence.vulnerabilityId == source && occurrenceIds.contains id
    let all := store.occurrences.count fun _ occurrence => occurrence.vulnerabilityId == source
    let fingerprint := hashParts env (record.fingerprint :: "split" ::
      (occurrenceIds.mergeSort (· ≤ ·)).map toString)
    if occurrences.length ≠ occurrenceIds.dedup.length then
      .error ⟨404, "Occurrence not found"⟩
    else if all ≤ occurrences.length then
      .error ⟨422, "A split must leave at least one occurrence on the original vulnerability"⟩
    else match occurrences.map Prod.snd with
      | [] => .error ⟨500, "Internal Server Error"⟩
      | head :: rest =>
        if (store.vulnerabilities.first? fun _ other =>
            other.fingerprint == fingerprint).isSome then
          .error ⟨500, "Internal Server Error"⟩
        else
          let first :=
            (rest.map VulnerabilityOccurrence.firstObservedAt).foldl min head.firstObservedAt
          let last :=
            (rest.map VulnerabilityOccurrence.lastObservedAt).foldl max head.lastObservedAt
          let key := store.vulnerabilities.nextKey
          let created := (work.write (Store.addVulnerability
            (record.split fingerprint title first last))).flush
          let moved := occurrences.foldl (fun work row => splitOccurrence work key row) created
          let noted := moved.write (Store.addHistory ⟨key, none, .triaged,
            some ("Split from vulnerability " ++ toString source ++ ": " ++ note),
            some actor.id⟩)
          .ok (calculatePriority (calculatePriority noted source now) key now))

/-! ## Deadlines -/

/-- A lookup of a reader that commits what it looked up (`sla_dashboard`,
`generate_report`). -/
inductive Lookup where
  | slaState (key : Nat)
  | priority (key : Nat)

/-- The session after a lookup. -/
def Lookup.run (now : Instant) (work : Work) : Lookup → Work
  | .slaState key => (Vulnerabilities.slaState work key now).1
  | .priority key => calculatePriority work key now

def refreshExpirations (store : Store) (now : Instant) : Store :=
  (processExpiredAcceptances (UnitOfWork.start store) now).live

def recalculateSla (store : Store) (now : Instant) (ids : List Nat) : Store :=
  (((UnitOfWork.start store).query Store.vulnerabilities fun key record =>
      [VulnerabilityStatus.confirmed, .inProgress, .mitigated, .reopened].contains record.status &&
        (ids.isEmpty || ids.contains key)).take 500).foldl
    (fun work row => calculatePriority (applySla (work.write
      (Store.modifyVulnerability row.1 fun record =>
        { record with dueAt := none, slaPolicyId := none })) row.1 none true) row.1 now)
    (UnitOfWork.start store) |>.live

/-! ## The machine -/

/-- A call of a route. -/
inductive VmCall where
  | ingest (candidates : List Candidate)
  | transition (key : Nat) (toStatus : VulnerabilityStatus) (note basis : Option String)
      (reviewer : Option Nat)
  | requestAcceptance (key : Nat) (residualRisk : ResidualRisk) (expiresAt : Instant)
      (reviewAt : Option Instant)
  | approve (acceptance : Nat) (note : String)
  | reject (acceptance : Nat)
  | revoke (acceptance : Nat) (note : String)
  | refresh
  | look (lookups : List Lookup)
  | recalculate (ids : List Nat)
  | requestVerification (key : Nat) (payload : VerificationCreate)
  | startVerification (verification : Nat)
  | completeVerification (verification : Nat) (payload : VerificationComplete)
  | cancelVerification (verification : Nat)
  | merge (target : Nat) (sources : List Nat) (note : String)
  | split (source : Nat) (occurrences : List Nat) (title : Option String) (note : String)
  | assets (assets : Table Asset)
  | policies (policies : Table SlaPolicy)
  | users (users : Table UserAccount)

/-- A call by someone at a time. -/
structure VmRequest where
  actor : Actor
  now : Instant
  call : VmCall

/-- The reply to a call. -/
def Store.answer (store : Store) (request : VmRequest) : Reply :=
  let actor := request.actor
  let now := request.now
  match request.call with
  | .ingest candidates =>
    ⟨(ingestCandidates env (.start store) candidates (some actor.id) now).live, none⟩
  | .transition key toStatus note basis reviewer =>
    transitionVulnerability env store actor now key toStatus note basis reviewer
  | .requestAcceptance key residualRisk expiresAt reviewAt =>
    createRiskAcceptance store actor now key residualRisk expiresAt reviewAt
  | .approve acceptance note => approveRiskAcceptance env store actor now acceptance note
  | .reject acceptance => rejectRiskAcceptance store actor acceptance
  | .revoke acceptance note => revokeRiskAcceptance env store actor now acceptance note
  | .refresh => ⟨refreshExpirations store now, none⟩
  | .look lookups =>
    ⟨(lookups.foldl (Lookup.run now) (UnitOfWork.start store)).live, none⟩
  | .recalculate ids => ⟨recalculateSla store now ids, none⟩
  | .requestVerification key payload => createVerification store actor key payload
  | .startVerification verification =>
      Vulnerabilities.startVerification store actor now verification
  | .completeVerification verification payload =>
    Vulnerabilities.completeVerification env store actor now verification payload
  | .cancelVerification verification =>
    Vulnerabilities.cancelVerification store now verification
  | .merge target sources note => mergeVulnerabilities store actor now target sources note
  | .split source occurrences title note =>
    splitVulnerability env store actor now source occurrences title note
  | .assets assets => ⟨{ store with assets := assets }, none⟩
  | .policies policies => ⟨{ store with policies := policies }, none⟩
  | .users users => ⟨{ store with users := users }, none⟩

/-- The store a call leaves. -/
def Store.next (store : Store) (request : VmRequest) : Store :=
  (store.answer env request).store

end ThreatScope.Vulnerabilities
