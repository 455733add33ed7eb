import ThreatScope.Vulnerabilities.Priority

/-!
# Ingestion of stored findings

A stored finding becomes a candidate (`_candidate`), and a candidate becomes a
vulnerability with an occurrence and a piece of evidence, or is counted to those it
repeats (`ingest_candidate`). The vulnerability is looked up by a fingerprint of what was
found, the occurrence by the record it was found in.
-/

set_option autoImplicit false

namespace ThreatScope.Vulnerabilities

open Library AccessControl

/-- What the module takes from the interpreter. -/
structure VmPlatform where
  /-- `unicodedata.normalize("NFKC", text)`. -/
  nfkc : String → String
  /-- Case folding of a character outside ASCII. -/
  foldTable : Char → List Char
  /-- `unicodedata.category(ch)[0] == "C"`. -/
  isControl : Char → Bool
  /-- `hashlib.sha256(text.encode("utf-8")).hexdigest()`. -/
  sha256 : String → String

variable (env : VmPlatform)

/-- `_text`. -/
def boundedText (maximum : Nat) (value : String) : String :=
  Text.truncate maximum (Text.strip (String.ofList ((env.nfkc value).toList.filter fun c =>
    c == '\n' || c == '\t' || !env.isControl c)))

/-- `_hash`. -/
def hashParts (parts : List String) : String :=
  env.sha256 ("\x1f".intercalate (parts.map (boundedText env 4096)))

/-! ## Candidates -/

/-- A candidate. -/
structure Candidate where
  sourceModule : String
  sourceEntityType : String
  sourceEntityId : Nat
  title : String
  description : String
  category : String
  severity : Severity
  confidence : Nat
  evidence : String
  observedAt : Instant
  sourceFingerprint : Option String
  weaknessId : Option String
  asset : Option (Nat × Asset)
  location : Option String
  active : Bool
  knownExploitation : Bool
  authenticationRequired : Option Bool
  userInteractionRequired : Option Bool

/-- `text or None`. -/
def orNone (text : String) : Option String := if text = "" then none else some text

namespace Candidate

/-- `location.casefold().strip()[:2048]`. -/
def normalizedLocation (candidate : Candidate) : String :=
  Text.truncate 2048 (Text.strip (Text.casefold env.foldTable (candidate.location.getD "")))

def evidenceFingerprint (candidate : Candidate) : String :=
  (candidate.sourceFingerprint.filter (· ≠ "")).getD
    (hashParts env [Text.casefold env.foldTable candidate.title, candidate.category,
      candidate.normalizedLocation env, candidate.evidence])

def normalizedKey (candidate : Candidate) : String :=
  Text.truncate 1024 ("|".intercalate [candidate.category, candidate.weaknessId.getD "",
    (candidate.asset.map fun asset => asset.2.identifierHash).getD "unassigned",
    candidate.normalizedLocation env, candidate.sourceModule])

def fingerprint (candidate : Candidate) : String :=
  hashParts env [candidate.normalizedKey env, candidate.evidenceFingerprint env]

def contentHash (candidate : Candidate) : String := hashParts env [candidate.evidence]

/-- The vulnerability of a fingerprint not seen before. -/
def newVulnerability (candidate : Candidate) : VulnerabilityRecord where
  title := candidate.title
  description := if candidate.description = "" then candidate.title else candidate.description
  normalizedKey := candidate.normalizedKey env
  fingerprint := candidate.fingerprint env
  category := candidate.category
  weaknessId := candidate.weaknessId
  vulnerabilityId := none
  sourceFamily := candidate.sourceModule
  severity := candidate.severity
  confidence := candidate.confidence
  status := .new
  technicalScore := 0
  businessRiskScore := 0
  priorityScore := 0
  riskFactors := []
  residualRisk := none
  internetExploitable := candidate.asset.any fun asset => asset.2.internetExposed
  authenticationRequired := candidate.authenticationRequired
  userInteractionRequired := candidate.userInteractionRequired
  knownExploitationObserved := candidate.knownExploitation
  recurring := false
  recurrenceCount := 0
  firstSeenAt := candidate.observedAt
  lastSeenAt := candidate.observedAt
  dueAt := none
  slaPolicyId := none
  resolvedAt := none
  resolvedByUserId := none
  reopenedAt := none
  reopenedReason := none
  currentOwnerUserId := none
  mergedIntoId := none

/-- The occurrence of a candidate not seen before. -/
def newOccurrence (candidate : Candidate) (vulnerability : Nat) : VulnerabilityOccurrence where
  vulnerabilityId := vulnerability
  assetId := candidate.asset.map Prod.fst
  sourceModule := candidate.sourceModule
  sourceEntityType := candidate.sourceEntityType
  sourceEntityId := candidate.sourceEntityId
  findingFingerprint := candidate.evidenceFingerprint env
  originalSeverity := candidate.severity
  sourceConfidence := candidate.confidence
  firstObservedAt := candidate.observedAt
  lastObservedAt := candidate.observedAt
  occurrenceCount := 1
  active := candidate.active
  verifiedPresent := true
  verifiedAbsent := false
  lastVerifiedAt := none

/-- The columns of `uq_vm_occurrence_source`. -/
def seenIn (candidate : Candidate) (occurrence : VulnerabilityOccurrence) : Bool :=
  occurrence.sourceModule == candidate.sourceModule &&
    occurrence.sourceEntityType == candidate.sourceEntityType &&
    occurrence.sourceEntityId == candidate.sourceEntityId &&
    occurrence.findingFingerprint == candidate.evidenceFingerprint env

end Candidate

/-! ## Ingestion -/

/-- The sighting of a known vulnerability. -/
def VulnerabilityRecord.observe (candidate : Candidate) (record : VulnerabilityRecord) :
    VulnerabilityRecord :=
  { record with
    firstSeenAt := min record.firstSeenAt candidate.observedAt
    lastSeenAt := max record.lastSeenAt candidate.observedAt
    severity := if record.severity.order < candidate.severity.order then candidate.severity
      else record.severity
    confidence := max record.confidence candidate.confidence
    knownExploitationObserved :=
      record.knownExploitationObserved || candidate.knownExploitation }

/-- A resolved vulnerability is seen again, later than it was resolved. -/
def VulnerabilityRecord.recurs (candidate : Candidate) (record : VulnerabilityRecord) : Bool :=
  record.status == .resolved &&
    (record.resolvedAt.any fun resolved => resolved < candidate.observedAt) && candidate.active

/-- A reopening clears the resolution and the deadline. -/
def VulnerabilityRecord.reopen (now : Instant) (reason : String)
    (record : VulnerabilityRecord) : VulnerabilityRecord :=
  { record with
    status := .reopened
    reopenedAt := some now
    reopenedReason := some reason
    recurrenceCount := record.recurrenceCount + 1
    recurring := true
    resolvedAt := none
    resolvedByUserId := none
    dueAt := none }

/-- The reason of a reopening by ingestion. -/
def recurrenceReason : String := "Eligible newer occurrence matched the deterministic fingerprint"

/-- The sighting of a known occurrence. That of a false positive keeps its activity. -/
def VulnerabilityOccurrence.observe (candidate : Candidate) (status : VulnerabilityStatus)
    (occurrence : VulnerabilityOccurrence) : VulnerabilityOccurrence :=
  { occurrence with
    occurrenceCount := occurrence.occurrenceCount + 1
    firstObservedAt := min occurrence.firstObservedAt candidate.observedAt
    lastObservedAt := max occurrence.lastObservedAt candidate.observedAt
    active := if status ≠ .falsePositive then candidate.active else occurrence.active
    originalSeverity := candidate.severity }

/-- The session after the vulnerability of a candidate was found or created: its key, and
whether it was created or reopened. -/
structure Sighting where
  work : Work
  vulnerability : Nat
  created : Bool
  reopened : Bool

/-- The reopening by ingestion, with its line of history. -/
def Store.recur (key : Nat) (candidate : Candidate) (status : VulnerabilityStatus)
    (actor : Option Nat) (store : Store) : Store :=
  (store.modifyVulnerability key (.reopen candidate.observedAt recurrenceReason)).addHistory
    ⟨key, some status, .reopened, some recurrenceReason, actor⟩

/-- Add a vulnerability. -/
def Store.addVulnerability (record : VulnerabilityRecord) (store : Store) : Store :=
  { store with vulnerabilities := store.vulnerabilities.insert record }

/-- Add an occurrence. -/
def Store.addOccurrence (occurrence : VulnerabilityOccurrence) (store : Store) : Store :=
  { store with occurrences := store.occurrences.insert occurrence }

/-- The first half of `ingest_candidate`. -/
def sightVulnerability (work : Work) (candidate : Candidate) (actor : Option Nat) : Sighting :=
  match (work.query Store.vulnerabilities fun _ record =>
      record.fingerprint == candidate.fingerprint env).head? with
  | none =>
    let key := work.live.vulnerabilities.nextKey
    let created := (work.write (Store.addVulnerability (candidate.newVulnerability env))).flush
    ⟨created.write (Store.addHistory
      ⟨key, none, .new, some "Created from eligible stored finding", actor⟩), key, true, false⟩
  | some (key, record) =>
    let observed := work.write (Store.modifyVulnerability key (.observe candidate))
    if (record.observe candidate).recurs candidate then
      ⟨observed.write (Store.recur key candidate record.status actor), key, false, true⟩
    else ⟨observed, key, false, false⟩

/-- The occurrence of a candidate: its key, and whether it was created. -/
def sightOccurrence (work : Work) (candidate : Candidate) (vulnerability : Nat) :
    Work × Nat × Bool :=
  match (work.query Store.occurrences fun _ occurrence =>
      candidate.seenIn env occurrence).head? with
  | some (key, _) =>
    let status := ((vulnerability? work vulnerability).map VulnerabilityRecord.status).getD .new
    (work.write (Store.modifyOccurrence key (.observe candidate status)), key, false)
  | none =>
    let key := work.live.occurrences.nextKey
    ((work.write (Store.addOccurrence (candidate.newOccurrence env vulnerability))).flush,
      key, true)

/-- The evidence of a candidate, kept once. -/
def sightEvidence (work : Work) (candidate : Candidate) (vulnerability occurrence : Nat)
    (actor : Option Nat) : Work :=
  if (work.query Store.evidence fun _ evidence =>
      evidence.vulnerabilityId == vulnerability &&
        evidence.contentSha256 == candidate.contentHash env &&
        evidence.sourceModule == candidate.sourceModule &&
        evidence.sourceEntityId == candidate.sourceEntityId).isEmpty then
    work.write (Store.addEvidence
      { vulnerabilityId := vulnerability
        occurrenceId := some occurrence
        evidenceType := "stored_finding"
        sourceModule := candidate.sourceModule
        sourceEntityType := candidate.sourceEntityType
        sourceEntityId := candidate.sourceEntityId
        contentSha256 := candidate.contentHash env
        createdByUserId := actor })
  else work

/-- What `ingest_candidate` answers. -/
structure Ingested where
  work : Work
  vulnerability : Nat
  created : Bool
  occurrence : Nat
  occurrenceCreated : Bool
  reopened : Bool

/-- `ingest_candidate` up to the scores. -/
def sightCandidate (work : Work) (candidate : Candidate) (actor : Option Nat) : Ingested :=
  let sighting := sightVulnerability env work candidate actor
  let occurrence := sightOccurrence env sighting.work candidate sighting.vulnerability
  ⟨sightEvidence env occurrence.1 candidate sighting.vulnerability occurrence.2.1 actor,
    sighting.vulnerability, sighting.created, occurrence.2.1, occurrence.2.2, sighting.reopened⟩

/-- The scores and the deadline at the end of `ingest_candidate`. -/
def afterSighting (work : Work) (key : Nat) (observedAt : Instant) (reopened : Bool)
    (now : Instant) : Work :=
  let scored := calculatePriority work key now
  let status := ((vulnerability? scored key).map VulnerabilityRecord.status).getD .new
  if status = .confirmed ∨ status = .reopened then applySla scored key (some observedAt) reopened
  else scored

def ingestCandidate (work : Work) (candidate : Candidate) (actor : Option Nat) (now : Instant) :
    Ingested :=
  let seen := sightCandidate env work candidate actor
  let work := afterSighting seen.work seen.vulnerability candidate.observedAt seen.reopened now
  { seen with work := work }

/-- The candidates of `run_ingestion`, in one session. -/
def ingestCandidates (work : Work) (candidates : List Candidate) (actor : Option Nat)
    (now : Instant) : Work :=
  candidates.foldl (fun work candidate => (ingestCandidate env work candidate actor now).work)
    work

end ThreatScope.Vulnerabilities
