import ThreatScope.Vulnerabilities.Expiry

/-!
# What an ingestion writes

A candidate finds the vulnerability of its fingerprint or creates it, and finds the
occurrence of its record or creates it. Both are looked up in the database, and both are
flushed when they are created, so in the session of an ingestion the database and the
session agree on the fingerprints and on the records (`Synced`), and a lookup finds what
is there. The effect on the two tables is stated once (`ingest_vulnerabilities`,
`ingest_occurrences`), and every result about ingestion starts from it.
-/

set_option autoImplicit false

namespace ThreatScope.Vulnerabilities

open Library AccessControl

/-! ## The database and the session -/

/-- The columns of `uq_vm_occurrence_source`. -/
def VulnerabilityOccurrence.source (occurrence : VulnerabilityOccurrence) :
    String × String × Nat × String :=
  (occurrence.sourceModule, occurrence.sourceEntityType, occurrence.sourceEntityId,
    occurrence.findingFingerprint)

/-- The columns of `uq_vm_occurrence_source` that a candidate is looked up by. -/
def Candidate.source (env : VmPlatform) (candidate : Candidate) :
    String × String × Nat × String :=
  (candidate.sourceModule, candidate.sourceEntityType, candidate.sourceEntityId,
    candidate.evidenceFingerprint env)

theorem seenIn_iff {env : VmPlatform} {candidate : Candidate}
    {occurrence : VulnerabilityOccurrence} :
    candidate.seenIn env occurrence = true ↔ occurrence.source = candidate.source env := by
  simp [Candidate.seenIn, VulnerabilityOccurrence.source, Candidate.source, and_assoc]

/-- The database knows every vulnerability and every occurrence of the session. -/
structure Synced (work : Work) : Prop where
  vulnerabilities : Agree VulnerabilityRecord.fingerprint work.stored.vulnerabilities
    work.live.vulnerabilities
  occurrences : Agree VulnerabilityOccurrence.source work.stored.occurrences
    work.live.occurrences

/-! ## The vulnerability -/

/-- A known vulnerability after the sighting of a candidate. -/
def VulnerabilityRecord.sighted (candidate : Candidate) (record : VulnerabilityRecord) :
    VulnerabilityRecord :=
  if (record.observe candidate).recurs candidate then
    (record.observe candidate).reopen candidate.observedAt recurrenceReason
  else record.observe candidate

/-- A session after the vulnerability of a candidate was found. -/
structure FoundVulnerability (work : Work) (candidate : Candidate) (fingerprint : String)
    (sighting : Sighting) (record : VulnerabilityRecord) : Prop where
  stored : vulnerability? work sighting.vulnerability = some record
  fingerprint : record.fingerprint = fingerprint
  created : sighting.created = false
  reopened : sighting.reopened = (record.observe candidate).recurs candidate
  vulnerabilities : ∀ key, vulnerability? sighting.work key =
    if key = sighting.vulnerability then some (record.sighted candidate)
    else vulnerability? work key
  db : sighting.work.stored = work.stored

/-- A session after the vulnerability of a candidate was created. -/
structure CreatedVulnerability (env : VmPlatform) (work : Work) (candidate : Candidate)
    (sighting : Sighting) : Prop where
  absent : ∀ key record, vulnerability? work key = some record →
    record.fingerprint ≠ candidate.fingerprint env
  key : sighting.vulnerability = work.live.vulnerabilities.nextKey
  created : sighting.created = true
  reopened : sighting.reopened = false
  vulnerabilities : ∀ key, vulnerability? sighting.work key =
    if key = sighting.vulnerability then some (candidate.newVulnerability env)
    else vulnerability? work key
  db : sighting.work.stored = work.live.addVulnerability (candidate.newVulnerability env)

section Sighting

variable (env : VmPlatform) (work : Work) (candidate : Candidate) (actor : Option Nat)

theorem sightVulnerability_rest :
    (sightVulnerability env work candidate actor).work.live.occurrences =
        work.live.occurrences ∧
      (sightVulnerability env work candidate actor).work.live.evidence =
        work.live.evidence ∧
      (sightVulnerability env work candidate actor).work.live.acceptances =
        work.live.acceptances := by
  unfold sightVulnerability
  split
  · exact ⟨rfl, rfl, rfl⟩
  · extract_lets observed
    split
    · exact ⟨rfl, rfl, rfl⟩
    · exact ⟨rfl, rfl, rfl⟩

/-- **The vulnerability of a candidate is found by its fingerprint, or created.** -/
theorem sightVulnerability_effect {work : Work} (synced : Synced work) :
    (∃ record, FoundVulnerability work candidate (candidate.fingerprint env)
        (sightVulnerability env work candidate actor) record) ∨
      CreatedVulnerability env work candidate
        (sightVulnerability env work candidate actor) := by
  have asks : ∀ (key : Nat) (record : VulnerabilityRecord),
      (record.fingerprint == candidate.fingerprint env) = true ↔
        record.fingerprint = candidate.fingerprint env := fun _ _ => beq_iff_eq
  unfold sightVulnerability
  split
  · rename_i missing
    refine .inr ⟨UnitOfWork.of_head?_eq_none (· = candidate.fingerprint env)
      synced.vulnerabilities asks missing, rfl, rfl, rfl, fun key => ?_, rfl⟩
    exact Table.get?_insert _ _ key
  · rename_i key record found
    obtain ⟨stored, same⟩ := UnitOfWork.of_head?_eq_some (· = candidate.fingerprint env)
      synced.vulnerabilities asks found
    have observed : ∀ other, vulnerability?
        (work.write (Store.modifyVulnerability key (.observe candidate))) other =
          if other = key then some (record.observe candidate) else vulnerability? work other := by
      intro other
      refine (Table.get?_modify _ key other _).trans ?_
      split
      · rename_i here
        rw [here, stored, Option.map_some]
      · rfl
    left
    refine ⟨record, ?_⟩
    simp only
    split
    · rename_i recurs
      refine ⟨stored, same, rfl, recurs.symm, fun other => ?_, rfl⟩
      refine (Table.get?_modify _ key other _).trans ?_
      rw [VulnerabilityRecord.sighted, if_pos recurs]
      have before := observed other
      split
      · rename_i here
        rw [if_pos here] at before
        exact congrArg (Option.map _) before
      · rename_i apart
        rw [if_neg apart] at before
        exact before
    · rename_i settled
      refine ⟨stored, same, rfl, (Bool.eq_false_iff.mpr settled).symm, fun other => ?_, rfl⟩
      rw [VulnerabilityRecord.sighted, if_neg settled]
      exact observed other

end Sighting

/-! ## The occurrence -/

/-- A session after the occurrence of a candidate was found. -/
structure FoundOccurrence (env : VmPlatform) (work : Work) (candidate : Candidate)
    (result : Work × Nat × Bool) (occurrence : VulnerabilityOccurrence) : Prop where
  stored : work.live.occurrences.get? result.2.1 = some occurrence
  source : occurrence.source = candidate.source env
  occurrences : ∃ status, ∀ key, result.1.live.occurrences.get? key =
    if key = result.2.1 then some (occurrence.observe candidate status)
    else work.live.occurrences.get? key
  db : result.1.stored = work.stored

/-- A session after the occurrence of a candidate was created. -/
structure CreatedOccurrence (env : VmPlatform) (work : Work) (candidate : Candidate)
    (vulnerability : Nat) (result : Work × Nat × Bool) : Prop where
  absent : ∀ key occurrence, work.live.occurrences.get? key = some occurrence →
    occurrence.source ≠ candidate.source env
  key : result.2.1 = work.live.occurrences.nextKey
  occurrences : ∀ key, result.1.live.occurrences.get? key =
    if key = result.2.1 then some (candidate.newOccurrence env vulnerability)
    else work.live.occurrences.get? key
  db : result.1.stored = result.1.live

section Occurrence

variable (env : VmPlatform) (work : Work) (candidate : Candidate) (vulnerability : Nat)

theorem sightOccurrence_rest :
    (sightOccurrence env work candidate vulnerability).1.live.vulnerabilities =
        work.live.vulnerabilities ∧
      (sightOccurrence env work candidate vulnerability).1.live.acceptances =
        work.live.acceptances := by
  unfold sightOccurrence
  split
  · exact ⟨rfl, rfl⟩
  · exact ⟨rfl, rfl⟩

/-- **The occurrence of a candidate is found by its record, or created for the
vulnerability.** -/
theorem sightOccurrence_effect {work : Work} (synced : Agree VulnerabilityOccurrence.source
      work.stored.occurrences work.live.occurrences) :
    (∃ occurrence, FoundOccurrence env work candidate
        (sightOccurrence env work candidate vulnerability) occurrence) ∨
      CreatedOccurrence env work candidate vulnerability
        (sightOccurrence env work candidate vulnerability) := by
  have asks : ∀ (key : Nat) (occurrence : VulnerabilityOccurrence),
      candidate.seenIn env occurrence = true ↔
        occurrence.source = candidate.source env := fun _ _ => seenIn_iff
  unfold sightOccurrence
  split
  · rename_i key occurrence found
    obtain ⟨stored, same⟩ := UnitOfWork.of_head?_eq_some (· = candidate.source env)
      synced asks found
    refine .inl ⟨occurrence, stored, same, ⟨((vulnerability? work vulnerability).map
      VulnerabilityRecord.status).getD .new, fun other => ?_⟩, rfl⟩
    refine (Table.get?_modify _ key other _).trans ?_
    split
    · rename_i here
      rw [here, stored, Option.map_some]
    · rfl
  · rename_i missing
    refine .inr ⟨UnitOfWork.of_head?_eq_none (· = candidate.source env) synced asks missing,
      rfl, fun key => ?_, rfl⟩
    exact Table.get?_insert _ _ key

theorem sightEvidence_rest (occurrence : Nat) (actor : Option Nat) :
    (sightEvidence env work candidate vulnerability occurrence actor).stored = work.stored ∧
      (sightEvidence env work candidate vulnerability occurrence actor).live.vulnerabilities =
        work.live.vulnerabilities ∧
      (sightEvidence env work candidate vulnerability occurrence actor).live.occurrences =
        work.live.occurrences ∧
      (sightEvidence env work candidate vulnerability occurrence actor).live.acceptances =
        work.live.acceptances := by
  unfold sightEvidence
  split
  · exact ⟨rfl, rfl, rfl, rfl⟩
  · exact ⟨rfl, rfl, rfl, rfl⟩

end Occurrence

/-! ## The ingestion -/

theorem looked_afterSighting (work : Work) (key : Nat) (observedAt : Instant) (reopened : Bool)
    (now : Instant) :
    Looked now work (afterSighting work key observedAt reopened now) ∧
      OnlyAt key work (afterSighting work key observedAt reopened now) := by
  have looked := looked_calculatePriority now work key
  have only := onlyAt_calculatePriority work key now
  unfold afterSighting
  extract_lets scored status
  split
  · exact ⟨looked.trans (looked_applySla now scored key _ _),
      only.trans (onlyAt_applySla scored key _ _)⟩
  · exact ⟨looked, only⟩

/-- What becomes of the vulnerability of a candidate. -/
inductive IngestedVulnerability (env : VmPlatform) (work : Work) (candidate : Candidate)
    (now : Instant) (result : Ingested) : Prop where
  | found (record new : VulnerabilityRecord)
      (stored : vulnerability? work result.vulnerability = some record)
      (fingerprint : record.fingerprint = candidate.fingerprint env)
      (created : result.created = false)
      (reopened : result.reopened = (record.observe candidate).recurs candidate)
      (after : vulnerability? result.work result.vulnerability = some new)
      (scored : Rescored now (record.sighted candidate) new)
  | created (new : VulnerabilityRecord)
      (absent : ∀ key record, vulnerability? work key = some record →
        record.fingerprint ≠ candidate.fingerprint env)
      (fresh : result.vulnerability = work.live.vulnerabilities.nextKey)
      (created : result.created = true)
      (after : vulnerability? result.work result.vulnerability = some new)
      (scored : Rescored now (candidate.newVulnerability env) new)

section Ingestion

variable (env : VmPlatform) (work : Work) (candidate : Candidate) (actor : Option Nat)
  (now : Instant)

theorem sightCandidate_vulnerability : (sightCandidate env work candidate actor).vulnerability =
    (sightVulnerability env work candidate actor).vulnerability := rfl

theorem ingestCandidate_vulnerability :
    (ingestCandidate env work candidate actor now).vulnerability =
      (sightVulnerability env work candidate actor).vulnerability := rfl

theorem vulnerability?_sightCandidate (key : Nat) :
    vulnerability? (sightCandidate env work candidate actor).work key =
      vulnerability? (sightVulnerability env work candidate actor).work key := by
  unfold vulnerability? sightCandidate
  simp only
  rw [(sightEvidence_rest ..).2.1, (sightOccurrence_rest ..).1]

theorem looked_ingestCandidate :
    Looked now (sightCandidate env work candidate actor).work
        (ingestCandidate env work candidate actor now).work ∧
      OnlyAt (sightVulnerability env work candidate actor).vulnerability
        (sightCandidate env work candidate actor).work
        (ingestCandidate env work candidate actor now).work := by
  rw [← sightCandidate_vulnerability]
  unfold ingestCandidate
  generalize sightCandidate env work candidate actor = seen
  exact looked_afterSighting seen.work seen.vulnerability _ _ now

/-- **The vulnerability of a candidate after its ingestion.** -/
theorem ingest_vulnerability {work : Work} (synced : Synced work) :
    IngestedVulnerability env work candidate now
        (ingestCandidate env work candidate actor now) ∧
      ∀ other, other ≠ (sightVulnerability env work candidate actor).vulnerability →
        vulnerability? (ingestCandidate env work candidate actor now).work other =
          vulnerability? work other := by
  obtain ⟨looked, only⟩ := looked_ingestCandidate env work candidate actor now
  have rows : ∀ key, vulnerability? (sightCandidate env work candidate actor).work key =
      vulnerability? (sightVulnerability env work candidate actor).work key :=
    vulnerability?_sightCandidate env work candidate actor
  have key := ingestCandidate_vulnerability env work candidate actor now
  rcases sightVulnerability_effect env candidate actor synced with
    ⟨record, found⟩ | created
  · constructor
    · obtain ⟨new, after, scored⟩ := looked.live.exists_rescored
        ((rows _).trans ((found.vulnerabilities _).trans (if_pos rfl)))
      exact .found record new (by rw [key]; exact found.stored) found.fingerprint found.created
        found.reopened (by rw [key]; exact after) scored
    · intro other apart
      rw [only.rows other apart, rows, found.vulnerabilities, if_neg apart]
  · constructor
    · obtain ⟨new, after, scored⟩ := looked.live.exists_rescored
        ((rows _).trans ((created.vulnerabilities _).trans (if_pos rfl)))
      exact .created new created.absent (by rw [key]; exact created.key) created.created
        (by rw [key]; exact after) scored
    · intro other apart
      rw [only.rows other apart, rows, created.vulnerabilities, if_neg apart]

/-! ## The session stays synced -/

theorem Synced.of_flushed {work : Work} (flushed : work.stored = work.live) : Synced work := by
  constructor
  · rw [flushed]
    exact .refl _
  · rw [flushed]
    exact .refl _

theorem Synced.write {work later : Work} (synced : Synced work)
    (stored : later.stored = work.stored)
    (vulnerabilities : Agree VulnerabilityRecord.fingerprint work.live.vulnerabilities
      later.live.vulnerabilities)
    (occurrences : Agree VulnerabilityOccurrence.source work.live.occurrences
      later.live.occurrences) : Synced later := by
  constructor
  · rw [stored]
    exact synced.vulnerabilities.trans vulnerabilities
  · rw [stored]
    exact synced.occurrences.trans occurrences

theorem Synced.looked {work later : Work} {now : Instant} (synced : Synced work)
    (looked : Looked now work later) : Synced later := by
  refine synced.write looked.stored ?_ ?_
  · exact .of_rel (Rescored now) looked.live.vulnerabilities fun _ _ scored => scored.fingerprint
  · rw [looked.live.occurrences]
    exact .refl _

theorem VulnerabilityRecord.fingerprint_sighted (candidate : Candidate)
    (record : VulnerabilityRecord) :
    (record.sighted candidate).fingerprint = record.fingerprint := by
  unfold VulnerabilityRecord.sighted
  split
  · rfl
  · rfl

theorem Synced.sightVulnerability {work : Work} (synced : Synced work) :
    Synced (sightVulnerability env work candidate actor).work := by
  have rest := sightVulnerability_rest env work candidate actor
  rcases sightVulnerability_effect env candidate actor synced with
    ⟨record, found⟩ | created
  · refine synced.write found.db (fun key => ?_) ?_
    · have after := found.vulnerabilities key
      have before := found.stored
      unfold vulnerability? at after before
      rw [after]
      split
      · rename_i here
        rw [here, before, Option.map_some, Option.map_some, record.fingerprint_sighted]
      · rfl
    · rw [rest.1]
      exact .refl _
  · constructor
    · rw [created.db]
      intro key
      have after := created.vulnerabilities key
      unfold vulnerability? at after
      rw [after, created.key, Store.addVulnerability, Table.get?_insert]
    · rw [created.db, rest.1]
      exact .refl _

theorem Synced.sightOccurrence {work : Work} (synced : Synced work) (vulnerability : Nat) :
    Synced (sightOccurrence env work candidate vulnerability).1 := by
  have rest := sightOccurrence_rest env work candidate vulnerability
  rcases sightOccurrence_effect env candidate vulnerability synced.occurrences with
    ⟨occurrence, found⟩ | created
  · refine synced.write found.db ?_ fun key => ?_
    · rw [rest.1]
      exact .refl _
    · obtain ⟨status, after⟩ := found.occurrences
      rw [after key]
      split
      · rename_i here
        rw [here, found.stored, Option.map_some, Option.map_some]
        rfl
      · rfl
  · exact .of_flushed created.db

/-- **An ingestion leaves the session and the database with the same fingerprints and the
same sources.** -/
theorem synced_ingest {work : Work} (synced : Synced work) :
    Synced (ingestCandidate env work candidate actor now).work := by
  have looked := (looked_ingestCandidate env work candidate actor now).1
  refine Synced.looked ?_ looked
  have sighted := (synced.sightVulnerability env candidate actor).sightOccurrence env
    candidate (sightVulnerability env work candidate actor).vulnerability
  refine sighted.write (sightEvidence_rest ..).1 ?_ ?_
  · rw [sightCandidate, (sightEvidence_rest ..).2.1]
    exact .refl _
  · rw [sightCandidate, (sightEvidence_rest ..).2.2.1]
    exact .refl _

/-! ## The occurrence of an ingestion -/

/-- What becomes of the occurrence of a candidate. -/
inductive IngestedOccurrence (env : VmPlatform) (work : Work) (candidate : Candidate)
    (result : Ingested) : Prop where
  | found (old : VulnerabilityOccurrence) (status : VulnerabilityStatus)
      (stored : work.live.occurrences.get? result.occurrence = some old)
      (source : old.source = candidate.source env)
      (rows : ∀ key, result.work.live.occurrences.get? key =
        if key = result.occurrence then some (old.observe candidate status)
        else work.live.occurrences.get? key)
  | created
      (absent : ∀ key occurrence, work.live.occurrences.get? key = some occurrence →
        occurrence.source ≠ candidate.source env)
      (fresh : result.occurrence = work.live.occurrences.nextKey)
      (rows : ∀ key, result.work.live.occurrences.get? key =
        if key = result.occurrence then
          some (candidate.newOccurrence env result.vulnerability)
        else work.live.occurrences.get? key)

theorem ingestCandidate_occurrence :
    (ingestCandidate env work candidate actor now).occurrence =
      (sightOccurrence env (sightVulnerability env work candidate actor).work candidate
        (sightVulnerability env work candidate actor).vulnerability).2.1 := rfl

theorem occurrences_ingestCandidate :
    (ingestCandidate env work candidate actor now).work.live.occurrences =
      (sightOccurrence env (sightVulnerability env work candidate actor).work candidate
        (sightVulnerability env work candidate actor).vulnerability).1.live.occurrences := by
  rw [(looked_ingestCandidate env work candidate actor now).1.live.occurrences, sightCandidate]
  exact (sightEvidence_rest ..).2.2.1

/-- **The occurrence of a candidate after its ingestion.** -/
theorem ingest_occurrence {work : Work} (synced : Synced work) :
    IngestedOccurrence env work candidate
      (ingestCandidate env work candidate actor now) := by
  have rows := occurrences_ingestCandidate env work candidate actor now
  have own := ingestCandidate_occurrence env work candidate actor now
  have before : (sightVulnerability env work candidate actor).work.live.occurrences =
      work.live.occurrences := (sightVulnerability_rest ..).1
  have sighted := (synced.sightVulnerability env candidate actor).occurrences
  rcases sightOccurrence_effect env candidate
      (sightVulnerability env work candidate actor).vulnerability sighted with
    ⟨old, found⟩ | created
  · obtain ⟨status, after⟩ := found.occurrences
    refine .found old status ?_ found.source fun key => ?_
    · rw [own, ← before]
      exact found.stored
    · rw [rows, own, ← before]
      exact after key
  · refine .created (fun key occurrence there => ?_) ?_ fun key => ?_
    · rw [← before] at there
      exact created.absent key occurrence there
    · rw [own, ← before]
      exact created.key
    · rw [rows, own, ingestCandidate_vulnerability, ← before]
      exact created.occurrences key

/-! ## Unique fingerprints -/

/-- The column `vm_vulnerabilities.fingerprint` is unique. -/
def Store.FingerprintsUnique (store : Store) : Prop :=
  Distinct VulnerabilityRecord.fingerprint store.vulnerabilities

theorem unique_ingest {work : Work} (synced : Synced work) (unique : work.live.FingerprintsUnique) :
    (ingestCandidate env work candidate actor now).work.live.FingerprintsUnique := by
  obtain ⟨ingested, others⟩ := ingest_vulnerability env candidate actor now synced
  have key := ingestCandidate_vulnerability env work candidate actor now
  rw [← key] at others
  have source : ∀ other new,
      other ≠ (ingestCandidate env work candidate actor now).vulnerability →
        vulnerability? (ingestCandidate env work candidate actor now).work other = some new →
        ∃ old, vulnerability? work other = some old ∧ new.fingerprint = old.fingerprint :=
    fun other new apart stored => ⟨new, (others other apart).symm.trans stored, rfl⟩
  cases ingested with
  | found record new stored fingerprint _ _ after scored =>
    refine unique.of_rows fun other row there => ?_
    by_cases here : other = (ingestCandidate env work candidate actor now).vulnerability
    · subst here
      obtain rfl := Option.some.inj (there.symm.trans after)
      exact ⟨record, stored, scored.fingerprint.trans (record.fingerprint_sighted candidate)⟩
    · exact source other row here there
  | created new absent fresh _ after scored =>
    refine unique.extend after (fun key record there => ?_) source
    rw [scored.fingerprint]
    exact absent key record there

end Ingestion

end ThreatScope.Vulnerabilities
