import ThreatScope.Vulnerabilities.Merging
import ThreatScope.Vulnerabilities.Reopening

/-!
# Which vulnerability an ingestion credits

An ingestion looks the vulnerability up by its fingerprint, which contains the asset and the
location, and the occurrence by the record it was found in. The two lookups agree where the
occurrence belongs to the vulnerability of the fingerprint. Where they do not (after a merge
or a split, or when the same record is seen at another location), the vulnerability that
owns the occurrence is neither seen nor reopened, and one that was created for the
fingerprint has no occurrence. `credited_iff` says exactly when the owner is credited all
the same.
-/

set_option autoImplicit false

namespace ThreatScope.Vulnerabilities

open Library AccessControl

/-! ## Well-formed stores -/

/-- Some occurrence belongs to the vulnerability. -/
def Store.HasOccurrence (store : Store) (key : Nat) : Prop :=
  ∃ id occurrence, store.occurrences.get? id = some occurrence ∧ occurrence.vulnerabilityId = key

/-- What the constraints of the tables promise: fingerprints are unique, sources are unique,
and every occurrence belongs to a vulnerability. -/
structure Store.WellFormed (store : Store) : Prop where
  fingerprints : store.FingerprintsUnique
  sources : Distinct VulnerabilityOccurrence.source store.occurrences
  owners : ∀ id occurrence, store.occurrences.get? id = some occurrence →
    ∃ record, store.vulnerabilities.get? occurrence.vulnerabilityId = some record

theorem Store.WellFormed.empty : Store.empty.WellFormed :=
  ⟨.empty, .empty, fun _ _ stored => by cases stored⟩

/-- A vulnerability that was archived by a merge. -/
def VulnerabilityRecord.ArchivedByMerge (record : VulnerabilityRecord) : Prop :=
  record.status = .archived ∧ record.mergedIntoId ≠ none

/-! ## Credit and its condition -/

/-- The occurrence of the candidate belongs to a vulnerability that is not archived by a merge,
was seen at least as late as the candidate, and is reopened if it had to be; and no
vulnerability is without an occurrence. -/
def Credited (candidate : Candidate) (before after : Store) (occurrence : Nat) : Prop :=
  (∃ row record, after.occurrences.get? occurrence = some row ∧
    after.vulnerabilities.get? row.vulnerabilityId = some record ∧
    ¬record.ArchivedByMerge ∧ candidate.observedAt ≤ record.lastSeenAt ∧
    ∀ old, before.vulnerabilities.get? row.vulnerabilityId = some old →
      old.SeenAgain candidate → record.status = .reopened) ∧
  ∀ key record, after.vulnerabilities.get? key = some record → after.HasOccurrence key

/-- The lookups of a candidate agree, or the disagreement does not matter: either no occurrence
is known and the vulnerability of the fingerprint is not archived by a merge; or the
occurrence belongs to a vulnerability that is not archived by a merge and either has the
fingerprint, or was seen later and needs no reopening while another one with the fingerprint
has an occurrence. All other vulnerabilities have one. -/
def Store.Creditable (env : VmPlatform) (store : Store) (candidate : Candidate) : Prop :=
  (∀ key record, store.vulnerabilities.get? key = some record →
    record.fingerprint = candidate.fingerprint env ∨ store.HasOccurrence key) ∧
  ((∀ id row, store.occurrences.get? id = some row → row.source ≠ candidate.source env) ∧
      (∀ key record, store.vulnerabilities.get? key = some record →
        record.fingerprint = candidate.fingerprint env → ¬record.ArchivedByMerge) ∨
    ∃ id row owner, store.occurrences.get? id = some row ∧
      row.source = candidate.source env ∧
      store.vulnerabilities.get? row.vulnerabilityId = some owner ∧ ¬owner.ArchivedByMerge ∧
      (owner.fingerprint = candidate.fingerprint env ∨
        (∃ key record, store.vulnerabilities.get? key = some record ∧
          record.fingerprint = candidate.fingerprint env ∧ store.HasOccurrence key) ∧
        candidate.observedAt ≤ owner.lastSeenAt ∧ ¬owner.SeenAgain candidate))

/-! ## The vulnerability of the fingerprint -/

section Ingestion

variable {env : VmPlatform} {work : Work} {candidate : Candidate} {actor : Option Nat}
  {now : Instant}

theorem VulnerabilityRecord.lastSeenAt_sighted (record : VulnerabilityRecord)
    (candidate : Candidate) :
    (record.sighted candidate).lastSeenAt = max record.lastSeenAt candidate.observedAt := by
  unfold VulnerabilityRecord.sighted
  split
  · rfl
  · rfl

theorem VulnerabilityRecord.mergedIntoId_sighted (record : VulnerabilityRecord)
    (candidate : Candidate) :
    (record.sighted candidate).mergedIntoId = record.mergedIntoId := by
  unfold VulnerabilityRecord.sighted
  split
  · rfl
  · rfl

theorem archivedByMerge_iff {old new : VulnerabilityRecord}
    (merged : new.mergedIntoId = old.mergedIntoId)
    (status : new.status = old.status ∨ new.status = .reopened)
    (moved : new.status ≠ old.status → old.status = .resolved ∨ old.status = .acceptedRisk) :
    new.ArchivedByMerge ↔ old.ArchivedByMerge := by
  unfold VulnerabilityRecord.ArchivedByMerge
  rw [merged]
  refine and_congr_left fun _ => ⟨fun archived => ?_, fun archived => ?_⟩
  · rcases status with same | reopened
    · exact same.symm.trans archived
    · cases reopened.symm.trans archived
  · by_contra changed
    rcases moved (fun same => changed (same.trans archived)) with resolved | accepted
    · cases resolved.symm.trans archived
    · cases accepted.symm.trans archived

/-- **The vulnerability of the fingerprint is credited.** -/
theorem credits_found (answering : Answering work) {key : Nat} {record new : VulnerabilityRecord}
    (stored : vulnerability? work key = some record)
    (own : record.fingerprint = candidate.fingerprint env)
    (after : vulnerability? (ingestCandidate env work candidate actor now).work key =
      some new) (scored : Rescored now (record.sighted candidate) new) :
    (new.ArchivedByMerge ↔ record.ArchivedByMerge) ∧ candidate.observedAt ≤ new.lastSeenAt ∧
      (record.SeenAgain candidate → new.status = .reopened) := by
  obtain ⟨other, found, status, moved⟩ :=
    answering.status_ingest env candidate actor now stored
  obtain rfl := Option.some.inj (found.symm.trans after)
  refine ⟨archivedByMerge_iff ?_ status fun changed => ?_, ?_, fun again => ?_⟩
  · exact scored.mergedIntoId.trans (record.mergedIntoId_sighted candidate)
  · obtain ⟨-, again | ⟨accepted, -⟩⟩ := moved.mp changed
    · exact .inl again.1
    · exact .inr accepted
  · rw [scored.lastSeenAt, record.lastSeenAt_sighted]
    exact le_max_right _ _
  · exact status.resolve_left (moved.mpr ⟨own, .inl again⟩)

end Ingestion

/-! ## The four cases -/

section Cases

variable {env : VmPlatform} {work : Work} {candidate : Candidate} {result : Ingested}

/-- What happens to the vulnerability of the fingerprint, where there is one. -/
structure FoundRecord (env : VmPlatform) (work : Work) (candidate : Candidate)
    (result : Ingested) (record new : VulnerabilityRecord) : Prop where
  stored : work.live.vulnerabilities.get? result.vulnerability = some record
  fingerprint : record.fingerprint = candidate.fingerprint env
  after : result.work.live.vulnerabilities.get? result.vulnerability = some new
  archived : new.ArchivedByMerge ↔ record.ArchivedByMerge
  seen : candidate.observedAt ≤ new.lastSeenAt
  reopened : record.SeenAgain candidate → new.status = .reopened

/-- Where there is none, a new one is created. -/
structure CreatedRecord (env : VmPlatform) (work : Work) (candidate : Candidate)
    (result : Ingested) (new : VulnerabilityRecord) : Prop where
  absent : ∀ key record, work.live.vulnerabilities.get? key = some record →
    record.fingerprint ≠ candidate.fingerprint env
  fresh : result.vulnerability = work.live.vulnerabilities.nextKey
  after : result.work.live.vulnerabilities.get? result.vulnerability = some new
  open_ : ¬new.ArchivedByMerge
  seen : candidate.observedAt ≤ new.lastSeenAt

/-- The occurrences after a candidate: its own is the row. -/
def StoresRow (work : Work) (result : Ingested) (row : VulnerabilityOccurrence) : Prop :=
  ∀ key, result.work.live.occurrences.get? key =
    if key = result.occurrence then some row else work.live.occurrences.get? key

/-- The other vulnerabilities stay. -/
def OthersStay (work : Work) (result : Ingested) : Prop :=
  ∀ other, other ≠ result.vulnerability →
    result.work.live.vulnerabilities.get? other = work.live.vulnerabilities.get? other

theorem hasOccurrence_found {old : VulnerabilityOccurrence} {status : VulnerabilityStatus}
    (stored : work.live.occurrences.get? result.occurrence = some old)
    (rows : StoresRow work result (old.observe candidate status)) (key : Nat) :
    result.work.live.HasOccurrence key ↔ work.live.HasOccurrence key := by
  constructor
  · rintro ⟨id, row, there, owner⟩
    rw [rows id] at there
    split at there
    · obtain rfl := Option.some.inj there
      exact ⟨_, old, stored, owner⟩
    · exact ⟨id, row, there, owner⟩
  · rintro ⟨id, row, there, owner⟩
    by_cases here : id = result.occurrence
    · rw [here] at there
      obtain rfl := Option.some.inj (stored.symm.trans there)
      exact ⟨_, _, (rows _).trans (if_pos rfl), owner⟩
    · exact ⟨id, row, ((rows id).trans (if_neg here)).trans there, owner⟩

theorem hasOccurrence_created (fresh : result.occurrence = work.live.occurrences.nextKey)
    (rows : StoresRow work result (candidate.newOccurrence env result.vulnerability)) (key : Nat) :
    result.work.live.HasOccurrence key ↔
      key = result.vulnerability ∨ work.live.HasOccurrence key := by
  constructor
  · rintro ⟨id, row, there, owner⟩
    rw [rows id] at there
    split at there
    · obtain rfl := Option.some.inj there
      exact .inl owner.symm
    · exact .inr ⟨id, row, there, owner⟩
  · rintro (rfl | ⟨id, row, there, owner⟩)
    · exact ⟨_, _, (rows _).trans (if_pos rfl), rfl⟩
    · have apart : id ≠ result.occurrence := by
        rw [fresh]
        exact (Table.lt_nextKey_of_get? there).ne
      exact ⟨id, row, ((rows id).trans (if_neg apart)).trans there, owner⟩

theorem peopled_found {record new : VulnerabilityRecord}
    (found : FoundRecord env work candidate result record new)
    (others : OthersStay work result) (owned : Nat → Prop) :
    (∀ key row, result.work.live.vulnerabilities.get? key = some row → owned key) ↔
      ∀ key row, work.live.vulnerabilities.get? key = some row → owned key := by
  constructor
  · intro all key row there
    by_cases here : key = result.vulnerability
    · exact here ▸ all _ new found.after
    · exact all key row ((others key here).trans there)
  · intro all key row there
    by_cases here : key = result.vulnerability
    · exact here ▸ all _ record found.stored
    · exact all key row ((others key here).symm.trans there)

/-- Both are known: the sighting is credited to the owner, whether it is the vulnerability of the
fingerprint or another one. -/
theorem credited_iff_found_found (formed : work.live.WellFormed)
    {record new : VulnerabilityRecord} {old : VulnerabilityOccurrence}
    {status : VulnerabilityStatus} (found : FoundRecord env work candidate result record new)
    (others : OthersStay work result)
    (stored : work.live.occurrences.get? result.occurrence = some old)
    (source : old.source = candidate.source env)
    (rows : StoresRow work result (old.observe candidate status)) :
    Credited candidate work.live result.work.live result.occurrence ↔
      work.live.Creditable env candidate := by
  have there : result.work.live.occurrences.get? result.occurrence =
      some (old.observe candidate status) := (rows _).trans (if_pos rfl)
  obtain ⟨owner, owns⟩ := formed.owners _ old stored
  have own : ∀ key row, work.live.vulnerabilities.get? key = some row →
      row.fingerprint = candidate.fingerprint env → key = result.vulnerability :=
    fun key row alive same => formed.fingerprints key row _ record alive found.stored
      (same.trans found.fingerprint.symm)
  have peopled := peopled_found found others result.work.live.HasOccurrence
  simp only [hasOccurrence_found stored rows] at peopled
  unfold Credited
  simp only [hasOccurrence_found stored rows]
  rw [peopled]
  constructor
  · rintro ⟨⟨row, credited, alive, lives, unmerged, seen, reopens⟩, all⟩
    obtain rfl := Option.some.inj (there.symm.trans alive)
    refine ⟨fun key row place => .inr (all key row place), .inr ⟨_, old, owner, stored, source,
      owns, ?_⟩⟩
    by_cases here : old.vulnerabilityId = result.vulnerability
    · rw [here] at owns
      obtain rfl := Option.some.inj (owns.symm.trans found.stored)
      have same : credited = new :=
        Option.some.inj (lives.symm.trans ((congrArg _ here).trans found.after))
      rw [same, found.archived] at unmerged
      exact ⟨unmerged, .inl found.fingerprint⟩
    · have same : credited = owner :=
        Option.some.inj (lives.symm.trans ((others _ here).trans owns))
      subst same
      refine ⟨unmerged, .inr ⟨⟨_, record, found.stored, found.fingerprint,
        all _ record found.stored⟩, seen, fun again => ?_⟩⟩
      cases (reopens credited owns again).symm.trans again.1
  · rintro ⟨all, ⟨absent, -⟩ | ⟨id, row, first, alive, same, lives, unmerged, agrees⟩⟩
    · exact absurd source (absent _ old stored)
    · obtain rfl := formed.sources id row _ old alive stored (same.trans source.symm)
      obtain rfl := Option.some.inj (stored.symm.trans alive)
      obtain rfl := Option.some.inj (owns.symm.trans lives)
      by_cases here : old.vulnerabilityId = result.vulnerability
      · have isRecord : owner = record := by
          rw [here] at owns
          exact Option.some.inj (owns.symm.trans found.stored)
        subst isRecord
        refine ⟨⟨_, new, there, (congrArg _ here).trans found.after, ?_, found.seen, ?_⟩, ?_⟩
        · rwa [found.archived]
        · intro before place again
          obtain rfl := Option.some.inj (owns.symm.trans place)
          exact found.reopened again
        · intro key row place
          rcases all key row place with known | has
          · rw [own key row place known]
            exact ⟨_, old, stored, here⟩
          · exact has
      · rcases agrees with known | ⟨⟨other, another, place, known, has⟩, seen, settled⟩
        · exact absurd (own _ owner owns known) here
        · refine ⟨⟨_, owner, there, (others _ here).trans owns, unmerged, seen, ?_⟩, ?_⟩
          · intro before place again
            obtain rfl := Option.some.inj (owns.symm.trans place)
            exact absurd again settled
          · intro key row alsoPlace
            rcases all key row alsoPlace with same | alsoHas
            · rwa [own key row alsoPlace same, ← own other another place known]
            · exact alsoHas

/-- The occurrence is known and the vulnerability is new: that one has no occurrence. -/
theorem credited_iff_found_created (formed : work.live.WellFormed) {new : VulnerabilityRecord}
    {old : VulnerabilityOccurrence} {status : VulnerabilityStatus}
    (created : CreatedRecord env work candidate result new)
    (stored : work.live.occurrences.get? result.occurrence = some old)
    (source : old.source = candidate.source env)
    (rows : StoresRow work result (old.observe candidate status)) :
    Credited candidate work.live result.work.live result.occurrence ↔
      work.live.Creditable env candidate := by
  refine ⟨fun credited => ?_, fun creditable => ?_⟩
  · obtain ⟨id, row, there, owner⟩ :=
      (hasOccurrence_found stored rows _).mp (credited.2 _ new created.after)
    obtain ⟨record, lives⟩ := formed.owners id row there
    rw [owner, created.fresh] at lives
    exact absurd (Table.lt_nextKey_of_get? lives) (lt_irrefl _)
  · obtain ⟨-, ⟨absent, -⟩ | ⟨id, row, owner, -, -, lives, -, agrees⟩⟩ := creditable
    · exact absurd source (absent _ old stored)
    · rcases agrees with known | ⟨⟨key, record, place, known, -⟩, -⟩
      · exact absurd known (created.absent _ owner lives)
      · exact absurd known (created.absent key record place)

/-- A new occurrence of a record that is found is credited exactly if it is creditable. -/
theorem credited_iff_created_found (formed : work.live.WellFormed)
    {record new : VulnerabilityRecord} (found : FoundRecord env work candidate result record new)
    (others : OthersStay work result)
    (absent : ∀ key occurrence, work.live.occurrences.get? key = some occurrence →
      occurrence.source ≠ candidate.source env)
    (fresh : result.occurrence = work.live.occurrences.nextKey)
    (rows : StoresRow work result (candidate.newOccurrence env result.vulnerability)) :
    Credited candidate work.live result.work.live result.occurrence ↔
      work.live.Creditable env candidate := by
  have there : result.work.live.occurrences.get? result.occurrence =
      some (candidate.newOccurrence env result.vulnerability) := (rows _).trans (if_pos rfl)
  have own : ∀ key row, work.live.vulnerabilities.get? key = some row →
      (key = result.vulnerability ↔ row.fingerprint = candidate.fingerprint env) := by
    refine fun key row alive => ⟨fun same => ?_, fun same => ?_⟩
    · subst same
      rw [Option.some.inj (alive.symm.trans found.stored)]
      exact found.fingerprint
    · exact formed.fingerprints key row _ record alive found.stored
        (same.trans found.fingerprint.symm)
  unfold Credited
  simp only [hasOccurrence_created fresh rows]
  rw [peopled_found found others fun key =>
    key = result.vulnerability ∨ work.live.HasOccurrence key]
  constructor
  · rintro ⟨⟨row, credited, alive, lives, unmerged, -⟩, all⟩
    obtain rfl := Option.some.inj (there.symm.trans alive)
    obtain rfl := Option.some.inj (lives.symm.trans found.after)
    refine ⟨fun key row place => ?_, .inl ⟨absent, fun key row place same archived => ?_⟩⟩
    · exact (all key row place).imp_left (own key row place).mp
    · rw [(own key row place).mpr same] at place
      obtain rfl := Option.some.inj (place.symm.trans found.stored)
      exact unmerged (found.archived.mpr archived)
  · rintro ⟨all, ⟨-, unmerged⟩ | ⟨id, row, -, alive, same, -⟩⟩
    · refine ⟨⟨_, new, there, found.after, ?_, found.seen, ?_⟩, fun key row place => ?_⟩
      · rw [found.archived]
        exact unmerged _ record found.stored found.fingerprint
      · intro before place again
        obtain rfl := Option.some.inj (found.stored.symm.trans place)
        exact found.reopened again
      · exact (all key row place).imp_left (own key row place).mpr
    · exact absurd same (absent id row alive)

theorem credited_iff_created_created {new : VulnerabilityRecord}
    (created : CreatedRecord env work candidate result new) (others : OthersStay work result)
    (absent : ∀ key occurrence, work.live.occurrences.get? key = some occurrence →
      occurrence.source ≠ candidate.source env)
    (fresh : result.occurrence = work.live.occurrences.nextKey)
    (rows : StoresRow work result (candidate.newOccurrence env result.vulnerability)) :
    Credited candidate work.live result.work.live result.occurrence ↔
      work.live.Creditable env candidate := by
  have there : result.work.live.occurrences.get? result.occurrence =
      some (candidate.newOccurrence env result.vulnerability) := (rows _).trans (if_pos rfl)
  have older : ∀ key row, work.live.vulnerabilities.get? key = some row →
      key ≠ result.vulnerability := by
    intro key row place
    rw [created.fresh]
    exact (Table.lt_nextKey_of_get? place).ne
  unfold Credited
  simp only [hasOccurrence_created fresh rows]
  constructor
  · rintro ⟨-, all⟩
    refine ⟨fun key row place => .inr ?_, .inl ⟨absent, fun key row place same => ?_⟩⟩
    · exact (all key row ((others key (older key row place)).trans place)).resolve_left
        (older key row place)
    · exact absurd same (created.absent key row place)
  · rintro ⟨all, -⟩
    refine ⟨⟨_, new, there, created.after, created.open_, created.seen, ?_⟩,
      fun key row place => ?_⟩
    · intro before place again
      exact absurd rfl (older _ before place)
    · by_cases here : key = result.vulnerability
      · exact .inl here
      · have before := (others key here).symm.trans place
        exact .inr ((all key row before).resolve_left (created.absent key row before))

end Cases

/-- **An ingestion credits the owner of its occurrence exactly where its two lookups agree, or
where their disagreement does not matter.** -/
theorem Answering.credited_iff {work : Work} (answering : Answering work)
    (formed : work.live.WellFormed) (env : VmPlatform) (candidate : Candidate)
    (actor : Option Nat) (now : Instant) :
    Credited candidate work.live (ingestCandidate env work candidate actor now).work.live
        (ingestCandidate env work candidate actor now).occurrence ↔
      work.live.Creditable env candidate := by
  obtain ⟨ingested, others⟩ := ingest_vulnerability env candidate actor now answering.synced
  rw [← ingestCandidate_vulnerability env work candidate actor now] at others
  have sighted := ingest_occurrence env candidate actor now answering.synced
  cases ingested with
  | found record new stored own _ _ after scored =>
    obtain ⟨archived, seen, reopened⟩ := credits_found answering stored own after scored
    have found : FoundRecord env work candidate
        (ingestCandidate env work candidate actor now) record new :=
      ⟨stored, own, after, archived, seen, reopened⟩
    cases sighted with
    | found old status live source rows =>
      exact credited_iff_found_found formed found others live source rows
    | created absent fresh rows =>
      exact credited_iff_created_found formed found others absent fresh rows
  | created new absent fresh _ after scored =>
    have created : CreatedRecord env work candidate
        (ingestCandidate env work candidate actor now) new := by
      refine ⟨absent, fresh, after, ?_, ?_⟩
      · rintro ⟨-, merged⟩
        exact merged scored.mergedIntoId
      · exact scored.lastSeenAt.ge
    cases sighted with
    | found old status live source rows =>
      exact credited_iff_found_created formed created live source rows
    | created missing key rows =>
      exact credited_iff_created_created created others missing key rows

/-! ## Stores stay well formed -/

theorem Store.WellFormed.of_owners {store written : Store} (formed : store.WellFormed)
    (fingerprints : written.FingerprintsUnique)
    (sources : Distinct VulnerabilityOccurrence.source written.occurrences)
    (records : ∀ key record, store.vulnerabilities.get? key = some record →
      ∃ new, written.vulnerabilities.get? key = some new)
    (owners : ∀ id new, written.occurrences.get? id = some new →
      (∃ record, written.vulnerabilities.get? new.vulnerabilityId = some record) ∨
        ∃ old, store.occurrences.get? id = some old ∧
          new.vulnerabilityId = old.vulnerabilityId) : written.WellFormed := by
  refine ⟨fingerprints, sources, fun id new there => ?_⟩
  rcases owners id new there with known | ⟨old, before, same⟩
  · exact known
  · obtain ⟨record, lives⟩ := formed.owners id old before
    rw [same]
    exact records _ record lives

/-- **An ingestion keeps the constraints.** -/
theorem Store.WellFormed.ingest {work : Work} (synced : Synced work) (formed : work.live.WellFormed)
    (env : VmPlatform) (candidate : Candidate) (actor : Option Nat) (now : Instant) :
    (ingestCandidate env work candidate actor now).work.live.WellFormed := by
  obtain ⟨ingested, others⟩ := ingest_vulnerability env candidate actor now synced
  rw [← ingestCandidate_vulnerability env work candidate actor now] at others
  have records : ∀ key record, work.live.vulnerabilities.get? key = some record →
      ∃ new, (ingestCandidate env work candidate actor now).work.live.vulnerabilities.get?
        key = some new := by
    intro key record stored
    by_cases here : key = (ingestCandidate env work candidate actor now).vulnerability
    · cases ingested with
      | found _ new _ _ _ _ after _ => exact ⟨new, here ▸ after⟩
      | created new _ _ _ after _ => exact ⟨new, here ▸ after⟩
    · exact ⟨record, (others key here).trans stored⟩
  have added : ∃ new,
      (ingestCandidate env work candidate actor now).work.live.vulnerabilities.get?
        (ingestCandidate env work candidate actor now).vulnerability = some new := by
    cases ingested with
    | found _ new _ _ _ _ after _ => exact ⟨new, after⟩
    | created new _ _ _ after _ => exact ⟨new, after⟩
  have unique := unique_ingest env candidate actor now synced formed.fingerprints
  cases ingest_occurrence env candidate actor now synced with
  | found old status stored source rows =>
    have homes : ∀ id new,
        (ingestCandidate env work candidate actor now).work.live.occurrences.get? id =
          some new →
        ∃ old, work.live.occurrences.get? id = some old ∧ new.home = old.home := by
      intro id new there
      rw [rows] at there
      split at there
      · rename_i here
        obtain rfl := Option.some.inj there
        exact ⟨old, here ▸ stored, rfl⟩
      · exact ⟨new, there, rfl⟩
    refine formed.of_owners unique (formed.sources.of_rows fun id new there => ?_) records
      fun id new there => ?_
    · obtain ⟨before, place, same⟩ := homes id new there
      exact ⟨before, place, congrArg Prod.fst same⟩
    · obtain ⟨before, place, same⟩ := homes id new there
      exact .inr ⟨before, place, congrArg Prod.snd same⟩
  | created absent fresh rows =>
    refine formed.of_owners unique (formed.sources.extend ((rows _).trans (if_pos rfl)) absent
      fun id new apart there => ?_) records fun id new there => ?_
    · exact ⟨new, ((rows id).trans (if_neg apart)).symm.trans there, rfl⟩
    · rw [rows] at there
      split at there
      · obtain rfl := Option.some.inj there
        exact .inl added
      · exact .inr ⟨new, there, rfl⟩

theorem Store.WellFormed.merge {now : Instant} {target : Nat} {keys : List Nat}
    {store written : Store} (formed : store.WellFormed)
    (merged : Merged now target keys store written) : written.WellFormed := by
  obtain ⟨old, new, first, last, before, after, scored⟩ := merged.widened
  have rows : ∀ key, Option.Rel (fun old new : VulnerabilityRecord =>
      new.fingerprint = old.fingerprint) (store.vulnerabilities.get? key)
        (written.vulnerabilities.get? key) := by
    intro key
    by_cases member : key ∈ keys
    · rw [merged.merged key member]
      cases store.vulnerabilities.get? key with
      | none => exact .none
      | some record => exact .some rfl
    · by_cases here : key = target
      · rw [here, before, after]
        exact .some scored.fingerprint
      · rw [merged.others key member here]
        refine Table.rel_self ?_ _
        exact fun _ => rfl
  have agree : Agree VulnerabilityRecord.fingerprint store.vulnerabilities
      written.vulnerabilities := .of_rel _ rows fun _ _ same => same
  refine formed.of_owners (formed.fingerprints.of_agree agree)
    (formed.sources.of_rows fun id row there => ?_) (fun key record stored => ?_)
    fun id row there => ?_
  · obtain ⟨other, place, same, -⟩ := merged.homes id row there
    exact ⟨other, place, same⟩
  · obtain ⟨other, found, -⟩ := agree.exists_second stored
    exact ⟨other, found⟩
  · obtain ⟨other, place, -, owner⟩ := merged.homes id row there
    split at owner
    · exact .inl ⟨new, owner ▸ after⟩
    · exact .inr ⟨other, place, owner⟩

theorem Store.WellFormed.split {now : Instant} {source : Nat} {keys : List Nat}
    {store written : Store} (formed : store.WellFormed)
    (splits : SplitOff now source keys store written) : written.WellFormed := by
  obtain ⟨old, new, fingerprint, title, first, last, before, after, scored, unused⟩ :=
    splits.created
  obtain ⟨kept, lives, same⟩ := splits.kept old before
  refine formed.of_owners (formed.fingerprints.extend after (fun key record stored => ?_)
    fun key record apart stored => ?_) (formed.sources.of_rows fun id row there => ?_)
    (fun key record stored => ?_) fun id row there => ?_
  · rw [scored.fingerprint]
    exact unused key record stored
  · by_cases here : key = source
    · rw [here] at stored
      obtain rfl := Option.some.inj (stored.symm.trans lives)
      exact ⟨old, here ▸ before, same.fingerprint⟩
    · exact ⟨record, (splits.others key here apart).symm.trans stored, rfl⟩
  · rw [splits.occurrences] at there
    split at there
    · obtain ⟨other, place, rfl⟩ := Option.map_eq_some_iff.mp there
      exact ⟨other, place, rfl⟩
    · exact ⟨row, there, rfl⟩
  · by_cases here : key = source
    · exact ⟨kept, here ▸ lives⟩
    · exact ⟨record, (splits.others key here (Table.lt_nextKey_of_get? stored).ne).trans stored⟩
  · rw [splits.occurrences] at there
    split at there
    · obtain ⟨other, place, rfl⟩ := Option.map_eq_some_iff.mp there
      exact .inl ⟨new, after⟩
    · exact .inr ⟨row, there, rfl⟩

/-! ## Runs -/

/-- The calls that ingest, merge, split and synchronize assets. -/
def VmCall.Collects : VmCall → Prop
  | .ingest _ => True
  | .merge _ _ _ => True
  | .split _ _ _ _ => True
  | .assets _ => True
  | _ => False

theorem Store.WellFormed.candidates {work : Work} (formed : work.live.WellFormed)
    (answering : Answering work) (env : VmPlatform) (candidates : List Candidate)
    (actor : Option Nat) (now : Instant) :
    Answering (ingestCandidates env work candidates actor now) ∧
      (ingestCandidates env work candidates actor now).live.WellFormed := by
  induction candidates generalizing work with
  | nil => exact ⟨answering, formed⟩
  | cons candidate rest ih =>
    have kept := formed.ingest answering.synced env candidate actor now
    have synced := answering.ingest env candidate actor now
    unfold ingestCandidates at ih ⊢
    rw [List.foldl_cons]
    exact ih kept synced

/-- **Ingesting, merging, splitting and synchronizing keep the constraints.** -/
theorem wellFormed_next (env : VmPlatform) {store : Store} (formed : store.WellFormed)
    {request : VmRequest} (collects : request.call.Collects) :
    (store.next env request).WellFormed := by
  obtain ⟨actor, now, call⟩ := request
  cases call with
  | ingest candidates =>
    have live : (UnitOfWork.start store).live.WellFormed := formed
    exact (live.candidates (.start formed.fingerprints) env candidates (some actor.id)
      now).2
  | merge target ids note =>
    rcases merged_of_merge store actor now target ids note with same | ⟨keys, merged⟩
    · have unchanged : store.next env ⟨actor, now, .merge target ids note⟩ = store := same
      rwa [unchanged]
    · exact formed.merge merged
  | split source ids title note =>
    rcases splitOff_of_split env store actor now source ids title note with
      same | ⟨keys, splits⟩
    · have unchanged : store.next env ⟨actor, now, .split source ids title note⟩ = store :=
        same
      rwa [unchanged]
    · exact formed.split splits
  | assets assets => exact ⟨formed.fingerprints, formed.sources, formed.owners⟩
  | _ => cases collects

/-- **In every store that ingesting, merging, splitting and synchronizing reach, an ingestion
credits the owner of its occurrence exactly where the two lookups agree, or where their
disagreement does not matter.** -/
theorem ingestion_credits_iff (env : VmPlatform) (start : Store) (formed : start.WellFormed)
    (requests : List VmRequest) (collect : ∀ request ∈ requests, request.call.Collects)
    (earlier : List Candidate) (candidate : Candidate) (actor : Option Nat) (now : Instant) :
    let work := ingestCandidates env (.start (final (Store.next env) start requests))
      earlier actor now
    let result := ingestCandidate env work candidate actor now
    Credited candidate work.live result.work.live result.occurrence ↔
      work.live.Creditable env candidate := by
  intro work result
  have reached : (final (Store.next env) start requests).WellFormed := by
    refine invariant_final (Store.next env) Store.WellFormed
      (fun move => move.input.call.Collects)
      (fun _ _ formed collects => wellFormed_next env formed collects) formed ?_
    exact fun move member => collect _ (input_mem_of_mem_trace _ member)
  have live : (UnitOfWork.start (final (Store.next env) start requests)).live.WellFormed :=
    reached
  have session : Answering work ∧ work.live.WellFormed :=
    live.candidates (.start reached.fingerprints) env earlier actor now
  exact session.1.credited_iff session.2 env candidate actor now

/-! ## The same record at another location -/

/-- A finding about a whole interface, whose definition names no base URL. -/
def missingScheme : Candidate :=
  { missingHeader with
    sourceModule := "api_security"
    sourceEntityType := "api_finding"
    title := "Missing or Incomplete API Security Scheme"
    description := "No imported endpoint declares authentication."
    category := "api8:2023_security_misconfiguration"
    evidence := "No imported endpoint declares authentication."
    sourceFingerprint := some "missing-security-scheme"
    location := none }

/-- The finding again. -/
def seenAgain : Candidate := { missingScheme with observedAt := 5 }

/-- The finding once the definition names a base URL. -/
def movedScheme : Candidate :=
  { seenAgain with
    asset := some (1, ⟨"api", .medium, .production, true, false⟩)
    location := some "https://api.shop.test" }

def schemeStore : Store := final (Store.next plainVm) .empty [⟨admin, 0, .ingest [missingScheme]⟩]

/-- **A finding whose location changed creates a vulnerability without an occurrence**, and the
one it belongs to is not seen. -/
theorem moved_not_credited :
    (∀ request ∈ [(⟨admin, 0, .ingest [missingScheme]⟩ : VmRequest)], request.call.Collects) ∧
    ¬Credited movedScheme schemeStore
      (ingestCandidate plainVm (.start schemeStore) movedScheme none 5).work.live
      (ingestCandidate plainVm (.start schemeStore) movedScheme none 5).occurrence := by
  refine ⟨by simp [VmCall.Collects], ?_⟩
  rintro ⟨-, all⟩
  have created : ((ingestCandidate plainVm (.start schemeStore) movedScheme none
      5).work.live.vulnerabilities.get? 2).isSome = true := by
    decide +kernel
  have elsewhere : ((ingestCandidate plainVm (.start schemeStore) movedScheme none
      5).work.live.occurrences.rows.all fun row => row.2.vulnerabilityId != 2) = true := by
    decide +kernel
  obtain ⟨record, stored⟩ := Option.isSome_iff_exists.mp created
  obtain ⟨id, row, there, owner⟩ := all 2 record stored
  have apart := List.all_eq_true.mp elsewhere (id, row)
    ((Table.get?_eq_some_iff _ id row).mp there)
  simp [owner] at apart

/-- The finding is credited when it is seen again where it was. -/
theorem ingestion_credits_again :
    Credited seenAgain schemeStore
      (ingestCandidate plainVm (.start schemeStore) seenAgain none 5).work.live
      (ingestCandidate plainVm (.start schemeStore) seenAgain none 5).occurrence := by
  refine (ingestion_credits_iff plainVm .empty .empty [⟨admin, 0, .ingest [missingScheme]⟩]
    (by simp [VmCall.Collects]) [] seenAgain none 5).mpr ?_
  change schemeStore.Creditable plainVm seenAgain
  have same : (schemeStore.vulnerabilities.rows.all fun row =>
      row.2.fingerprint == seenAgain.fingerprint plainVm) = true := by decide +kernel
  have known : ((schemeStore.occurrences.get? 1).any fun row =>
      decide (row.source = seenAgain.source plainVm) && (schemeStore.vulnerabilities.get?
        row.vulnerabilityId).any fun owner => owner.status != .archived) = true := by
    decide +kernel
  have fingerprint {key : Nat} {record : VulnerabilityRecord}
      (stored : schemeStore.vulnerabilities.get? key = some record) :
      record.fingerprint = seenAgain.fingerprint plainVm :=
    eq_of_beq (List.all_eq_true.mp same (key, record)
      ((Table.get?_eq_some_iff _ key record).mp stored))
  obtain ⟨row, there, found⟩ := (Option.any_eq_true _ _).mp known
  obtain ⟨source, owned⟩ := (Bool.and_eq_true _ _).mp found
  obtain ⟨owner, stored, alive⟩ := (Option.any_eq_true _ _).mp owned
  refine ⟨fun key record place => .inl (fingerprint place), .inr ⟨1, row, owner, there,
    of_decide_eq_true source, stored, fun archived => ?_, .inl (fingerprint stored)⟩⟩
  rw [archived.1] at alive
  cases alive

end ThreatScope.Vulnerabilities
