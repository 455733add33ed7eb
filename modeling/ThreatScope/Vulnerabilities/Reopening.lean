import ThreatScope.Vulnerabilities.Sightings

/-!
# What an ingestion reopens

An ingestion moves a vulnerability to reopened or leaves its status. It reopens a resolved
one that an active candidate saw later (`VulnerabilityRecord.recurs`), and an accepted risk
whose acceptances are over, since it scores what it saw and scoring looks the acceptance up.
The lookup asks the database, so the session of an ingestion has to keep, for every
vulnerability whose risk is still accepted, the acceptances that the database has
(`Standing`).
-/

set_option autoImplicit false

namespace ThreatScope.Vulnerabilities

open Library AccessControl

/-- The vulnerability has approved acceptances, and they are over. -/
def Store.AcceptanceOver (store : Store) (key : Nat) (now : Instant) : Prop :=
  store.HasApproved key ∧ ¬store.StillAccepted key now

/-! ## What a lookup finds -/

/-- The session has the acceptances of a vulnerability that the database has. -/
def Standing (work : Work) (key : Nat) : Prop :=
  ∀ id acceptance, acceptance.vulnerabilityId = key →
    (work.stored.acceptances.get? id = some acceptance ↔
      work.live.acceptances.get? id = some acceptance)

section Asked

variable {work : Work} {key : Nat} {now : Instant}

/-- The acceptance that is asked is approved, and none that is approved expires later. -/
theorem Standing.asked (standing : Standing work key) {id : Nat} {acceptance : RiskAcceptance}
    (asked : askedAcceptance work key = some (id, acceptance)) :
    work.live.HasApproved key ∧
      ∀ other row, work.live.acceptances.get? other = some row → row.vulnerabilityId = key →
        row.status = .approved → row.expiresAt ≤ acceptance.expiresAt := by
  obtain ⟨⟨_, stored⟩, latest, live⟩ := Option.bind_eq_some_iff.mp asked
  obtain ⟨_, there, same⟩ := Option.map_eq_some_iff.mp live
  obtain ⟨rfl, rfl⟩ := Prod.mk.inj same
  obtain ⟨found, own, approved⟩ := latestApproved?_spec latest
  obtain rfl := Option.some.inj (((standing _ _ own).mp found).symm.trans there)
  refine ⟨⟨_, _, there, own, approved⟩, fun other row alive rowOwn rowApproved => ?_⟩
  exact Table.le_newest? latest ((standing other row rowOwn).mpr alive)
    (by simp [rowOwn, rowApproved])

theorem Standing.asked_none (standing : Standing work key)
    (missing : askedAcceptance work key = none) : ¬work.live.HasApproved key := by
  rintro ⟨id, acceptance, alive, own, approved⟩
  have stored := (standing id acceptance own).mpr alive
  cases latest : latestApproved? work.stored key with
  | none =>
    have passed := Table.newest?_eq_none latest stored
    simp [own, approved] at passed
  | some row =>
    obtain ⟨found, rowOwn, -⟩ := latestApproved?_spec latest
    have there := (standing row.1 row.2 rowOwn).mp found
    simp [askedAcceptance, latest, there] at missing

/-- **The acceptance that is asked is over exactly when all of them are.** -/
theorem Standing.over_iff (standing : Standing work key) :
    work.live.AcceptanceOver key now ↔
      ∃ id acceptance, askedAcceptance work key = some (id, acceptance) ∧
        acceptance.expiresAt ≤ now := by
  constructor
  · rintro ⟨approved, lapsed⟩
    cases asked : askedAcceptance work key with
    | none => exact absurd approved (standing.asked_none asked)
    | some row =>
      refine ⟨row.1, row.2, rfl, not_lt.mp fun later => lapsed ?_⟩
      obtain ⟨⟨_, stored⟩, latest, live⟩ := Option.bind_eq_some_iff.mp asked
      obtain ⟨_, there, same⟩ := Option.map_eq_some_iff.mp live
      obtain ⟨found, own, status⟩ := latestApproved?_spec latest
      obtain rfl := Option.some.inj (((standing _ _ own).mp found).symm.trans there)
      obtain rfl := same
      exact ⟨_, _, there, own, status, later⟩
  · rintro ⟨id, acceptance, asked, lapsed⟩
    obtain ⟨approved, latest⟩ := standing.asked asked
    refine ⟨approved, ?_⟩
    rintro ⟨other, row, alive, own, status, later⟩
    exact absurd (later.trans_le (latest other row alive own status)) (not_lt.mpr lapsed)

theorem Standing.stands (standing : Standing work key)
    (standsStill : ¬work.live.AcceptanceOver key now) (id : Nat) (acceptance : RiskAcceptance)
    (asked : askedAcceptance work key = some (id, acceptance)) : now < acceptance.expiresAt :=
  not_le.mp fun lapsed => standsStill (standing.over_iff.mpr ⟨id, acceptance, asked, lapsed⟩)

end Asked

/-! ## Acceptances of other vulnerabilities -/

/-- The acceptances of all other vulnerabilities are the same. -/
def AcceptancesApart (key : Nat) (store written : Store) : Prop :=
  ∀ id acceptance, acceptance.vulnerabilityId ≠ key →
    (written.acceptances.get? id = some acceptance ↔ store.acceptances.get? id = some acceptance)

theorem AcceptancesApart.of_eq {key : Nat} {store written : Store}
    (same : written.acceptances = store.acceptances) : AcceptancesApart key store written := by
  intro id acceptance _
  rw [same]

theorem AcceptancesApart.trans {key : Nat} {store middle written : Store}
    (earlier : AcceptancesApart key store middle) (later : AcceptancesApart key middle written) :
    AcceptancesApart key store written :=
  fun id acceptance apart => (later id acceptance apart).trans (earlier id acceptance apart)

/-- The database and the session have the same acceptances, of the same vulnerabilities. -/
def AcceptancesKnown (work : Work) : Prop :=
  Agree RiskAcceptance.vulnerabilityId work.stored.acceptances work.live.acceptances

theorem AcceptancesKnown.looked {work later : Work} {now : Instant} (known : AcceptancesKnown work)
    (looked : Looked now work later) : AcceptancesKnown later := by
  unfold AcceptancesKnown
  rw [looked.stored]
  exact known.trans (.of_rel Lapsed looked.live.acceptances fun _ _ lapsed =>
    lapsed.vulnerabilityId)

section Functions

variable {work : Work} {key : Nat} {now : Instant}

theorem acceptancesApart_accepted (known : AcceptancesKnown work) :
    AcceptancesApart key work.live (accepted work key now).1.live := by
  unfold accepted
  split
  · exact .of_eq rfl
  rename_i asked
  split
  · obtain ⟨⟨id, stored⟩, latest, live⟩ := Option.bind_eq_some_iff.mp asked
    obtain ⟨acceptance, there, same⟩ := Option.map_eq_some_iff.mp live
    obtain ⟨rfl, rfl⟩ := Prod.mk.inj same
    obtain ⟨found, own, -⟩ := latestApproved?_spec latest
    have liveOwn : acceptance.vulnerabilityId = key := by
      have agree := known id
      rw [found, there] at agree
      exact (Option.some.inj agree).symm.trans own
    have acceptances : (work.write (Store.lapse key id now)).live.acceptances =
        work.live.acceptances.modify id RiskAcceptance.expire := by
      simp only [UnitOfWork.live_write, Store.lapse]
      split
      · split
        · rfl
        · rfl
      · rfl
    intro other row apart
    rw [acceptances]
    by_cases here : other = id
    · subst here
      rw [Table.get?_modify_self, there, Option.map_some, Option.some.injEq, Option.some.injEq]
      constructor
      · rintro rfl
        exact absurd liveOwn apart
      · rintro rfl
        exact absurd liveOwn apart
    · rw [Table.get?_modify_of_ne _ _ here]
  · exact .of_eq rfl

theorem acceptancesApart_calculatePriority (known : AcceptancesKnown work) :
    AcceptancesApart key work.live (calculatePriority work key now).live := by
  unfold calculatePriority
  split
  · exact .of_eq rfl
  rename_i record stored
  have breaches : AcceptancesApart key work.live (breached work record key now).1.live := by
    unfold breached
    split
    · exact acceptancesApart_accepted known
    · exact .of_eq rfl
  have still := known.looked (looked_breached now work key record)
  exact breaches.trans ((acceptancesApart_accepted still).trans (.of_eq rfl))

theorem acceptances_applySla (anchor : Option Instant) (force : Bool) :
    (applySla work key anchor force).live.acceptances = work.live.acceptances := by
  unfold applySla
  split
  · rfl
  split
  · rfl
  split
  · rfl
  · rfl

theorem acceptancesApart_afterSighting (known : AcceptancesKnown work) (observedAt : Instant)
    (reopened : Bool) :
    AcceptancesApart key work.live (afterSighting work key observedAt reopened now).live := by
  have scored : AcceptancesApart key work.live (calculatePriority work key now).live :=
    acceptancesApart_calculatePriority known
  unfold afterSighting
  extract_lets written status
  split
  · exact scored.trans (.of_eq (acceptances_applySla _ _))
  · exact scored

end Functions

/-! ## Scoring an accepted risk -/

section Scoring

variable {work : Work} {key : Nat} {now : Instant} {record : VulnerabilityRecord}

theorem afterSighting_of_stands (stored : vulnerability? work key = some record)
    (status : record.status = .acceptedRisk) (standing : Standing work key)
    (stands : ¬work.live.AcceptanceOver key now) (observedAt : Instant) (reopened : Bool) :
    ∃ scores operational residual, afterSighting work key observedAt reopened now =
      work.write (Store.modifyVulnerability key
        (VulnerabilityRecord.score scores operational residual)) := by
  obtain ⟨scores, operational, residual, same⟩ :=
    calculatePriority_of_stands stored (standing.stands stands)
  have row : vulnerability? (calculatePriority work key now) key =
      some (record.score scores operational residual) := by
    rw [same]
    exact (Table.get?_modify_self ..).trans (congrArg (Option.map _) stored)
  refine ⟨scores, operational, residual, ?_⟩
  have kept : ((vulnerability? (calculatePriority work key now) key).map
      VulnerabilityRecord.status).getD .new = .acceptedRisk := by
    rw [row]
    exact status
  unfold afterSighting
  simp only [kept]
  rw [if_neg (by decide)]
  exact same

theorem afterSighting_of_over (stored : vulnerability? work key = some record)
    (status : record.status = .acceptedRisk) (standing : Standing work key)
    (lapsed : work.live.AcceptanceOver key now) (observedAt : Instant) (reopened : Bool) :
    (afterSighting work key observedAt reopened now).live.Reopened key := by
  obtain ⟨id, acceptance, asked, ended⟩ := standing.over_iff.mp lapsed
  have scored := calculatePriority_of_over stored status asked ended
  unfold afterSighting
  extract_lets written current
  split
  · exact (looked_applySla now written key _ _).reopened scored
  · exact scored

/-- **The end of an ingestion moves exactly an accepted risk whose acceptances are over.** -/
theorem afterSighting_status (now : Instant) (stored : vulnerability? work key = some record)
    (standing : record.status = .acceptedRisk → Standing work key) (observedAt : Instant)
    (reopened : Bool) :
    ∃ new, vulnerability? (afterSighting work key observedAt reopened now) key = some new ∧
      Rescored now record new ∧
      (new.status ≠ record.status ↔
        record.status = .acceptedRisk ∧ work.live.AcceptanceOver key now) := by
  obtain ⟨looked, -⟩ := looked_afterSighting work key observedAt reopened now
  obtain ⟨new, after, scored⟩ := looked.live.exists_rescored stored
  refine ⟨new, after, scored, ?_⟩
  by_cases status : record.status = .acceptedRisk
  · simp only [status, true_and]
    by_cases lapsed : work.live.AcceptanceOver key now
    · obtain ⟨other, found, moved⟩ :=
        afterSighting_of_over stored status (standing status) lapsed observedAt reopened
      obtain rfl := Option.some.inj (found.symm.trans after)
      simp [moved, lapsed]
    · obtain ⟨scores, operational, residual, same⟩ :=
        afterSighting_of_stands stored status (standing status) lapsed observedAt reopened
      rw [same] at after
      have row : some new = some (record.score scores operational residual) :=
        after.symm.trans ((Table.get?_modify_self ..).trans (congrArg (Option.map _) stored))
      obtain rfl := Option.some.inj row
      simp [VulnerabilityRecord.score, status, lapsed]
  · simp [scored.status_eq status, status]

end Scoring

/-! ## The session of an ingestion -/

/-- What a session of ingestions keeps: where a risk is still accepted, the session has the
acceptances of the database. -/
structure Answering (work : Work) : Prop where
  synced : Synced work
  unique : work.live.FingerprintsUnique
  known : AcceptancesKnown work
  standing : ∀ key record, vulnerability? work key = some record →
    record.status = .acceptedRisk → Standing work key

theorem Answering.start {store : Store} (unique : store.FingerprintsUnique) :
    Answering (.start store) :=
  ⟨.of_flushed rfl, unique, .refl _, fun _ _ _ _ _ _ _ => Iff.rfl⟩

section Session

variable (env : VmPlatform) {work : Work} (candidate : Candidate) (actor : Option Nat)
  (now : Instant)

theorem acceptances_sightCandidate (synced : Synced work) :
    (sightCandidate env work candidate actor).work.live.acceptances =
        work.live.acceptances ∧
      ((sightCandidate env work candidate actor).work.stored.acceptances =
          work.stored.acceptances ∨
        (sightCandidate env work candidate actor).work.stored.acceptances =
          work.live.acceptances) := by
  unfold sightCandidate
  simp only
  rw [(sightEvidence_rest ..).1, (sightEvidence_rest ..).2.2.2, (sightOccurrence_rest ..).2,
    (sightVulnerability_rest ..).2.2]
  refine ⟨rfl, ?_⟩
  have sighted := synced.sightVulnerability env candidate actor
  rcases sightOccurrence_effect env candidate
      (sightVulnerability env work candidate actor).vulnerability sighted.occurrences with
    ⟨occurrence, found⟩ | created
  · rw [found.db]
    rcases sightVulnerability_effect env candidate actor synced with ⟨record, known⟩ | new
    · rw [known.db]
      exact .inl rfl
    · rw [new.db]
      exact .inr rfl
  · rw [created.db, (sightOccurrence_rest ..).2, (sightVulnerability_rest ..).2.2]
    exact .inr rfl

theorem status_sightCandidate (synced : Synced work) {key : Nat} {record : VulnerabilityRecord}
    (stored : vulnerability? (sightCandidate env work candidate actor).work key = some record)
    (status : record.status = .acceptedRisk) :
    ∃ old, vulnerability? work key = some old ∧ old.status = .acceptedRisk := by
  rw [vulnerability?_sightCandidate] at stored
  rcases sightVulnerability_effect env candidate actor synced with ⟨old, found⟩ | created
  · rw [found.vulnerabilities] at stored
    split at stored
    · rename_i here
      obtain rfl := Option.some.inj stored
      rw [here]
      refine ⟨old, found.stored, ?_⟩
      unfold VulnerabilityRecord.sighted at status
      split at status
      · cases status
      · exact status
    · exact ⟨record, stored, status⟩
  · rw [created.vulnerabilities] at stored
    split at stored
    · obtain rfl := Option.some.inj stored
      cases status
    · exact ⟨record, stored, status⟩

/-- After the sightings, the acceptances of an accepted risk are those of the database. -/
theorem Answering.sightCandidate (answering : Answering work) {key : Nat}
    {record : VulnerabilityRecord}
    (stored : vulnerability? (sightCandidate env work candidate actor).work key = some record)
    (status : record.status = .acceptedRisk) :
    Standing (sightCandidate env work candidate actor).work key := by
  obtain ⟨old, before, accepted⟩ :=
    status_sightCandidate env candidate actor answering.synced stored status
  obtain ⟨live, db⟩ := acceptances_sightCandidate env candidate actor answering.synced
  intro id acceptance own
  rw [live]
  rcases db with same | flushed
  · rw [same]
    exact answering.standing key old before accepted id acceptance own
  · rw [flushed]

/-- **An ingestion leaves a session that answers.** -/
theorem Answering.ingest (answering : Answering work) :
    Answering (ingestCandidate env work candidate actor now).work := by
  have synced := synced_ingest env candidate actor now answering.synced
  have unique := unique_ingest env candidate actor now answering.synced answering.unique
  obtain ⟨looked, only⟩ := looked_ingestCandidate env work candidate actor now
  obtain ⟨live, db⟩ := acceptances_sightCandidate env candidate actor answering.synced
  have known : AcceptancesKnown (Vulnerabilities.sightCandidate env work candidate actor).work := by
    unfold AcceptancesKnown
    rw [live]
    rcases db with same | flushed
    · rw [same]
      exact answering.known
    · rw [flushed]
      exact .refl _
  refine ⟨synced, unique, known.looked looked, fun key record stored status => ?_⟩
  -- A risk that is accepted afterwards was accepted after the sightings.
  obtain ⟨middle, sighted, scored⟩ := looked.live.exists_source stored
  have accepted : middle.status = .acceptedRisk :=
    (scored.status_eq_of_ne (by simp [status])).symm.trans status
  have standing := answering.sightCandidate env candidate actor sighted accepted
  rw [← sightCandidate_vulnerability] at only
  unfold ingestCandidate at stored looked ⊢
  revert looked known stored sighted standing
  generalize Vulnerabilities.sightCandidate env work candidate actor = seen
  intro looked known stored sighted standing
  simp only at stored looked ⊢
  by_cases here : key = seen.vulnerability
  · subst here
    by_cases lapsed : seen.work.live.AcceptanceOver seen.vulnerability now
    · obtain ⟨new, found, reopened⟩ := afterSighting_of_over sighted accepted standing lapsed
        candidate.observedAt seen.reopened
      obtain rfl := Option.some.inj (found.symm.trans stored)
      cases status.symm.trans reopened
    · obtain ⟨scores, operational, residual, same⟩ := afterSighting_of_stands sighted accepted
        standing lapsed candidate.observedAt seen.reopened
      rw [same]
      exact standing
  · intro id acceptance own
    rw [looked.stored]
    refine (standing id acceptance own).trans ?_
    have apart : AcceptancesApart seen.vulnerability seen.work.live
        (afterSighting seen.work seen.vulnerability candidate.observedAt seen.reopened now).live :=
      acceptancesApart_afterSighting known candidate.observedAt seen.reopened
    exact (apart id acceptance fun same => here (own.symm.trans same)).symm

theorem ingestCandidate_work : (ingestCandidate env work candidate actor now).work =
    afterSighting (Vulnerabilities.sightCandidate env work candidate actor).work
      (sightVulnerability env work candidate actor).vulnerability candidate.observedAt
      (Vulnerabilities.sightCandidate env work candidate actor).reopened now := by
  rw [← sightCandidate_vulnerability]
  unfold ingestCandidate
  generalize Vulnerabilities.sightCandidate env work candidate actor = seen
  rfl

theorem acceptanceOver_congr {store written : Store}
    (same : written.acceptances = store.acceptances) (key : Nat) (now : Instant) :
    written.AcceptanceOver key now ↔ store.AcceptanceOver key now := by
  unfold Store.AcceptanceOver Store.HasApproved Store.StillAccepted
  rw [same]

/-- A resolved vulnerability that an active candidate saw after it was resolved. -/
def VulnerabilityRecord.SeenAgain (record : VulnerabilityRecord) (candidate : Candidate) : Prop :=
  record.status = .resolved ∧ candidate.active = true ∧
    ∃ resolved, record.resolvedAt = some resolved ∧ resolved < candidate.observedAt

theorem recurs_observe_iff {record : VulnerabilityRecord} :
    (record.observe candidate).recurs candidate = true ↔ record.SeenAgain candidate := by
  simp only [VulnerabilityRecord.recurs, VulnerabilityRecord.observe, Bool.and_eq_true, beq_iff_eq,
    Option.any_eq_true, decide_eq_true_eq, VulnerabilityRecord.SeenAgain, and_assoc]
  constructor
  · rintro ⟨status, ⟨resolved, stored, earlier⟩, active⟩
    exact ⟨status, active, resolved, stored, earlier⟩
  · rintro ⟨status, active, resolved, stored, earlier⟩
    exact ⟨status, ⟨resolved, stored, earlier⟩, active⟩

/-- **An ingestion reopens the vulnerability of its candidate, or leaves every status.** -/
theorem Answering.status_ingest (answering : Answering work) {key : Nat}
    {record : VulnerabilityRecord} (stored : vulnerability? work key = some record) :
    ∃ new, vulnerability? (ingestCandidate env work candidate actor now).work key = some new ∧
      (new.status = record.status ∨ new.status = .reopened) ∧
      (new.status ≠ record.status ↔ record.fingerprint = candidate.fingerprint env ∧
        (record.SeenAgain candidate ∨
          record.status = .acceptedRisk ∧ work.live.AcceptanceOver key now)) := by
  obtain ⟨-, others⟩ := ingest_vulnerability env candidate actor now answering.synced
  have elsewhere : key ≠ (sightVulnerability env work candidate actor).vulnerability →
      record.fingerprint ≠ candidate.fingerprint env →
      ∃ new, vulnerability? (ingestCandidate env work candidate actor now).work key =
          some new ∧
        (new.status = record.status ∨ new.status = .reopened) ∧
        (new.status ≠ record.status ↔ record.fingerprint = candidate.fingerprint env ∧
          (record.SeenAgain candidate ∨
            record.status = .acceptedRisk ∧ work.live.AcceptanceOver key now)) := by
    intro apart other
    refine ⟨record, (others key apart).trans stored, .inl rfl, ?_⟩
    simp [other]
  rcases sightVulnerability_effect env candidate actor answering.synced with
    ⟨known, found⟩ | created
  · by_cases here : key = (sightVulnerability env work candidate actor).vulnerability
    · obtain rfl : record = known := by
        have alsoStored := found.stored
        rw [← here] at alsoStored
        exact Option.some.inj (stored.symm.trans alsoStored)
      have sighted : vulnerability? (Vulnerabilities.sightCandidate env work candidate
          actor).work key = some (record.sighted candidate) := by
        rw [vulnerability?_sightCandidate, found.vulnerabilities, if_pos here]
      obtain ⟨new, after, scored, moved⟩ := afterSighting_status now sighted
        (answering.sightCandidate env candidate actor sighted) candidate.observedAt
        (Vulnerabilities.sightCandidate env work candidate actor).reopened
      have acceptances := (acceptances_sightCandidate env candidate actor answering.synced).1
      rw [acceptanceOver_congr acceptances] at moved
      rw [ingestCandidate_work, ← here]
      refine ⟨new, after, ?_⟩
      rw [found.fingerprint, ← recurs_observe_iff]
      simp only [true_and]
      cases recurs : (record.observe candidate).recurs candidate with
      | true =>
        have reopened : (record.sighted candidate).status = .reopened := by
          rw [VulnerabilityRecord.sighted, if_pos recurs]
          rfl
        have kept : new.status = .reopened :=
          (scored.status_eq (by simp [reopened])).trans reopened
        have resolved := ((recurs_observe_iff candidate).mp recurs).1
        exact ⟨.inr kept, by simp [kept, resolved]⟩
      | false =>
        have same : (record.sighted candidate).status = record.status := by
          rw [VulnerabilityRecord.sighted, if_neg (by simp [recurs])]
          rfl
        rw [same] at moved
        refine ⟨?_, by simpa using moved⟩
        rcases scored.lifecycle with ⟨status, -⟩ | ⟨-, status, -⟩
        · exact .inl (status.trans same)
        · exact .inr status
    · exact elsewhere here fun own => here (answering.unique key record _ known stored found.stored
        (own.trans found.fingerprint.symm))
  · refine elsewhere (fun here => ?_) (created.absent key record stored)
    rw [here, created.key] at stored
    exact absurd (Table.lt_nextKey_of_get? stored) (lt_irrefl _)

end Session

end ThreatScope.Vulnerabilities
