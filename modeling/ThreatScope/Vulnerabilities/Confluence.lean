import ThreatScope.Vulnerabilities.Reopening

/-!
# Ingestion in any order

A vulnerability keeps the extremes of what was seen of it: the first and the last time, the
highest severity and confidence, and whether an exploitation was known. Extremes of a set do
not depend on the order in which it was listed (`Extremes.unique`), and each ingestion adds
one candidate to the set (`Store.Sees.ingest`). The set begins with what the record of the
fingerprint has before.

An ingestion moves a vulnerability through its lifecycle in two ways: a resolved one is
reopened by a later active candidate, and an accepted risk is reopened when scoring finds
the acceptance over (`ingestion_confluent`).
-/

set_option autoImplicit false

namespace ThreatScope.Vulnerabilities

open Library AccessControl

/-! ## Extremes -/

/-- What is kept of the sightings of a finding. -/
structure Sight where
  firstSeenAt : Instant
  lastSeenAt : Instant
  severity : Severity
  confidence : Nat
  knownExploitationObserved : Bool

def VulnerabilityRecord.sight (record : VulnerabilityRecord) : Sight :=
  ⟨record.firstSeenAt, record.lastSeenAt, record.severity, record.confidence,
    record.knownExploitationObserved⟩

def Candidate.sight (candidate : Candidate) : Sight :=
  ⟨candidate.observedAt, candidate.observedAt, candidate.severity, candidate.confidence,
    candidate.knownExploitation⟩

theorem Severity.order_injective : Function.Injective Severity.order := by
  intro one other same
  cases one
  all_goals
    cases other
    all_goals first | rfl | cases same

/-- The minimum of the first times, the maximum of the last, the highest severity and
confidence, and whether any exploitation was known. -/
structure Extremes (seen : Set Sight) (sight : Sight) : Prop where
  firstSeenAt : IsLeast (Sight.firstSeenAt '' seen) sight.firstSeenAt
  lastSeenAt : IsGreatest (Sight.lastSeenAt '' seen) sight.lastSeenAt
  severity : IsGreatest ((fun other => other.severity.order) '' seen) sight.severity.order
  confidence : IsGreatest (Sight.confidence '' seen) sight.confidence
  knownExploitationObserved : sight.knownExploitationObserved = true ↔
    ∃ other ∈ seen, other.knownExploitationObserved = true

namespace Extremes

variable {seen : Set Sight} {sight other : Sight}

/-- **A set has one sight of its extremes.** -/
theorem unique (one : Extremes seen sight) (two : Extremes seen other) : sight = other := by
  obtain ⟨first, last, severity, confidence, known⟩ := sight
  obtain ⟨first', last', severity', confidence', known'⟩ := other
  obtain rfl : first = first' := one.firstSeenAt.unique two.firstSeenAt
  obtain rfl : last = last' := one.lastSeenAt.unique two.lastSeenAt
  obtain rfl : severity = severity' :=
    Severity.order_injective (one.severity.unique two.severity)
  obtain rfl : confidence = confidence' := one.confidence.unique two.confidence
  obtain rfl : known = known' := Bool.eq_iff_iff.mpr
    (one.knownExploitationObserved.trans two.knownExploitationObserved.symm)
  rfl

theorem singleton (sight : Sight) : Extremes {sight} sight := by
  constructor
  · rw [Set.image_singleton]
    exact isLeast_singleton
  · rw [Set.image_singleton]
    exact isGreatest_singleton
  · rw [Set.image_singleton]
    exact isGreatest_singleton
  · rw [Set.image_singleton]
    exact isGreatest_singleton
  · simp

end Extremes

/-- What `ingest_candidate` writes of a sighting. -/
def Sight.join (sight other : Sight) : Sight where
  firstSeenAt := min sight.firstSeenAt other.firstSeenAt
  lastSeenAt := max sight.lastSeenAt other.lastSeenAt
  severity := if sight.severity.order < other.severity.order then other.severity
    else sight.severity
  confidence := max sight.confidence other.confidence
  knownExploitationObserved := sight.knownExploitationObserved || other.knownExploitationObserved

/-- **One more sighting joins the extremes.** -/
theorem Extremes.insert {seen : Set Sight} {sight : Sight} (extremes : Extremes seen sight)
    (other : Sight) : Extremes (insert other seen) (sight.join other) := by
  have first : (sight.join other).firstSeenAt = min other.firstSeenAt sight.firstSeenAt :=
    min_comm _ _
  have last : (sight.join other).lastSeenAt = max other.lastSeenAt sight.lastSeenAt := max_comm _ _
  have confidence : (sight.join other).confidence = max other.confidence sight.confidence :=
    max_comm _ _
  have severity : (sight.join other).severity.order =
      max other.severity.order sight.severity.order := by
    unfold Sight.join
    simp only
    split
    · rename_i lower
      exact (max_eq_left lower.le).symm
    · rename_i higher
      exact (max_eq_right (not_lt.mp higher)).symm
  constructor
  · rw [Set.image_insert_eq, first]
    exact extremes.firstSeenAt.insert _
  · rw [Set.image_insert_eq, last]
    exact extremes.lastSeenAt.insert _
  · rw [Set.image_insert_eq, severity]
    exact extremes.severity.insert _
  · rw [Set.image_insert_eq, confidence]
    exact extremes.confidence.insert _
  · have known := extremes.knownExploitationObserved
    simp only [Sight.join, Bool.or_eq_true, known, Set.mem_insert_iff, exists_eq_or_imp]
    exact Or.comm

/-! ## What a record keeps -/

theorem VulnerabilityRecord.sight_sighted (record : VulnerabilityRecord) (candidate : Candidate) :
    (record.sighted candidate).sight = record.sight.join candidate.sight := by
  unfold VulnerabilityRecord.sighted
  split
  · rfl
  · rfl

theorem Candidate.sight_newVulnerability (env : VmPlatform) (candidate : Candidate) :
    (candidate.newVulnerability env).sight = candidate.sight := rfl

theorem Rescored.sight {now : Instant} {old new : VulnerabilityRecord}
    (scored : Rescored now old new) : new.sight = old.sight := by
  have same := congrArg VulnerabilityRecord.sight scored.finding
  exact same

/-! ## What a store keeps -/

/-- What a store has seen of a finding. -/
def Store.seen (store : Store) (fingerprint : String) : Set Sight :=
  {sight | ∃ key record, store.vulnerabilities.get? key = some record ∧
    record.fingerprint = fingerprint ∧ record.sight = sight}

/-- What candidates have seen of a finding. -/
def seenBy (env : VmPlatform) (candidates : List Candidate) (fingerprint : String) :
    Set Sight :=
  {sight | ∃ candidate ∈ candidates, candidate.fingerprint env = fingerprint ∧
    candidate.sight = sight}

/-- The records of a fingerprint keep the extremes of a set, and there is one if the set has
an element. -/
structure Store.Sees (store : Store) (fingerprint : String) (seen : Set Sight) : Prop where
  extremes : ∀ key record, store.vulnerabilities.get? key = some record →
    record.fingerprint = fingerprint → Extremes seen record.sight
  stored : seen.Nonempty → ∃ key record, store.vulnerabilities.get? key = some record ∧
    record.fingerprint = fingerprint

theorem Store.FingerprintsUnique.sees {store : Store} (unique : store.FingerprintsUnique)
    (fingerprint : String) : store.Sees fingerprint (store.seen fingerprint) := by
  constructor
  · intro key record stored same
    have only : store.seen fingerprint = {record.sight} := by
      refine Set.eq_singleton_iff_unique_mem.mpr ⟨⟨key, record, stored, same, rfl⟩, ?_⟩
      rintro _ ⟨other, row, alsoStored, alsoSame, rfl⟩
      obtain rfl := unique key record other row stored alsoStored (same.trans alsoSame.symm)
      rw [Option.some.inj (stored.symm.trans alsoStored)]
    rw [only]
    exact .singleton _
  · rintro ⟨sight, key, record, stored, same, -⟩
    exact ⟨key, record, stored, same⟩

section Seen

variable {env : VmPlatform} {candidate : Candidate} {rest : List Candidate}
  {fingerprint : String} {seen : Set Sight}

theorem union_seenBy_cons (same : candidate.fingerprint env = fingerprint) :
    seen ∪ seenBy env (candidate :: rest) fingerprint =
      insert candidate.sight seen ∪ seenBy env rest fingerprint := by
  ext sight
  simp only [seenBy, Set.mem_union, Set.mem_ofPred_eq, List.mem_cons, exists_eq_or_imp, same,
    true_and, Set.mem_insert_iff]
  constructor
  · rintro (before | rfl | later)
    · exact .inl (.inr before)
    · exact .inl (.inl rfl)
    · exact .inr later
  · rintro ((rfl | before) | later)
    · exact .inr (.inl rfl)
    · exact .inl before
    · exact .inr (.inr later)

theorem seenBy_cons_of_ne (apart : candidate.fingerprint env ≠ fingerprint) :
    seenBy env (candidate :: rest) fingerprint = seenBy env rest fingerprint := by
  ext sight
  simp only [seenBy, Set.mem_ofPred_eq, List.mem_cons, exists_eq_or_imp, apart, false_and, false_or]

end Seen

/-! ## One ingestion -/

/-- A session that ingests: it knows the database, no two records share a fingerprint, and
the record of one fingerprint keeps the extremes of a set. -/
structure Ingesting (fingerprint : String) (seen : Set Sight) (work : Work) : Prop where
  synced : Synced work
  unique : work.live.FingerprintsUnique
  sees : work.live.Sees fingerprint seen

section Session

variable {env : VmPlatform} {work : Work}

/-- **A candidate of the finding is one more sighting of it.** -/
theorem sees_ingest_same {fingerprint : String} {seen : Set Sight} {candidate : Candidate}
    (ingesting : Ingesting fingerprint seen work)
    (same : candidate.fingerprint env = fingerprint) (actor : Option Nat) (now : Instant) :
    (ingestCandidate env work candidate actor now).work.live.Sees fingerprint
      (insert candidate.sight seen) := by
  obtain ⟨ingested, others⟩ := ingest_vulnerability env candidate actor now ingesting.synced
  rw [← ingestCandidate_vulnerability env work candidate actor now] at others
  cases ingested with
  | found record new stored own _ _ after scored =>
    have known : new.fingerprint = fingerprint :=
      (scored.fingerprint.trans (record.fingerprint_sighted candidate)).trans (own.trans same)
    refine ⟨fun key row there alike => ?_, fun _ => ⟨_, new, after, known⟩⟩
    by_cases here : key = (ingestCandidate env work candidate actor now).vulnerability
    · rw [here] at there
      obtain rfl := Option.some.inj (after.symm.trans there)
      rw [scored.sight, record.sight_sighted]
      exact (ingesting.sees.extremes _ record stored (own.trans same)).insert _
    · have before : vulnerability? work key = some row := (others key here).symm.trans there
      exact absurd (ingesting.unique key row _ record before stored
        (alike.trans (own.trans same).symm)) here
  | created new absent _ _ after scored =>
    have known : new.fingerprint = fingerprint := scored.fingerprint.trans same
    have unseen : seen = ∅ := by
      refine Set.not_nonempty_iff_eq_empty.mp fun some_seen => ?_
      obtain ⟨key, row, there, alike⟩ := ingesting.sees.stored some_seen
      exact absurd (alike.trans same.symm) (absent key row there)
    refine ⟨fun key row there alike => ?_, fun _ => ⟨_, new, after, known⟩⟩
    by_cases here : key = (ingestCandidate env work candidate actor now).vulnerability
    · rw [here] at there
      obtain rfl := Option.some.inj (after.symm.trans there)
      rw [scored.sight, candidate.sight_newVulnerability, unseen, insert_empty_eq]
      exact .singleton _
    · have before : vulnerability? work key = some row := (others key here).symm.trans there
      exact absurd (alike.trans same.symm) (absent key row before)

theorem sees_ingest_apart {fingerprint : String} {seen : Set Sight} {candidate : Candidate}
    (ingesting : Ingesting fingerprint seen work)
    (apart : candidate.fingerprint env ≠ fingerprint) (actor : Option Nat) (now : Instant) :
    (ingestCandidate env work candidate actor now).work.live.Sees fingerprint seen := by
  obtain ⟨ingested, others⟩ := ingest_vulnerability env candidate actor now ingesting.synced
  rw [← ingestCandidate_vulnerability env work candidate actor now] at others
  have elsewhere : ∀ new : VulnerabilityRecord,
      vulnerability? (ingestCandidate env work candidate actor now).work
        (ingestCandidate env work candidate actor now).vulnerability = some new →
        new.fingerprint ≠ fingerprint := by
    intro new there
    cases ingested with
    | found record row _ own _ _ after scored =>
      obtain rfl := Option.some.inj (after.symm.trans there)
      rw [scored.fingerprint, record.fingerprint_sighted, own]
      exact apart
    | created row _ _ _ after scored =>
      obtain rfl := Option.some.inj (after.symm.trans there)
      rw [scored.fingerprint]
      exact apart
  constructor
  · intro key row there alike
    by_cases here : key = (ingestCandidate env work candidate actor now).vulnerability
    · rw [here] at there
      exact absurd alike (elsewhere row there)
    · exact ingesting.sees.extremes key row ((others key here).symm.trans there) alike
  · intro some_seen
    obtain ⟨key, row, there, alike⟩ := ingesting.sees.stored some_seen
    by_cases here : key = (ingestCandidate env work candidate actor now).vulnerability
    · -- The row would be the one the candidate was counted to.
      cases ingested with
      | found record new stored own _ _ _ _ =>
        rw [here] at there
        obtain rfl := Option.some.inj (stored.symm.trans there)
        exact absurd (own.symm.trans alike) apart
      | created new _ fresh _ _ _ =>
        rw [here, fresh] at there
        exact absurd (Table.lt_nextKey_of_get? there) (lt_irrefl _)
    · exact ⟨key, row, (others key here).trans there, alike⟩

theorem ingestCandidates_cons (candidate : Candidate) (rest : List Candidate)
    (actor : Option Nat) (now : Instant) :
    ingestCandidates env work (candidate :: rest) actor now =
      ingestCandidates env (ingestCandidate env work candidate actor now).work rest
        actor now :=
  List.foldl_cons ..

/-- **A session of ingestions keeps the extremes of what it began with and of its
candidates.** -/
theorem Ingesting.candidates (env : VmPlatform) {fingerprint : String} {seen : Set Sight}
    (ingesting : Ingesting fingerprint seen work) (candidates : List Candidate)
    (actor : Option Nat) (now : Instant) :
    Ingesting fingerprint (seen ∪ seenBy env candidates fingerprint)
      (ingestCandidates env work candidates actor now) := by
  induction candidates generalizing work seen with
  | nil =>
    have none_seen : seenBy env [] fingerprint = ∅ := by
      simp [seenBy]
    rw [none_seen, Set.union_empty]
    exact ingesting
  | cons candidate rest ih =>
    have synced := synced_ingest env candidate actor now ingesting.synced
    have unique := unique_ingest env candidate actor now ingesting.synced
      ingesting.unique
    rw [ingestCandidates_cons]
    by_cases same : candidate.fingerprint env = fingerprint
    · rw [union_seenBy_cons same]
      exact ih ⟨synced, unique, sees_ingest_same ingesting same actor now⟩
    · rw [seenBy_cons_of_ne same]
      exact ih ⟨synced, unique, sees_ingest_apart ingesting same actor now⟩

end Session

/-! ## Runs of ingestions -/

/-- The candidates that someone ingests at a time. -/
structure Batch where
  actor : Actor
  now : Instant
  candidates : List Candidate

def Batch.request (batch : Batch) : VmRequest :=
  ⟨batch.actor, batch.now, .ingest batch.candidates⟩

/-- The store after several ingestions. -/
def ingestBatches (env : VmPlatform) (store : Store) (batches : List Batch) : Store :=
  final (Store.next env) store (batches.map Batch.request)

theorem seenBy_append (env : VmPlatform) (first second : List Candidate) (fingerprint : String) :
    seenBy env (first ++ second) fingerprint =
      seenBy env first fingerprint ∪ seenBy env second fingerprint := by
  ext sight
  simp only [seenBy, Set.mem_union, Set.mem_ofPred_eq, List.mem_append, or_and_right, exists_or]

theorem seenBy_eq_of_perm {env : VmPlatform} {first second : List Candidate} {fingerprint : String}
    (same : (first.filter fun candidate => candidate.fingerprint env == fingerprint).Perm
      (second.filter fun candidate => candidate.fingerprint env == fingerprint)) :
    seenBy env first fingerprint = seenBy env second fingerprint := by
  have members : ∀ candidate : Candidate,
      (candidate ∈ first ∧ candidate.fingerprint env = fingerprint) ↔
        candidate ∈ second ∧ candidate.fingerprint env = fingerprint := by
    intro candidate
    have member := same.mem_iff (a := candidate)
    simpa only [List.mem_filter, beq_iff_eq] using member
  ext sight
  simp only [seenBy, Set.mem_ofPred_eq, ← and_assoc, members]

/-- **A run of ingestions keeps the extremes of what the store had seen and of the
candidates.** -/
theorem sees_ingestBatches (env : VmPlatform) {store : Store} (batches : List Batch)
    (fingerprint : String) {seen : Set Sight} (unique : store.FingerprintsUnique)
    (sees : store.Sees fingerprint seen) :
    (ingestBatches env store batches).Sees fingerprint
      (seen ∪ seenBy env (batches.flatMap Batch.candidates) fingerprint) := by
  unfold ingestBatches
  induction batches generalizing store seen with
  | nil =>
    have none_seen : seenBy env [] fingerprint = ∅ := by
      simp [seenBy]
    rw [List.flatMap_nil, none_seen, Set.union_empty]
    exact sees
  | cons batch rest ih =>
    rw [List.map_cons, final_cons, List.flatMap_cons, seenBy_append, ← Set.union_assoc]
    have ingesting : Ingesting fingerprint seen (.start store) :=
      ⟨.of_flushed rfl, unique, sees⟩
    have after := ingesting.candidates env batch.candidates (some batch.actor.id) batch.now
    exact ih after.unique after.sees

theorem Answering.candidates {env : VmPlatform} {work : Work} (answering : Answering work)
    (candidates : List Candidate) (actor : Option Nat) (now : Instant) :
    Answering (ingestCandidates env work candidates actor now) := by
  induction candidates generalizing work with
  | nil => exact answering
  | cons candidate rest ih =>
    rw [ingestCandidates_cons]
    exact ih (answering.ingest env candidate actor now)

/-- **What ingestion keeps of a vulnerability does not depend on the order**: it is the
extremes of the record and of the candidates. **An ingestion changes no status but that of a
resolved vulnerability seen again and that of an accepted risk whose acceptances are over,**
and it reopens both. -/
theorem ingestion_confluent (env : VmPlatform) (store : Store) (unique : store.FingerprintsUnique) :
    (∀ (fingerprint : String) (first second : List Batch),
      ((first.flatMap Batch.candidates).filter fun candidate =>
          candidate.fingerprint env == fingerprint).Perm
        ((second.flatMap Batch.candidates).filter fun candidate =>
          candidate.fingerprint env == fingerprint) →
      ∀ key record other row,
        (ingestBatches env store first).vulnerabilities.get? key = some record →
        record.fingerprint = fingerprint →
        (ingestBatches env store second).vulnerabilities.get? other = some row →
        row.fingerprint = fingerprint → record.sight = row.sight) ∧
    (∀ (fingerprint : String) (batches : List Batch),
      (ingestBatches env store batches).Sees fingerprint
        (store.seen fingerprint ∪
          seenBy env (batches.flatMap Batch.candidates) fingerprint)) ∧
    ∀ (earlier : List Candidate) (candidate : Candidate) (actor : Option Nat) (now : Instant)
      (key : Nat) (record : VulnerabilityRecord),
      let work := ingestCandidates env (.start store) earlier actor now
      vulnerability? work key = some record →
      ∃ new, vulnerability? (ingestCandidate env work candidate actor now).work key =
          some new ∧
        (new.status = record.status ∨ new.status = .reopened) ∧
        (new.status ≠ record.status ↔ record.fingerprint = candidate.fingerprint env ∧
          (record.SeenAgain candidate ∨
            record.status = .acceptedRisk ∧ work.live.AcceptanceOver key now)) := by
  refine ⟨?_, ?_, ?_⟩
  · intro fingerprint first second same key record other row stored own alsoStored alsoOwn
    have sees := unique.sees fingerprint
    have one := (sees_ingestBatches env first fingerprint unique sees).extremes key record
      stored own
    have two := (sees_ingestBatches env second fingerprint unique sees).extremes other row
      alsoStored alsoOwn
    rw [← seenBy_eq_of_perm same] at two
    exact one.unique two
  · exact fun fingerprint batches =>
      sees_ingestBatches env batches fingerprint unique (unique.sees fingerprint)
  · intro earlier candidate actor now key record work stored
    exact ((Answering.start unique).candidates earlier actor now).status_ingest env candidate
      actor now stored

/-! ## A record that was there before -/

/-- The same finding, less severe. -/
def milder : Candidate := { missingHeader with severity := .low }

/-- **The record of the finding counts, and an ingestion reopens an accepted risk.** -/
theorem ingestion_counts_record :
    (∃ record, (ingestBatches plainVm .empty
          [⟨admin, 0, [missingHeader]⟩, ⟨admin, 0, [milder]⟩]).vulnerabilities.get? 1 =
            some record ∧
        record.status = .new ∧ record.fingerprint = milder.fingerprint plainVm ∧
        ¬Extremes (seenBy plainVm [milder] (milder.fingerprint plainVm)) record.sight) ∧
      ((acceptedStore.vulnerabilities.get? 1).map VulnerabilityRecord.status = some .acceptedRisk ∧
        ((ingestBatches plainVm acceptedStore
            [⟨admin, days 2, [missingHeader]⟩]).vulnerabilities.get? 1).map
              VulnerabilityRecord.status = some .reopened) := by
  have kept : ((ingestBatches plainVm .empty
      [⟨admin, 0, [missingHeader]⟩, ⟨admin, 0, [milder]⟩]).vulnerabilities.get? 1).any
        (fun record => record.status == .new && record.severity == .medium &&
          record.fingerprint == milder.fingerprint plainVm) = true := by
    decide +kernel
  refine ⟨?_, by decide +kernel, by decide +kernel⟩
  obtain ⟨record, stored, facts⟩ := (Option.any_eq_true _ _).mp kept
  simp only [Bool.and_eq_true, beq_iff_eq] at facts
  obtain ⟨⟨status, severity⟩, own⟩ := facts
  refine ⟨record, stored, status, own, fun extremes => ?_⟩
  obtain ⟨_, ⟨candidate, member, -, rfl⟩, same⟩ := extremes.severity.1
  rw [List.mem_singleton.mp member] at same
  simp [VulnerabilityRecord.sight, Candidate.sight, milder, severity, Severity.order] at same

theorem ingestion_confluent_swap :
    Store.empty.FingerprintsUnique ∧
    ∀ key record other row,
      (ingestBatches plainVm .empty [⟨admin, 0, [missingHeader, milder]⟩]).vulnerabilities.get?
        key = some record →
      record.fingerprint = milder.fingerprint plainVm →
      (ingestBatches plainVm .empty [⟨admin, 0, [milder, missingHeader]⟩]).vulnerabilities.get?
        other = some row →
      row.fingerprint = milder.fingerprint plainVm → record.sight = row.sight :=
  ⟨Distinct.empty, (ingestion_confluent plainVm .empty Distinct.empty).1 _
    [⟨admin, 0, [missingHeader, milder]⟩] [⟨admin, 0, [milder, missingHeader]⟩]
    ((List.Perm.swap _ _ _).filter _)⟩

end ThreatScope.Vulnerabilities
