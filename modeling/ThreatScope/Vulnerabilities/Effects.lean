import ThreatScope.Vulnerabilities.Lifecycle

/-!
# What scoring and expiry write

Scores, deadlines and the expiry of acceptances touch little of the store: they write no
occurrence, no evidence and no verification, and of a vulnerability only its scores, its
deadline and, where an accepted risk lapses, its lifecycle (`Background`). Every function
of `Priority` has such an effect on the rows of a session, and leaves what the database
has (`Looked`).
-/

set_option autoImplicit false

namespace ThreatScope.Vulnerabilities

open Library AccessControl

/-! ## Rows -/

/-- The part of a vulnerability that scoring and expiry never write. -/
def VulnerabilityRecord.finding (record : VulnerabilityRecord) : VulnerabilityRecord :=
  { record with
    status := .new
    technicalScore := 0
    businessRiskScore := 0
    priorityScore := 0
    riskFactors := []
    residualRisk := none
    recurring := false
    recurrenceCount := 0
    dueAt := none
    slaPolicyId := none
    reopenedAt := none
    reopenedReason := none }

/-- A vulnerability before and after scoring: the same finding, in the same place of its
lifecycle unless its accepted risk lapsed. -/
structure Rescored (now : Instant) (old new : VulnerabilityRecord) : Prop where
  finding : new.finding = old.finding
  lifecycle : new.status = old.status ∧ new.reopenedAt = old.reopenedAt ∨
    old.status = .acceptedRisk ∧ new.status = .reopened ∧ new.reopenedAt = some now

namespace Rescored

variable {now : Instant} {old new : VulnerabilityRecord}

theorem refl (record : VulnerabilityRecord) : Rescored now record record :=
  ⟨rfl, .inl ⟨rfl, rfl⟩⟩

theorem trans {middle : VulnerabilityRecord} (earlier : Rescored now old middle)
    (later : Rescored now middle new) : Rescored now old new := by
  refine ⟨later.finding.trans earlier.finding, ?_⟩
  rcases later.lifecycle with ⟨status, time⟩ | ⟨before, status, time⟩
  · rw [status, time]
    exact earlier.lifecycle
  · rcases earlier.lifecycle with ⟨same, -⟩ | ⟨-, reopened, -⟩
    · exact .inr ⟨same.symm.trans before, status, time⟩
    · simp [reopened] at before

theorem lapse (accepted : old.status = .acceptedRisk) : Rescored now old (old.lapse now) :=
  ⟨rfl, .inr ⟨accepted, rfl, rfl⟩⟩

theorem fingerprint (scored : Rescored now old new) : new.fingerprint = old.fingerprint := by
  have same := congrArg VulnerabilityRecord.fingerprint scored.finding
  exact same

theorem mergedIntoId (scored : Rescored now old new) : new.mergedIntoId = old.mergedIntoId := by
  have same := congrArg VulnerabilityRecord.mergedIntoId scored.finding
  exact same

theorem lastSeenAt (scored : Rescored now old new) : new.lastSeenAt = old.lastSeenAt := by
  have same := congrArg VulnerabilityRecord.lastSeenAt scored.finding
  exact same

theorem status_eq (scored : Rescored now old new) (open_ : old.status ≠ .acceptedRisk) :
    new.status = old.status := by
  rcases scored.lifecycle with ⟨same, -⟩ | ⟨wrong, -, -⟩
  · exact same
  · exact absurd wrong open_

theorem status_eq_of_ne (scored : Rescored now old new) (other : new.status ≠ .reopened) :
    new.status = old.status := by
  rcases scored.lifecycle with ⟨same, -⟩ | ⟨-, wrong, -⟩
  · exact same
  · exact absurd wrong other

end Rescored

/-- An acceptance before and after a look at it. -/
def Lapsed (old new : RiskAcceptance) : Prop := new = old ∨ new = old.expire

theorem Lapsed.refl (acceptance : RiskAcceptance) : Lapsed acceptance acceptance := .inl rfl

theorem Lapsed.trans {old middle new : RiskAcceptance} (earlier : Lapsed old middle)
    (later : Lapsed middle new) : Lapsed old new := by
  rcases later with rfl | rfl
  · exact earlier
  · rcases earlier with rfl | rfl
    · exact .inr rfl
    · exact .inr rfl

theorem Lapsed.vulnerabilityId {old new : RiskAcceptance} (lapsed : Lapsed old new) :
    new.vulnerabilityId = old.vulnerabilityId := by
  rcases lapsed with rfl | rfl
  · rfl
  · rfl

/-! ## Tables -/

/-- A store before and after scoring and expiry. -/
structure Background (now : Instant) (store written : Store) : Prop where
  users : written.users = store.users
  assets : written.assets = store.assets
  occurrences : written.occurrences = store.occurrences
  evidence : written.evidence = store.evidence
  verifications : written.verifications = store.verifications
  policies : written.policies = store.policies
  nextKey : written.vulnerabilities.nextKey = store.vulnerabilities.nextKey
  vulnerabilities : ∀ key, Option.Rel (Rescored now) (store.vulnerabilities.get? key)
    (written.vulnerabilities.get? key)
  acceptances : ∀ key, Option.Rel Lapsed (store.acceptances.get? key)
    (written.acceptances.get? key)

namespace Background

variable {now : Instant} {store written : Store}

theorem refl (store : Store) : Background now store store :=
  ⟨rfl, rfl, rfl, rfl, rfl, rfl, rfl, fun _ => Table.rel_self .refl _,
    fun _ => Table.rel_self .refl _⟩

theorem trans {middle : Store} (earlier : Background now store middle)
    (later : Background now middle written) : Background now store written where
  users := later.users.trans earlier.users
  assets := later.assets.trans earlier.assets
  occurrences := later.occurrences.trans earlier.occurrences
  evidence := later.evidence.trans earlier.evidence
  verifications := later.verifications.trans earlier.verifications
  policies := later.policies.trans earlier.policies
  nextKey := later.nextKey.trans earlier.nextKey
  vulnerabilities := fun key => Table.rel_comp (fun _ _ _ before after => before.trans after)
    (earlier.vulnerabilities key) (later.vulnerabilities key)
  acceptances := fun key => Table.rel_comp (fun _ _ _ before after => before.trans after)
    (earlier.acceptances key) (later.acceptances key)

theorem modifyVulnerability (store : Store) {key : Nat}
    {change : VulnerabilityRecord → VulnerabilityRecord}
    (scored : ∀ record, store.vulnerabilities.get? key = some record →
      Rescored now record (change record)) :
    Background now store (store.modifyVulnerability key change) :=
  ⟨rfl, rfl, rfl, rfl, rfl, rfl, rfl, Table.rel_modify _ .refl scored,
    fun _ => Table.rel_self .refl _⟩

theorem addHistory (store : Store) (row : VulnerabilityStatusHistory) :
    Background now store (store.addHistory row) :=
  ⟨rfl, rfl, rfl, rfl, rfl, rfl, rfl, fun _ => Table.rel_self .refl _,
    fun _ => Table.rel_self .refl _⟩

theorem expireAcceptance (store : Store) (key : Nat) :
    Background now store (store.modifyAcceptance key RiskAcceptance.expire) :=
  ⟨rfl, rfl, rfl, rfl, rfl, rfl, rfl, fun _ => Table.rel_self .refl _,
    Table.rel_modify _ .refl fun _ _ => .inr rfl⟩

theorem lapse (store : Store) (vulnerability acceptance : Nat) :
    Background now store (store.lapse vulnerability acceptance now) := by
  have expired : Background now store (store.modifyAcceptance acceptance RiskAcceptance.expire) :=
    expireAcceptance store acceptance
  unfold Store.lapse
  split
  · rename_i record stored
    split
    · rename_i status
      refine expired.trans (modifyVulnerability _ fun other same => ?_)
      obtain rfl := Option.some.inj (stored.symm.trans same)
      exact .lapse status
    · exact expired
  · exact expired

theorem exists_rescored (background : Background now store written) {key : Nat}
    {record : VulnerabilityRecord} (stored : store.vulnerabilities.get? key = some record) :
    ∃ new, written.vulnerabilities.get? key = some new ∧ Rescored now record new := by
  have row := background.vulnerabilities key
  rw [stored] at row
  cases found : written.vulnerabilities.get? key with
  | none =>
    rw [found] at row
    cases row
  | some new =>
    rw [found] at row
    cases row with
    | some scored => exact ⟨new, rfl, scored⟩

theorem exists_source (background : Background now store written) {key : Nat}
    {new : VulnerabilityRecord} (stored : written.vulnerabilities.get? key = some new) :
    ∃ record, store.vulnerabilities.get? key = some record ∧ Rescored now record new := by
  have row := background.vulnerabilities key
  rw [stored] at row
  cases found : store.vulnerabilities.get? key with
  | none =>
    rw [found] at row
    cases row
  | some record =>
    rw [found] at row
    cases row with
    | some scored => exact ⟨record, rfl, scored⟩

end Background

/-! ## Sessions -/

/-- A session before and after scoring and expiry: nothing is flushed. -/
structure Looked (now : Instant) (work looked : Work) : Prop where
  stored : looked.stored = work.stored
  live : Background now work.live looked.live

namespace Looked

variable {now : Instant} {work looked : Work}

theorem refl (work : Work) : Looked now work work := ⟨rfl, .refl _⟩

theorem trans {middle : Work} (earlier : Looked now work middle)
    (later : Looked now middle looked) : Looked now work looked :=
  ⟨later.stored.trans earlier.stored, earlier.live.trans later.live⟩

theorem write (work : Work) {change : Store → Store}
    (live : Background now work.live (change work.live)) : Looked now work (work.write change) :=
  ⟨rfl, live⟩

theorem foldl {α : Type} {step : Work → α → Work}
    (each : ∀ work row, Looked now work (step work row))
    (rows : List α) (work : Work) : Looked now work (rows.foldl step work) := by
  induction rows generalizing work with
  | nil => exact .refl work
  | cons row rest ih => exact (each work row).trans (ih (step work row))

end Looked

section Functions

variable (now : Instant) (work : Work) (key : Nat)

theorem looked_accepted : Looked now work (accepted work key now).1 := by
  unfold accepted
  split
  · exact .refl work
  · split
    · exact .write work (Background.lapse work.live key _)
    · exact .refl work

theorem looked_breached (record : VulnerabilityRecord) :
    Looked now work (breached work record key now).1 := by
  unfold breached
  split
  · exact looked_accepted now work key
  · exact .refl work

theorem looked_calculatePriority : Looked now work (calculatePriority work key now) := by
  unfold calculatePriority
  split
  · exact .refl work
  · rename_i record _
    refine (looked_breached now work key record).trans ?_
    refine (looked_accepted now _ key).trans (.write _ ?_)
    exact .modifyVulnerability _ fun _ _ => ⟨rfl, .inl ⟨rfl, rfl⟩⟩

theorem looked_applySla (anchor : Option Instant) (force : Bool) :
    Looked now work (applySla work key anchor force) := by
  unfold applySla
  split
  · exact .refl work
  split
  · exact .refl work
  split
  · exact .refl work
  · exact .write work (.modifyVulnerability _ fun _ _ => ⟨rfl, .inl ⟨rfl, rfl⟩⟩)

theorem looked_slaState : Looked now work (slaState work key now).1 := by
  have looked := looked_accepted now work key
  unfold slaState
  split
  · exact .refl work
  split
  · exact .refl work
  revert looked
  generalize accepted work key now = result
  rintro looked
  obtain ⟨after, _ | acceptance⟩ := result
  · exact looked
  · exact looked

theorem looked_lookup (lookup : Lookup) : Looked now work (Lookup.run now work lookup) := by
  cases lookup with
  | slaState key => exact looked_slaState now work key
  | priority key => exact looked_calculatePriority now work key

/-- Expiring an acceptance is background work. -/
theorem looked_expireAcceptance (row : Nat × RiskAcceptance) :
    Looked now work (expireAcceptance work now row) := by
  have expired : Looked now work
      (work.write (Store.modifyAcceptance row.1 RiskAcceptance.expire)) :=
    .write work (.expireAcceptance _ _)
  unfold expireAcceptance
  extract_lets key written
  split
  · exact expired
  rename_i cleared _ record stored
  extract_lets reopened
  have clears : Looked now written cleared := by
    unfold cleared
    exact .write written (.modifyVulnerability _ fun _ _ => ⟨rfl, .inl ⟨rfl, rfl⟩⟩)
  have reopens : record.status = .acceptedRisk →
      Looked now cleared (cleared.write (Store.reopenExpired key now)) := by
    intro status
    refine .write _ ((Background.modifyVulnerability _ fun other same => ?_).trans
      (.addHistory _ _))
    have held : other.status = .acceptedRisk := by
      simp only [cleared, UnitOfWork.live_write, Store.modifyVulnerability,
        Table.get?_modify_self] at same
      obtain ⟨old, found, rfl⟩ := Option.map_eq_some_iff.mp same
      obtain rfl := Option.some.inj (stored.symm.trans found)
      exact status
    exact ⟨rfl, .inr ⟨held, rfl, rfl⟩⟩
  refine (expired.trans clears).trans ?_
  unfold reopened
  split
  · rename_i status
    exact ((reopens status).trans (looked_applySla now _ key (some now) true)).trans
      (looked_calculatePriority now _ key)
  · exact looked_calculatePriority now _ key

theorem looked_processExpiredAcceptances :
    Looked now work (processExpiredAcceptances work now) :=
  .foldl (fun work row => looked_expireAcceptance now work row) _ work

end Functions

theorem background_recalculateSla (store : Store) (now : Instant) (ids : List Nat) :
    Background now store (recalculateSla store now ids) := by
  refine (Looked.foldl (fun work row => ?_) _ (UnitOfWork.start store)).live
  refine (Looked.write work ?_).trans
    ((looked_applySla now _ row.1 none true).trans (looked_calculatePriority now _ row.1))
  exact .modifyVulnerability _ fun _ _ => ⟨rfl, .inl ⟨rfl, rfl⟩⟩

/-! ## Transitions -/

/-- An occurrence before and after a change of its activity. -/
structure Reactivated (old new : VulnerabilityOccurrence) : Prop where
  same : new = { old with active := new.active }

theorem Reactivated.refl (occurrence : VulnerabilityOccurrence) :
    Reactivated occurrence occurrence := ⟨rfl⟩

theorem Reactivated.trans {old middle new : VulnerabilityOccurrence}
    (earlier : Reactivated old middle) (later : Reactivated middle new) : Reactivated old new := by
  constructor
  rw [later.same, earlier.same]

theorem setActive_effect (work : Work) (key : Nat) (active : Bool) :
    ∃ occurrences, setActive work key active =
        ⟨work.stored, { work.live with occurrences := occurrences }⟩ ∧
      occurrences.nextKey = work.live.occurrences.nextKey ∧
      ∀ id, Option.Rel Reactivated (work.live.occurrences.get? id) (occurrences.get? id) := by
  unfold setActive
  refine List.foldlRecOn (motive := fun later : Work => ∃ occurrences, later =
        ⟨work.stored, { work.live with occurrences := occurrences }⟩ ∧
      occurrences.nextKey = work.live.occurrences.nextKey ∧
      ∀ id, Option.Rel Reactivated (work.live.occurrences.get? id) (occurrences.get? id)) _ _ ?_ ?_
  · exact ⟨work.live.occurrences, rfl, rfl, fun _ => Table.rel_self .refl _⟩
  · rintro _ ⟨occurrences, rfl, keys, rows⟩ row -
    refine ⟨_, rfl, keys, fun id => ?_⟩
    exact Table.rel_comp (fun _ _ _ before after => before.trans after) (rows id)
      (Table.rel_modify occurrences .refl (fun _ _ => ⟨rfl⟩) id)

/-- What entering a status writes to the vulnerability. -/
def VulnerabilityRecord.entering (actor : Nat) (now : Instant) (toStatus : VulnerabilityStatus)
    (note : Option String) (record : VulnerabilityRecord) : VulnerabilityRecord :=
  match toStatus with
  | .resolved => { record with resolvedAt := some now, resolvedByUserId := some actor }
  | .reopened => record.reopen now ((given note).getD "Manually reopened")
  | _ => record

/-- A session before and after the entry of a status. -/
structure Entered (work : Work) (actor : Nat) (now : Instant) (key : Nat)
    (toStatus : VulnerabilityStatus) (note : Option String) (entered : Work) : Prop where
  stored : entered.stored = work.stored
  acceptances : entered.live.acceptances = work.live.acceptances
  verifications : entered.live.verifications = work.live.verifications
  nextKey : entered.live.vulnerabilities.nextKey = work.live.vulnerabilities.nextKey
  own : entered.live.vulnerabilities.get? key =
    (work.live.vulnerabilities.get? key).map (.entering actor now toStatus note)
  others : ∀ other, other ≠ key →
    entered.live.vulnerabilities.get? other = work.live.vulnerabilities.get? other
  occurrenceKeys : entered.live.occurrences.nextKey = work.live.occurrences.nextKey
  occurrences : ∀ id, Option.Rel Reactivated (work.live.occurrences.get? id)
    (entered.live.occurrences.get? id)
  evidence : entered.live.evidence = work.live.evidence ∨
    ∃ row, entered.live.evidence = work.live.evidence.insert row

theorem accepted_eq_some {work looked : Work} {key : Nat} {now : Instant}
    {acceptance : RiskAcceptance} (found : accepted work key now = (looked, some acceptance)) :
    looked = work ∧ now < acceptance.expiresAt ∧
      ∃ id stored, latestApproved? work.stored key = some (id, stored) ∧
        work.live.acceptances.get? id = some acceptance := by
  unfold accepted at found
  split at found
  · cases found
  · rename_i id live present
    obtain ⟨⟨_, stored⟩, latest, row⟩ := Option.bind_eq_some_iff.mp present
    obtain ⟨_, there, same⟩ := Option.map_eq_some_iff.mp row
    obtain ⟨rfl, rfl⟩ := Prod.mk.inj same
    split at found
    · cases found
    · rename_i unexpired
      obtain ⟨rfl, same⟩ := Prod.mk.inj found
      obtain rfl := Option.some.inj same
      exact ⟨rfl, not_le.mp unexpired, _, stored, latest, there⟩

/-- What entering a status writes. -/
theorem entered_of_enter {env : VmPlatform} {work entered : Work} {actor : Nat}
    {now : Instant} {key : Nat} {record : VulnerabilityRecord} {toStatus : VulnerabilityStatus}
    {note basis : Option String} {reviewer : Option Nat}
    (enters : enter env work actor now key record toStatus note basis reviewer = .ok entered) :
    Entered work actor now key toStatus note entered := by
  have same : ∀ status, VulnerabilityRecord.entering actor now status note = id →
      Entered work actor now key status note work := fun status plain =>
    ⟨rfl, rfl, rfl, rfl, by rw [plain, Option.map_id, id], fun _ _ => rfl, rfl,
      fun _ => Table.rel_self .refl _, .inl rfl⟩
  unfold enter at enters
  split at enters
  · split at enters
    · rename_i text user _ _
      split at enters
      · cases enters
      · obtain rfl := Except.ok.inj enters
        obtain ⟨occurrences, effect, keys, rows⟩ := setActive_effect (work.write (Store.addEvidence
              { vulnerabilityId := key
                occurrenceId := none
                evidenceType := "false_positive_basis"
                sourceModule := "vulnerability_management"
                sourceEntityType := "vulnerability"
                sourceEntityId := key
                contentSha256 := hashParts env [text]
                createdByUserId := some actor })) key false
        rw [effect]
        exact ⟨rfl, rfl, rfl, rfl, Option.map_id'.symm, fun _ _ => rfl, keys, rows,
          .inr ⟨_, rfl⟩⟩
    · cases enters
  · split at enters
    · rename_i looked acceptance found
      obtain rfl := Except.ok.inj enters
      obtain ⟨rfl, -⟩ := accepted_eq_some found
      exact same .acceptedRisk rfl
    · cases enters
  · split at enters
    · obtain rfl := Except.ok.inj enters
      exact ⟨rfl, rfl, rfl, rfl, Table.get?_modify_self _ _ _,
        fun _ apart => Table.get?_modify_of_ne _ _ apart, rfl,
        fun _ => Table.rel_self .refl _, .inl rfl⟩
    · cases enters
  · split at enters
    · cases enters
    · obtain rfl := Except.ok.inj enters
      exact same .archived rfl
  · obtain rfl := Except.ok.inj enters
    obtain ⟨occurrences, effect, keys, rows⟩ := setActive_effect (work.write
      (Store.modifyVulnerability key (.reopen now ((given note).getD "Manually reopened"))))
      key true
    rw [effect]
    exact ⟨rfl, rfl, rfl, rfl, Table.get?_modify_self _ _ _,
      fun _ apart => Table.get?_modify_of_ne _ _ apart, keys, rows, .inl rfl⟩
  · obtain rfl := Except.ok.inj enters
    refine same toStatus ?_
    funext row
    cases toStatus with
    | resolved => contradiction
    | reopened => contradiction
    | _ => rfl

theorem looked_afterMove (now : Instant) (work : Work) (key : Nat)
    (toStatus : VulnerabilityStatus) : Looked now work (afterMove work key now toStatus) := by
  unfold afterMove
  refine Looked.trans ?_ (looked_calculatePriority now _ key)
  split
  · exact looked_applySla now work key none _
  · exact .refl work

/-- **What a transition does**: it enters the status, writes it with a line of history, and
scores. -/
theorem transition_effect {env : VmPlatform} {work later : Work} {actor : Nat}
    {now : Instant} {key : Nat} {record : VulnerabilityRecord} {toStatus : VulnerabilityStatus}
    {note basis : Option String} {reviewer : Option Nat}
    (moves : transition env work actor now key record toStatus note basis reviewer =
      .ok later) :
    toStatus ∈ record.status.transitions ∧ ∃ entered row,
      enter env work actor now key record toStatus note basis reviewer = .ok entered ∧
      row.vulnerabilityId = key ∧ row.fromStatus = some record.status ∧ row.toStatus = toStatus ∧
      later = afterMove (entered.write (Store.moveTo row)) key now toStatus := by
  unfold transition at moves
  split at moves
  · cases moves
  rename_i allowed
  split at moves
  · cases moves
  rename_i entered enters
  refine ⟨by simpa using allowed, entered, ⟨key, some record.status, toStatus,
    orNone (boundedText env 8000 (note.getD "")), some actor⟩, enters, rfl, rfl, rfl, ?_⟩
  exact (Except.ok.inj moves).symm

end ThreatScope.Vulnerabilities
