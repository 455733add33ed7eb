import ThreatScope.Vulnerabilities.Merging

/-!
# What a resolution rests on

A vulnerability enters the status resolved in two ways: by a transition, which asks for a
passed verification, and by the completion of a verification of a mitigated vulnerability as
passed. Nothing else resolves (`ResolvedBefore`). The transition takes any verification that
ever passed, so a vulnerability that was reopened after its verification, or failed one since,
may be resolved on what was verified before. `resolved_freshly_iff` says for which calls that
cannot happen.
-/

set_option autoImplicit false

namespace ThreatScope.Vulnerabilities

open Library AccessControl

/-! ## What does not resolve -/

/-- What is resolved afterwards was resolved before, one vulnerability excepted. -/
def ResolvedBefore (apart : Option Nat) (store written : Store) : Prop :=
  ∀ key new, written.vulnerabilities.get? key = some new → new.status = .resolved →
    apart ≠ some key → ∃ old, store.vulnerabilities.get? key = some old ∧ old.status = .resolved

namespace ResolvedBefore

variable {apart : Option Nat} {store middle written : Store}

theorem of_eq (same : written.vulnerabilities = store.vulnerabilities) :
    ResolvedBefore apart store written := by
  intro key new stored status _
  rw [same] at stored
  exact ⟨new, stored, status⟩

theorem refl (store : Store) : ResolvedBefore apart store store := .of_eq rfl

theorem trans (earlier : ResolvedBefore apart store middle)
    (later : ResolvedBefore apart middle written) : ResolvedBefore apart store written := by
  intro key new stored status outside
  obtain ⟨old, found, same⟩ := later key new stored status outside
  exact earlier key old found same outside

theorem background {now : Instant} (background : Background now store written) :
    ResolvedBefore apart store written := by
  intro key new stored status _
  obtain ⟨old, found, scored⟩ := background.exists_source stored
  exact ⟨old, found, (scored.status_eq_of_ne (by simp [status])).symm.trans status⟩

theorem modify (store : Store) {key : Nat} {change : VulnerabilityRecord → VulnerabilityRecord}
    (kept : apart = some key ∨ ∀ record, (change record).status = .resolved →
      record.status = .resolved) :
    ResolvedBefore apart store (store.modifyVulnerability key change) := by
  intro other new stored status outside
  by_cases here : other = key
  · subst here
    rcases kept with excepted | kept
    · exact absurd excepted outside
    · simp only [Store.modifyVulnerability, Table.get?_modify_self] at stored
      obtain ⟨old, found, rfl⟩ := Option.map_eq_some_iff.mp stored
      exact ⟨old, found, kept old status⟩
  · simp only [Store.modifyVulnerability, Table.get?_modify_of_ne _ _ here] at stored
    exact ⟨new, stored, status⟩

theorem addVulnerability (store : Store) {record : VulnerabilityRecord}
    (status : record.status ≠ .resolved) :
    ResolvedBefore apart store (store.addVulnerability record) := by
  intro key new stored same _
  simp only [Store.addVulnerability, Table.get?_insert] at stored
  split at stored
  · obtain rfl := Option.some.inj stored
    exact absurd same status
  · exact ⟨new, stored, same⟩

theorem foldl {α : Type} {step : Work → α → Work}
    (each : ∀ work row, ResolvedBefore none work.live (step work row).live) (rows : List α)
    (work : Work) : ResolvedBefore none work.live (rows.foldl step work).live := by
  induction rows generalizing work with
  | nil => exact .refl _
  | cons row rest ih => exact (each work row).trans (ih (step work row))

end ResolvedBefore

section Functions

variable {env : VmPlatform} {work later : Work} {key : Nat} {now : Instant}

/-- **A transition resolves at most its own vulnerability**, and that only to resolve it. -/
theorem resolvedBefore_transition {apart : Option Nat} {actor : Nat} {record : VulnerabilityRecord}
    {toStatus : VulnerabilityStatus} {note basis : Option String} {reviewer : Option Nat}
    (moves : transition env work actor now key record toStatus note basis reviewer =
      .ok later) (other : apart = some key ∨ toStatus ≠ .resolved) :
    ResolvedBefore apart work.live later.live := by
  obtain ⟨-, entered, row, enters, own, -, status, rfl⟩ := transition_effect moves
  have effect := entered_of_enter enters
  have looked := looked_afterMove now (entered.write (Store.moveTo row)) key toStatus
  refine ResolvedBefore.trans ?_ (.background looked.live)
  intro other new stored resolved outside
  by_cases here : other = key
  · subst here
    rcases other with excepted | unresolved
    · exact absurd excepted outside
    · simp only [UnitOfWork.live_write, Store.moveTo, Store.addHistory,
        Store.modifyVulnerability, own, Table.get?_modify_self] at stored
      obtain ⟨old, -, rfl⟩ := Option.map_eq_some_iff.mp stored
      exact absurd (status.symm.trans resolved) unresolved
  · simp only [UnitOfWork.live_write, Store.moveTo, Store.addHistory, Store.modifyVulnerability,
      own, Table.get?_modify_of_ne _ _ here] at stored
    exact ⟨new, (effect.others other here).symm.trans stored, resolved⟩

theorem resolvedBefore_ingestCandidate (work : Work) (candidate : Candidate)
    (actor : Option Nat) (now : Instant) :
    ResolvedBefore none work.live
      (ingestCandidate env work candidate actor now).work.live := by
  obtain ⟨looked, -⟩ := looked_ingestCandidate env work candidate actor now
  refine ResolvedBefore.trans ?_ (.background looked.live)
  intro key new stored resolved outside
  have row := (vulnerability?_sightCandidate env work candidate actor key).symm.trans stored
  revert row
  unfold sightVulnerability vulnerability?
  split
  · have added : ResolvedBefore none work.live
        (work.live.addVulnerability (candidate.newVulnerability env)) :=
      .addVulnerability _ (by simp [Candidate.newVulnerability])
    exact fun row => added key new row resolved outside
  · rename_i id record found
    extract_lets observed
    have sighted : ResolvedBefore none work.live observed.live :=
      .modify _ (.inr fun _ status => status)
    split
    · intro row
      refine sighted.trans (.modify _ (.inr ?_)) key new row resolved outside
      exact fun _ status => by cases status
    · exact fun row => sighted key new row resolved outside

end Functions

/-! ## Routes -/

section Routes

variable {env : VmPlatform} {now : Instant} {key : Nat} {apart : Option Nat}

theorem resolvedBefore_withVulnerability {store : Store} {work : Work}
    {service : VulnerabilityRecord → Except HttpError Work}
    (sound : ∀ record, vulnerability? work key = some record →
      ∀ later, service record = .ok later → ResolvedBefore apart store later.live) :
    ResolvedBefore apart store (store.reply (withVulnerability work key service)).store := by
  cases answered : withVulnerability work key service with
  | error error => exact .refl store
  | ok later =>
    unfold withVulnerability at answered
    split at answered
    · cases answered
    · rename_i record found
      exact sound record found later answered

theorem resolvedBefore_approve (store : Store) (actor : Actor) (acceptance : Nat) (note : String) :
    ResolvedBefore none store
      (approveRiskAcceptance env store actor now acceptance note).store := by
  unfold approveRiskAcceptance
  split
  · exact .refl store
  rename_i item found
  split
  · exact .refl store
  split
  · exact .refl store
  split
  · exact .of_eq rfl
  · refine resolvedBefore_withVulnerability fun record _ later answered => ?_
    have flushed : ResolvedBefore none store (((UnitOfWork.start store).write
        (Store.modifyAcceptance acceptance (.approve actor.id))).write
        (Store.modifyVulnerability item.vulnerabilityId
          (.withResidualRisk item.residualRisk))).flush.live :=
      (ResolvedBefore.of_eq rfl).trans (.modify _ (.inr fun _ status => status))
    simp only at answered
    split at answered
    · exact flushed.trans (resolvedBefore_transition answered (.inr (by simp)))
    · rwa [← Except.ok.inj answered]

theorem resolvedBefore_revoke (store : Store) (actor : Actor) (acceptance : Nat) (note : String) :
    ResolvedBefore none store
      (revokeRiskAcceptance env store actor now acceptance note).store := by
  unfold revokeRiskAcceptance
  split
  · exact .refl store
  split
  · exact .refl store
  refine resolvedBefore_withVulnerability fun record _ later answered => ?_
  split at answered
  · exact (ResolvedBefore.of_eq rfl).trans (resolvedBefore_transition answered (.inr (by simp)))
  · rw [← Except.ok.inj answered]
    exact .of_eq rfl

theorem vulnerabilities_verified (env : VmPlatform) (now : Instant) (work : Work) (actor : Actor)
    (verification : Nat) (item : VerificationRequest) (payload : VerificationComplete) :
    (verified env work actor now verification item payload).live.vulnerabilities =
      work.live.vulnerabilities ∧
    (verified env work actor now verification item payload).live.verifications =
      work.live.verifications.modify verification fun row =>
        { row with
          status := payload.result.status
          startedAt := some (row.startedAt.getD now)
          completedAt := some now } := by
  unfold verified
  extract_lets id completed observed
  have kept : observed.live.vulnerabilities = completed.live.vulnerabilities ∧
      observed.live.verifications = completed.live.verifications := by
    refine List.foldlRecOn (motive := fun later : Work =>
      later.live.vulnerabilities = completed.live.vulnerabilities ∧
        later.live.verifications = completed.live.verifications) _ _ ⟨rfl, rfl⟩ ?_
    exact fun _ same _ _ => same
  exact kept

theorem resolvedBefore_completeVerification (store : Store) (actor : Actor) (verification : Nat)
    (payload : VerificationComplete)
    (other : ∀ item record, store.verifications.get? verification = some item →
      store.vulnerabilities.get? item.vulnerabilityId = some record →
        apart = some item.vulnerabilityId ∨
          ¬(payload.result = .passed ∧ record.status = .mitigated)) :
    ResolvedBefore apart store
      (completeVerification env store actor now verification payload).store := by
  unfold completeVerification
  split
  · exact .refl store
  rename_i item found
  split
  · exact .refl store
  refine resolvedBefore_withVulnerability fun record stored later answered => ?_
  have flushed : ResolvedBefore apart store
      (verified env (.start store) actor now verification item payload).live :=
    .of_eq (vulnerabilities_verified ..).1
  simp only [bind_eq_ok_iff] at answered
  obtain ⟨moved, moves, answered⟩ := answered
  obtain rfl := Except.ok.inj answered
  refine ResolvedBefore.trans ?_ (.background (looked_calculatePriority now moved _).live)
  split at moves
  · rename_i result status
    refine flushed.trans (resolvedBefore_transition moves (.inl ?_))
    exact (other item record found stored).resolve_right fun never => never ⟨result, status⟩
  · exact flushed.trans (resolvedBefore_transition moves (.inr (by simp)))
  · rwa [← Except.ok.inj moves]

theorem resolvedBefore_merge (store : Store) (actor : Actor) (target : Nat) (ids : List Nat)
    (note : String) :
    ResolvedBefore none store (mergeVulnerabilities store actor now target ids note).store := by
  rcases merged_of_merge store actor now target ids note with same | ⟨keys, merged⟩
  · rw [same]
    exact .refl store
  · intro other new stored status _
    by_cases member : other ∈ keys
    · rw [merged.merged other member] at stored
      obtain ⟨old, -, rfl⟩ := Option.map_eq_some_iff.mp stored
      cases status
    · by_cases here : other = target
      · subst here
        obtain ⟨old, scoredRow, first, last, before, after, scored⟩ := merged.widened
        obtain rfl := Option.some.inj (after.symm.trans stored)
        exact ⟨old, before, (scored.status_eq_of_ne (by simp [status])).symm.trans status⟩
      · exact ⟨new, (merged.others other member here).symm.trans stored, status⟩

theorem resolvedBefore_split (store : Store) (actor : Actor) (source : Nat) (ids : List Nat)
    (title : Option String) (note : String) :
    ResolvedBefore none store
      (splitVulnerability env store actor now source ids title note).store := by
  rcases splitOff_of_split env store actor now source ids title note with
    same | ⟨keys, splits⟩
  · rw [same]
    exact .refl store
  · obtain ⟨old, created, fingerprint, title, first, last, before, after, scored, -⟩ :=
      splits.created
    intro other new stored status _
    by_cases fresh : other = store.vulnerabilities.nextKey
    · rw [fresh] at stored
      obtain rfl := Option.some.inj (after.symm.trans stored)
      have triaged := (scored.status_eq_of_ne (by simp [status])).symm.trans status
      cases triaged
    · by_cases here : other = source
      · subst here
        obtain ⟨kept, found, same⟩ := splits.kept old before
        obtain rfl := Option.some.inj (found.symm.trans stored)
        exact ⟨old, before, (same.status_eq_of_ne (by simp [status])).symm.trans status⟩
      · exact ⟨new, (splits.others other here fresh).symm.trans stored, status⟩

end Routes

/-! ## What resolves -/

/-- The call resolves the vulnerability: a transition that finds a passed verification, or the
completion as passed of a verification of a mitigated one. -/
def VmRequest.Resolves (store : Store) (request : VmRequest) (key : Nat)
    (record : VulnerabilityRecord) : Prop :=
  match request.call with
  | .transition vulnerability .resolved _ _ _ =>
    vulnerability = key ∧ .resolved ∈ record.status.transitions ∧
      passedVerification store key = true
  | .completeVerification verification payload =>
    payload.result = .passed ∧ record.status = .mitigated ∧
      ∃ item, store.verifications.get? verification = some item ∧ item.vulnerabilityId = key ∧
        (item.status = .requested ∨ item.status = .running)
  | _ => False

section Resolving

variable (env : VmPlatform) {work : Work} {key : Nat} {record : VulnerabilityRecord}

/-- **With a passed verification the transition resolves.** -/
theorem transition_resolved (actor : Nat) (now : Instant) (note basis : Option String)
    (reviewer : Option Nat) (stored : vulnerability? work key = some record)
    (allowed : .resolved ∈ record.status.transitions)
    (passed : passedVerification work.stored key = true) :
    ∃ later new, transition env work actor now key record .resolved note basis reviewer =
        .ok later ∧ vulnerability? later key = some new ∧ new.status = .resolved ∧
      new.reopenedAt = record.reopenedAt ∧ later.live.verifications = work.live.verifications := by
  have entered : enter env work actor now key record .resolved note basis reviewer =
      .ok (work.write (Store.modifyVulnerability key
        (.entering actor now .resolved note))) := by
    unfold enter
    rw [if_pos passed]
    rfl
  let moved := (work.write (Store.modifyVulnerability key
    (.entering actor now .resolved note))).write (Store.moveTo ⟨key, some record.status, .resolved,
      orNone (boundedText env 8000 (note.getD "")), some actor⟩)
  have looked := looked_afterMove now moved key .resolved
  have row : moved.live.vulnerabilities.get? key =
      some { record.entering actor now .resolved note with status := .resolved } := by
    simp only [moved, UnitOfWork.live_write, Store.moveTo, Store.addHistory,
      Store.modifyVulnerability, Table.get?_modify_self]
    have there : work.live.vulnerabilities.get? key = some record := stored
    rw [there]
    rfl
  obtain ⟨new, found, scored⟩ := looked.live.exists_rescored row
  refine ⟨afterMove moved key now .resolved, new, ?_, found, ?_, ?_, ?_⟩
  · unfold transition
    rw [if_neg (by simpa using allowed), entered]
  · exact scored.status_eq (by simp)
  · rcases scored.lifecycle with ⟨-, same⟩ | ⟨accepted, -⟩
    · exact same
    · cases accepted
  · exact looked.live.verifications

/-- What a completion writes to its verification. -/
def VerificationRequest.complete (now : Instant) (result : VerificationResult)
    (row : VerificationRequest) : VerificationRequest :=
  { row with
    status := result.status
    startedAt := some (row.startedAt.getD now)
    completedAt := some now }

end Resolving

section Steps

variable (env : VmPlatform) {store : Store} {request : VmRequest} {key : Nat}

/-- The verifications after a call that resolves. -/
def VmRequest.verificationsAfter (store : Store) (request : VmRequest) :
    Table VerificationRequest :=
  match request.call with
  | .completeVerification verification payload =>
    store.verifications.modify verification (.complete request.now payload.result)
  | _ => store.verifications

/-- **Such a call resolves.** -/
theorem resolved_of_resolves {record : VulnerabilityRecord}
    (stored : store.vulnerabilities.get? key = some record)
    (resolves : request.Resolves store key record) :
    ∃ new, (store.next env request).vulnerabilities.get? key = some new ∧
      new.status = .resolved ∧ new.reopenedAt = record.reopenedAt ∧
      (store.next env request).verifications = request.verificationsAfter store := by
  obtain ⟨actor, now, call⟩ := request
  unfold VmRequest.Resolves at resolves
  split at resolves
  · rename_i vulnerability note basis reviewer shape
    obtain ⟨rfl, allowed, passed⟩ := resolves
    simp only at shape
    subst shape
    have row : vulnerability? (.start store) vulnerability = some record := stored
    obtain ⟨later, new, moves, found, status, reopened, verifications⟩ :=
      transition_resolved env actor.id now note basis reviewer row allowed passed
    have after : store.next env ⟨actor, now, .transition vulnerability .resolved note basis
        reviewer⟩ = later.live := by
      simp only [Store.next, Store.answer, transitionVulnerability, withVulnerability, row, moves]
      rfl
    rw [after]
    exact ⟨new, found, status, reopened, verifications⟩
  · rename_i verification payload shape
    obtain ⟨result, status, item, requested, rfl, active⟩ := resolves
    simp only at shape
    subst shape
    have asked : ¬(item.status ≠ .requested ∧ item.status ≠ .running) := by
      rintro ⟨one, two⟩
      rcases active with same | same
      · exact one same
      · exact two same
    obtain ⟨vulnerabilities, verifications⟩ := vulnerabilities_verified env now
      (.start store) actor verification item payload
    let flushed := verified env (.start store) actor now verification item payload
    have row : vulnerability? flushed item.vulnerabilityId = some record :=
      (congrArg (fun table : Table VulnerabilityRecord => table.get? item.vulnerabilityId)
        vulnerabilities).trans stored
    have completed : flushed.live.verifications.get? verification =
        some (item.complete now payload.result) := by
      refine (congrArg (fun table : Table VerificationRequest => table.get? verification)
        verifications).trans ((Table.get?_modify_self ..).trans ?_)
      exact congrArg (Option.map _) requested
    have passed : passedVerification flushed.stored item.vulnerabilityId = true := by
      refine List.any_eq_true.mpr ⟨(verification, item.complete now payload.result), ?_, ?_⟩
      · exact (Table.get?_eq_some_iff _ _ _).mp completed
      · simp [VerificationRequest.complete, result, VerificationResult.status]
    obtain ⟨later, new, moves, found, resolved, reopened, kept⟩ :=
      transition_resolved env actor.id now (some payload.resultSummary) none none row
        (by simp [status, VulnerabilityStatus.transitions]) passed
    have looked := looked_calculatePriority now later item.vulnerabilityId
    obtain ⟨last, there, scored⟩ := looked.live.exists_rescored found
    have before : vulnerability? (.start store) item.vulnerabilityId = some record := stored
    have after : store.next env ⟨actor, now, .completeVerification verification payload⟩ =
        (calculatePriority later item.vulnerabilityId now).live := by
      simp only [Store.next, Store.answer, completeVerification, requested, if_neg asked,
        withVulnerability, before, result, status]
      have moves' : transition env (verified env (.start store) actor now verification
          item payload) actor.id now item.vulnerabilityId record .resolved
          (some payload.resultSummary) none none = .ok later := moves
      rw [moves']
      rfl
    rw [after]
    refine ⟨last, there, (scored.status_eq (by simp [resolved])).trans resolved, ?_, ?_⟩
    · rcases scored.lifecycle with ⟨-, same⟩ | ⟨accepted, -⟩
      · exact same.trans reopened
      · cases resolved.symm.trans accepted
    · exact looked.live.verifications.trans (kept.trans verifications)
  · exact resolves.elim

theorem resolves_of_transition {actor : Actor} {now : Instant} {note basis : Option String}
    {reviewer : Option Nat} {new : VulnerabilityRecord}
    (stored : (transitionVulnerability env store actor now key .resolved note basis
      reviewer).store.vulnerabilities.get? key = some new)
    (resolved : new.status = .resolved)
    (entered : ∀ old, store.vulnerabilities.get? key = some old → old.status ≠ .resolved) :
    ∃ record, store.vulnerabilities.get? key = some record ∧
      .resolved ∈ record.status.transitions ∧ passedVerification store key = true := by
  unfold transitionVulnerability withVulnerability at stored
  simp only at stored
  split at stored
  · exact absurd resolved (entered new stored)
  rename_i record found
  refine ⟨record, found, ?_⟩
  cases answered : transition env (.start store) actor.id now key record .resolved note basis
      reviewer with
  | error error =>
    rw [answered] at stored
    exact absurd resolved (entered new stored)
  | ok later =>
    obtain ⟨allowed, session, row, enters, -⟩ := transition_effect answered
    refine ⟨allowed, ?_⟩
    unfold enter at enters
    split at enters
    all_goals first | contradiction | skip
    split at enters
    · assumption
    · cases enters

/-- **Nothing else resolves.** -/
theorem resolves_of_resolved {new : VulnerabilityRecord}
    (stored : (store.next env request).vulnerabilities.get? key = some new)
    (resolved : new.status = .resolved)
    (entered : ∀ old, store.vulnerabilities.get? key = some old → old.status ≠ .resolved) :
    ∃ record, store.vulnerabilities.get? key = some record ∧
      request.Resolves store key record := by
  have never : ∀ {apart}, ResolvedBefore apart store (store.next env request) →
      apart = some key := by
    intro apart before
    by_contra outside
    obtain ⟨old, found, same⟩ := before key new stored resolved outside
    exact entered old found same
  have nothing : ¬ResolvedBefore none store (store.next env request) := fun before => by
    cases never before
  obtain ⟨actor, now, call⟩ := request
  cases call with
  | ingest candidates =>
    exact absurd (ResolvedBefore.foldl (fun work candidate =>
      resolvedBefore_ingestCandidate work candidate (some actor.id) now) candidates
        (.start store)) nothing
  | transition vulnerability toStatus note basis reviewer =>
    by_cases status : toStatus = .resolved
    · subst status
      have own : ResolvedBefore (some vulnerability) store (store.next env
          ⟨actor, now, .transition vulnerability .resolved note basis reviewer⟩) :=
        resolvedBefore_withVulnerability fun record _ later answered =>
          resolvedBefore_transition answered (.inl rfl)
      obtain rfl := Option.some.inj (never own)
      obtain ⟨record, found, allowed, passed⟩ :=
        resolves_of_transition env stored resolved entered
      exact ⟨record, found, rfl, allowed, passed⟩
    · refine absurd (resolvedBefore_withVulnerability fun record _ later answered => ?_) nothing
      exact resolvedBefore_transition answered (.inr status)
  | requestAcceptance vulnerability residualRisk expiresAt reviewAt =>
    refine absurd (resolvedBefore_withVulnerability fun record _ later answered => ?_) nothing
    split at answered
    · cases answered
    split at answered
    · cases answered
    split at answered
    · cases answered
    split at answered
    · cases answered
    rw [← Except.ok.inj answered]
    exact .of_eq rfl
  | approve acceptance note =>
    exact absurd (resolvedBefore_approve store actor acceptance note) nothing
  | reject acceptance =>
    refine absurd ?_ nothing
    unfold Store.next Store.answer rejectRiskAcceptance
    simp only
    split
    · exact .refl store
    split
    · exact .refl store
    · exact .of_eq rfl
  | revoke acceptance note =>
    exact absurd (resolvedBefore_revoke store actor acceptance note) nothing
  | refresh =>
    exact absurd (ResolvedBefore.background
      (looked_processExpiredAcceptances now (.start store)).live) nothing
  | look lookups =>
    exact absurd (ResolvedBefore.background (Looked.foldl (fun work lookup =>
      looked_lookup now work lookup) lookups (.start store)).live) nothing
  | recalculate ids =>
    exact absurd (ResolvedBefore.background (background_recalculateSla store now ids)) nothing
  | requestVerification vulnerability payload =>
    refine absurd (resolvedBefore_withVulnerability fun record _ later answered => ?_) nothing
    split at answered
    · cases answered
    · rw [← Except.ok.inj answered]
      exact .of_eq rfl
  | startVerification verification =>
    refine absurd ?_ nothing
    unfold Store.next Store.answer Vulnerabilities.startVerification
    simp only
    split
    · exact .refl store
    split
    · exact .refl store
    · exact .of_eq rfl
  | completeVerification verification payload =>
    by_cases mitigated : ∃ item record, store.verifications.get? verification = some item ∧
        store.vulnerabilities.get? item.vulnerabilityId = some record ∧
        payload.result = .passed ∧ record.status = .mitigated
    · obtain ⟨item, record, requested, found, result, status⟩ := mitigated
      have own : ResolvedBefore (some item.vulnerabilityId) store (store.next env
          ⟨actor, now, .completeVerification verification payload⟩) :=
        resolvedBefore_completeVerification store actor verification payload
          fun other _ place _ => .inl (by rw [Option.some.inj (requested.symm.trans place)])
      obtain same := Option.some.inj (never own)
      refine ⟨record, same ▸ found, result, status, item, requested, same, ?_⟩
      by_contra inactive
      rw [not_or] at inactive
      have refused : store.next env ⟨actor, now, .completeVerification verification payload⟩ =
          store := by
        simp only [Store.next, Store.answer, completeVerification, requested]
        rw [if_pos inactive]
      rw [refused] at stored
      exact entered new stored resolved
    · refine absurd (resolvedBefore_completeVerification store actor verification payload
        fun item record requested found => .inr fun both => mitigated ?_) nothing
      exact ⟨item, record, requested, found, both⟩
  | cancelVerification verification =>
    refine absurd ?_ nothing
    unfold Store.next Store.answer Vulnerabilities.cancelVerification
    simp only
    split
    · exact .refl store
    split
    · exact .refl store
    · exact .of_eq rfl
  | merge target sources note =>
    exact absurd (resolvedBefore_merge store actor target sources note) nothing
  | split source occurrences title note =>
    exact absurd (resolvedBefore_split store actor source occurrences title note) nothing
  | assets assets => exact absurd (.of_eq rfl) nothing
  | policies policies => exact absurd (.of_eq rfl) nothing
  | users users => exact absurd (.of_eq rfl) nothing

end Steps

theorem unresolved_of_resolves {store : Store} {request : VmRequest} {key : Nat}
    {record : VulnerabilityRecord} (resolves : request.Resolves store key record) :
    record.status ≠ .resolved := by
  intro same
  unfold VmRequest.Resolves at resolves
  split at resolves
  · simp [same, VulnerabilityStatus.transitions] at resolves
  · cases same.symm.trans resolves.2.1
  · exact resolves

/-! ## Fresh evidence -/

/-- A verification of the vulnerability passed after its last reopening, and none failed after
that. -/
def FreshlyVerified (verifications : Table VerificationRequest) (key : Nat)
    (record : VulnerabilityRecord) : Prop :=
  ∃ id row completed, verifications.get? id = some row ∧ row.vulnerabilityId = key ∧
    row.status = .passed ∧ row.completedAt = some completed ∧
    (∀ reopened, record.reopenedAt = some reopened → reopened < completed) ∧
    ∀ other failure failed, verifications.get? other = some failure →
      failure.vulnerabilityId = key → failure.status = .failed →
      failure.completedAt = some failed → failed ≤ completed

/-- Every vulnerability that a call resolves is freshly verified. -/
def ResolvedFreshly (before after : Store) : Prop :=
  ∀ key new, after.vulnerabilities.get? key = some new → new.status = .resolved →
    (∀ old, before.vulnerabilities.get? key = some old → old.status ≠ .resolved) →
    FreshlyVerified after.verifications key new

/-- The time of the call is later than the last reopening, and no verification failed after
it. -/
def CompletesFreshly (store : Store) (now : Instant) (key : Nat) (record : VulnerabilityRecord) :
    Prop :=
  (∀ reopened, record.reopenedAt = some reopened → reopened < now) ∧
    ∀ other failure failed, store.verifications.get? other = some failure →
      failure.vulnerabilityId = key → failure.status = .failed →
      failure.completedAt = some failed → failed ≤ now

/-- The call resolves on fresh evidence: on a verification that is there, or on the one it
completes. -/
def VmRequest.RestsOnFresh (store : Store) (request : VmRequest) : Prop :=
  ∀ key record, store.vulnerabilities.get? key = some record → request.Resolves store key record →
    FreshlyVerified store.verifications key record ∨
      match request.call with
      | .completeVerification _ _ => CompletesFreshly store request.now key record
      | _ => False

theorem freshlyVerified_congr {verifications : Table VerificationRequest} {key : Nat}
    {old new : VulnerabilityRecord} (same : new.reopenedAt = old.reopenedAt) :
    FreshlyVerified verifications key new ↔ FreshlyVerified verifications key old := by
  unfold FreshlyVerified
  rw [same]

/-- **What a completed verification adds.** -/
theorem freshlyVerified_complete {store : Store} {now : Instant} {verification key : Nat}
    {item : VerificationRequest} {record : VulnerabilityRecord}
    (requested : store.verifications.get? verification = some item)
    (own : item.vulnerabilityId = key)
    (active : item.status = .requested ∨ item.status = .running) :
    FreshlyVerified (store.verifications.modify verification (.complete now .passed)) key record ↔
      FreshlyVerified store.verifications key record ∨ CompletesFreshly store now key record := by
  have rows : ∀ id, (store.verifications.modify verification (.complete now .passed)).get? id =
      if id = verification then some (item.complete now .passed)
      else store.verifications.get? id := by
    intro id
    rw [Table.get?_modify]
    split
    · rename_i here
      rw [here, requested, Option.map_some]
    · rfl
  -- The verification that is completed had neither passed nor failed.
  have waiting : ∀ {id row}, store.verifications.get? id = some row →
      row.status = .passed ∨ row.status = .failed → id ≠ verification := by
    rintro id row there status rfl
    obtain rfl := Option.some.inj (requested.symm.trans there)
    rcases active with same | same
    · simp [same] at status
    · simp [same] at status
  have failures : ∀ limit : Instant,
      (∀ other failure failed,
        (store.verifications.modify verification (.complete now .passed)).get? other =
          some failure → failure.vulnerabilityId = key → failure.status = .failed →
        failure.completedAt = some failed → failed ≤ limit) ↔
      ∀ other failure failed, store.verifications.get? other = some failure →
        failure.vulnerabilityId = key → failure.status = .failed →
        failure.completedAt = some failed → failed ≤ limit := by
    refine fun limit => ⟨fun all other failure failed there => ?_,
      fun all other failure failed there => ?_⟩
    · intro mine status
      exact all other failure failed
        ((rows other).trans (if_neg (waiting there (.inr status))) |>.trans there) mine status
    · rw [rows] at there
      split at there
      · obtain rfl := Option.some.inj there
        exact fun _ status => by cases status
      · exact all other failure failed there
  constructor
  · rintro ⟨id, row, completed, there, mine, status, time, later, last⟩
    rw [failures] at last
    rw [rows] at there
    split at there
    · obtain rfl := Option.some.inj there
      obtain rfl := Option.some.inj time
      exact .inr ⟨later, last⟩
    · exact .inl ⟨id, row, completed, there, mine, status, time, later, last⟩
  · rintro (⟨id, row, completed, there, mine, status, time, later, last⟩ | ⟨later, last⟩)
    · refine ⟨id, row, completed, ?_, mine, status, time, later, (failures _).mpr last⟩
      rw [rows, if_neg (waiting there (.inl status))]
      exact there
    · exact ⟨verification, item.complete now .passed, now, (rows _).trans (if_pos rfl), own, rfl,
        rfl,
        later, (failures _).mpr last⟩

/-- **A call resolves freshly exactly when it rests on fresh evidence.** -/
theorem resolvedFreshly_next_iff (env : VmPlatform) (store : Store) (request : VmRequest) :
    ResolvedFreshly store (store.next env request) ↔ request.RestsOnFresh store := by
  have fresh : ∀ key record, request.Resolves store key record →
      (FreshlyVerified (request.verificationsAfter store) key record ↔
        (FreshlyVerified store.verifications key record ∨
          match request.call with
          | .completeVerification _ _ => CompletesFreshly store request.now key record
          | _ => False)) := by
    obtain ⟨actor, now, call⟩ := request
    intro key record resolves
    unfold VmRequest.Resolves at resolves
    unfold VmRequest.verificationsAfter
    split at resolves
    · rename_i shape
      simp only at shape
      subst shape
      simp
    · rename_i verification payload shape
      obtain ⟨result, -, item, requested, own, active⟩ := resolves
      simp only at shape
      subst shape
      simp only [result]
      exact freshlyVerified_complete requested own active
    · exact resolves.elim
  constructor
  · intro freshly key record stored resolves
    obtain ⟨new, found, status, reopened, verifications⟩ :=
      resolved_of_resolves env stored resolves
    have verified := freshly key new found status fun old place same => by
      obtain rfl := Option.some.inj (stored.symm.trans place)
      exact unresolved_of_resolves resolves same
    rw [verifications, freshlyVerified_congr reopened] at verified
    exact (fresh key record resolves).mp verified
  · intro rests key new stored resolved entered
    obtain ⟨record, found, resolves⟩ := resolves_of_resolved env stored resolved entered
    obtain ⟨other, there, -, reopened, verifications⟩ :=
      resolved_of_resolves env found resolves
    obtain rfl := Option.some.inj (there.symm.trans stored)
    rw [verifications, freshlyVerified_congr reopened]
    exact (fresh key record resolves).mpr (rests key record found resolves)

/-- **A history resolves every vulnerability freshly exactly when each of its resolutions rests
on fresh evidence.** -/
theorem resolved_freshly_iff (env : VmPlatform) (start : Store) (requests : List VmRequest) :
    (∀ move ∈ trace (Store.next env) start requests,
      ResolvedFreshly move.before move.after) ↔
      ∀ move ∈ trace (Store.next env) start requests,
        move.input.RestsOnFresh move.before := by
  refine forall₂_congr fun move member => ?_
  rw [after_eq_of_mem_trace _ member]
  exact resolvedFreshly_next_iff env move.before move.input

/-! ## A stale verification -/

/-- A verification passes, and the vulnerability is reopened and mitigated again. -/
def reopenedAfterVerification : List VmRequest :=
  [⟨admin, 0, .ingest [missingHeader]⟩, ⟨admin, 1, .transition 1 .triaged none none none⟩,
    ⟨admin, 2, .transition 1 .confirmed none none none⟩,
    ⟨admin, 3, .transition 1 .mitigated none none none⟩,
    ⟨admin, 4, .requestVerification 1 ⟨none, none, none, none⟩⟩,
    ⟨admin, 10, .completeVerification 1 ⟨.passed, "header present", "response", []⟩⟩,
    ⟨admin, 20, .transition 1 .reopened (some "seen again") none none⟩,
    ⟨admin, 21, .transition 1 .confirmed none none none⟩,
    ⟨admin, 22, .transition 1 .mitigated none none none⟩]

/-- It is resolved without another verification. -/
def resolveAgain : VmRequest := ⟨admin, 30, .transition 1 .resolved none none none⟩

/-- **The vulnerability is resolved on the verification from before its reopening.** -/
theorem stale_resolution :
    ¬∀ move ∈ trace (Store.next plainVm) .empty (reopenedAfterVerification ++ [resolveAgain]),
      ResolvedFreshly move.before move.after := by
  intro freshly
  have last := freshly _ (mem_trace_concat (Store.next plainVm) .empty reopenedAfterVerification
    resolveAgain)
  have before : ((final (Store.next plainVm) .empty
      reopenedAfterVerification).vulnerabilities.get? 1).all
        (fun record => record.status != .resolved) = true := by
    decide +kernel
  have after : (((final (Store.next plainVm) .empty reopenedAfterVerification).next plainVm
      resolveAgain).vulnerabilities.get? 1).any
        (fun record => record.status == .resolved && record.reopenedAt == some 20) = true := by
    decide +kernel
  have verified : ((final (Store.next plainVm) .empty reopenedAfterVerification).next plainVm
      resolveAgain).verifications.rows.all (fun row =>
        row.2.completedAt.all fun completed => decide (completed ≤ 10)) = true := by
    decide +kernel
  obtain ⟨new, stored, facts⟩ := (Option.any_eq_true _ _).mp after
  simp only [Bool.and_eq_true, beq_iff_eq] at facts
  obtain ⟨id, row, completed, there, -, -, time, later, -⟩ := last 1 new stored facts.1
    fun old place same => by simp [place, same] at before
  have early := List.all_eq_true.mp verified (id, row) ((Table.get?_eq_some_iff _ id row).mp there)
  simp only [time, Option.all_some, decide_eq_true_eq] at early
  exact absurd ((later 20 facts.2).trans_le early) (by decide)

end ThreatScope.Vulnerabilities
