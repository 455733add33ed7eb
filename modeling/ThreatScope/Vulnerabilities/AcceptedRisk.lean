import ThreatScope.Vulnerabilities.Effects

/-!
# An accepted risk is backed

A vulnerability whose risk is accepted has an approved acceptance. Approval, revocation
and expiry write the two in one session, and in between one vulnerability may lack its
acceptance (`Backed` with an exception). What ends an approved acceptance also ends the
accepted risk: the lookup and the batch reopen the vulnerability of an acceptance they
expire, and a revocation reopens it.
-/

set_option autoImplicit false

namespace ThreatScope.Vulnerabilities

open Library AccessControl

/-! ## The invariant -/

/-- The vulnerability has an approved acceptance. -/
def Store.HasApproved (store : Store) (vulnerability : Nat) : Prop :=
  ∃ id acceptance, store.acceptances.get? id = some acceptance ∧
    acceptance.vulnerabilityId = vulnerability ∧ acceptance.status = .approved

/-- Every accepted risk has an approved acceptance, one vulnerability excepted. -/
def Store.Backed (store : Store) (apart : Option Nat) : Prop :=
  ∀ key record, store.vulnerabilities.get? key = some record → record.status = .acceptedRisk →
    apart ≠ some key → store.HasApproved key

/-- The session has the acceptances that the database has, of the same vulnerabilities. -/
def Kept (work : Work) : Prop :=
  ∀ id stored, work.stored.acceptances.get? id = some stored →
    ∃ live, work.live.acceptances.get? id = some live ∧
      live.vulnerabilityId = stored.vulnerabilityId

/-- What every session preserves. -/
structure Sound (apart : Option Nat) (work : Work) : Prop where
  backed : work.live.Backed apart
  kept : Kept work

section Stores

variable {store written : Store} {apart : Option Nat}

theorem Store.Backed.weaken (backed : store.Backed none) (apart : Option Nat) :
    store.Backed apart :=
  fun key record stored status _ => backed key record stored status (by simp)

theorem Store.Backed.settle {key : Nat} (backed : store.Backed (some key))
    (settled : ∀ record, store.vulnerabilities.get? key = some record →
      record.status = .acceptedRisk → store.HasApproved key) : store.Backed none := by
  intro other record stored status _
  by_cases here : other = key
  · subst here
    exact settled record stored status
  · exact backed other record stored status fun same => here (Option.some.inj same).symm

theorem Store.Backed.of_eq (backed : store.Backed apart)
    (acceptances : written.acceptances = store.acceptances)
    (rows : ∀ key new, written.vulnerabilities.get? key = some new →
      new.status = .acceptedRisk → apart ≠ some key →
      ∃ record, store.vulnerabilities.get? key = some record ∧ record.status = .acceptedRisk) :
    written.Backed apart := by
  intro key new stored status outside
  obtain ⟨record, found, same⟩ := rows key new stored status outside
  unfold Store.HasApproved
  rw [acceptances]
  exact backed key record found same outside

theorem Store.Backed.modifyVulnerability (backed : store.Backed apart) {key : Nat}
    {change : VulnerabilityRecord → VulnerabilityRecord}
    (status : apart = some key ∨ ∀ record, (change record).status = .acceptedRisk →
      record.status = .acceptedRisk) : (store.modifyVulnerability key change).Backed apart := by
  refine backed.of_eq rfl fun other new stored same outside => ?_
  by_cases here : other = key
  · subst here
    rcases status with excepted | never
    · exact absurd excepted outside
    · simp only [Store.modifyVulnerability, Table.get?_modify_self] at stored
      obtain ⟨old, found, rfl⟩ := Option.map_eq_some_iff.mp stored
      exact ⟨old, found, never old same⟩
  · simp only [Store.modifyVulnerability, Table.get?_modify_of_ne _ _ here] at stored
    exact ⟨new, stored, same⟩

theorem Store.Backed.addVulnerability (backed : store.Backed apart) {record : VulnerabilityRecord}
    (status : record.status ≠ .acceptedRisk) : (store.addVulnerability record).Backed apart := by
  refine backed.of_eq rfl fun key new stored same _ => ?_
  simp only [Store.addVulnerability, Table.get?_insert] at stored
  split at stored
  · rw [← Option.some.inj stored] at same
    exact absurd same status
  · exact ⟨new, stored, same⟩

/-- Writing an acceptance of the excepted vulnerability, one that is not approved, or one
that stays approved. -/
theorem Store.Backed.modifyAcceptance (backed : store.Backed apart) {id : Nat}
    {change : RiskAcceptance → RiskAcceptance}
    (kept : ∀ acceptance, (change acceptance).vulnerabilityId = acceptance.vulnerabilityId)
    (status : ∀ acceptance, store.acceptances.get? id = some acceptance →
      apart = some acceptance.vulnerabilityId ∨ acceptance.status ≠ .approved ∨
        (change acceptance).status = .approved) :
    (store.modifyAcceptance id change).Backed apart := by
  intro key record stored accepted outside
  obtain ⟨other, acceptance, found, own, approved⟩ := backed key record stored accepted outside
  by_cases here : other = id
  · subst here
    refine ⟨other, change acceptance, by simp [Store.modifyAcceptance, found],
      (kept acceptance).trans own, ?_⟩
    rcases status acceptance found with excepted | pending | stays
    · rw [own] at excepted
      exact absurd excepted outside
    · exact absurd approved pending
    · exact stays
  · refine ⟨other, acceptance, ?_, own, approved⟩
    simp only [Store.modifyAcceptance, Table.get?_modify_of_ne _ _ here]
    exact found

theorem Store.Backed.addAcceptance (backed : store.Backed apart) (row : RiskAcceptance) :
    (store.addAcceptance row).Backed apart := by
  intro key record stored accepted outside
  obtain ⟨id, acceptance, found, own, approved⟩ := backed key record stored accepted outside
  refine ⟨id, acceptance, ?_, own, approved⟩
  simp only [Store.addAcceptance]
  rw [Table.get?_insert_of_ne _ _ (Nat.ne_of_lt (Table.lt_nextKey_of_get? found))]
  exact found

end Stores

/-! ## Sessions -/

section Sessions

variable {work later : Work} {apart : Option Nat} {now : Instant}

theorem Kept.start (store : Store) : Kept (.start store) := fun _ live found => ⟨live, found, rfl⟩

theorem Sound.start {store : Store} (backed : store.Backed apart) : Sound apart (.start store) :=
  ⟨backed, .start store⟩

theorem Sound.flush (sound : Sound apart work) : Sound apart work.flush :=
  ⟨sound.backed, .start work.live⟩

theorem Kept.looked (kept : Kept work) (look : Looked now work later) : Kept later := by
  intro id stored found
  rw [look.stored] at found
  obtain ⟨live, same, own⟩ := kept id stored found
  have row := look.live.acceptances id
  rw [same] at row
  cases after : later.live.acceptances.get? id with
  | none =>
    rw [after] at row
    cases row
  | some new =>
    rw [after] at row
    cases row with
    | some lapsed => exact ⟨new, rfl, lapsed.vulnerabilityId.trans own⟩

theorem Sound.write (sound : Sound apart work) {change : Store → Store} {after : Option Nat}
    (backed : (change work.live).Backed after)
    (acceptances : (change work.live).acceptances = work.live.acceptances) :
    Sound after (work.write change) := by
  refine ⟨backed, fun id stored found => ?_⟩
  simp only [UnitOfWork.live_write, acceptances]
  exact sound.kept id stored found

theorem Sound.writeElsewhere (sound : Sound apart work) {change : Store → Store}
    (vulnerabilities : (change work.live).vulnerabilities = work.live.vulnerabilities)
    (acceptances : (change work.live).acceptances = work.live.acceptances) :
    Sound apart (work.write change) := by
  refine sound.write (sound.backed.of_eq acceptances fun key new found status _ => ?_) acceptances
  rw [vulnerabilities] at found
  exact ⟨new, found, status⟩

theorem Sound.modifyAcceptance (sound : Sound apart work) {id : Nat}
    {change : RiskAcceptance → RiskAcceptance} {after : Option Nat}
    (kept : ∀ acceptance, (change acceptance).vulnerabilityId = acceptance.vulnerabilityId)
    (backed : (work.live.modifyAcceptance id change).Backed after) :
    Sound after (work.write (Store.modifyAcceptance id change)) := by
  refine ⟨backed, fun other stored found => ?_⟩
  obtain ⟨live, same, own⟩ := sound.kept other stored found
  simp only [UnitOfWork.live_write, Store.modifyAcceptance]
  by_cases here : other = id
  · subst here
    exact ⟨change live, by simp [same], (kept live).trans own⟩
  · exact ⟨live, by rwa [Table.get?_modify_of_ne _ _ here], own⟩

theorem Sound.modifyVulnerability (sound : Sound apart work) {key : Nat}
    {change : VulnerabilityRecord → VulnerabilityRecord}
    (status : apart = some key ∨ ∀ record, (change record).status = .acceptedRisk →
      record.status = .acceptedRisk) :
    Sound apart (work.write (Store.modifyVulnerability key change)) :=
  sound.write (sound.backed.modifyVulnerability status) rfl

theorem Sound.settle {key : Nat} (sound : Sound (some key) work)
    (settled : ∀ record, vulnerability? work key = some record →
      record.status ≠ .acceptedRisk) : Sound none work :=
  ⟨sound.backed.settle fun record stored status => absurd status (settled record stored),
    sound.kept⟩

/-- A loop keeps what each of its turns keeps. -/
theorem Sound.foldl {α : Type} {step : Work → α → Work} {rows : List α} (sound : Sound apart work)
    (each : ∀ work, Sound apart work → ∀ row ∈ rows, Sound apart (step work row)) :
    Sound apart (rows.foldl step work) :=
  List.foldlRecOn rows step sound fun work sound row member => each work sound row member

end Sessions

/-! ## Scoring and expiry -/

section Scoring

variable {work : Work} (now : Instant) (key : Nat)

theorem latestApproved?_spec {store : Store} {vulnerability id : Nat} {acceptance : RiskAcceptance}
    (found : latestApproved? store vulnerability = some (id, acceptance)) :
    store.acceptances.get? id = some acceptance ∧
      acceptance.vulnerabilityId = vulnerability ∧ acceptance.status = .approved := by
  obtain ⟨stored, passes⟩ := Table.get?_of_newest? found
  simp only [Bool.and_eq_true, beq_iff_eq] at passes
  exact ⟨stored, passes.1, passes.2⟩

/-- **An acceptance that lapses takes the accepted risk with it.** -/
theorem Store.Backed.lapse {store : Store} (backed : store.Backed none) {id : Nat}
    (own : ∀ acceptance, store.acceptances.get? id = some acceptance →
      acceptance.vulnerabilityId = key) : (store.lapse key id now).Backed none := by
  have expired : (store.modifyAcceptance id RiskAcceptance.expire).Backed (some key) := by
    refine (backed.weaken _).modifyAcceptance (fun _ => rfl) fun acceptance found => ?_
    rw [own acceptance found]
    exact .inl rfl
  unfold Store.lapse
  simp only
  split
  · rename_i record stored
    split
    · refine (expired.modifyVulnerability (.inl rfl)).settle fun new found status => ?_
      simp only [Store.modifyVulnerability, Table.get?_modify_self] at found
      obtain ⟨old, -, rfl⟩ := Option.map_eq_some_iff.mp found
      cases status
    · rename_i other
      refine expired.settle fun new found status => ?_
      obtain rfl := Option.some.inj (stored.symm.trans found)
      exact absurd status other
  · rename_i absent
    refine expired.settle fun new found status => ?_
    cases absent.symm.trans found

theorem Sound.accepted (sound : Sound none work) : Sound none (accepted work key now).1 := by
  refine ⟨?_, Kept.looked sound.kept (looked_accepted now work key)⟩
  unfold Vulnerabilities.accepted
  split
  · exact sound.backed
  · rename_i id acceptance found
    obtain ⟨⟨_, stored⟩, latest, live⟩ := Option.bind_eq_some_iff.mp found
    obtain ⟨_, present, same⟩ := Option.map_eq_some_iff.mp live
    obtain ⟨rfl, rfl⟩ := Prod.mk.inj same
    obtain ⟨there, own, -⟩ := latestApproved?_spec latest
    split
    · refine sound.backed.lapse now key fun other found => ?_
      obtain ⟨row, alsoFound, rowOwn⟩ := sound.kept _ _ there
      obtain rfl := Option.some.inj (alsoFound.symm.trans found)
      exact rowOwn.trans own
    · exact sound.backed

theorem Sound.calculatePriority (sound : Sound none work) :
    Sound none (calculatePriority work key now) := by
  unfold Vulnerabilities.calculatePriority
  split
  · exact sound
  · rename_i record _
    have breaches : Sound none (breached work record key now).1 := by
      unfold breached
      split
      · exact sound.accepted now key
      · exact sound
    exact (breaches.accepted now key).modifyVulnerability (.inr fun _ status => status)

theorem Sound.applySla {apart : Option Nat} (sound : Sound apart work) (anchor : Option Instant)
    (force : Bool) : Sound apart (applySla work key anchor force) := by
  unfold Vulnerabilities.applySla
  split
  · exact sound
  split
  · exact sound
  split
  · exact sound
  · exact sound.modifyVulnerability (.inr fun _ status => status)

theorem Sound.slaState (sound : Sound none work) : Sound none (slaState work key now).1 := by
  have after := sound.accepted now key
  unfold Vulnerabilities.slaState
  split
  · exact sound
  split
  · exact sound
  revert after
  generalize Vulnerabilities.accepted work key now = result
  rintro after
  obtain ⟨looked, _ | acceptance⟩ := result
  · exact after
  · exact after

/-- Expiring an acceptance keeps the store sound. -/
theorem Sound.expireAcceptance (sound : Sound none work) {row : Nat × RiskAcceptance}
    (own : ∀ acceptance, work.live.acceptances.get? row.1 = some acceptance →
      acceptance.vulnerabilityId = row.2.vulnerabilityId) :
    Sound none (expireAcceptance work now row) := by
  have expired : Sound (some row.2.vulnerabilityId)
      (work.write (Store.modifyAcceptance row.1 RiskAcceptance.expire)) := by
    refine sound.modifyAcceptance (fun _ => rfl) ?_
    refine (sound.backed.weaken _).modifyAcceptance (fun _ => rfl) fun acceptance found => ?_
    rw [own acceptance found]
    exact .inl rfl
  unfold Vulnerabilities.expireAcceptance
  simp only
  split
  · rename_i absent
    exact expired.settle fun record found => absurd (absent.symm.trans found) (by simp)
  · rename_i record stored
    have cleared : Sound (some row.2.vulnerabilityId)
        ((work.write (Store.modifyAcceptance row.1 RiskAcceptance.expire)).write
          (Store.modifyVulnerability row.2.vulnerabilityId .clearResidualRisk)) :=
      expired.modifyVulnerability (.inl rfl)
    split
    · have reopened : Sound (some row.2.vulnerabilityId)
          (((work.write (Store.modifyAcceptance row.1 RiskAcceptance.expire)).write
            (Store.modifyVulnerability row.2.vulnerabilityId .clearResidualRisk)).write
              (Store.reopenExpired row.2.vulnerabilityId now)) :=
        cleared.write (cleared.backed.modifyVulnerability (.inl rfl)) rfl
      refine Sound.calculatePriority now _ (Sound.applySla _ (reopened.settle ?_) _ _)
      intro new found
      simp only [vulnerability?, UnitOfWork.live_write, Store.reopenExpired, Store.addHistory,
        Store.modifyVulnerability, Table.get?_modify_self] at found
      obtain ⟨old, -, rfl⟩ := Option.map_eq_some_iff.mp found
      simp [VulnerabilityRecord.clearDue, VulnerabilityRecord.lapse]
    · rename_i other
      refine Sound.calculatePriority now _ (cleared.settle fun new found => ?_)
      simp only [vulnerability?, UnitOfWork.live_write, Store.modifyAcceptance,
        Store.modifyVulnerability, Table.get?_modify_self] at found
      obtain ⟨old, here, rfl⟩ := Option.map_eq_some_iff.mp found
      obtain rfl := Option.some.inj (stored.symm.trans here)
      exact other

theorem Sound.processExpiredAcceptances (sound : Sound none work) :
    Sound none (processExpiredAcceptances work now) := by
  -- The rows are read before the loop; an acceptance never changes its vulnerability.
  have own : ∀ row ∈ expiredAcceptances work now, ∃ stored,
      work.stored.acceptances.get? row.1 = some stored ∧
        stored.vulnerabilityId = row.2.vulnerabilityId := by
    rintro ⟨id, acceptance⟩ member
    obtain ⟨⟨stored, found, -⟩, live⟩ := UnitOfWork.mem_query_iff.mp (List.mem_of_mem_take member)
    obtain ⟨other, alsoLive, same⟩ := sound.kept id stored found
    obtain rfl := Option.some.inj (alsoLive.symm.trans live)
    exact ⟨stored, found, same.symm⟩
  unfold Vulnerabilities.processExpiredAcceptances
  refine (List.foldlRecOn (motive := fun later => Sound none later ∧ later.stored = work.stored)
    _ _ ⟨sound, rfl⟩ ?_).1
  rintro later ⟨before, same⟩ row member
  refine ⟨before.expireAcceptance now fun acceptance found => ?_,
    (looked_expireAcceptance now later row).stored.trans same⟩
  obtain ⟨stored, there, vulnerability⟩ := own row member
  rw [← same] at there
  obtain ⟨other, alsoFound, rowOwn⟩ := before.kept row.1 stored there
  obtain rfl := Option.some.inj (alsoFound.symm.trans found)
  exact rowOwn.trans vulnerability

end Scoring

/-! ## Routes -/

section Routes

variable {env : VmPlatform} {work later : Work} {now : Instant} {key : Nat}

theorem Sound.afterMove (sound : Sound none work) (toStatus : VulnerabilityStatus) :
    Sound none (afterMove work key now toStatus) := by
  unfold Vulnerabilities.afterMove
  refine Sound.calculatePriority now key ?_
  split
  · exact sound.applySla key none _
  · exact sound

/-- **A transition leaves every accepted risk backed**, also the one it leaves. A risk is
accepted only from what the database has. -/
theorem Sound.transition (sound : Sound (some key) work) {actor : Nat}
    {record : VulnerabilityRecord} {toStatus : VulnerabilityStatus} {note basis : Option String}
    {reviewer : Option Nat}
    (fresh : toStatus = .acceptedRisk → work.stored.acceptances = work.live.acceptances)
    (moves : transition env work actor now key record toStatus note basis reviewer =
      .ok later) : Sound none later := by
  obtain ⟨-, entered, row, enters, own, -, status, rfl⟩ := transition_effect moves
  have effect := entered_of_enter enters
  have apart : entered.live.Backed (some key) := by
    refine sound.backed.of_eq effect.acceptances fun other new found accepted outside => ?_
    rw [effect.others other fun same => outside (by rw [same])] at found
    exact ⟨new, found, accepted⟩
  have moved : (Store.moveTo row entered.live).Backed (some key) :=
    apart.modifyVulnerability (.inl (by rw [own]))
  refine Sound.afterMove ⟨moved.settle fun new found accepted => ?_, ?_⟩ toStatus
  · have here : row.toStatus = .acceptedRisk := by
      simp only [Store.moveTo, Store.addHistory, Store.modifyVulnerability, own,
        Table.get?_modify_self] at found
      obtain ⟨old, -, rfl⟩ := Option.map_eq_some_iff.mp found
      exact accepted
    rw [status] at here
    subst here
    -- The acceptance that was looked up is approved in the database, hence in the session.
    unfold enter at enters
    simp only at enters
    split at enters
    · rename_i looked acceptance lookup
      obtain rfl := Except.ok.inj enters
      obtain ⟨rfl, -, id, stored, latest, live⟩ := accepted_eq_some lookup
      obtain ⟨there, vulnerability, approved⟩ := latestApproved?_spec latest
      rw [fresh rfl] at there
      exact ⟨id, stored, there, vulnerability, approved⟩
    · cases enters
  · intro id stored found
    simp only [UnitOfWork.stored_write, effect.stored] at found
    simp only [UnitOfWork.live_write, Store.moveTo, Store.addHistory, Store.modifyVulnerability,
      effect.acceptances]
    exact sound.kept id stored found

theorem Sound.sightVulnerability (sound : Sound none work) (candidate : Candidate)
    (actor : Option Nat) : Sound none (sightVulnerability env work candidate actor).work := by
  unfold Vulnerabilities.sightVulnerability
  split
  · refine Sound.writeElsewhere (Sound.flush ?_) rfl rfl
    exact sound.write (sound.backed.addVulnerability (by simp [Candidate.newVulnerability])) rfl
  · rename_i id record _
    have observed : Sound none (work.write (Store.modifyVulnerability id (.observe candidate))) :=
      sound.modifyVulnerability (.inr fun _ status => status)
    have reopens : ∀ row : VulnerabilityRecord,
        (row.reopen candidate.observedAt recurrenceReason).status = .acceptedRisk →
          row.status = .acceptedRisk := fun _ status => by cases status
    extract_lets written
    split
    · refine observed.write ?_ rfl
      exact observed.backed.modifyVulnerability (.inr reopens)
    · exact observed

theorem Sound.sightOccurrence (sound : Sound none work) (candidate : Candidate) :
    Sound none (sightOccurrence env work candidate key).1 := by
  unfold Vulnerabilities.sightOccurrence
  split
  · exact sound.writeElsewhere rfl rfl
  · exact (sound.writeElsewhere rfl rfl).flush

theorem Sound.sightEvidence (sound : Sound none work) (candidate : Candidate) (occurrence : Nat)
    (actor : Option Nat) :
    Sound none (sightEvidence env work candidate key occurrence actor) := by
  unfold Vulnerabilities.sightEvidence
  split
  · exact sound.writeElsewhere rfl rfl
  · exact sound

theorem Sound.ingestCandidate (sound : Sound none work) (candidate : Candidate)
    (actor : Option Nat) : Sound none (ingestCandidate env work candidate actor now).work := by
  have sighted : Sound none (sightCandidate env work candidate actor).work :=
    ((sound.sightVulnerability candidate actor).sightOccurrence candidate).sightEvidence
      candidate _ actor
  have scored := sighted.calculatePriority now
    (sightCandidate env work candidate actor).vulnerability
  unfold Vulnerabilities.ingestCandidate afterSighting
  simp only
  split
  · exact scored.applySla _ (some candidate.observedAt) _
  · exact scored

theorem backed_reply {store : Store} (backed : store.Backed none)
    {result : Except HttpError Work} (sound : ∀ work, result = .ok work → Sound none work) :
    (store.reply result).store.Backed none := by
  cases result with
  | error error => exact backed
  | ok work => exact (sound work rfl).backed

theorem backed_withVulnerability {store : Store} (backed : store.Backed none)
    {service : VulnerabilityRecord → Except HttpError Work}
    (sound : ∀ record, vulnerability? work key = some record →
      ∀ work, service record = .ok work → Sound none work) :
    (store.reply (withVulnerability work key service)).store.Backed none := by
  refine backed_reply backed fun later answered => ?_
  unfold withVulnerability at answered
  split at answered
  · cases answered
  · rename_i record found
    exact sound record found later answered

theorem backed_approve {store : Store} (backed : store.Backed none) (actor : Actor)
    (acceptance : Nat) (note : String) :
    (approveRiskAcceptance env store actor now acceptance note).store.Backed none := by
  unfold approveRiskAcceptance
  split
  · exact backed
  rename_i item found
  split
  · exact backed
  rename_i pending
  have waits : ∀ row, store.acceptances.get? acceptance = some row → row.status ≠ .approved := by
    rintro row stored
    obtain rfl := Option.some.inj (found.symm.trans stored)
    rw [not_not.mp pending]
    simp
  split
  · exact backed
  split
  · exact backed.modifyAcceptance (fun _ => rfl) fun row stored => .inr (.inl (waits row stored))
  · refine backed_withVulnerability backed fun record _ later answered => ?_
    have approved : Sound none ((UnitOfWork.start store).write
        (Store.modifyAcceptance acceptance (.approve actor.id))) := by
      refine (Sound.start backed).modifyAcceptance (fun _ => rfl) ?_
      exact backed.modifyAcceptance (fun _ => rfl) fun row stored => .inr (.inl (waits row stored))
    have flushed : Sound none (((UnitOfWork.start store).write
        (Store.modifyAcceptance acceptance (.approve actor.id))).write
        (Store.modifyVulnerability item.vulnerabilityId
          (.withResidualRisk item.residualRisk))).flush := by
      refine (approved.modifyVulnerability (.inr ?_)).flush
      exact fun _ status => status
    simp only at answered
    split at answered
    · exact Sound.transition ⟨flushed.backed.weaken _, flushed.kept⟩ (fun _ => rfl) answered
    · rwa [← Except.ok.inj answered]

theorem backed_revoke {store : Store} (backed : store.Backed none) (actor : Actor)
    (acceptance : Nat) (note : String) :
    (revokeRiskAcceptance env store actor now acceptance note).store.Backed none := by
  unfold revokeRiskAcceptance
  split
  · exact backed
  rename_i item found
  split
  · exact backed
  refine backed_withVulnerability backed fun record stored later answered => ?_
  have revoked : Sound (some item.vulnerabilityId) ((UnitOfWork.start store).write
      (Store.modifyAcceptance acceptance (.revoke actor.id now))) := by
    refine (Sound.start backed).modifyAcceptance (fun _ => rfl) ?_
    refine (backed.weaken _).modifyAcceptance (fun _ => rfl) fun row there => .inl ?_
    rw [Option.some.inj (found.symm.trans there)]
  split at answered
  · exact revoked.transition (by simp) answered
  · rename_i other
    obtain rfl := Except.ok.inj answered
    exact revoked.settle fun new there => by rwa [Option.some.inj (there.symm.trans stored)]

theorem backed_completeVerification {store : Store} (backed : store.Backed none) (actor : Actor)
    (verification : Nat) (payload : VerificationComplete) :
    (completeVerification env store actor now verification payload).store.Backed none := by
  unfold completeVerification
  split
  · exact backed
  rename_i item _
  split
  · exact backed
  refine backed_withVulnerability backed fun record _ later answered => ?_
  have flushed : Sound none
      (verified env (.start store) actor now verification item payload) := by
    unfold verified
    refine Sound.flush (Sound.writeElsewhere (Sound.foldl ?_ fun work sound row _ => ?_) rfl rfl)
    · exact (Sound.start backed).writeElsewhere rfl rfl
    · exact sound.writeElsewhere rfl rfl
  have atKey : Sound (some item.vulnerabilityId)
      (verified env (.start store) actor now verification item payload) :=
    ⟨flushed.backed.weaken _, flushed.kept⟩
  simp only [bind_eq_ok_iff] at answered
  obtain ⟨moved, moves, answered⟩ := answered
  obtain rfl := Except.ok.inj answered
  refine Sound.calculatePriority now _ ?_
  split at moves
  · exact atKey.transition (by simp) moves
  · exact atKey.transition (by simp) moves
  · rwa [← Except.ok.inj moves]

theorem Sound.mergeOccurrence (sound : Sound none work) (row : Nat × VulnerabilityOccurrence) :
    Sound none (mergeOccurrence work key row) := by
  unfold Vulnerabilities.mergeOccurrence
  split
  · exact sound.writeElsewhere rfl rfl
  · exact sound.writeElsewhere rfl rfl

theorem Sound.mergeSource (sound : Sound none work) (actor : Nat) (note : String)
    (source : Nat × VulnerabilityRecord) : Sound none (mergeSource work actor key note source) := by
  unfold Vulnerabilities.mergeSource
  extract_lets occurrences evidence
  have moved : Sound none occurrences :=
    sound.foldl fun work sound row _ => sound.mergeOccurrence row
  have handed : Sound none evidence :=
    moved.foldl fun work sound row _ => sound.writeElsewhere rfl rfl
  refine handed.write ?_ rfl
  refine handed.backed.modifyVulnerability (.inr ?_)
  exact fun _ status => by cases status

theorem backed_merge {store : Store} (backed : store.Backed none) (actor : Actor)
    (sources : List Nat) (note : String) :
    (mergeVulnerabilities store actor now key sources note).store.Backed none := by
  unfold mergeVulnerabilities
  refine backed_withVulnerability backed fun record _ later answered => ?_
  extract_lets ids rows merged at answered
  split at answered
  · cases answered
  split at answered
  · cases answered
  obtain rfl := Except.ok.inj answered
  have combined : Sound none merged :=
    (Sound.start backed).foldl fun work sound source _ => sound.mergeSource actor.id note source
  refine Sound.calculatePriority now _ (combined.modifyVulnerability (.inr ?_))
  exact fun _ status => status

theorem backed_split {store : Store} (backed : store.Backed none) (actor : Actor)
    (occurrences : List Nat) (title : Option String) (note : String) :
    (splitVulnerability env store actor now key occurrences title note).store.Backed none := by
  unfold splitVulnerability
  refine backed_withVulnerability backed fun record _ later answered => ?_
  extract_lets rows all fingerprint at answered
  split at answered
  · cases answered
  split at answered
  · cases answered
  split at answered
  · cases answered
  split at answered
  · cases answered
  obtain rfl := Except.ok.inj answered
  refine Sound.calculatePriority now _ (Sound.calculatePriority now _ ?_)
  refine Sound.writeElsewhere (Sound.foldl (Sound.flush ?_) fun work sound row _ => ?_) rfl rfl
  · refine (Sound.start backed).write (Store.Backed.addVulnerability backed ?_) rfl
    simp [VulnerabilityRecord.split]
  · unfold splitOccurrence
    refine Sound.foldl (sound.writeElsewhere rfl rfl) fun work sound row _ => ?_
    exact sound.writeElsewhere rfl rfl

theorem backed_recalculateSla {store : Store} (backed : store.Backed none) (ids : List Nat) :
    (recalculateSla store now ids).Backed none := by
  unfold recalculateSla
  refine (Sound.foldl (Sound.start backed) fun work sound row _ => ?_).backed
  refine Sound.calculatePriority now _ (Sound.applySla _ (sound.modifyVulnerability (.inr ?_)) _ _)
  exact fun _ status => status

/-- **A call leaves every accepted risk backed.** -/
theorem backed_next {store : Store} (backed : store.Backed none) (request : VmRequest) :
    (store.next env request).Backed none := by
  obtain ⟨actor, now, call⟩ := request
  have unchanged : ∀ {written : Store}, written.vulnerabilities = store.vulnerabilities →
      written.acceptances = store.acceptances → written.Backed none := by
    intro written vulnerabilities acceptances
    refine backed.of_eq acceptances fun key new found status _ => ?_
    rw [vulnerabilities] at found
    exact ⟨new, found, status⟩
  cases call with
  | ingest candidates =>
    exact (Sound.foldl (Sound.start backed) fun work sound candidate _ =>
      sound.ingestCandidate candidate (some actor.id)).backed
  | transition key toStatus note basis reviewer =>
    refine backed_withVulnerability backed fun record _ later answered => ?_
    exact Sound.transition ⟨backed.weaken _, .start store⟩ (fun _ => rfl) answered
  | requestAcceptance key residualRisk expiresAt reviewAt =>
    refine backed_withVulnerability backed fun record _ later answered => ?_
    split at answered
    · cases answered
    split at answered
    · cases answered
    split at answered
    · cases answered
    split at answered
    · cases answered
    obtain rfl := Except.ok.inj answered
    refine ⟨backed.addAcceptance _, fun id stored found => ⟨stored, ?_, rfl⟩⟩
    exact (Table.get?_insert_of_ne _ _ (Nat.ne_of_lt (Table.lt_nextKey_of_get? found))).trans found
  | approve acceptance note => exact backed_approve backed actor acceptance note
  | reject acceptance =>
    unfold Store.next Store.answer rejectRiskAcceptance
    simp only
    split
    · exact backed
    · rename_i item found
      split
      · exact backed
      · rename_i pending
        refine backed.modifyAcceptance (fun _ => rfl) fun row stored => .inr (.inl ?_)
        obtain rfl := Option.some.inj (found.symm.trans stored)
        rw [not_not.mp pending]
        simp
  | revoke acceptance note => exact backed_revoke backed actor acceptance note
  | refresh => exact ((Sound.start backed).processExpiredAcceptances now).backed
  | look lookups =>
    refine (Sound.foldl (Sound.start backed) fun work sound lookup _ => ?_).backed
    cases lookup with
    | slaState key => exact sound.slaState now key
    | priority key => exact sound.calculatePriority now key
  | recalculate ids => exact backed_recalculateSla backed ids
  | requestVerification key payload =>
    refine backed_withVulnerability backed fun record _ later answered => ?_
    split at answered
    · cases answered
    · obtain rfl := Except.ok.inj answered
      exact (Sound.start backed).writeElsewhere rfl rfl
  | startVerification verification =>
    unfold Store.next Store.answer Vulnerabilities.startVerification
    simp only
    split
    · exact backed
    · split
      · exact backed
      · exact unchanged rfl rfl
  | completeVerification verification payload =>
    exact backed_completeVerification backed actor verification payload
  | cancelVerification verification =>
    unfold Store.next Store.answer Vulnerabilities.cancelVerification
    simp only
    split
    · exact backed
    · split
      · exact backed
      · exact unchanged rfl rfl
  | merge target sources note => exact backed_merge backed actor sources note
  | split source occurrences title note => exact backed_split backed actor occurrences title note
  | assets assets => exact unchanged rfl rfl
  | policies policies => exact unchanged rfl rfl
  | users users => exact unchanged rfl rfl

end Routes

/-- **A vulnerability whose risk is accepted has an approved acceptance**, after every
sequence of calls. -/
theorem accepted_risk_backed (env : VmPlatform) (start : Store) (requests : List VmRequest)
    (initially : start.Backed none) :
    ∀ key record,
      (final (Store.next env) start requests).vulnerabilities.get? key = some record →
        record.status = .acceptedRisk →
        ∃ id acceptance,
          (final (Store.next env) start requests).acceptances.get? id = some acceptance ∧
            acceptance.vulnerabilityId = key ∧ acceptance.status = .approved := by
  have backed : (final (Store.next env) start requests).Backed none := by
    apply invariant_final (Store.next env) (fun store => store.Backed none) (fun _ => True)
      _ initially fun _ _ => trivial
    exact fun store request backed _ => backed_next backed request
  exact fun key record stored status => backed key record stored status (by simp)

/-! ## A small platform -/

/-- Digests that are the texts. -/
def plainVm : VmPlatform where
  nfkc := id
  foldTable := fun c => [c]
  isControl := fun _ => false
  sha256 := id

/-- A finding of the web scanner. -/
def missingHeader : Candidate where
  sourceModule := "web_exposure"
  sourceEntityType := "finding"
  sourceEntityId := 7
  title := "Missing HSTS"
  description := "No Strict-Transport-Security header"
  category := "security_weakness"
  severity := .medium
  confidence := 60
  evidence := "header absent"
  observedAt := 0
  sourceFingerprint := some "hsts"
  weaknessId := none
  asset := none
  location := some "/login"
  active := true
  knownExploitation := false
  authenticationRequired := none
  userInteractionRequired := none

def admin : Actor := ⟨1, true⟩

/-- A finding is confirmed and its risk accepted for a day. -/
def acceptance : List VmRequest :=
  [⟨admin, 0, .ingest [missingHeader]⟩, ⟨admin, 0, .transition 1 .triaged none none none⟩,
    ⟨admin, 0, .transition 1 .confirmed none none none⟩,
    ⟨admin, 0, .requestAcceptance 1 .low (days 1) none⟩, ⟨admin, 0, .approve 1 "agreed"⟩]

theorem accepted_risk_backed_acceptance :
    ((final (Store.next plainVm) .empty acceptance).vulnerabilities.get? 1).any
        (fun record => record.status == .acceptedRisk) = true ∧
      ∀ key record,
        (final (Store.next plainVm) .empty acceptance).vulnerabilities.get? key = some record →
          record.status = .acceptedRisk →
          ∃ id acceptance,
            (final (Store.next plainVm) .empty Vulnerabilities.acceptance).acceptances.get? id =
                some acceptance ∧
              acceptance.vulnerabilityId = key ∧ acceptance.status = .approved :=
  ⟨by decide +kernel,
    accepted_risk_backed plainVm .empty acceptance fun key record stored => by cases stored⟩

end ThreatScope.Vulnerabilities
