import ThreatScope.Vulnerabilities.AcceptedRisk

/-!
# The two ways an acceptance expires

An approved acceptance whose time is over is expired by whoever comes first: a lookup, or
the batch. The lookup asks for the acceptance that expires last, and reopens the
vulnerability when that one is over; it writes no line of history and leaves the deadline.
The batch expires every acceptance whose time is over, the first thousand of them, and
reopens the vulnerability of each, with a line of history and a new deadline, also when
another acceptance of it still stands. So the two agree exactly where neither has anything
to do for the vulnerability (`expiry_agrees_iff`).
-/

set_option autoImplicit false

namespace ThreatScope.Vulnerabilities

open Library AccessControl

/-! ## What an expiry leaves -/

/-- The lines of history of a vulnerability. -/
def Store.historyOf (store : Store) (key : Nat) : List VulnerabilityStatusHistory :=
  (store.history.rows.map Prod.snd).filter fun row => row.vulnerabilityId == key

/-- The status, the deadline, the recurrence count and the history of a vulnerability. -/
def expiryOutcome (store : Store) (key : Nat) :
    Option (VulnerabilityStatus × Option Instant × Nat) × List VulnerabilityStatusHistory :=
  ((store.vulnerabilities.get? key).map fun record =>
    (record.status, record.dueAt, record.recurrenceCount), store.historyOf key)

/-- An approved acceptance of the vulnerability still stands. -/
def Store.StillAccepted (store : Store) (key : Nat) (now : Instant) : Prop :=
  ∃ id acceptance, store.acceptances.get? id = some acceptance ∧
    acceptance.vulnerabilityId = key ∧ acceptance.status = .approved ∧ now < acceptance.expiresAt

/-- The vulnerability is reopened. -/
def Store.Reopened (store : Store) (key : Nat) : Prop :=
  ∃ record, store.vulnerabilities.get? key = some record ∧ record.status = .reopened

/-! ## Other vulnerabilities -/

/-- A session before and after a change that is about one vulnerability. -/
structure OnlyAt (key : Nat) (work later : Work) : Prop where
  rows : ∀ other, other ≠ key → vulnerability? later other = vulnerability? work other
  history : ∀ other, other ≠ key → later.live.historyOf other = work.live.historyOf other

namespace OnlyAt

variable {key : Nat} {work later : Work}

theorem refl (work : Work) : OnlyAt key work work := ⟨fun _ _ => rfl, fun _ _ => rfl⟩

theorem trans {middle : Work} (earlier : OnlyAt key work middle) (after : OnlyAt key middle later) :
    OnlyAt key work later :=
  ⟨fun other apart => (after.rows other apart).trans (earlier.rows other apart),
    fun other apart => (after.history other apart).trans (earlier.history other apart)⟩

theorem modifyVulnerability (work : Work) (change : VulnerabilityRecord → VulnerabilityRecord) :
    OnlyAt key work (work.write (Store.modifyVulnerability key change)) :=
  ⟨fun _ apart => Table.get?_modify_of_ne _ _ apart, fun _ _ => rfl⟩

theorem modifyAcceptance (work : Work) (id : Nat) (change : RiskAcceptance → RiskAcceptance) :
    OnlyAt key work (work.write (Store.modifyAcceptance id change)) :=
  ⟨fun _ _ => rfl, fun _ _ => rfl⟩

end OnlyAt

theorem historyOf_addHistory (store : Store) (row : VulnerabilityStatusHistory) (key : Nat) :
    (store.addHistory row).historyOf key =
      store.historyOf key ++ if row.vulnerabilityId = key then [row] else [] := by
  simp only [Store.historyOf, Store.addHistory, Table.insert, List.map_append, List.map_cons,
    List.map_nil, List.filter_append]
  congr 1
  by_cases own : row.vulnerabilityId = key
  · simp [own]
  · simp [own]

section Functions

variable (work : Work) (key : Nat) (now : Instant)

theorem onlyAt_accepted : OnlyAt key work (accepted work key now).1 := by
  unfold accepted
  split
  · exact .refl work
  split
  · refine ⟨fun other apart => ?_, fun other _ => ?_⟩
    · simp only [vulnerability?, UnitOfWork.live_write, Store.lapse]
      split
      · split
        · exact Table.get?_modify_of_ne _ _ apart
        · rfl
      · rfl
    · simp only [UnitOfWork.live_write, Store.lapse]
      split
      · split
        · rfl
        · rfl
      · rfl
  · exact .refl work

theorem onlyAt_calculatePriority : OnlyAt key work (calculatePriority work key now) := by
  unfold calculatePriority
  split
  · exact .refl work
  · rename_i record _
    have breaches : OnlyAt key work (breached work record key now).1 := by
      unfold breached
      split
      · exact onlyAt_accepted work key now
      · exact .refl work
    exact breaches.trans ((onlyAt_accepted _ key now).trans (.modifyVulnerability _ _))

theorem onlyAt_applySla (anchor : Option Instant) (force : Bool) :
    OnlyAt key work (applySla work key anchor force) := by
  unfold applySla
  split
  · exact .refl work
  split
  · exact .refl work
  split
  · exact .refl work
  · exact .modifyVulnerability _ _

theorem onlyAt_reopenExpired :
    OnlyAt key work (work.write (Store.reopenExpired key now)) := by
  refine ⟨fun _ apart => Table.get?_modify_of_ne _ _ apart, fun other apart => ?_⟩
  simp only [UnitOfWork.live_write, Store.reopenExpired, historyOf_addHistory, if_neg apart.symm,
    List.append_nil]
  rfl

theorem onlyAt_expireAcceptance (row : Nat × RiskAcceptance) :
    OnlyAt row.2.vulnerabilityId work (expireAcceptance work now row) := by
  have expired : OnlyAt row.2.vulnerabilityId work
      (work.write (Store.modifyAcceptance row.1 RiskAcceptance.expire)) :=
    .modifyAcceptance work row.1 _
  have cleared : OnlyAt row.2.vulnerabilityId work
      ((work.write (Store.modifyAcceptance row.1 RiskAcceptance.expire)).write
        (Store.modifyVulnerability row.2.vulnerabilityId .clearResidualRisk)) :=
    expired.trans (.modifyVulnerability _ _)
  unfold expireAcceptance
  simp only
  split
  · exact expired
  refine OnlyAt.trans ?_ (onlyAt_calculatePriority _ _ now)
  split
  · exact cleared.trans ((onlyAt_reopenExpired _ _ now).trans (onlyAt_applySla _ _ _ _))
  · exact cleared

/-! ## Lines of history -/

theorem history_accepted : (accepted work key now).1.live.history = work.live.history := by
  unfold accepted
  split
  · rfl
  split
  · simp only [UnitOfWork.live_write, Store.lapse]
    split
    · split
      · rfl
      · rfl
    · rfl
  · rfl

theorem history_calculatePriority :
    (calculatePriority work key now).live.history = work.live.history := by
  unfold calculatePriority
  split
  · rfl
  · rename_i record _
    have breaches : (breached work record key now).1.live.history = work.live.history := by
      unfold breached
      split
      · exact history_accepted work key now
      · rfl
    exact (history_accepted _ key now).trans breaches

theorem history_applySla (anchor : Option Instant) (force : Bool) :
    (applySla work key anchor force).live.history = work.live.history := by
  unfold applySla
  split
  · rfl
  split
  · rfl
  split
  · rfl
  · rfl

theorem history_slaState : (slaState work key now).1.live.history = work.live.history := by
  have same := history_accepted work key now
  unfold slaState
  split
  · rfl
  split
  · rfl
  revert same
  generalize accepted work key now = result
  rintro same
  obtain ⟨looked, _ | acceptance⟩ := result
  · exact same
  · exact same

theorem historyOf_congr {store written : Store} (same : written.history = store.history)
    (key : Nat) : written.historyOf key = store.historyOf key := by
  unfold Store.historyOf
  rw [same]

/-! ## The batch -/

/-- **The batch writes a line of history for an accepted risk whose acceptance it expires,
and reopens it.** -/
theorem historyOf_expireAcceptance {row : Nat × RiskAcceptance} {record : VulnerabilityRecord}
    (stored : vulnerability? work row.2.vulnerabilityId = some record)
    (status : record.status = .acceptedRisk) :
    (expireAcceptance work now row).live.historyOf row.2.vulnerabilityId =
      work.live.historyOf row.2.vulnerabilityId ++
        [⟨row.2.vulnerabilityId, some .acceptedRisk, .reopened,
          some "Approved risk acceptance expired", none⟩] := by
  unfold expireAcceptance
  simp only [stored, status, if_true]
  rw [historyOf_congr (history_calculatePriority _ _ _),
    historyOf_congr (history_applySla _ _ _ _)]
  simp only [UnitOfWork.live_write, Store.reopenExpired, historyOf_addHistory, if_true]
  rfl

theorem historyOf_prefix_expireAcceptance (row : Nat × RiskAcceptance) :
    work.live.historyOf key <+: (expireAcceptance work now row).live.historyOf key := by
  by_cases own : key = row.2.vulnerabilityId
  · subst own
    cases stored : vulnerability? work row.2.vulnerabilityId with
    | none =>
      unfold expireAcceptance
      simp only [stored]
      exact List.prefix_refl _
    | some record =>
      by_cases status : record.status = .acceptedRisk
      · rw [historyOf_expireAcceptance work now stored status]
        exact List.prefix_append _ _
      · unfold expireAcceptance
        simp only [stored, if_neg status]
        rw [historyOf_congr (history_calculatePriority _ _ _)]
        exact List.prefix_refl _
  · exact ((onlyAt_expireAcceptance work now row).history key own) ▸ List.prefix_refl _

theorem batch_elsewhere {rows : List (Nat × RiskAcceptance)}
    (elsewhere : ∀ row ∈ rows, row.2.vulnerabilityId ≠ key) :
    let later := rows.foldl (fun work row => expireAcceptance work now row) work
    vulnerability? later key = vulnerability? work key ∧
      later.live.historyOf key = work.live.historyOf key := by
  refine List.foldlRecOn (motive := fun later : Work =>
    vulnerability? later key = vulnerability? work key ∧
      later.live.historyOf key = work.live.historyOf key) _ _ ⟨rfl, rfl⟩ ?_
  rintro later ⟨row, history⟩ expired member
  have effect := onlyAt_expireAcceptance later now expired
  exact ⟨(effect.rows key (elsewhere expired member).symm).trans row,
    (effect.history key (elsewhere expired member).symm).trans history⟩

theorem historyOf_prefix_batch (rows : List (Nat × RiskAcceptance)) :
    work.live.historyOf key <+:
      (rows.foldl (fun work row => expireAcceptance work now row) work).live.historyOf key := by
  refine List.foldlRecOn (motive := fun later : Work =>
    work.live.historyOf key <+: later.live.historyOf key) _ _ (List.prefix_refl _) ?_
  rintro later before row -
  exact before.trans (historyOf_prefix_expireAcceptance later key now row)

/-- **A batch with an acceptance of an accepted risk adds a line to its history.** -/
theorem historyOf_batch_lt {rows : List (Nat × RiskAcceptance)} {record : VulnerabilityRecord}
    (stored : vulnerability? work key = some record) (status : record.status = .acceptedRisk)
    (some_row : ∃ row ∈ rows, row.2.vulnerabilityId = key) :
    (work.live.historyOf key).length <
      ((rows.foldl (fun work row => expireAcceptance work now row)
        work).live.historyOf key).length := by
  induction rows generalizing work with
  | nil =>
    obtain ⟨row, member, -⟩ := some_row
    cases member
  | cons row rest ih =>
    rw [List.foldl_cons]
    by_cases own : row.2.vulnerabilityId = key
    · subst own
      have grown := congrArg List.length (historyOf_expireAcceptance work now stored status)
      have later := (historyOf_prefix_batch (expireAcceptance work now row)
        row.2.vulnerabilityId now rest).length_le
      simp only [List.length_append, List.length_singleton] at grown
      omega
    · have effect := onlyAt_expireAcceptance work now row
      obtain ⟨other, member, same⟩ := some_row
      have further : ∃ row ∈ rest, row.2.vulnerabilityId = key := by
        rcases List.mem_cons.mp member with rfl | later
        · exact absurd same own
        · exact ⟨other, later, same⟩
      have longer := ih (expireAcceptance work now row)
        ((effect.rows key (Ne.symm own)).trans stored) further
      rwa [effect.history key (Ne.symm own)] at longer

end Functions

/-! ## The lookup -/

/-- The acceptance that a lookup asks: the database finds it, the session hands it out. -/
def askedAcceptance (work : Work) (key : Nat) : Option (Nat × RiskAcceptance) :=
  (latestApproved? work.stored key).bind fun row =>
    (work.live.acceptances.get? row.1).map fun acceptance => (row.1, acceptance)

theorem Looked.reopened {work later : Work} {now : Instant} {key : Nat}
    (looked : Looked now work later) (reopened : work.live.Reopened key) :
    later.live.Reopened key := by
  obtain ⟨record, stored, status⟩ := reopened
  obtain ⟨new, found, scored⟩ := looked.live.exists_rescored stored
  exact ⟨new, found, (scored.status_eq (by simp [status])).trans status⟩

section Asked

variable {work : Work} {key : Nat} {now : Instant} {record : VulnerabilityRecord}

theorem accepted_of_stands (stands : ∀ id acceptance,
    askedAcceptance work key = some (id, acceptance) → now < acceptance.expiresAt) :
    (accepted work key now).1 = work := by
  unfold accepted
  split
  · rfl
  · rename_i id acceptance asked
    rw [if_neg (not_le.mpr (stands id acceptance asked))]

theorem accepted_of_over (stored : vulnerability? work key = some record)
    (status : record.status = .acceptedRisk) {id : Nat} {acceptance : RiskAcceptance}
    (asked : askedAcceptance work key = some (id, acceptance))
    (lapsed : acceptance.expiresAt ≤ now) : (accepted work key now).1.live.Reopened key := by
  have row : work.live.vulnerabilities.get? key = some record := stored
  refine ⟨record.lapse now, ?_, rfl⟩
  unfold accepted
  unfold askedAcceptance at asked
  rw [asked]
  simp only [if_pos lapsed, UnitOfWork.live_write, Store.lapse, row, status]
  rw [if_pos trivial]
  simp only [Store.modifyVulnerability, Store.modifyAcceptance, Table.get?_modify_self, row,
    Option.map_some]

theorem calculatePriority_of_stands (stored : vulnerability? work key = some record)
    (stands : ∀ id acceptance, askedAcceptance work key = some (id, acceptance) →
      now < acceptance.expiresAt) :
    ∃ scores operational residual, calculatePriority work key now =
      work.write (Store.modifyVulnerability key
        (VulnerabilityRecord.score scores operational residual)) := by
  have unwritten := accepted_of_stands stands
  have breaches : (breached work record key now).1 = work := by
    unfold breached
    split
    · exact unwritten
    · rfl
  unfold calculatePriority
  simp only [stored, breaches, unwritten]
  exact ⟨_, _, _, rfl⟩

theorem calculatePriority_of_over (stored : vulnerability? work key = some record)
    (status : record.status = .acceptedRisk) {id : Nat} {acceptance : RiskAcceptance}
    (asked : askedAcceptance work key = some (id, acceptance))
    (lapsed : acceptance.expiresAt ≤ now) : (calculatePriority work key now).live.Reopened key := by
  have reopened := accepted_of_over stored status asked lapsed
  have scored : ∀ {work : Work}, work.live.Reopened key → ∀ scores operational residual,
      (work.write (Store.modifyVulnerability key
        (VulnerabilityRecord.score scores operational residual))).live.Reopened key := by
    intro work before scores operational residual
    have looked : Looked now work (work.write (Store.modifyVulnerability key
        (VulnerabilityRecord.score scores operational residual))) :=
      .write work (.modifyVulnerability _ fun _ _ => ⟨rfl, .inl ⟨rfl, rfl⟩⟩)
    exact looked.reopened before
  unfold calculatePriority
  simp only [stored]
  refine scored ?_ _ _ _
  -- The vulnerability is reopened by the first lookup, or there is none before the second.
  unfold breached
  split
  · exact (looked_accepted now _ key).reopened reopened
  · exact reopened

end Asked

theorem askedAcceptance_start (store : Store) (key : Nat) :
    askedAcceptance (.start store) key = latestApproved? store key := by
  unfold askedAcceptance
  simp only [UnitOfWork.stored_start, UnitOfWork.live_start]
  cases latest : latestApproved? store key with
  | none => rfl
  | some row =>
    obtain ⟨there, -, -⟩ := latestApproved?_spec latest
    rw [Option.bind_some, there, Option.map_some]

section Lookups

variable {store : Store} {key : Nat} {now : Instant} {record : VulnerabilityRecord}

/-- The three ways an acceptance is looked up. -/
def LooksUp (store : Store) (key : Nat) (now : Instant) (lazily : Work) : Prop :=
  lazily = (accepted (.start store) key now).1 ∨ lazily = (slaState (.start store) key now).1 ∨
    lazily = calculatePriority (.start store) key now

/-- While the acceptance stands, looking a record up leaves the outcome. -/
theorem LooksUp.outcome_of_stands {lazily : Work} (looks : LooksUp store key now lazily)
    (stands : ∀ id acceptance, latestApproved? store key = some (id, acceptance) →
      now < acceptance.expiresAt) :
    expiryOutcome lazily.live key = expiryOutcome store key := by
  rw [← askedAcceptance_start] at stands
  have none_written := accepted_of_stands stands
  rcases looks with rfl | rfl | rfl
  · rw [none_written]
    rfl
  · have kept : (slaState (.start store) key now).1 = .start store := by
      unfold slaState
      split
      · rfl
      split
      · rfl
      revert none_written
      generalize accepted (.start store) key now = result
      rintro none_written
      obtain ⟨looked, _ | acceptance⟩ := result
      · exact none_written
      · exact none_written
    rw [kept]
    rfl
  · unfold expiryOutcome
    rw [historyOf_congr (history_calculatePriority _ _ _)]
    refine congrArg₂ Prod.mk ?_ rfl
    cases stored : vulnerability? (.start store) key with
    | none =>
      unfold calculatePriority
      rw [stored]
      rfl
    | some record =>
      obtain ⟨scores, operational, residual, same⟩ := calculatePriority_of_stands stored stands
      rw [same]
      simp only [UnitOfWork.live_write, UnitOfWork.live_start, Store.modifyVulnerability,
        Table.get?_modify_self, Option.map_map]
      rfl

theorem LooksUp.reopened_of_over {lazily : Work} (looks : LooksUp store key now lazily)
    (stored : store.vulnerabilities.get? key = some record)
    (status : record.status = .acceptedRisk) {id : Nat} {acceptance : RiskAcceptance}
    (latest : latestApproved? store key = some (id, acceptance))
    (lapsed : acceptance.expiresAt ≤ now) : lazily.live.Reopened key := by
  rw [← askedAcceptance_start] at latest
  have reopened : (accepted (.start store) key now).1.live.Reopened key :=
    accepted_of_over stored status latest lapsed
  rcases looks with rfl | rfl | rfl
  · exact reopened
  · unfold slaState
    split
    · rename_i absent
      cases absent.symm.trans stored
    split
    · rename_i other found resolved
      obtain rfl := Option.some.inj (found.symm.trans stored)
      simp [status] at resolved
    revert reopened
    generalize accepted (.start store) key now = result
    rintro reopened
    obtain ⟨looked, _ | acceptance⟩ := result
    · exact reopened
    · exact reopened
  · exact calculatePriority_of_over stored status latest lapsed

end Lookups

/-- **The two ways an acceptance expires agree exactly where neither expires one.** -/
theorem expiry_agrees_iff (store : Store) (key : Nat) (record : VulnerabilityRecord)
    (stored : store.vulnerabilities.get? key = some record)
    (status : record.status = .acceptedRisk) (now : Instant) (lazily : Work)
    (looks : LooksUp store key now lazily) :
    (expiryOutcome lazily.live key = expiryOutcome (refreshExpirations store now) key ∧
        (store.StillAccepted key now →
          ¬lazily.live.Reopened key ∧ ¬(refreshExpirations store now).Reopened key)) ↔
      (∀ row ∈ expiredAcceptances (.start store) now, row.2.vulnerabilityId ≠ key) ∧
        ∀ id acceptance, latestApproved? store key = some (id, acceptance) →
          now < acceptance.expiresAt := by
  have unwritten : lazily.live.historyOf key = store.historyOf key := by
    rcases looks with rfl | rfl | rfl
    · exact historyOf_congr (history_accepted _ _ _) key
    · exact historyOf_congr (history_slaState _ _ _) key
    · exact historyOf_congr (history_calculatePriority _ _ _) key
  have standing : ∀ {written : Store}, expiryOutcome written key = expiryOutcome store key →
      ¬written.Reopened key := by
    rintro written same ⟨new, found, reopened⟩
    have first := congrArg Prod.fst same
    simp [expiryOutcome, stored, found, reopened, status] at first
  constructor
  · rintro ⟨agree, -⟩
    have elsewhere : ∀ row ∈ expiredAcceptances (.start store) now,
        row.2.vulnerabilityId ≠ key := by
      intro row member own
      have longer : (store.historyOf key).length <
          ((refreshExpirations store now).historyOf key).length :=
        historyOf_batch_lt (.start store) key now stored status ⟨row, member, own⟩
      have same : store.historyOf key = (refreshExpirations store now).historyOf key :=
        unwritten.symm.trans (congrArg Prod.snd agree)
      exact absurd (congrArg List.length same) (Nat.ne_of_lt longer)
    refine ⟨elsewhere, fun id acceptance latest => not_le.mp fun lapsed => ?_⟩
    obtain ⟨new, found, reopened⟩ := looks.reopened_of_over stored status latest lapsed
    have kept : (refreshExpirations store now).vulnerabilities.get? key = some record :=
      (batch_elsewhere (.start store) key now elsewhere).1.trans stored
    have first := congrArg Prod.fst agree
    simp [expiryOutcome, found, kept, reopened, status] at first
  · rintro ⟨elsewhere, stands⟩
    have lazy_same := looks.outcome_of_stands stands
    have batch_same : expiryOutcome (refreshExpirations store now) key =
        expiryOutcome store key := by
      obtain ⟨row, history⟩ := batch_elsewhere (.start store) key now elsewhere
      exact congrArg₂ Prod.mk (congrArg (Option.map _) row) history
    exact ⟨lazy_same.trans batch_same.symm, fun _ => ⟨standing lazy_same, standing batch_same⟩⟩

/-! ## A lookup that comes first -/

/-- The risk of the finding is accepted. -/
def acceptedStore : Store := final (Store.next plainVm) .empty acceptance

theorem exists_acceptedStore :
    ∃ record, acceptedStore.vulnerabilities.get? 1 = some record ∧
      record.status = .acceptedRisk := by
  have status : (acceptedStore.vulnerabilities.get? 1).any
      (fun record => record.status == .acceptedRisk) = true := by
    decide +kernel
  obtain ⟨record, stored, accepted⟩ := Option.any_eq_true _ _ |>.mp status
  exact ⟨record, stored, by simpa using accepted⟩

/-- **After the acceptance is over, the lookup and the batch leave different histories.** -/
theorem expiry_disagrees :
    (∃ record, acceptedStore.vulnerabilities.get? 1 = some record ∧
      record.status = .acceptedRisk) ∧
    expiryOutcome (accepted (.start acceptedStore) 1 (days 2)).1.live 1 ≠
      expiryOutcome (refreshExpirations acceptedStore (days 2)) 1 :=
  ⟨exists_acceptedStore, by decide +kernel⟩

theorem expiry_agrees_before :
    expiryOutcome (accepted (.start acceptedStore) 1 0).1.live 1 =
      expiryOutcome (refreshExpirations acceptedStore 0) 1 := by
  obtain ⟨record, stored, status⟩ := exists_acceptedStore
  refine ((expiry_agrees_iff acceptedStore 1 record stored status 0 _ (.inl rfl)).mpr
    ⟨?_, ?_⟩).1
  · have none_over : expiredAcceptances (.start acceptedStore) 0 = [] := by decide +kernel
    simp [none_over]
  · have stands : (latestApproved? acceptedStore 1).all
        (fun row => decide (0 < row.2.expiresAt)) = true := by
      decide +kernel
    intro id acceptance latest
    simpa [latest] using stands

end ThreatScope.Vulnerabilities
