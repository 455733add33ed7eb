import ThreatScope.Analytics.Features

/-!
# Which features leak the future

A feature of a window must not depend on what happens after the end of the window. The tables are
read as they are now, so this holds of a feature exactly when nothing that the platform does later
can change the rows that it counts: the audit events and the alerts, which are only ever added,
and five features whose condition no row ever meets (`no_future_leakage_iff`).
-/

set_option autoImplicit false

namespace ThreatScope.Analytics

open Library AccessControl

/-! ## The law and the condition -/

/-- The value of a feature in a window is the same before and after what happens from the end of
the window on. -/
def NoFutureLeakage (feature : FeatureKey) : Prop :=
  ∀ (average : List Rat → Rat) (past later : List Occurrence) (start stop : Instant)
    (entityId : Option Nat),
    IsHistory (past ++ later) → (∀ occurrence ∈ past, occurrence.time < stop) →
    (∀ occurrence ∈ later, stop ≤ occurrence.time) →
    feature.extract average (final SourceTables.next .empty (past ++ later)) start stop entityId =
      feature.extract average (final SourceTables.next .empty past) start stop entityId

/-- What happens from a time on leaves the value of a feature in a window that ends by then,
whatever has happened so far. -/
def Undisturbed (feature : FeatureKey) : Prop :=
  ∀ (average : List Rat → Rat) (past later : List Occurrence) (start stop : Instant)
    (entityId : Option Nat),
    IsHistory (past ++ later) → (∀ occurrence ∈ later, stop ≤ occurrence.time) →
    feature.extract average (final SourceTables.next .empty (past ++ later)) start stop entityId =
      feature.extract average (final SourceTables.next .empty past) start stop entityId

theorem Undisturbed.noFutureLeakage {feature : FeatureKey} (undisturbed : Undisturbed feature) :
    NoFutureLeakage feature :=
  fun average past later start stop entityId history _ after =>
    undisturbed average past later start stop entityId history after

/-- The features of rows that are only added, and those that are always zero. -/
def FeatureKey.settled : FeatureKey → Bool
  | .authAccessDenialCount | .authPermissionChangeCount | .authRoleAssignmentCount
  | .authMfaFailureCount | .auditIntegrityWarningCount | .platformRateLimitCount => true
  | .socAlertCount | .socHighSeverityAlertCount => true
  | .integrationSignatureFailureCount | .integrationReplayAttemptCount => true
  | .operationsDiagnosticFailureCount | .operationsRestoreFailureCount
  | .operationsReportFailureCount => true
  | _ => false

/-! ## Tables that only grow -/

section Tables

variable {tables : SourceTables} {source : Source}

theorem modify_self (change : Table source.Row → Table source.Row) :
    tables.modify source change source = change (tables source) :=
  Function.update_self _ _ _

theorem modify_of_ne {other : Source} (change : Table source.Row → Table source.Row)
    (different : other ≠ source) : tables.modify source change other = tables other :=
  Function.update_of_ne different _ _

theorem count_insert_of_rejected {α : Type} (table : Table α) {test : α → Bool} {row : α}
    (rejected : test row = false) :
    (table.insert row).count (fun _ row => test row) = table.count fun _ row => test row := by
  simp [Table.count, Table.insert, rejected]

/-- The rows of a source are only added, with their time of insertion. -/
structure OnlyGrows (source : Source) (timestamp : source.Row → Instant) : Prop where
  stamped : ∀ now row, Inserts now source row → timestamp row = now
  unchanged : ∀ now old new, ¬Changes now source old new
  kept : ∀ now row, ¬Deletes now source row

/-- **What happens after the end of a window leaves the counts of a source that only grows.** -/
theorem countWithin_next {timestamp : source.Row → Instant} (grows : OnlyGrows source timestamp)
    (filter : source.Row → Bool) {start stop : Instant} {occurrence : Occurrence}
    (possible : occurrence.Possible tables) (after : stop ≤ occurrence.time) :
    countWithin (tables.next occurrence) start stop source timestamp filter =
      countWithin tables start stop source timestamp filter := by
  obtain ⟨time, mutation⟩ := occurrence
  unfold countWithin countRows SourceTables.next
  cases mutation with
  | insert other row =>
    by_cases same : source = other
    · subst same
      have outside : (within start stop (timestamp row) && filter row) = false := by
        have late : ¬timestamp row < stop := by
          rw [grows.stamped time row possible]
          exact not_lt.mpr after
        simp [within, late]
      dsimp only
      rw [modify_self, count_insert_of_rejected (tables source) outside]
    · dsimp only
      rw [modify_of_ne _ same]
  | change other id row =>
    by_cases same : source = other
    · subst same
      obtain ⟨old, -, changes⟩ := possible
      exact absurd changes (grows.unchanged time old row)
    · dsimp only
      rw [modify_of_ne _ same]
  | delete other id =>
    by_cases same : source = other
    · subst same
      obtain ⟨old, -, deletes⟩ := possible
      exact absurd deletes (grows.kept time old)
    · dsimp only
      rw [modify_of_ne _ same]

/-- What comes after a window changes no count over rows that are only added. -/
theorem countWithin_final {timestamp : source.Row → Instant} (grows : OnlyGrows source timestamp)
    (filter : source.Row → Bool) {start stop : Instant} {later : List Occurrence}
    (possible : ∀ move ∈ trace SourceTables.next tables later,
      move.input.Possible move.before)
    (after : ∀ occurrence ∈ later, stop ≤ occurrence.time) :
    countWithin (final SourceTables.next tables later) start stop source timestamp filter =
      countWithin tables start stop source timestamp filter := by
  refine invariant_final SourceTables.next
    (fun reached => countWithin reached start stop source timestamp filter =
      countWithin tables start stop source timestamp filter)
    (fun move => move.input.Possible move.before ∧ stop ≤ move.input.time)
    (fun state occurrence same allowed =>
      (countWithin_next grows filter allowed.1 allowed.2).trans same) rfl ?_
  intro move member
  exact ⟨possible move member, after _ (input_mem_of_mem_trace _ member)⟩

/-! ## Conditions that no row meets -/

/-- A test rejects every row that is ever in a source. -/
structure NeverMet (source : Source) (test : source.Row → Bool) : Prop where
  inserted : ∀ now row, Inserts now source row → test row = false
  changed : ∀ now old new, Changes now source old new → test old = false → test new = false

/-- A row that no condition ever meets is not met after the next occurrence either. -/
theorem rejected_next {test : source.Row → Bool} (never : NeverMet source test)
    {occurrence : Occurrence} (possible : occurrence.Possible tables)
    (rejected : ∀ id row, (tables source).get? id = some row → test row = false) :
    ∀ id row, (tables.next occurrence source).get? id = some row → test row = false := by
  obtain ⟨time, mutation⟩ := occurrence
  unfold SourceTables.next
  cases mutation with
  | insert other row =>
    by_cases same : source = other
    · subst same
      intro id stored found
      dsimp only at found
      rw [modify_self, Table.get?_insert] at found
      split_ifs at found
      · obtain rfl := Option.some.inj found
        exact never.inserted time row possible
      · exact rejected id stored found
    · dsimp only
      rwa [modify_of_ne _ same]
  | change other key row =>
    by_cases same : source = other
    · subst same
      obtain ⟨old, stored, changes⟩ := possible
      intro id later found
      dsimp only at found
      rw [modify_self, Table.get?_modify] at found
      split_ifs at found with here
      · subst here
        rw [stored] at found
        obtain rfl := Option.some.inj found
        exact never.changed time old row changes (rejected id old stored)
      · exact rejected id later found
    · dsimp only
      rwa [modify_of_ne _ same]
  | delete other key =>
    by_cases same : source = other
    · subst same
      intro id later found
      dsimp only at found
      rw [modify_self, Table.get?_deleteWhere] at found
      exact rejected id later (Option.filter_eq_some_iff.mp found).1
    · dsimp only
      rwa [modify_of_ne _ same]

/-- **A condition that no row meets is never counted.** -/
theorem countWithin_eq_zero {timestamp : source.Row → Instant} {test filter : source.Row → Bool}
    (never : NeverMet source test) (implied : ∀ row, test row = false → filter row = false)
    {history : List Occurrence}
    (possible : ∀ move ∈ trace SourceTables.next .empty history,
      move.input.Possible move.before) (start stop : Instant) :
    countWithin (final SourceTables.next .empty history) start stop source timestamp filter =
      0 := by
  have rejected := invariant_final SourceTables.next
    (fun reached => ∀ id row, (reached source).get? id = some row → test row = false)
    (fun move => move.input.Possible move.before)
    (fun state occurrence rejected allowed => rejected_next never allowed rejected)
    (fun id row found => by cases found) possible
  have none : ((final SourceTables.next .empty history) source).count
      (fun _ row => within start stop (timestamp row) && filter row) = 0 := by
    refine Nat.eq_zero_of_not_pos fun counted => ?_
    obtain ⟨id, row, found, meets⟩ := (Table.count_pos_iff _ _).mp counted
    rw [implied row (rejected id row found), Bool.and_false] at meets
    cases meets
  simp [countWithin, countRows, none]

end Tables

/-! ## Settled features -/

section Settled

variable {feature : FeatureKey} {source : Source} {timestamp : source.Row → Instant}
  {test filter : source.Row → Bool}

theorem extract_congr {average : List Rat → Rat} {first second : SourceTables}
    {start stop : Instant} {entityId : Option Nat}
    (same : feature.read average first start stop entityId =
      feature.read average second start stop entityId) :
    feature.extract average first start stop entityId =
      feature.extract average second start stop entityId := by
  unfold FeatureKey.extract
  rw [same]

theorem undisturbed_of_grows (grows : OnlyGrows source timestamp)
    (reads : ∀ average tables start stop entityId,
      feature.read average tables start stop entityId =
        .ok (some (countWithin tables start stop source timestamp filter))) :
    Undisturbed feature := by
  intro average past later start stop entityId history after
  have possible := history.possible
  rw [trace_append] at possible
  have ended : final SourceTables.next .empty (past ++ later) =
      final SourceTables.next (final SourceTables.next .empty past) later := List.foldl_append ..
  refine extract_congr ?_
  rw [reads, reads, ended, countWithin_final grows filter
    (fun move member => possible move (List.mem_append_right _ member)) after]

theorem undisturbed_of_never (never : NeverMet source test)
    (implied : ∀ row, test row = false → filter row = false)
    (reads : ∀ average tables start stop entityId,
      feature.read average tables start stop entityId =
        .ok (some (countWithin tables start stop source timestamp filter))) :
    Undisturbed feature := by
  intro average past later start stop entityId history _
  have possible := history.possible
  have earlier := history.possible
  rw [trace_append] at earlier
  refine extract_congr ?_
  rw [reads, reads, countWithin_eq_zero never implied possible, countWithin_eq_zero never implied
    fun move member => earlier move (List.mem_append_left _ member)]

end Settled

theorem auditEvents_grow : OnlyGrows .securityAuditEvent AuditEventRow.occurredAt where
  stamped _ _ inserts := inserts
  unchanged _ _ _ := id
  kept _ _ := id

theorem socAlerts_grow : OnlyGrows .socAlert SocAlertRow.createdAt where
  stamped _ _ inserts := inserts
  unchanged _ _ _ := id
  kept _ _ := id

theorem never_jobType {test : String → Bool} (backup : test "database_backup" = false)
    (preview : test "backup_retention_preview" = false) :
    NeverMet .operationalJob fun row => test row.jobType where
  inserted now row inserts := by
    rcases inserts.2.2 with same | same
    · rw [same, backup]
    · rw [same, preview]
  changed now old new changes rejected := by
    have same : new.jobType = old.jobType := by rw [changes]
    rw [same, rejected]

theorem never_invalid : NeverMet .connectorInboundEvent fun row =>
    row.signatureStatus != "valid" || row.replayStatus != "accepted" where
  inserted now row inserts := by rw [inserts]; rfl
  changed _ _ _ changes := absurd changes id

theorem never_failedRestore : NeverMet .restoreRecord fun row =>
    ["failed", "invalid"].contains row.status.text where
  inserted now row _ := by cases row.status <;> decide
  changed _ _ new _ _ := by cases new.status <;> decide

/-- **A settled feature is not disturbed.** -/
theorem undisturbed_of_settled {feature : FeatureKey} (settled : feature.settled = true) :
    Undisturbed feature := by
  cases feature with
  | authAccessDenialCount | authPermissionChangeCount | authRoleAssignmentCount
  | authMfaFailureCount | auditIntegrityWarningCount | platformRateLimitCount =>
    exact undisturbed_of_grows auditEvents_grow fun _ _ _ _ _ => rfl
  | socAlertCount | socHighSeverityAlertCount =>
    exact undisturbed_of_grows socAlerts_grow fun _ _ _ _ _ => rfl
  | integrationSignatureFailureCount =>
    exact undisturbed_of_never never_invalid
      (fun _ rejected => (Bool.or_eq_false_iff.mp rejected).1) fun _ _ _ _ _ => rfl
  | integrationReplayAttemptCount =>
    exact undisturbed_of_never never_invalid
      (fun _ rejected => (Bool.or_eq_false_iff.mp rejected).2) fun _ _ _ _ _ => rfl
  | operationsDiagnosticFailureCount =>
    refine undisturbed_of_never
      (@never_jobType (["diagnostics", "health_check"].contains ·) (by decide) (by decide))
      (fun row rejected => ?_) fun _ _ _ _ _ => rfl
    rw [rejected, Bool.and_false]
  | operationsRestoreFailureCount =>
    exact undisturbed_of_never never_failedRestore (fun _ => id) fun _ _ _ _ _ => rfl
  | operationsReportFailureCount =>
    refine undisturbed_of_never
      (@never_jobType likeReport (by decide +kernel) (by decide +kernel))
      (fun row rejected => ?_) fun _ _ _ _ _ => rfl
    rw [rejected, Bool.and_false]
  | _ => cases settled

/-! ## Leaks -/

section Leaks

variable {feature : FeatureKey} {source : Source} {old new : source.Row} {late : Instant}

/-- The value of a feature in the hour that starts at zero. -/
def FeatureKey.inFirstHour (feature : FeatureKey) (history : List Occurrence) :
    Except ServiceError (Option Rat) :=
  feature.extract (fun _ => 0) (final SourceTables.next .empty history) 0 (minutes 60) none

/-- A row is inserted at zero. -/
def inserted {source : Source} (row : source.Row) : Occurrence := ⟨0, .insert source row⟩

theorem get?_inserted (row : source.Row) :
    (final SourceTables.next .empty [inserted row] source).get? 1 = some row := by
  have stored : final SourceTables.next .empty [inserted row] source =
      (SourceTables.empty source).insert row := modify_self fun table => table.insert row
  rw [stored]
  exact Table.get?_insert_nextKey _ row

theorem isHistory_pair {second : Occurrence} (inserts : Inserts 0 source old)
    (ordered : 0 ≤ second.time)
    (possible : second.Possible (final SourceTables.next .empty [inserted old])) :
    IsHistory [inserted old, second] where
  ordered := List.pairwise_pair.mpr ordered
  possible := by
    intro move member
    rcases List.mem_cons.mp member with rfl | later
    · exact inserts
    · rw [List.mem_singleton.mp later]
      exact possible

theorem leaks_of_second {second : Occurrence} (inserts : Inserts 0 source old)
    (after : minutes 60 ≤ second.time)
    (possible : second.Possible (final SourceTables.next .empty [inserted old]))
    (shows : feature.inFirstHour [inserted old, second] ≠ feature.inFirstHour [inserted old]) :
    ¬NoFutureLeakage feature := by
  intro leakless
  have history := isHistory_pair inserts (le_trans (by decide) after) possible
  refine shows (leakless (fun _ => 0) [inserted old] [second] 0 (minutes 60) none history ?_ ?_)
  · intro occurrence member
    rw [List.mem_singleton.mp member]
    exact (by decide : (0 : Int) < minutes 60)
  · intro occurrence member
    rw [List.mem_singleton.mp member]
    exact after

theorem leaks_of_change (inserts : Inserts 0 source old) (changes : Changes late source old new)
    (after : minutes 60 ≤ late)
    (shows : feature.inFirstHour [inserted old, ⟨late, .change source 1 new⟩] ≠
      feature.inFirstHour [inserted old]) : ¬NoFutureLeakage feature := by
  have possible : Occurrence.Possible (final SourceTables.next .empty [inserted old])
      ⟨late, .change source 1 new⟩ := ⟨old, get?_inserted old, changes⟩
  exact leaks_of_second inserts after possible shows

theorem leaks_of_delete (inserts : Inserts 0 source old) (deletes : Deletes late source old)
    (after : minutes 60 ≤ late)
    (shows : feature.inFirstHour [inserted old, ⟨late, .delete source 1⟩] ≠
      feature.inFirstHour [inserted old]) : ¬NoFutureLeakage feature := by
  have possible : Occurrence.Possible (final SourceTables.next .empty [inserted old])
      ⟨late, .delete source 1⟩ := ⟨old, get?_inserted old, deletes⟩
  exact leaks_of_second inserts after possible shows

theorem leaks_of_insert (inserts : Inserts (minutes 60) source new)
    (shows : feature.inFirstHour [⟨minutes 60, .insert source new⟩] ≠ feature.inFirstHour []) :
    ¬NoFutureLeakage feature := by
  intro leakless
  refine shows (leakless (fun _ => 0) [] [⟨minutes 60, .insert source new⟩] 0 (minutes 60) none
    ⟨List.pairwise_singleton _ _, ?_⟩ (fun _ member => absurd member List.not_mem_nil) ?_)
  · intro move member
    rw [List.mem_singleton.mp member]
    exact inserts
  · intro occurrence member
    rw [List.mem_singleton.mp member]

/-- A session that is revoked within the hour. -/
def revokedSession : List Occurrence :=
  [@inserted .authSession ⟨0, none⟩,
    ⟨minutes 1, .change .authSession 1 ⟨0, some (minutes 1)⟩⟩]

/-- The deletion of a session. -/
def deletedSession : Occurrence := ⟨minutes 60, .delete .authSession 1⟩

theorem leaks_of_session (shows : feature.inFirstHour (revokedSession ++ [deletedSession]) ≠
    feature.inFirstHour revokedSession) : ¬NoFutureLeakage feature := by
  intro leakless
  have history : IsHistory (revokedSession ++ [deletedSession]) := by
    refine ⟨by decide, ?_⟩
    intro move member
    rcases List.mem_cons.mp member with rfl | member
    · exact (rfl : (⟨0, none⟩ : AuthSessionRow) = ⟨0, none⟩)
    rcases List.mem_cons.mp member with rfl | member
    · exact ⟨⟨0, none⟩, @get?_inserted .authSession ⟨0, none⟩, rfl, rfl⟩
    rw [List.mem_singleton.mp member]
    exact ⟨⟨0, some (minutes 1)⟩, by decide +kernel, rfl⟩
  refine shows (leakless (fun _ => 0) revokedSession [deletedSession] 0 (minutes 60) none history
    ?_ ?_)
  · intro occurrence member
    rcases List.mem_cons.mp member with rfl | member
    · exact (by decide : (0 : Int) < minutes 60)
    · rw [List.mem_singleton.mp member]
      exact (by decide : minutes 1 < minutes 60)
  · intro occurrence member
    rw [List.mem_singleton.mp member]
    exact le_refl (minutes 60)

end Leaks

/-- A delivery as it is queued. -/
def queuedDelivery : ConnectorDeliveryRow where
  createdAt := 0
  connectorId := 1
  status := .queued
  attemptCount := 0
  startedAt := none
  completedAt := none

/-- **Every other feature leaks**: a later change, deletion or insertion shows in the hour. -/
theorem leaks_of_unsettled {feature : FeatureKey} (unsettled : feature.settled = false) :
    ¬NoFutureLeakage feature := by
  have hour : minutes 60 ≤ minutes 60 := le_rfl
  cases feature with
  | authAccessDenialCount | authPermissionChangeCount | authRoleAssignmentCount
  | authMfaFailureCount | auditIntegrityWarningCount | platformRateLimitCount
  | socAlertCount | socHighSeverityAlertCount
  | integrationSignatureFailureCount | integrationReplayAttemptCount
  | operationsDiagnosticFailureCount | operationsRestoreFailureCount
  | operationsReportFailureCount => cases unsettled
  -- A success of the user clears the failures; old attempts are cleaned up.
  | authFailureCount =>
    exact @leaks_of_delete _ .loginAttempt ⟨0, false⟩ _ rfl (.inl rfl) hour (by decide +kernel)
  | authSuccessCount =>
    exact @leaks_of_delete _ .loginAttempt ⟨0, true⟩ (days 31) rfl (.inr (by decide))
      (by decide) (by decide +kernel)
  -- Revoked sessions are cleaned up.
  | authSessionCreationCount | authSessionInvalidationCount =>
    exact leaks_of_session (by decide +kernel)
  -- The user deletes what the rows belong to.
  | webFindingCount =>
    exact @leaks_of_delete _ .finding ⟨0, none⟩ _ rfl trivial hour (by decide +kernel)
  | apiEndpointCount =>
    exact @leaks_of_delete _ .apiEndpoint ⟨0, 1⟩ _ rfl trivial hour (by decide +kernel)
  | apiFindingCount =>
    exact @leaks_of_delete _ .apiFinding ⟨0, 1, .low⟩ _ rfl trivial hour (by decide +kernel)
  | apiHighSeverityFindingCount =>
    exact @leaks_of_delete _ .apiFinding ⟨0, 1, .high⟩ _ rfl trivial hour (by decide +kernel)
  | documentFindingCount =>
    exact @leaks_of_delete _ .documentFinding ⟨0⟩ _ rfl trivial hour (by decide +kernel)
  | documentAnalysisFailureCount =>
    exact @leaks_of_delete _ .documentAnalysis ⟨0, .failed⟩ _ rfl trivial hour
      (by decide +kernel)
  | phishingFindingCount =>
    exact @leaks_of_delete _ .phishingFinding ⟨0⟩ _ rfl trivial hour (by decide +kernel)
  | caseCreationCount =>
    exact @leaks_of_delete _ .incidentCase ⟨0⟩ _ rfl trivial hour (by decide +kernel)
  | threatIntelMatchCount =>
    exact @leaks_of_delete _ .indicatorMatch ⟨0⟩ _ rfl trivial hour (by decide +kernel)
  | integrationDeadLetterCount =>
    exact @leaks_of_delete _ .connectorDeadLetter ⟨0⟩ _ rfl trivial hour (by decide +kernel)
  | integrationHealthDegradationCount =>
    exact @leaks_of_delete _ .connectorHealthCheck ⟨0, false⟩ (days 91) rfl
      (by decide : (0 : Int) < days 91 - days 90) (by decide) (by decide +kernel)
  -- A row of the past comes late.
  | detectionsMatchCount =>
    exact @leaks_of_insert _ .detectionMatch ⟨0⟩ trivial (by decide +kernel)
  | vulnerabilityNewCount =>
    exact @leaks_of_insert _ .vulnerabilityRecord ⟨0, .high, none, .new⟩ rfl (by decide +kernel)
  | vulnerabilityCriticalCount =>
    exact @leaks_of_insert _ .vulnerabilityRecord ⟨0, .critical, none, .new⟩ rfl
      (by decide +kernel)
  -- A status changes.
  | threatIntelStaleIndicatorCount =>
    exact @leaks_of_change _ .threatIndicator ⟨true, some 0⟩ ⟨false, some 0⟩ _ rfl rfl hour
      (by decide +kernel)
  | detectionsExecutionFailureCount =>
    exact @leaks_of_change _ .detectionExecution ⟨0, .running⟩ ⟨0, .failed⟩ _ rfl ⟨rfl, rfl⟩
      hour (by decide +kernel)
  | vulnerabilityRemediationBacklogCount =>
    exact @leaks_of_change _ .remediationTask ⟨0, .todo⟩ ⟨0, .cancelled⟩ _ rfl rfl hour
      (by decide +kernel)
  | vulnerabilityOverdueCount =>
    exact @leaks_of_change _ .vulnerabilityRecord ⟨0, .high, some 0, .new⟩
      ⟨0, .high, some 0, .resolved⟩ _ rfl (le_refl (0 : Int)) hour (by decide +kernel)
  | soarExecutionFailureCount =>
    exact @leaks_of_change _ .soarExecution ⟨0, .running⟩ ⟨0, .failed⟩ _ rfl rfl hour
      (by decide +kernel)
  | soarApprovalRejectionCount =>
    exact @leaks_of_change _ .soarApproval ⟨0, .pending⟩ ⟨0, .rejected⟩ _ rfl ⟨rfl, rfl⟩ hour
      (by decide +kernel)
  | integrationDeliveryFailureCount =>
    exact @leaks_of_change _ .connectorDelivery queuedDelivery
      { queuedDelivery with status := .deadLetter } _ rfl ⟨rfl, rfl⟩ hour (by decide +kernel)
  | integrationDeliveryLatencyMs =>
    exact @leaks_of_change _ .connectorDelivery queuedDelivery
      { queuedDelivery with startedAt := some 0, completedAt := some 0 } _ rfl ⟨rfl, rfl⟩ hour
      (by decide +kernel)
  | integrationRetryCount =>
    exact @leaks_of_change _ .connectorDelivery queuedDelivery
      { queuedDelivery with attemptCount := 1 } _ rfl ⟨rfl, rfl⟩ hour (by decide +kernel)
  | integrationCircuitOpenCount =>
    exact @leaks_of_change _ .connectorInstance ⟨.closed⟩ ⟨.opened⟩ _ rfl trivial hour
      (by decide +kernel)
  | operationsBackupFailureCount =>
    exact @leaks_of_change _ .backupRecord ⟨0, .verified⟩ ⟨0, .invalid⟩ _ rfl rfl hour
      (by decide +kernel)

/-!
## Backtests

The windows of `run_backtest` and what it reads for each of them: the history of every feature
before the window, and the observation in it. What the statistics and the scoring make of the
numbers is a parameter, so what is shown here holds whatever they compute. With settled features,
and windows that end with the range, a backtest of a past range has the same result whenever it is
run; a feature alone is safe exactly when it is settled (`no_future_leakage_iff`).
-/

/-! ## Windows -/

/-- `timedelta(seconds=count)`. -/
def secondsOf (count : Int) : Int := count * 1000000

/-- The windows of a length one after the other, with their ends. -/
def consecutiveWindows (start length : Int) (count : Nat) : List (Instant × Instant) :=
  (List.range count).map fun (index : Nat) =>
    (start + index * length, start + index * length + length)

/-- `WINDOWS`. -/
def approvedWindows : List Int := [900, 3600, 21600, 86400, 604800, 2592000]

/-- How many windows of a length fit into a range. -/
def fullWindows (start stop : Instant) (length : Int) : Nat := ((stop - start) / length).toNat

/-- How many windows of a length begin in a range. -/
def begunWindows (start stop : Instant) (length : Int) : Nat :=
  ((stop - start + length - 1) / length).toNat

/-! ## The backtest -/

/-- The part of the configuration of a version that a backtest reads. -/
structure BacktestConfiguration where
  featureKeys : List FeatureKey
  observationWindowSeconds : Int
  baselineLookbackSeconds : Int

/-- The statistics and the scoring, with the settings of a version: `build_statistics`,
`_score_one` and `weighted_ensemble`. -/
structure ScoringCode (σ ω : Type) where
  /-- `fmean` of the durations of deliveries, rounded. -/
  average : List Rat → Rat
  /-- `build_statistics` of a history, each value with the end of its window. -/
  buildStatistics : List (Option Rat × Instant) → Except ServiceError σ
  /-- The status is "ready". -/
  ready : σ → Bool
  /-- `_score_one` of the observation in a window that ends at a time. -/
  scoreOne : Option Rat → σ → Instant → Except ServiceError ω
  /-- `weighted_ensemble(outputs, minimum_participation=2)`. -/
  weightedEnsemble : List ω → Except ServiceError ω
  score : ω → Option Rat
  reasonCode : ω → Option String

/-- The status of a window of a backtest. -/
inductive WindowStatus where
  | insufficientData
  | normal
  | candidate
deriving DecidableEq

/-- An entry of `per_window`. -/
structure WindowResult where
  start : Instant
  stop : Instant
  status : WindowStatus
  score : Option Rat
  reasonCode : Option String

section Backtest

variable {σ ω : Type} (code : ScoringCode σ ω) (tables : SourceTables) (entityId : Option Nat)

/-- `window_series`: the values of the windows that lie in a range, with their ends. -/
def windowSeries (feature : FeatureKey) (start stop : Instant) (windowSeconds : Int) :
    Except ServiceError (List (Option Rat × Instant)) := do
  if !approvedWindows.contains windowSeconds then
    throw (.valueError "Window is not server-approved")
  validateWindow start stop
  if 1000 < begunWindows start stop (secondsOf windowSeconds) then
    throw (.valueError "Historical window count exceeds the server bound")
  (consecutiveWindows start (secondsOf windowSeconds)
    (fullWindows start stop (secondsOf windowSeconds))).mapM fun window => do
      let value ← feature.extract code.average tables window.1 window.2 entityId
      return (value, window.2)

/-- The loop over the features for one window, none as soon as one has no ready baseline. -/
def scoreFeatures (configuration : BacktestConfiguration) (current boundary : Instant) :
    List FeatureKey → List ω → Except ServiceError (List ω)
  | [], outputs => .ok outputs
  | key :: rest, outputs => do
    let history ← windowSeries code tables entityId key
      (current - secondsOf configuration.baselineLookbackSeconds) current
      configuration.observationWindowSeconds
    let statistics ← code.buildStatistics history
    if code.ready statistics then
      let observed ← key.extract code.average tables current boundary entityId
      let output ← code.scoreOne observed statistics boundary
      scoreFeatures configuration current boundary rest (outputs ++ [output])
    else return []

/-- The entry of one window. -/
def backtestWindow (configuration : BacktestConfiguration) (window : Instant × Instant) :
    Except ServiceError WindowResult := do
  let outputs ← scoreFeatures code tables entityId configuration window.1 window.2
    configuration.featureKeys []
  if outputs.isEmpty then return ⟨window.1, window.2, .insufficientData, none, none⟩
  let final ← match outputs with
    | [output] => .ok output
    | outputs => code.weightedEnsemble outputs
  let value := (code.score final).getD 0
  return ⟨window.1, window.2, if 70 ≤ value then .candidate else .normal, some value,
    code.reasonCode final⟩

/-- `per_window` of `run_backtest`. -/
def perWindow (configuration : BacktestConfiguration) (rangeStart rangeEnd : Instant)
    (intervalSeconds : Int) : Except ServiceError (List WindowResult) := do
  validateWindow rangeStart rangeEnd
  if intervalSeconds ≠ configuration.observationWindowSeconds then
    throw (.valueError "Backtest interval must match the immutable detector observation window")
  let windows := fullWindows rangeStart rangeEnd (secondsOf intervalSeconds)
  if windows < 1 ∨ 1000 < windows then
    throw (.valueError "Backtest range contains an unsupported number of windows")
  (consecutiveWindows rangeStart (secondsOf intervalSeconds)
    (begunWindows rangeStart rangeEnd (secondsOf intervalSeconds))).mapM
      (backtestWindow code tables entityId configuration)

end Backtest

/-! ## What a backtest depends on -/

section Congruence

variable {σ ω : Type} (code : ScoringCode σ ω) {first second : SourceTables} {entityId : Option Nat}

theorem end_le_of_mem {start length : Int} {count : Nat} {window : Instant × Instant}
    (positive : 0 ≤ length) (member : window ∈ consecutiveWindows start length count) :
    window.2 ≤ start + count * length := by
  obtain ⟨index, inside, rfl⟩ := List.mem_map.mp member
  have next : ((index + 1 : Nat) : Int) ≤ count := by
    exact_mod_cast List.mem_range.mp inside
  have bound := mul_le_mul_of_nonneg_right next positive
  push_cast at bound
  show start + index * length + length ≤ start + count * length
  linarith

theorem start_le_of_mem {start length : Int} {count : Nat} {window : Instant × Instant}
    (positive : 0 ≤ length) (member : window ∈ consecutiveWindows start length count) :
    window.1 ≤ window.2 := by
  obtain ⟨index, -, rfl⟩ := List.mem_map.mp member
  show start + index * length ≤ start + index * length + length
  linarith

theorem full_end_le_of_mem {start stop length : Int} {window : Instant × Instant}
    (positive : 0 < length)
    (member : window ∈ consecutiveWindows start length (fullWindows start stop length)) :
    window.2 ≤ stop := by
  have bound := end_le_of_mem positive.le member
  obtain ⟨index, inside, -⟩ := List.mem_map.mp member
  have some_ : 0 ≤ (stop - start) / length := by
    have := List.mem_range.mp inside
    unfold fullWindows at this
    omega
  have fits := Int.ediv_mul_le (stop - start) positive.ne'
  rw [fullWindows, Int.toNat_of_nonneg some_] at bound
  linarith

theorem mapM_congr {α β : Type} {left right : α → Except ServiceError β} {items : List α}
    (same : ∀ item ∈ items, left item = right item) : items.mapM left = items.mapM right := by
  induction items with
  | nil => rfl
  | cons item rest ih =>
    rw [List.mapM_cons, List.mapM_cons, same item List.mem_cons_self,
      ih fun other member => same other (List.mem_cons_of_mem _ member)]

/-- The tables give a feature the same value in every window that ends by a time. -/
def AgreeUntil (code : ScoringCode σ ω) (first second : SourceTables) (entityId : Option Nat)
    (limit : Instant) (feature : FeatureKey) : Prop :=
  ∀ start stop, stop ≤ limit →
    feature.extract code.average first start stop entityId =
      feature.extract code.average second start stop entityId

variable {limit : Instant} {feature : FeatureKey}

theorem windowSeries_congr (agree : AgreeUntil code first second entityId limit feature)
    {start stop : Instant} (before : stop ≤ limit) (windowSeconds : Int) :
    windowSeries code first entityId feature start stop windowSeconds =
      windowSeries code second entityId feature start stop windowSeconds := by
  unfold windowSeries
  by_cases approved : approvedWindows.contains windowSeconds
  · have positive : 0 < secondsOf windowSeconds := by
      have member := List.contains_iff_mem.mp approved
      simp only [approvedWindows, List.mem_cons, List.not_mem_nil, or_false] at member
      rcases member with rfl | rfl | rfl | rfl | rfl | rfl <;> decide
    rw [mapM_congr fun window member => ?_]
    rw [agree window.1 window.2 (le_trans (full_end_le_of_mem positive member) before)]
  · simp only [approved, Bool.not_false, ↓reduceIte]
    rfl

/-- The outputs for a window depend on the values of the windows that end with it or earlier. -/
theorem scoreFeatures_congr {configuration : BacktestConfiguration} {current boundary : Instant}
    {keys : List FeatureKey} (agree : ∀ key ∈ keys, AgreeUntil code first second entityId limit key)
    (ordered : current ≤ boundary) (before : boundary ≤ limit) (outputs : List ω) :
    scoreFeatures code first entityId configuration current boundary keys outputs =
      scoreFeatures code second entityId configuration current boundary keys outputs := by
  induction keys generalizing outputs with
  | nil => rfl
  | cons key rest ih =>
    have here := agree key List.mem_cons_self
    have later := ih fun other member => agree other (List.mem_cons_of_mem _ member)
    rw [scoreFeatures, scoreFeatures, windowSeries_congr code here (le_trans ordered before),
      here current boundary before]
    simp only [later]

/-- The time at which the last window of a backtest ends. -/
def lastBoundary (rangeStart rangeEnd : Instant) (intervalSeconds : Int) : Instant :=
  rangeStart + begunWindows rangeStart rangeEnd (secondsOf intervalSeconds) *
    secondsOf intervalSeconds

theorem le_of_validateWindow {start stop : Instant} (valid : validateWindow start stop = .ok ()) :
    start ≤ stop := by
  unfold validateWindow at valid
  dsimp only at valid
  split_ifs at valid with outside
  by_contra reversed
  refine outside (.inl ?_)
  have backwards : 0 ≤ (-(stop - start)).tdiv 1000000 :=
    Int.tdiv_nonneg (by linarith [not_le.mp reversed]) (by decide)
  rw [Int.neg_tdiv] at backwards
  linarith

theorem perWindow_of_neg (tables : SourceTables) (configuration : BacktestConfiguration)
    {rangeStart rangeEnd : Instant} {intervalSeconds : Int} (negative : intervalSeconds < 0)
    (valid : validateWindow rangeStart rangeEnd = .ok ())
    (same : intervalSeconds = configuration.observationWindowSeconds) :
    perWindow code tables entityId configuration rangeStart rangeEnd intervalSeconds =
      .error (.valueError "Backtest range contains an unsupported number of windows") := by
  have none : fullWindows rangeStart rangeEnd (secondsOf intervalSeconds) = 0 := by
    have quotient : (rangeEnd - rangeStart) / secondsOf intervalSeconds ≤ 0 :=
      Int.ediv_nonpos_of_nonneg_of_nonpos (sub_nonneg.mpr (le_of_validateWindow valid))
        (Int.mul_nonpos_of_nonpos_of_nonneg negative.le (by decide))
    exact Int.toNat_of_nonpos quotient
  unfold perWindow
  rw [valid, none]
  simp [same]
  rfl

/-- **A backtest reads nothing but the features in windows that end with its last one.** -/
theorem perWindow_congr {configuration : BacktestConfiguration} {rangeStart rangeEnd : Instant}
    {intervalSeconds : Int}
    (agree : rangeStart ≤ rangeEnd → 0 ≤ intervalSeconds → ∀ key ∈ configuration.featureKeys,
      AgreeUntil code first second entityId
        (lastBoundary rangeStart rangeEnd intervalSeconds) key) :
    perWindow code first entityId configuration rangeStart rangeEnd intervalSeconds =
      perWindow code second entityId configuration rangeStart rangeEnd intervalSeconds := by
  by_cases accepted : validateWindow rangeStart rangeEnd = .ok () ∧
      intervalSeconds = configuration.observationWindowSeconds
  · obtain ⟨valid, same⟩ := accepted
    rcases lt_or_ge intervalSeconds 0 with negative | positive
    · rw [perWindow_of_neg code first configuration negative valid same,
        perWindow_of_neg code second configuration negative valid same]
    · unfold perWindow
      have length : 0 ≤ secondsOf intervalSeconds := Int.mul_nonneg positive (by decide)
      rw [mapM_congr fun window member => ?_]
      unfold backtestWindow
      rw [scoreFeatures_congr code (agree (le_of_validateWindow valid) positive)
        (start_le_of_mem length member)
        (end_le_of_mem length member)]
  · unfold perWindow
    cases valid : validateWindow rangeStart rangeEnd with
    | error _ => rfl
    | ok _ =>
      have different : intervalSeconds ≠ configuration.observationWindowSeconds :=
        fun same => accepted ⟨valid, same⟩
      simp only [ne_eq, different, not_false_eq_true, ↓reduceIte]
      rfl

end Congruence

/-! ## When nothing leaks -/

theorem lastBoundary_of_dvd {rangeStart rangeEnd : Instant} {intervalSeconds : Int}
    (positive : 0 ≤ intervalSeconds) (ordered : rangeStart ≤ rangeEnd)
    (divides : secondsOf intervalSeconds ∣ rangeEnd - rangeStart) :
    lastBoundary rangeStart rangeEnd intervalSeconds = rangeEnd := by
  obtain ⟨count, range⟩ := divides
  rcases positive.eq_or_lt with rfl | positive
  · simp only [lastBoundary, secondsOf, zero_mul, mul_zero] at range ⊢
    linarith
  have length : 0 < secondsOf intervalSeconds := Int.mul_pos positive (by decide)
  have natural : 0 ≤ count := by
    by_contra negative
    have := Int.mul_neg_of_pos_of_neg length (not_le.mp negative)
    linarith
  have begun : (rangeEnd - rangeStart + secondsOf intervalSeconds - 1) /
      secondsOf intervalSeconds = count := by
    rw [range]
    have split : secondsOf intervalSeconds * count + secondsOf intervalSeconds - 1 =
        secondsOf intervalSeconds - 1 + secondsOf intervalSeconds * count := by ring
    rw [split, Int.add_mul_ediv_left _ _ length.ne',
      Int.ediv_eq_zero_of_lt (by linarith) (by linarith), zero_add]
  rw [lastBoundary, begunWindows, begun, Int.toNat_of_nonneg natural]
  linarith

/-- **No future leakage**: the value of a feature in a window never depends on what happens after
it exactly for the settled features. A backtest of settled features gives the same result whenever
it is run after the end of its last window, and so after the end of a range that its windows
divide. -/
theorem no_future_leakage_iff (feature : FeatureKey) {σ ω : Type} (code : ScoringCode σ ω) :
    (NoFutureLeakage feature ↔ feature.settled = true) ∧
    (∀ (entityId : Option Nat) (configuration : BacktestConfiguration)
        (rangeStart rangeEnd : Instant) (intervalSeconds : Int) (past later : List Occurrence),
      (∀ key ∈ configuration.featureKeys, key.settled = true) → IsHistory (past ++ later) →
      (∀ occurrence ∈ later, rangeEnd ≤ occurrence.time ∧
        (secondsOf intervalSeconds ∣ rangeEnd - rangeStart ∨
          lastBoundary rangeStart rangeEnd intervalSeconds ≤ occurrence.time)) →
      perWindow code (final SourceTables.next .empty (past ++ later)) entityId configuration
          rangeStart rangeEnd intervalSeconds =
        perWindow code (final SourceTables.next .empty past) entityId configuration
          rangeStart rangeEnd intervalSeconds) := by
  refine ⟨⟨fun leakless => ?_, fun settled => ?_⟩, ?_⟩
  · by_contra unsettled
    exact leaks_of_unsettled (Bool.not_eq_true _ ▸ unsettled) leakless
  · exact (undisturbed_of_settled settled).noFutureLeakage
  · intro entityId configuration rangeStart rangeEnd intervalSeconds past later settled history
      after
    refine perWindow_congr code fun ordered positive key member start stop before => ?_
    refine undisturbed_of_settled (settled key member) code.average past later start stop entityId
      history fun occurrence happens => le_trans before ?_
    obtain ⟨ended, divides | last⟩ := after occurrence happens
    · rwa [lastBoundary_of_dvd positive ordered divides]
    · exact last

theorem future_leaks : ¬∀ feature : FeatureKey, NoFutureLeakage feature := by
  intro leakless
  exact leaks_of_unsettled (by rfl) (leakless .integrationCircuitOpenCount)

end ThreatScope.Analytics
