import ThreatScope.Analytics.Anomalies

/-!
# Review of anomalies

The table of transitions is asked when an analyst moves an anomaly and not when one links it to
a case. Every change of status in a run is an edge of the table exactly when no link of the run
takes effect on an anomaly that is dismissed or resolved (`reviews_follow_iff`). The lock holds
without a condition: a call that takes effect raises the version it was given, and versions
never fall, so no two calls with one version take effect (`effective_once`).
-/

set_option autoImplicit false

namespace ThreatScope.Analytics

open Library AccessControl

variable {env : AnalyticsRuntime} {store : AnomalyStore} {call : AnomalyCall}

/-! ## What a call does to a row -/

/-- The lock version that a call presents for an anomaly. -/
def AnomalyCall.presents : AnomalyCall → Option (Nat × Nat)
  | .transition itemId _ payload => some (itemId, payload.optimisticLockVersion)
  | .assign itemId payload => some (itemId, payload.optimisticLockVersion)
  | .linkCase itemId payload => some (itemId, payload.optimisticLockVersion)
  | _ => none

/-- A call takes effect on an anomaly when it presents a version for it and changes its row. -/
def Effective (env : AnalyticsRuntime) (store : AnomalyStore) (call : AnomalyCall)
    (itemId version : Nat) : Prop :=
  call.presents = some (itemId, version) ∧
    ∃ row, store.anomalies.get? itemId = some row ∧
      (store.next env call).anomalies.get? itemId ≠ some row

/-- What one call can make of the row of an anomaly. -/
inductive RowStep (env : AnalyticsRuntime) (store : AnomalyStore) (itemId : Nat)
    (row : SecurityAnomaly) : AnomalyCall → SecurityAnomaly → Prop where
  | same (call : AnomalyCall) : RowStep env store itemId row call row
  | counted (window : ScoredWindow) (late : Bool) :
      RowStep env store itemId row (.materialize window late) (row.seenAgain window.finish)
  | moved (target : AnomalyStatus) (payload : ReasonAction)
      (current : row.optimisticLockVersion = payload.optimisticLockVersion)
      (edge : target ∈ anomalyTransitions row.status) :
      RowStep env store itemId row (.transition itemId target payload)
        (row.claimed.moved target payload.reason)
  | assigned (payload : AssignAction)
      (current : row.optimisticLockVersion = payload.optimisticLockVersion) :
      RowStep env store itemId row (.assign itemId payload)
        { row.claimed with assignedAnalystId := some payload.analystUserId }
  | answered (payload : FeedbackCreate) (actor : Actor) :
      RowStep env store itemId row (.feedback itemId payload actor)
        { row with reviewStatus := .feedbackRecorded }
  | linked (payload : LinkCaseAction) (links : Links store itemId payload row) :
      RowStep env store itemId row (.linkCase itemId payload)
        (row.claimed.linked payload.caseId)

theorem get?_writeAnomaly {itemId other : Nat} {row new : SecurityAnomaly}
    (stored : store.anomalies.get? itemId = some row) :
    (store.anomalies.modify other fun _ => new).get? itemId =
      some (if itemId = other then new else row) := by
  rw [Table.get?_modify, stored]
  split <;> rfl

/-- Every call leaves the rows of the other anomalies, and makes of its own what the rules
say. -/
theorem rowStep_next (env : AnalyticsRuntime) (call : AnomalyCall) {itemId : Nat}
    {row : SecurityAnomaly} (stored : store.anomalies.get? itemId = some row) :
    ∃ later, (store.next env call).anomalies.get? itemId = some later ∧
      RowStep env store itemId row call later := by
  have unchanged : ∃ later, store.anomalies.get? itemId = some later ∧
      RowStep env store itemId row call later := ⟨row, stored, .same call⟩
  unfold AnomalyStore.next
  split
  · rename_i after served
    cases call with
    | materialize window late =>
      obtain ⟨detector, -, -, -, rfl⟩ := materializeScored_eq_ok_iff.mp served
      rw [materializeAnomaly_eq]
      split
      · rename_i other _ _
        rw [AnomalyStore.countAgain, Table.get?_modify, stored]
        split
        · exact ⟨_, rfl, .counted window late⟩
        · exact ⟨_, rfl, .same _⟩
      · rw [openAnomaly_anomalies,
          Table.get?_insert_of_ne _ _ (Nat.ne_of_lt (Table.lt_nextKey_of_get? stored))]
        exact unchanged
    | transition other target payload =>
      obtain ⟨item, found, current, edge, -, rfl⟩ := transitionAnomaly_eq_ok_iff.mp served
      refine ⟨_, get?_writeAnomaly stored, ?_⟩
      split
      · rename_i here
        subst here
        obtain rfl := Option.some.inj (found.symm.trans stored)
        exact .moved target payload current edge
      · exact .same _
    | assign other payload =>
      obtain ⟨item, found, current, rfl⟩ := assignAnomaly_eq_ok served
      refine ⟨_, get?_writeAnomaly stored, ?_⟩
      split
      · rename_i here
        subst here
        obtain rfl := Option.some.inj (found.symm.trans stored)
        exact .assigned payload current
      · exact .same _
    | feedback other payload actor =>
      obtain ⟨item, entry, found, rfl⟩ := addFeedback_eq_ok served
      refine ⟨_, get?_writeAnomaly stored, ?_⟩
      split
      · rename_i here
        subst here
        obtain rfl := Option.some.inj (found.symm.trans stored)
        exact .answered payload actor
      · exact .same _
    | linkCase other payload =>
      rcases linkCase_eq_ok_iff.mp served with ⟨item, links, rfl⟩ | ⟨-, -, -, -, -, rfl⟩
      · rw [(link_eq env store other payload.caseId item.claimed).1]
        refine ⟨_, get?_writeAnomaly stored, ?_⟩
        split
        · rename_i here
          subst here
          obtain rfl := Option.some.inj (links.stored.symm.trans stored)
          exact .linked payload links
        · exact .same _
      · exact unchanged
    | createSuppression payload actor now =>
      obtain ⟨item, rfl⟩ := createSuppression_eq_ok served
      exact unchanged
    | patchSuppression other payload now =>
      obtain ⟨change, -, rfl⟩ := patchSuppression_eq_ok served
      exact unchanged
    | disableSuppression other now =>
      obtain ⟨change, -, rfl⟩ := disableSuppression_eq_ok served
      exact unchanged
  · exact unchanged

/-! ## The table of transitions -/

/-- Every change of status is an edge of the table. -/
def FollowsTable (before after : AnomalyStore) : Prop :=
  ∀ itemId row later, before.anomalies.get? itemId = some row →
    after.anomalies.get? itemId = some later → later.status ≠ row.status →
      later.status ∈ anomalyTransitions row.status

/-- No anomaly that is dismissed or resolved is linked. -/
def LinksOpen (store : AnomalyStore) (call : AnomalyCall) : Prop :=
  ∀ itemId payload row, call = .linkCase itemId payload → Links store itemId payload row →
    row.status ≠ .dismissed ∧ row.status ≠ .resolved

theorem linked_edge_iff (status : AnomalyStatus) :
    (AnomalyStatus.linkedToCase ≠ status → .linkedToCase ∈ anomalyTransitions status) ↔
      status ≠ .dismissed ∧ status ≠ .resolved := by
  cases status <;> decide

theorem Links.get?_next {itemId : Nat} {payload : LinkCaseAction} {row : SecurityAnomaly}
    (links : Links store itemId payload row) (env : AnalyticsRuntime) :
    (store.next env (.linkCase itemId payload)).anomalies.get? itemId =
      some (row.claimed.linked payload.caseId) := by
  have served : store.serve env (.linkCase itemId payload) =
      .ok (store.link env itemId payload.caseId row.claimed) :=
    linkCase_eq_ok_iff.mpr (.inl ⟨row, links, rfl⟩)
  rw [AnomalyStore.next, served]
  dsimp only
  rw [(link_eq env store itemId payload.caseId row.claimed).1, Table.get?_modify_self,
    links.stored]
  rfl

/-- **One call follows the table exactly when it links no anomaly that is dismissed or
resolved.** -/
theorem followsTable_next_iff (env : AnalyticsRuntime) (store : AnomalyStore)
    (call : AnomalyCall) : FollowsTable store (store.next env call) ↔ LinksOpen store call := by
  constructor
  · rintro follows itemId payload row rfl links
    exact (linked_edge_iff row.status).mp
      (follows itemId row _ links.stored (links.get?_next env))
  · intro allowed itemId row later stored after changed
    obtain ⟨other, alsoAfter, step⟩ := rowStep_next env call stored
    obtain rfl := Option.some.inj (after.symm.trans alsoAfter)
    cases step with
    | same call => exact absurd rfl changed
    | counted window late => exact absurd rfl changed
    | moved target payload current edge => exact edge
    | assigned payload current => exact absurd rfl changed
    | answered payload actor => exact absurd rfl changed
    | linked payload links =>
      exact (linked_edge_iff row.status).mpr (allowed itemId payload row rfl links) changed

/-- Statuses that the table does not lead out of. -/
def Closed (statuses : List AnomalyStatus) : Prop :=
  ∀ status ∈ statuses, ∀ target ∈ anomalyTransitions status, target ∈ statuses

theorem closed_conclusions : ∀ statuses ∈ [[AnomalyStatus.resolved], [.dismissed, .resolved]],
    Closed statuses := by
  unfold Closed
  decide

/-- In a run that follows the table, an anomaly stays within statuses that it does not lead out
of. -/
theorem status_stays {statuses : List AnomalyStatus} (closed : Closed statuses)
    {start : AnomalyStore} {calls : List AnomalyCall}
    (follows : ∀ move ∈ trace (AnomalyStore.next env) start calls,
      FollowsTable move.before move.after) {itemId : Nat} {row : SecurityAnomaly}
    (stored : start.anomalies.get? itemId = some row) (inside : row.status ∈ statuses) :
    ∃ later, (final (AnomalyStore.next env) start calls).anomalies.get? itemId = some later ∧
      later.status ∈ statuses := by
  induction calls generalizing start row with
  | nil => exact ⟨row, stored, inside⟩
  | cons call rest ih =>
    obtain ⟨next, after, -⟩ := rowStep_next env call stored
    rw [trace, List.forall_mem_cons] at follows
    have stays : next.status ∈ statuses := by
      by_cases same : next.status = row.status
      · exact same ▸ inside
      · exact closed _ inside _ (follows.1 itemId row next stored after same)
    exact ih follows.2 after stays

/-! ## The lock -/

/-- A stored anomaly stays stored, and its version does not fall. -/
theorem version_le_final (calls : List AnomalyCall) {start : AnomalyStore} {itemId : Nat}
    {row : SecurityAnomaly} (stored : start.anomalies.get? itemId = some row) :
    ∃ later, (final (AnomalyStore.next env) start calls).anomalies.get? itemId = some later ∧
      row.optimisticLockVersion ≤ later.optimisticLockVersion := by
  induction calls generalizing start row with
  | nil => exact ⟨row, stored, Nat.le_refl _⟩
  | cons call rest ih =>
    obtain ⟨next, after, step⟩ := rowStep_next env call stored
    obtain ⟨later, found, le⟩ := ih after
    refine ⟨later, found, Nat.le_trans ?_ le⟩
    cases step with
    | same | counted | answered => exact Nat.le_refl _
    | moved | assigned | linked => exact Nat.le_succ _

theorem Effective.raises {itemId version : Nat}
    (effective : Effective env store call itemId version) :
    ∃ row later, store.anomalies.get? itemId = some row ∧
      (store.next env call).anomalies.get? itemId = some later ∧
      row.optimisticLockVersion = version ∧ later.optimisticLockVersion = version + 1 := by
  obtain ⟨presents, row, stored, changed⟩ := effective
  obtain ⟨later, after, step⟩ := rowStep_next env call stored
  rw [after] at changed
  refine ⟨row, later, stored, after, ?_⟩
  cases step with
  | same => exact absurd rfl changed
  | counted | answered => cases presents
  | moved target payload current =>
    obtain ⟨-, rfl⟩ := Prod.mk.inj (Option.some.inj presents)
    exact ⟨current, congrArg (· + 1) current⟩
  | assigned payload current =>
    obtain ⟨-, rfl⟩ := Prod.mk.inj (Option.some.inj presents)
    exact ⟨current, congrArg (· + 1) current⟩
  | linked payload links =>
    obtain ⟨-, rfl⟩ := Prod.mk.inj (Option.some.inj presents)
    exact ⟨links.current, congrArg (· + 1) links.current⟩

/-- **Of two calls that present one version for one anomaly, at most one takes effect.** -/
theorem effective_once {start : AnomalyStore} {first second : List AnomalyCall}
    {one two : AnomalyCall} {itemId version : Nat}
    (effective : Effective env (final (AnomalyStore.next env) start first) one itemId
      version) :
    ¬Effective env (final (AnomalyStore.next env) start (first ++ one :: second)) two
      itemId version := by
  intro again
  obtain ⟨-, raised, -, stored, -, increased⟩ := effective.raises
  obtain ⟨row, -, found, -, same, -⟩ := again.raises
  obtain ⟨later, alsoFound, le⟩ := @version_le_final env second _ _ _ stored
  have state : final (AnomalyStore.next env) start (first ++ one :: second) =
      final (AnomalyStore.next env)
        ((final (AnomalyStore.next env) start first).next env one) second := by
    unfold final
    rw [List.foldl_append, List.foldl_cons]
  rw [state] at found
  obtain rfl := Option.some.inj (alsoFound.symm.trans found)
  omega

/-! ## Runs -/

/-- What a run of calls owes the review of anomalies. -/
structure Reviewed (env : AnalyticsRuntime) (start : AnomalyStore) (calls : List AnomalyCall) :
    Prop where
  /-- Every change of status is an edge of the table. -/
  edges : ∀ move ∈ trace (AnomalyStore.next env) start calls,
    FollowsTable move.before move.after
  /-- A resolved anomaly stays resolved, and a dismissed one only becomes resolved. -/
  concluded : ∀ statuses ∈ [[AnomalyStatus.resolved], [.dismissed, .resolved]],
    ∀ first second, calls = first ++ second → ∀ itemId row,
      (final (AnomalyStore.next env) start first).anomalies.get? itemId = some row →
      row.status ∈ statuses →
      ∃ later, (final (AnomalyStore.next env) start calls).anomalies.get? itemId =
        some later ∧ later.status ∈ statuses
  /-- No two calls with one lock version take effect. -/
  once : ∀ first one second two third, calls = first ++ one :: second ++ two :: third →
    ∀ itemId version,
      Effective env (final (AnomalyStore.next env) start first) one itemId version →
      ¬Effective env (final (AnomalyStore.next env) start (first ++ one :: second)) two
        itemId version

/-- **A run reviews anomalies by the table exactly when none of its links takes effect on an
anomaly that is dismissed or resolved.** -/
theorem reviews_follow_iff (env : AnalyticsRuntime) (start : AnomalyStore)
    (calls : List AnomalyCall) :
    Reviewed env start calls ↔
      ∀ move ∈ trace (AnomalyStore.next env) start calls,
        LinksOpen move.before move.input := by
  have step : ∀ move ∈ trace (AnomalyStore.next env) start calls,
      FollowsTable move.before move.after ↔
        LinksOpen move.before move.input := by
    intro move member
    rw [after_eq_of_mem_trace _ member]
    exact followsTable_next_iff env move.before move.input
  constructor
  · intro reviewed move member
    exact (step move member).mp (reviewed.edges move member)
  · intro allowed
    have edges : ∀ move ∈ trace (AnomalyStore.next env) start calls,
        FollowsTable move.before move.after :=
      fun move member => (step move member).mpr (allowed move member)
    refine ⟨edges, ?_, fun first one second two third _ itemId version effective =>
      effective_once effective⟩
    rintro statuses among first second rfl itemId row stored inside
    have closed : Closed statuses := closed_conclusions statuses among
    rw [trace_append] at edges
    have state : final (AnomalyStore.next env) start (first ++ second) =
        final (AnomalyStore.next env) (final (AnomalyStore.next env) start first)
          second := List.foldl_append
    rw [state]
    exact status_stays closed
      (fun move member => edges move (List.mem_append_right _ member)) stored inside

def newAnomaly : SecurityAnomaly where
  detectorId := 1
  detectorVersionId := 1
  baselineId := 1
  sourceDomain := "authentication"
  sourceEntityType := "security_audit_event"
  sourceEntityIdentifier := "platform"
  observationWindowStart := 0
  observationWindowEnd := 3600000000
  anomalyScore := 90
  confidence := "high"
  severity := "critical"
  summary := "Authentication failure burst: statistical deviation requires analyst review."
  firstObservedAt := 3600000000
  lastObservedAt := 3600000000
  deduplicationKey := "authentication failure burst, first hour"
  reasonCode := "ABOVE_BASELINE"
  demoOwned := false

def openCase : Soar.IncidentCase where
  caseKey := "CASE-1"
  title := "Authentication failures"
  summary := "Failures of one morning"
  caseType := "general"
  severity := "high"
  priority := "P2"
  confidence := "medium"
  status := "open"
  assigneeName := none
  tags := []

/-- One new anomaly and one case. -/
def reviewQueue : AnomalyStore where
  detectors := Table.empty
  suppressions := Table.empty
  anomalies := Table.empty.insert newAnomaly
  feedback := Table.empty
  cases := Table.empty.insert openCase
  evidence := Table.empty
  analysts := []
  connectorIds := []
  assetIds := []
  apiEndpointIds := []

def dismissal : AnomalyCall := .transition 1 .dismissed ⟨"benign", 1⟩

def dismissedQueue : AnomalyStore :=
  reviewQueue.writeAnomaly 1 (newAnomaly.claimed.moved .dismissed "benign")

theorem next_dismissal (env : AnalyticsRuntime) :
    reviewQueue.next env dismissal = dismissedQueue := by
  have served : reviewQueue.serve env dismissal = .ok dismissedQueue :=
    transitionAnomaly_eq_ok_iff.mpr ⟨newAnomaly, rfl, rfl, by decide, by decide, rfl⟩
  rw [AnomalyStore.next, served]

theorem links_dismissedQueue :
    Links dismissedQueue 1 ⟨1, 2⟩ (newAnomaly.claimed.moved .dismissed "benign") :=
  ⟨rfl, ⟨openCase, rfl⟩, rfl, rfl⟩

/-- **An anomaly that was dismissed can be linked to a case.** -/
theorem dismissed_anomaly_linked :
    ¬∃ env, ∀ (start : AnomalyStore) (calls : List AnomalyCall),
      Reviewed env start calls := by
  rintro ⟨env, reviewed⟩
  have follows := (reviewed reviewQueue ([dismissal] ++ [.linkCase 1 ⟨1, 2⟩])).edges _
    (mem_trace_concat (AnomalyStore.next env) reviewQueue [dismissal] (.linkCase 1 ⟨1, 2⟩))
  rw [final_cons, final_nil, next_dismissal] at follows
  have allowed := (followsTable_next_iff env dismissedQueue _).mp follows
  exact (allowed 1 ⟨1, 2⟩ _ rfl links_dismissedQueue).1 rfl

end ThreatScope.Analytics
