import ThreatScope.Analytics.SuppressionScopes
import ThreatScope.Library.Upserts

/-!
# Lineages of anomalies

The windows with one deduplication key are one anomaly. The first that is scored writes when
the anomaly was first seen and whether it is suppressed, and every later one writes when it was
last seen, whatever its own place in time is. Read in the columns that a lineage has, the
tables are rows that are created or refreshed by their key (`lineages_next`). So an anomaly
summarises its windows exactly when the first that is scored is the earliest, the last that is
scored is the latest, and all of them are covered when the first is suppressed
(`lineage_summarised_iff`).
-/

set_option autoImplicit false

namespace ThreatScope.Analytics

open Library AccessControl

/-! ## The columns of a lineage -/

/-- The columns that the windows of a lineage decide. -/
@[ext] structure Lineage where
  key : String
  firstObservedAt : Instant
  lastObservedAt : Instant
  suppressionStatus : SuppressionStatus

/-- The lineage of an anomaly. -/
def SecurityAnomaly.lineage (item : SecurityAnomaly) : Lineage where
  key := item.deduplicationKey
  firstObservedAt := item.firstObservedAt
  lastObservedAt := item.lastObservedAt
  suppressionStatus := item.suppressionStatus

/-- The lineages of the anomalies. -/
def AnomalyStore.lineages (store : AnomalyStore) : Table Lineage :=
  store.anomalies.map SecurityAnomaly.lineage

/-- A window that is materialized, with the tables that it is scored on. -/
structure Sighting where
  store : AnomalyStore
  window : ScoredWindow

/-- Whether a suppression is found for a window, which counts when it opens an anomaly. -/
def Sighting.status (sighting : Sighting) : SuppressionStatus :=
  match sighting.store.detectors.get? sighting.window.detectorId with
  | some detector =>
    if (suppression sighting.store (sighting.window.candidate detector)).isSome then .suppressed
    else .notSuppressed
  | none => .notSuppressed

theorem Sighting.status_eq {sighting : Sighting} {detector : AnalyticsDetector}
    (found : sighting.store.detectors.get? sighting.window.detectorId = some detector) :
    sighting.status =
      if (suppression sighting.store (sighting.window.candidate detector)).isSome then .suppressed
      else .notSuppressed := by
  simp only [Sighting.status, found]

/-- The window ends inside a suppression that matches it. -/
def Sighting.Covered (sighting : Sighting) : Prop :=
  ∃ detector itemId item,
    sighting.store.detectors.get? sighting.window.detectorId = some detector ∧
    sighting.store.suppressions.get? itemId = some item ∧
    Matching item (sighting.window.candidate detector)

/-- The windows write lineages by their deduplication keys. -/
def lineageWriter (env : AnalyticsRuntime) : Upsert Lineage Sighting String where
  keyOf := Lineage.key
  key sighting := sighting.window.deduplicationKey env
  create sighting := {
    key := sighting.window.deduplicationKey env
    firstObservedAt := sighting.window.finish
    lastObservedAt := sighting.window.finish
    suppressionStatus := sighting.status }
  refresh sighting lineage := { lineage with lastObservedAt := sighting.window.finish }
  keyOf_create _ := rfl
  keyOf_refresh _ _ := rfl

/-! ## Calls write lineages -/

section Calls

variable (env : AnalyticsRuntime)

/-- The window that a call materializes. -/
def sighting? (move : Transition AnomalyStore AnomalyCall) : Option Sighting :=
  match move.input with
  | .materialize window late =>
    match materializeScored env move.before window late with
    | .ok _ => some ⟨move.before, window⟩
    | .error _ => none
  | _ => none

/-- The windows that a run materializes, in order. -/
def sightings (start : AnomalyStore) (calls : List AnomalyCall) : List Sighting :=
  (trace (AnomalyStore.next env) start calls).filterMap (sighting? env)

theorem lineages_write {store : AnomalyStore} {itemId : Nat} {row new : SecurityAnomaly}
    (stored : store.anomalies.get? itemId = some row) (same : new.lineage = row.lineage) :
    (store.anomalies.modify itemId fun _ => new).map SecurityAnomaly.lineage = store.lineages := by
  have congr : (store.anomalies.modify itemId fun _ => new) =
      store.anomalies.modify itemId fun item => if item = row then new else item :=
    Table.modify_congr _ fun value found => by
      rw [if_pos (Option.some.inj (found.symm.trans stored))]
  rw [congr]
  refine Table.map_modify _ _ _ fun value => ?_
  split
  · rename_i here
    rw [here, same]
  · rfl

theorem find?_lineages (store : AnomalyStore) (key : String) :
    (lineageWriter env).find? store.lineages key =
      (store.withKey key).map fun row => (row.1, row.2.lineage) := by
  unfold Upsert.find? AnomalyStore.lineages AnomalyStore.withKey Table.first? Table.map
  rw [List.find?_map]
  rfl

theorem sighting?_of_ok {store after : AnomalyStore} {window : ScoredWindow} {late : Bool}
    (served : materializeScored env store window late = .ok after) :
    sighting? env ⟨store, .materialize window late, after⟩ = some ⟨store, window⟩ := by
  simp only [sighting?, served]

theorem sighting?_of_error {store after : AnomalyStore} {window : ScoredWindow} {late : Bool}
    {error : ServiceError} (refused : materializeScored env store window late = .error error) :
    sighting? env ⟨store, .materialize window late, after⟩ = none := by
  simp only [sighting?, refused]

theorem lineages_materialize {store after : AnomalyStore} {window : ScoredWindow} {late : Bool}
    (served : materializeScored env store window late = .ok after) :
    after.lineages = (lineageWriter env).apply store.lineages ⟨store, window⟩ := by
  obtain ⟨detector, found, -, -, rfl⟩ := materializeScored_eq_ok_iff.mp served
  have known : (lineageWriter env).find? store.lineages
      ((lineageWriter env).key ⟨store, window⟩) = _ :=
    find?_lineages env store (window.deduplicationKey env)
  rw [materializeAnomaly_eq, Upsert.apply, known]
  cases store.withKey (window.deduplicationKey env) with
  | some row => exact Table.map_modify_of_eq _ _ _ fun _ => rfl
  | none =>
    dsimp only [Option.map_none]
    rw [AnomalyStore.lineages, openAnomaly_anomalies, Table.map_insert]
    refine congrArg store.lineages.insert (Lineage.ext rfl rfl rfl ?_)
    exact (@Sighting.status_eq ⟨store, window⟩ detector found).symm

/-- **One call writes the lineage of the window that it materializes, and no other.** -/
theorem lineages_next (store : AnomalyStore) (call : AnomalyCall) :
    (store.next env call).lineages =
      ((sighting? env ⟨store, call, store.next env call⟩).toList).foldl
        (lineageWriter env).apply store.lineages := by
  unfold AnomalyStore.next
  cases served : store.serve env call with
  | error error =>
    cases call with
    | materialize window late =>
      rw [sighting?_of_error env served]
      rfl
    | _ => rfl
  | ok after =>
    cases call with
    | materialize window late =>
      rw [sighting?_of_ok env served]
      exact lineages_materialize env served
    | transition itemId target payload =>
      obtain ⟨item, stored, -, -, -, rfl⟩ := transitionAnomaly_eq_ok_iff.mp served
      exact lineages_write stored rfl
    | assign itemId payload =>
      obtain ⟨item, stored, -, rfl⟩ := assignAnomaly_eq_ok served
      exact lineages_write stored rfl
    | feedback itemId payload actor =>
      obtain ⟨item, entry, stored, rfl⟩ := addFeedback_eq_ok served
      exact lineages_write stored rfl
    | linkCase itemId payload =>
      rcases linkCase_eq_ok_iff.mp served with ⟨item, links, rfl⟩ | ⟨-, -, -, -, -, rfl⟩
      · dsimp only
        rw [AnomalyStore.lineages, (link_eq _ _ _ _ _).1]
        exact lineages_write links.stored rfl
      · rfl
    | createSuppression payload actor now =>
      obtain ⟨item, rfl⟩ := createSuppression_eq_ok served
      rfl
    | patchSuppression itemId payload now =>
      obtain ⟨change, -, rfl⟩ := patchSuppression_eq_ok served
      rfl
    | disableSuppression itemId now =>
      obtain ⟨change, -, rfl⟩ := disableSuppression_eq_ok served
      rfl

/-- **After a run the lineages are what its sightings write**, one after the other. -/
theorem lineages_final (start : AnomalyStore) (calls : List AnomalyCall) :
    (final (AnomalyStore.next env) start calls).lineages =
      (sightings env start calls).foldl (lineageWriter env).apply start.lineages := by
  refine run_induction (AnomalyStore.next env)
    (motive := fun past state => state.lineages =
      (past.filterMap (sighting? env)).foldl (lineageWriter env).apply start.lineages)
    rfl ?_ calls
  intro past state call ih
  rw [List.filterMap_append, List.foldl_append, ← ih, lineages_next]
  cases found : sighting? env ⟨state, call, state.next env call⟩ with
  | none => rw [List.filterMap_cons_none found, List.filterMap_nil, Option.toList_none]
  | some sighting => rw [List.filterMap_cons_some found, List.filterMap_nil, Option.toList_some]

end Calls

/-! ## Summaries -/

/-- The times at which windows end. -/
def ends (seen : List Sighting) : Set Instant :=
  {finish | ∃ sighting ∈ seen, sighting.window.finish = finish}

/-- An anomaly summarises windows. -/
structure Summary (seen : List Sighting) (item : SecurityAnomaly) : Prop where
  first : IsLeast (ends seen) item.firstObservedAt
  last : IsGreatest (ends seen) item.lastObservedAt
  suppressed : item.suppressionStatus = .suppressed → ∀ sighting ∈ seen, sighting.Covered

/-- There is one anomaly with a key, and it summarises windows. -/
def Summarised (store : AnomalyStore) (key : String) (seen : List Sighting) : Prop :=
  ∃ itemId item,
    (∀ other row, store.anomalies.get? other = some row ∧ row.deduplicationKey = key ↔
      other = itemId ∧ row = item) ∧
    Summary seen item

/-- The first window that is scored is the earliest, the last one is the latest, and all are
covered when the first is found suppressed. -/
structure InOrder (seen : List Sighting) : Prop where
  earliest : ∀ first ∈ seen.head?, ∀ sighting ∈ seen, first.window.finish ≤ sighting.window.finish
  latest : ∀ last ∈ seen.getLast?, ∀ sighting ∈ seen, sighting.window.finish ≤ last.window.finish
  covered : ∀ first ∈ seen.head?, first.status = .suppressed → ∀ sighting ∈ seen, sighting.Covered

/-- An anomaly of which the first window wrote the beginning and the last one the end
summarises the windows exactly when they were scored in order. -/
theorem summary_iff_inOrder {seen : List Sighting} {first last : Sighting} {item : SecurityAnomaly}
    (head : seen.head? = some first) (tail : seen.getLast? = some last)
    (began : item.firstObservedAt = first.window.finish)
    (ended : item.lastObservedAt = last.window.finish)
    (status : item.suppressionStatus = first.status) : Summary seen item ↔ InOrder seen := by
  constructor
  · intro summary
    refine ⟨?_, ?_, ?_⟩
    · intro other same sighting member
      obtain rfl := Option.some.inj (head.symm.trans same)
      exact began ▸ summary.first.2 ⟨sighting, member, rfl⟩
    · intro other same sighting member
      obtain rfl := Option.some.inj (tail.symm.trans same)
      exact ended ▸ summary.last.2 ⟨sighting, member, rfl⟩
    · intro other same suppressed
      obtain rfl := Option.some.inj (head.symm.trans same)
      exact summary.suppressed (status.trans suppressed)
  · intro ordered
    refine ⟨⟨?_, ?_⟩, ⟨?_, ?_⟩, ?_⟩
    · exact ⟨first, List.mem_of_head? head, began.symm⟩
    · rintro _ ⟨sighting, member, rfl⟩
      exact began ▸ ordered.earliest first head sighting member
    · exact ⟨last, List.mem_of_getLast? tail, ended.symm⟩
    · rintro _ ⟨sighting, member, rfl⟩
      exact ended ▸ ordered.latest last tail sighting member
    · exact fun suppressed => ordered.covered first head (status.symm.trans suppressed)

section Runs

variable (env : AnalyticsRuntime)

/-- The windows of a run with a deduplication key, in the order they are scored. -/
def sightingsOf (start : AnomalyStore) (calls : List AnomalyCall) (key : String) :
    List Sighting :=
  (sightings env start calls).filter fun sighting =>
    sighting.window.deduplicationKey env = key

/-- The unique index of the deduplication key. -/
def AnomalyStore.UniqueKeys (store : AnomalyStore) : Prop :=
  ∀ first second one other, store.anomalies.get? first = some one →
    store.anomalies.get? second = some other →
    one.deduplicationKey = other.deduplicationKey → first = second

theorem AnomalyStore.UniqueKeys.distinct {store : AnomalyStore} (unique : store.UniqueKeys) :
    (lineageWriter env).Distinct store.lineages := by
  intro first second one other firstStored secondStored same
  rw [AnomalyStore.lineages, Table.get?_map] at firstStored secondStored
  obtain ⟨row, found, rfl⟩ := Option.map_eq_some_iff.mp firstStored
  obtain ⟨second, alsoFound, rfl⟩ := Option.map_eq_some_iff.mp secondStored
  exact unique _ _ _ _ found alsoFound same

theorem uniqueKeys_of_distinct {store : AnomalyStore}
    (distinct : (lineageWriter env).Distinct store.lineages) : store.UniqueKeys := by
  intro first second one other firstStored secondStored same
  refine distinct first second one.lineage other.lineage ?_ ?_ same
  · rw [AnomalyStore.lineages, Table.get?_map, firstStored, Option.map_some]
  · rw [AnomalyStore.lineages, Table.get?_map, secondStored, Option.map_some]

/-- Every run keeps the deduplication keys apart. -/
theorem uniqueKeys_final {start : AnomalyStore} (unique : start.UniqueKeys)
    (calls : List AnomalyCall) : (final (AnomalyStore.next env) start calls).UniqueKeys := by
  refine uniqueKeys_of_distinct env ?_
  rw [lineages_final]
  exact (unique.distinct env).foldl _

theorem foldl_outcome (first : Sighting) (rest : List Sighting) :
    (first :: rest).foldl (lineageWriter env).outcome none = some {
      key := first.window.deduplicationKey env
      firstObservedAt := first.window.finish
      lastObservedAt := ((first :: rest).getLast (List.cons_ne_nil _ _)).window.finish
      suppressionStatus := first.status } := by
  induction rest using List.reverseRecOn with
  | nil => rfl
  | append_singleton rest last ih =>
    have split : (first :: (rest ++ [last])).foldl (lineageWriter env).outcome none =
        (lineageWriter env).outcome
          ((first :: rest).foldl (lineageWriter env).outcome none) last := by
      rw [← List.cons_append, List.foldl_append]
      rfl
    have newest : (first :: (rest ++ [last])).getLast (List.cons_ne_nil _ _) = last := by simp
    rw [split, ih, newest]
    rfl

theorem exists_anomaly {start : AnomalyStore} {calls : List AnomalyCall} {key : String}
    {first last : Sighting} (fresh : start.withKey key = none)
    (head : (sightingsOf env start calls key).head? = some first)
    (tail : (sightingsOf env start calls key).getLast? = some last) :
    ∃ itemId item, (final (AnomalyStore.next env) start calls).anomalies.get? itemId =
        some item ∧ item.deduplicationKey = key ∧ item.firstObservedAt = first.window.finish ∧
      item.lastObservedAt = last.window.finish ∧ item.suppressionStatus = first.status := by
  have seen : (lineageWriter env).read
      (final (AnomalyStore.next env) start calls).lineages key =
        (sightingsOf env start calls key).foldl (lineageWriter env).outcome none := by
    rw [lineages_final, Upsert.read_foldl]
    congr 1
    rw [Upsert.read, find?_lineages, fresh]
    rfl
  obtain ⟨rest, split⟩ := List.head?_eq_some_iff.mp head
  have keyed : first.window.deduplicationKey env = key := by
    have member := List.mem_of_head? head
    exact of_decide_eq_true (List.mem_filter.mp member).2
  rw [split, foldl_outcome, Upsert.read, find?_lineages, Option.map_map] at seen
  obtain ⟨⟨itemId, item⟩, found, same⟩ := Option.map_eq_some_iff.mp seen
  obtain ⟨stored, -⟩ := Table.get?_of_first? found
  have lineage : item.lineage = _ := same
  refine ⟨itemId, item, stored, ?_, ?_, ?_, ?_⟩
  · exact (congrArg Lineage.key lineage).trans keyed
  · exact congrArg Lineage.firstObservedAt lineage
  · refine (congrArg Lineage.lastObservedAt lineage).trans ?_
    rw [split, List.getLast?_eq_some_getLast (List.cons_ne_nil _ _)] at tail
    exact congrArg (fun sighting : Sighting => sighting.window.finish) (Option.some.inj tail)
  · exact congrArg Lineage.suppressionStatus lineage

/-- **The anomaly of a key summarises its windows exactly when they are scored in order.** -/
theorem lineage_summarised_iff (start : AnomalyStore) (unique : start.UniqueKeys)
    (calls : List AnomalyCall) (key : String) (fresh : start.withKey key = none)
    (scored : sightingsOf env start calls key ≠ []) :
    Summarised (final (AnomalyStore.next env) start calls) key
        (sightingsOf env start calls key) ↔
      InOrder (sightingsOf env start calls key) := by
  have head := List.head?_eq_some_head scored
  have tail := List.getLast?_eq_some_getLast scored
  obtain ⟨itemId, item, stored, keyed, began, ended, status⟩ :=
    exists_anomaly env fresh head tail
  have summary := summary_iff_inOrder head tail began ended status
  have only : ∀ other row,
      (final (AnomalyStore.next env) start calls).anomalies.get? other = some row ∧
        row.deduplicationKey = key ↔ other = itemId ∧ row = item := by
    intro other row
    constructor
    · rintro ⟨found, same⟩
      obtain rfl := uniqueKeys_final env unique calls _ _ _ _ found stored
        (same.trans keyed.symm)
      exact ⟨rfl, Option.some.inj (found.symm.trans stored)⟩
    · rintro ⟨rfl, rfl⟩
      exact ⟨stored, keyed⟩
  constructor
  · rintro ⟨otherId, other, onlyOther, holds⟩
    obtain ⟨-, rfl⟩ := (onlyOther itemId item).mp ⟨stored, keyed⟩
    exact summary.mp holds
  · exact fun ordered => ⟨itemId, item, only, summary.mpr ordered⟩

end Runs

/-- The scope that names nothing. -/
def emptyScope : SuppressionScope :=
  ⟨none, none, none, none, none, none, none, none, none, none⟩

/-- A window of an hour of detector 1 that ends in the first hour. -/
def firstHour (finish : Instant) : ScoredWindow :=
  { emptyScope.window none ⟨10000, by decide, by decide⟩ with
    start := finish - 3600000000
    finish := finish }

/-- The window that ends after half an hour, and then the one a quarter of an hour before it. -/
def lateThenEarly : List AnomalyCall :=
  [.materialize (firstHour 1800000000) false, .materialize (firstHour 900000000) false]

theorem key_firstHour (env : AnalyticsRuntime) {finish : Instant}
    (bucket : (firstHour finish).bucket = 0) :
    (firstHour finish).deduplicationKey env = (firstHour 0).deduplicationKey env := by
  unfold ScoredWindow.deduplicationKey
  rw [bucket]
  rfl

theorem detectors_materializeAnomaly (env : AnalyticsRuntime) (store : AnomalyStore)
    (detector : AnalyticsDetector) (window : ScoredWindow) (late : Bool) :
    (materializeAnomaly env store detector window late).detectors = store.detectors := by
  rw [materializeAnomaly_eq]
  split
  · rfl
  · unfold AnomalyStore.openAnomaly
    split <;> rfl

theorem materializeScored_firstHour (env : AnalyticsRuntime) {store : AnomalyStore}
    (same : store.detectors = beforeSuppression.detectors) (finish : Instant) :
    ∃ after, materializeScored env store (firstHour finish) false = .ok after ∧
      after.detectors = beforeSuppression.detectors := by
  refine ⟨_, materializeScored_eq_ok_iff.mpr ⟨emptyScope.detector, ?_, rfl, rfl, rfl⟩,
    (detectors_materializeAnomaly _ _ _ _ _).trans same⟩
  rw [same]
  rfl

theorem sightingsOf_lateThenEarly (env : AnalyticsRuntime) :
    ∃ middle, sightingsOf env beforeSuppression lateThenEarly
        ((firstHour 0).deduplicationKey env) =
      [⟨beforeSuppression, firstHour 1800000000⟩, ⟨middle, firstHour 900000000⟩] := by
  obtain ⟨middle, served, same⟩ :=
    @materializeScored_firstHour env beforeSuppression rfl 1800000000
  obtain ⟨after, alsoServed, -⟩ := materializeScored_firstHour env same 900000000
  refine ⟨middle, ?_⟩
  have first : beforeSuppression.next env (.materialize (firstHour 1800000000) false) =
      middle := by
    have handled : beforeSuppression.serve env (.materialize (firstHour 1800000000) false) =
        .ok middle := served
    rw [AnomalyStore.next, handled]
  have both : sightings env beforeSuppression lateThenEarly =
      [⟨beforeSuppression, firstHour 1800000000⟩, ⟨middle, firstHour 900000000⟩] := by
    rw [sightings, lateThenEarly, trace, trace, trace, first,
      List.filterMap_cons_some (sighting?_of_ok env served),
      List.filterMap_cons_some (b := ⟨middle, firstHour 900000000⟩), List.filterMap_nil]
    simp only [sighting?, alsoServed]
  rw [sightingsOf, both, List.filter_eq_self]
  intro sighting member
  rw [decide_eq_true_eq]
  rcases List.mem_pair.mp member with rfl | rfl
  · exact key_firstHour env rfl
  · exact key_firstHour env rfl

theorem uniqueKeys_beforeSuppression : beforeSuppression.UniqueKeys := by
  intro first second one other stored
  cases stored

/-- **A window that is scored after a later one takes the end of the lineage back.** -/
theorem older_window_ends_lineage :
    ¬∃ env, ∀ start : AnomalyStore, start.UniqueKeys → ∀ calls key,
      start.withKey key = none → sightingsOf env start calls key ≠ [] →
      Summarised (final (AnomalyStore.next env) start calls) key
        (sightingsOf env start calls key) := by
  rintro ⟨env, summarised⟩
  obtain ⟨middle, seen⟩ := sightingsOf_lateThenEarly env
  have scored : sightingsOf env beforeSuppression lateThenEarly
      ((firstHour 0).deduplicationKey env) ≠ [] := seen ▸ List.cons_ne_nil _ _
  have summary := summarised beforeSuppression uniqueKeys_beforeSuppression lateThenEarly _ rfl
    scored
  have ordered := (lineage_summarised_iff env beforeSuppression uniqueKeys_beforeSuppression
    lateThenEarly _ rfl scored).mp summary
  rw [seen] at ordered
  have wrong : (1800000000 : Int) ≤ 900000000 :=
    ordered.latest _ rfl _ (List.mem_cons_self ..)
  exact absurd wrong (by decide)

theorem lineage_summarised_iff_lateThenEarly :
    beforeSuppression.UniqueKeys ∧
      beforeSuppression.withKey ((firstHour 0).deduplicationKey plainAnalytics) = none ∧
      sightingsOf plainAnalytics beforeSuppression lateThenEarly
        ((firstHour 0).deduplicationKey plainAnalytics) ≠ [] ∧
      (Summarised (final (AnomalyStore.next plainAnalytics) beforeSuppression lateThenEarly)
          ((firstHour 0).deduplicationKey plainAnalytics)
          (sightingsOf plainAnalytics beforeSuppression lateThenEarly
            ((firstHour 0).deduplicationKey plainAnalytics)) ↔
        InOrder (sightingsOf plainAnalytics beforeSuppression lateThenEarly
          ((firstHour 0).deduplicationKey plainAnalytics))) := by
  obtain ⟨middle, seen⟩ := sightingsOf_lateThenEarly plainAnalytics
  have scored : sightingsOf plainAnalytics beforeSuppression lateThenEarly
      ((firstHour 0).deduplicationKey plainAnalytics) ≠ [] := seen ▸ List.cons_ne_nil _ _
  exact ⟨uniqueKeys_beforeSuppression, rfl, scored,
    lineage_summarised_iff plainAnalytics beforeSuppression uniqueKeys_beforeSuppression
      lateThenEarly _ rfl scored⟩

end ThreatScope.Analytics
