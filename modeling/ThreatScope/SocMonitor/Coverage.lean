import ThreatScope.SocMonitor.Alerts

/-!
# Which bursts raise an alert

A run notes one window for each value of a rule, the last one that qualifies. A burst that
ends more than one window earlier is forgotten, unless an earlier run has linked it. So the
bursts that a run covers depend on when detection is run (`burst_coverage`).
-/

set_option autoImplicit false

namespace ThreatScope.SocMonitor

open Library AccessControl

/-! ## What a run covers -/

section Runs

variable {env : SocRuntime} (now : Instant) (activeBlocklist : List String) {store : SocStore}

/-- A window noted by a rule has the event in it. -/
def SocDetectionRule.Notes (env : SocRuntime) (rule : SocDetectionRule) (events : List StoredEvent)
    (activeBlocklist : List String) (value : String) (eventId : Nat) : Prop :=
  ∃ window, (value, window) ∈ qualifyingWindows env rule events activeBlocklist ∧
    ∃ event ∈ window, event.1 = eventId

/-- What is covered after the windows of a rule are reported. -/
theorem foldl_report (named : store.Named env) (injective : Function.Injective env.sha256)
    {ruleId : Nat} {rule : SocDetectionRule} (ruleStored : store.rules.get? ruleId = some rule)
    (windows : List (String × List StoredEvent)) :
    (windows.foldl (SocStore.report env now ruleId rule) store).Named env ∧
      (windows.foldl (SocStore.report env now ruleId rule) store).rules = store.rules ∧
      (windows.foldl (SocStore.report env now ruleId rule) store).events = store.events ∧
      ∀ otherId other name eventId, store.rules.get? otherId = some other →
        ((windows.foldl (SocStore.report env now ruleId rule) store).Covers otherId other name
            eventId ↔ store.Covers otherId other name eventId ∨
          otherId = ruleId ∧ ∃ window, (name, window) ∈ windows ∧
            ∃ event ∈ window, event.1 = eventId) := by
  induction windows generalizing store with
  | nil => exact ⟨named, rfl, rfl, by simp⟩
  | cons noted rest ih =>
    obtain ⟨value, window⟩ := noted
    have kept := rules_report env now ruleId rule store (value, window)
    obtain ⟨still, rules, same, covers⟩ := ih (named.report ruleStored (value, window))
      (kept ▸ ruleStored)
    refine ⟨still, rules.trans kept, same.trans (events_report ..), ?_⟩
    intro otherId other name eventId otherStored
    rw [List.foldl_cons, covers otherId other name eventId (kept ▸ otherStored),
      covers_report_iff named injective ruleStored otherStored, or_assoc]
    refine or_congr_right ⟨?_, ?_⟩
    · rintro (⟨rfl, rfl, inside⟩ | ⟨rfl, inWindow, member, inside⟩)
      · exact ⟨rfl, window, List.mem_cons_self .., inside⟩
      · exact ⟨rfl, inWindow, List.mem_cons_of_mem _ member, inside⟩
    · rintro ⟨rfl, inWindow, member, inside⟩
      rcases List.mem_cons.mp member with same | later
      · cases same
        exact .inl ⟨rfl, rfl, inside⟩
      · exact .inr ⟨rfl, inWindow, later, inside⟩

/-- What is covered after the rules of a run. -/
theorem foldl_applyRule (events : List StoredEvent) (named : store.Named env)
    (injective : Function.Injective env.sha256) (rows : List (Nat × SocDetectionRule))
    (stored : ∀ row ∈ rows, store.rules.get? row.1 = some row.2) :
    (rows.foldl (SocStore.applyRule env now events activeBlocklist) store).Named env ∧
      (rows.foldl (SocStore.applyRule env now events activeBlocklist) store).rules =
        store.rules ∧
      (rows.foldl (SocStore.applyRule env now events activeBlocklist) store).events =
        store.events ∧
      ∀ otherId other name eventId, store.rules.get? otherId = some other →
        ((rows.foldl (SocStore.applyRule env now events activeBlocklist) store).Covers otherId
            other name eventId ↔ store.Covers otherId other name eventId ∨
          (otherId, other) ∈ rows ∧ other.Notes env events activeBlocklist name eventId) := by
  induction rows generalizing store with
  | nil => exact ⟨named, rfl, rfl, by simp⟩
  | cons row rest ih =>
    obtain ⟨ruleId, rule⟩ := row
    have ruleStored := stored (ruleId, rule) (List.mem_cons_self ..)
    obtain ⟨stillOne, rulesOne, eventsOne, coversOne⟩ := foldl_report now named injective
      ruleStored (qualifyingWindows env rule events activeBlocklist)
    obtain ⟨still, rules, same, covers⟩ := ih stillOne fun row member =>
      rulesOne ▸ stored row (List.mem_cons_of_mem _ member)
    refine ⟨still, rules.trans rulesOne, same.trans eventsOne, ?_⟩
    intro otherId other name eventId otherStored
    refine Iff.trans (covers otherId other name eventId (rulesOne ▸ otherStored)) ?_
    rw [coversOne otherId other name eventId otherStored, or_assoc]
    refine or_congr_right ⟨?_, ?_⟩
    · rintro (⟨rfl, noted⟩ | ⟨member, noted⟩)
      · obtain rfl := Option.some.inj (otherStored.symm.trans ruleStored)
        exact ⟨List.mem_cons_self .., noted⟩
      · exact ⟨List.mem_cons_of_mem _ member, noted⟩
    · rintro ⟨member, noted⟩
      rcases List.mem_cons.mp member with same | later
      · cases same
        exact .inl ⟨rfl, noted⟩
      · exact .inr ⟨later, noted⟩

theorem stored_of_selected {payload : DetectionRunRequest} {row : Nat × SocDetectionRule}
    (selected : row ∈ store.selectedRules payload) : store.rules.get? row.1 = some row.2 :=
  (store.rules.get?_eq_some_iff _ _).mpr (List.mem_of_mem_filter selected)

/-- **What a run covers**: what was covered before, and, unless a rule raises, what the
selected rules note. -/
theorem run_effect (named : store.Named env) (injective : Function.Injective env.sha256)
    (payload : DetectionRunRequest) (unhashable : Unhashable) :
    (store.run env payload activeBlocklist unhashable now).Named env ∧
      (store.run env payload activeBlocklist unhashable now).rules = store.rules ∧
      (store.run env payload activeBlocklist unhashable now).events = store.events ∧
      ∀ ruleId rule name eventId, store.rules.get? ruleId = some rule →
        ((store.run env payload activeBlocklist unhashable now).Covers
          ruleId rule name eventId ↔
          store.Covers ruleId rule name eventId ∨
            store.raises env unhashable payload (store.selectedEvents payload) = false ∧
              (ruleId, rule) ∈ store.selectedRules payload ∧
              rule.Notes env (store.selectedEvents payload) activeBlocklist name eventId) := by
  have fold := foldl_applyRule now activeBlocklist (store.selectedEvents payload) named injective
    (store.selectedRules payload) fun row selected => stored_of_selected selected
  unfold SocStore.run
  dsimp only
  cases store.raises env unhashable payload (store.selectedEvents payload) with
  | true => exact ⟨named, rfl, rfl, by simp⟩
  | false => simpa using fold

end Runs

/-! ## Bursts -/

/-- The events of a value that match the conditions of a rule. -/
def groupOf (rule : SocDetectionRule) (events : List StoredEvent) (value : String) :
    List StoredEvent :=
  events.filter fun event =>
    rule.matches event.2 && decide (groupValue event.2 rule.groupBy = value)

theorem groupEvents_of_counts {rule : SocDetectionRule} (counts : rule.Counts)
    (events : List StoredEvent) (activeBlocklist : List String) (value : String) :
    groupEvents rule events activeBlocklist value = groupOf rule events value := by
  have accepts : ∀ event, rule.accepts activeBlocklist event = rule.matches event := by
    intro event
    unfold SocDetectionRule.accepts
    rcases counts with count | distinct
    · rw [count]
    · rw [distinct]
  unfold groupEvents groupOf
  rw [List.filter_filter]
  refine List.filter_congr fun event _ => ?_
  rw [accepts, Bool.and_comm]

/-- Events of a group that fit in one window and reach the threshold, none of them in
vain. -/
structure SocDetectionRule.Burst (env : SocRuntime) (rule : SocDetectionRule)
    (group burst : List StoredEvent) : Prop where
  inGroup : burst.Sublist group
  fits : ∀ first ∈ burst, ∀ other ∈ burst, other.time - first.time ≤ rule.width
  reached : rule.reaches env burst = true
  minimal : ∀ fewer, fewer.Sublist burst → rule.reaches env fewer = true → fewer = burst

section Windows

variable {env : SocRuntime} {rule : SocDetectionRule} {group : List StoredEvent}

theorem SocDetectionRule.Burst.qualifiesAt {burst : List StoredEvent}
    (isBurst : rule.Burst env group burst) (ordered : group.Pairwise StoredEvent.Earlier)
    {last : StoredEvent} (end_ : burst.getLast? = some last) :
      rule.QualifiesAt env group last := by
  have member : last ∈ burst := List.mem_of_getLast? end_
  have burstOrdered := ordered.sublist isBurst.inGroup
  have le : ∀ event ∈ burst, eventLe event last := by
    intro event inside
    obtain ⟨front, rfl⟩ := List.getLast?_eq_some_iff.mp end_
    rcases List.mem_append.mp inside with early | here
    · exact ((List.pairwise_append.mp burstOrdered).2.2 event early last (by simp)).le
    · rw [List.mem_singleton.mp here]
      exact eventLe_refl last
  refine ⟨isBurst.inGroup.subset member, reaches_mono ?_ isBurst.reached⟩
  have inWindow : rule.windowAt burst last = burst := by
    refine List.filter_eq_self.mpr fun event inside => ?_
    rw [decide_eq_true (le event inside), Bool.true_and]
    exact decide_eq_true (isBurst.fits event inside last member)
  rw [← inWindow]
  exact isBurst.inGroup.filter _

theorem SocDetectionRule.QualifiesAt.exists_last {latest : StoredEvent}
    (qualifies : rule.QualifiesAt env group latest) (ordered : group.Pairwise StoredEvent.Earlier) :
    ∃ last, rule.QualifiesLast env group last := by
  let places := group.filter fun event => rule.reaches env (rule.windowAt group event)
  have mem_places : ∀ event, event ∈ places ↔ rule.QualifiesAt env group event := fun event =>
    List.mem_filter
  have placesOrdered : places.Pairwise StoredEvent.Earlier := ordered.filter _
  rcases List.eq_nil_or_concat' places with none | ⟨front, last, split⟩
  · rw [← mem_places, none] at qualifies
    cases qualifies
  · refine ⟨last, (mem_places last).mp (by simp [split]), fun other another => ?_⟩
    rw [← mem_places, split] at another
    rw [split] at placesOrdered
    rcases List.mem_append.mp another with early | here
    · exact ((List.pairwise_append.mp placesOrdered).2.2 other early last (by simp)).le
    · rw [List.mem_singleton.mp here]
      exact eventLe_refl last

/-- **The last window** has in it the events that no later qualifying window has left
behind. -/
theorem mem_lastWindow_iff (ordered : group.Pairwise StoredEvent.Earlier)
    {event latest : StoredEvent} (member : event ∈ group) (le : eventLe event latest)
    (qualifies : rule.QualifiesAt env group latest) :
    (∃ last, rule.QualifiesLast env group last ∧ event ∈ rule.windowAt group last) ↔
      ∀ later, rule.QualifiesAt env group later → later.time - event.time ≤ rule.width := by
  constructor
  · rintro ⟨last, ⟨-, latestOfAll⟩, inside⟩ later another
    have close := (mem_windowAt_iff.mp inside).2.2
    have sooner := (latestOfAll later another).time_le
    omega
  · intro close
    obtain ⟨last, isLast⟩ := qualifies.exists_last ordered
    refine ⟨last, isLast, mem_windowAt_iff.mpr ⟨member, ?_, close last isLast.1⟩⟩
    exact Trans.trans le (isLast.2 latest qualifies)

end Windows

theorem notes_iff_of_counts {env : SocRuntime} {rule : SocDetectionRule} (counts : rule.Counts)
    {events : List StoredEvent} (ordered : events.Pairwise StoredEvent.Earlier)
    (activeBlocklist : List String) (value : String) (eventId : Nat) :
    rule.Notes env events activeBlocklist value eventId ↔
      ∃ last, rule.QualifiesLast env (groupOf rule events value) last ∧
        ∃ event ∈ rule.windowAt (groupOf rule events value) last, event.1 = eventId := by
  unfold SocDetectionRule.Notes
  simp only [mem_qualifyingWindows_iff_of_counts counts ordered, groupEvents_of_counts counts]
  constructor
  · rintro ⟨window, ⟨last, isLast, rfl⟩, inside⟩
    exact ⟨last, isLast, inside⟩
  · rintro ⟨last, isLast, inside⟩
    exact ⟨_, ⟨last, isLast, rfl⟩, inside⟩

theorem eq_of_key {store : SocStore} {payload : DetectionRunRequest} {first second : StoredEvent}
    (one : first ∈ store.selectedEvents payload) (other : second ∈ store.selectedEvents payload)
    (same : first.1 = second.1) : first = second := by
  have firstStored := (mem_selectedEvents_iff.mp one).1
  rw [same, (mem_selectedEvents_iff.mp other).1] at firstStored
  exact Prod.ext same (Option.some.inj firstStored.symm)

/-! ## Runs of calls -/

/-- A store with rules of distinct codes, and nothing else yet. -/
structure SocStore.Fresh (store : SocStore) : Prop where
  codes : ∀ first second one other, store.rules.get? first = some one →
    store.rules.get? second = some other → one.ruleCode = other.ruleCode → first = second
  events : store.events = Table.empty
  alerts : store.alerts = Table.empty
  links : store.links = Table.empty

theorem SocStore.Fresh.named {store : SocStore} (fresh : store.Fresh) (env : SocRuntime) :
    store.Named env where
  codes := fresh.codes
  alerts := fresh.alerts ▸ Table.Each.empty
  links := by
    intro alertId _
    unfold SocStore.linked
    rw [fresh.links]
    rfl

theorem SocStore.Fresh.not_covers {store : SocStore} (fresh : store.Fresh) (ruleId : Nat)
    (rule : SocDetectionRule) (value : String) (eventId : Nat) :
    ¬ store.Covers ruleId rule value eventId := by
  rintro ⟨alertId, alert, stored, -⟩
  rw [fresh.alerts] at stored
  cases stored

/-- Every call keeps the alerts named after their rules. -/
theorem SocStore.Named.next {env : SocRuntime} {store : SocStore}
    (named : store.Named env) (injective : Function.Injective env.sha256)
    (call : SocCall) : (store.next env call).Named env := by
  cases call with
  | ingest event => exact ⟨named.codes, named.alerts, named.links⟩
  | run payload activeBlocklist unhashable now =>
    exact (run_effect now activeBlocklist named injective payload unhashable).1

theorem SocStore.Named.final {env : SocRuntime} (injective : Function.Injective env.sha256)
    {start : SocStore} (named : start.Named env) (calls : List SocCall) :
    (final (SocStore.next env) start calls).Named env := by
  induction calls generalizing start with
  | nil => exact named
  | cons call rest ih =>
    rw [final_cons]
    exact ih (named.next injective call)

/-- No call changes the rules. -/
theorem rules_final {env : SocRuntime} {start : SocStore} (named : start.Named env)
    (injective : Function.Injective env.sha256) (calls : List SocCall) :
    (final (SocStore.next env) start calls).rules = start.rules := by
  induction calls generalizing start with
  | nil => rfl
  | cons call rest ih =>
    rw [final_cons, ih (named.next injective call)]
    cases call with
    | ingest event => rfl
    | run payload activeBlocklist unhashable now =>
      exact (run_effect now activeBlocklist named injective payload unhashable).2.1

/-! ## Coverage of bursts -/

/-- The last event of every burst is linked to an alert of the rule and the value. -/
def SocStore.CoversBursts (env : SocRuntime) (store : SocStore) (ruleId : Nat)
    (rule : SocDetectionRule) (events : List StoredEvent) : Prop :=
  ∀ value burst last, rule.Burst env (groupOf rule events value) burst →
    burst.getLast? = some last → store.Covers ruleId rule value last.1

/-- No rule of the run raises, and no window of the group qualifies more than the width of a
window after the event. -/
def SocStore.Remembers (env : SocRuntime) (unhashable : Unhashable) (store : SocStore)
    (payload : DetectionRunRequest) (rule : SocDetectionRule) (events : List StoredEvent)
    (value : String) (event : StoredEvent) : Prop :=
  store.raises env unhashable payload events = false ∧
    ∀ later, rule.QualifiesAt env (groupOf rule events value) later →
      later.time - event.time ≤ rule.width

/-- **Coverage by one run**: a run covers the bursts that were covered before and those
that no later window leaves behind. -/
theorem coversBursts_run_iff {env : SocRuntime} {store : SocStore}
    (named : store.Named env) (injective : Function.Injective env.sha256)
    {payload : DetectionRunRequest} {activeBlocklist : List String} {unhashable : Unhashable}
    {now : Instant} {ruleId : Nat} {rule : SocDetectionRule}
    (selected : (ruleId, rule) ∈ store.selectedRules payload) (counts : rule.Counts) :
    (store.run env payload activeBlocklist unhashable now).CoversBursts env ruleId rule
        (store.selectedEvents payload) ↔
      ∀ value burst last,
        rule.Burst env (groupOf rule (store.selectedEvents payload) value) burst →
        burst.getLast? = some last → store.Covers ruleId rule value last.1 ∨
          store.Remembers env unhashable payload rule (store.selectedEvents payload) value
            last := by
  obtain ⟨-, -, -, covers⟩ := run_effect now activeBlocklist named injective payload unhashable
  have ordered := pairwise_selectedEvents store payload
  unfold SocStore.CoversBursts SocStore.Remembers
  refine forall_congr' fun value => forall_congr' fun burst => forall_congr' fun last =>
    forall_congr' fun isBurst => forall_congr' fun end_ => ?_
  rw [covers ruleId rule value last.1 (stored_of_selected selected),
    notes_iff_of_counts counts ordered]
  refine or_congr_right (and_congr_right fun _ => ?_)
  have groupOrdered : (groupOf rule (store.selectedEvents payload) value).Pairwise
      StoredEvent.Earlier := ordered.filter _
  have qualifies := isBurst.qualifiesAt groupOrdered end_
  rw [← mem_lastWindow_iff groupOrdered qualifies.1 (eventLe_refl last) qualifies]
  constructor
  · rintro ⟨-, final, isLast, event, inside, same⟩
    have member := (mem_windowAt_iff.mp inside).1
    have key := eq_of_key (List.mem_of_mem_filter member) (List.mem_of_mem_filter qualifies.1) same
    exact ⟨final, isLast, key ▸ inside⟩
  · rintro ⟨final, isLast, inside⟩
    exact ⟨selected, final, isLast, last, inside, rfl⟩

/-! ## Batches -/

/-- Events that arrive together, and the run after them. -/
structure Batch where
  events : List SocEvent
  activeBlocklist : List String
  unhashable : Unhashable
  now : Instant

/-- The calls of a batch. -/
def Batch.calls (payload : DetectionRunRequest) (batch : Batch) : List SocCall :=
  batch.events.map .ingest ++ [.run payload batch.activeBlocklist batch.unhashable batch.now]

/-- Detection is run after each batch. -/
def SocStore.inBatches (env : SocRuntime) (payload : DetectionRunRequest) (store : SocStore)
    (batches : List Batch) : SocStore :=
  final (SocStore.next env) store (batches.flatMap (Batch.calls payload))

/-- Detection is run once after all batches. -/
def SocStore.atOnce (env : SocRuntime) (payload : DetectionRunRequest) (store : SocStore)
    (batches : List Batch) (activeBlocklist : List String) (unhashable : Unhashable)
    (now : Instant) : SocStore :=
  final (SocStore.next env) store
    ((batches.flatMap Batch.events).map .ingest ++ [.run payload activeBlocklist unhashable now])

/-- The store with more events. -/
def SocStore.receive (store : SocStore) (events : List SocEvent) : SocStore :=
  { store with events := events.foldl Table.insert store.events }

/-- The events of a run after some batches. -/
def SocStore.seen (store : SocStore) (payload : DetectionRunRequest) (batches : List Batch) :
    List StoredEvent :=
  (store.receive (batches.flatMap Batch.events)).selectedEvents payload

theorem final_ingest (env : SocRuntime) (store : SocStore) (events : List SocEvent) :
    final (SocStore.next env) store (events.map .ingest) = store.receive events := by
  induction events generalizing store with
  | nil => rfl
  | cons event rest ih =>
    rw [List.map_cons, final_cons, ih]
    rfl

theorem selectedEvents_congr {first second : SocStore} (same : first.events = second.events)
    (payload : DetectionRunRequest) :
    first.selectedEvents payload = second.selectedEvents payload := by
  unfold SocStore.selectedEvents
  rw [same]

theorem seen_sublist (store : SocStore) (payload : DetectionRunRequest)
    (first second : List Batch) :
    (store.seen payload first).Sublist (store.seen payload (first ++ second)) := by
  have grows : ∀ (events : List SocEvent) (table : Table SocEvent),
      table.rows ⊆ (events.foldl Table.insert table).rows := by
    intro events
    induction events with
    | nil => exact fun table => List.Subset.refl _
    | cons event rest ih =>
      exact fun table => List.Subset.trans (List.subset_append_left ..) (ih (table.insert event))
  refine List.sublist_of_subperm_of_pairwise (List.subperm_of_subset ?_ fun event member => ?_)
    (pairwise_selectedEvents _ payload) (pairwise_selectedEvents _ payload)
  · refine (pairwise_selectedEvents _ payload).imp fun {one other} earlier => ?_
    rintro rfl
    exact earlier.not_le (eventLe_refl _)
  · unfold SocStore.seen at member ⊢
    rw [mem_selectedEvents_iff, Table.get?_eq_some_iff] at member ⊢
    refine ⟨?_, member.2⟩
    unfold SocStore.receive at member ⊢
    rw [List.flatMap_append, List.foldl_append]
    exact grows _ _ member.1

section Batches

variable {env : SocRuntime} (payload : DetectionRunRequest) {start : SocStore}

/-- **What batches cover**: whatever the run after one of them notes. -/
theorem inBatches_effect (fresh : start.Fresh) (injective : Function.Injective env.sha256)
    (batches : List Batch) :
    (start.inBatches env payload batches).Named env ∧
      (start.inBatches env payload batches).rules = start.rules ∧
      (start.inBatches env payload batches).events =
        (start.receive (batches.flatMap Batch.events)).events ∧
      ∀ ruleId rule name eventId, start.rules.get? ruleId = some rule →
        ((start.inBatches env payload batches).Covers ruleId rule name eventId ↔
          ∃ before batch after, batches = before ++ batch :: after ∧
            start.raises env batch.unhashable payload
              (start.seen payload (before ++ [batch])) = false ∧
            (ruleId, rule) ∈ start.selectedRules payload ∧
            rule.Notes env (start.seen payload (before ++ [batch])) batch.activeBlocklist name
              eventId) := by
  induction batches using List.reverseRecOn with
  | nil =>
    refine ⟨fresh.named env, rfl, rfl, fun ruleId rule name eventId _ => ?_⟩
    constructor
    · exact fun covers => (fresh.not_covers _ _ _ _ covers).elim
    · rintro ⟨before, batch, after, split, -⟩
      exact absurd split.symm (by simp)
  | append_singleton batches last ih =>
    obtain ⟨named, rules, events, covers⟩ := ih
    have step : start.inBatches env payload (batches ++ [last]) =
        ((start.inBatches env payload batches).receive last.events).run env payload
          last.activeBlocklist last.unhashable last.now := by
      unfold SocStore.inBatches
      rw [List.flatMap_append, List.flatMap_singleton, final, List.foldl_append]
      unfold Batch.calls
      rw [List.foldl_append]
      exact congrArg
        (fun store => SocStore.run env store payload last.activeBlocklist last.unhashable
          last.now)
        (final_ingest env _ last.events)
    have received : ((start.inBatches env payload batches).receive last.events).events =
        (start.receive ((batches ++ [last]).flatMap Batch.events)).events := by
      unfold SocStore.receive at events ⊢
      rw [events, List.flatMap_append, List.foldl_append, List.flatMap_singleton]
    have stillNamed : ((start.inBatches env payload batches).receive last.events).Named
        env := ⟨named.codes, named.alerts, named.links⟩
    obtain ⟨afterNamed, afterRules, afterEvents, afterCovers⟩ :=
      run_effect last.now last.activeBlocklist stillNamed injective payload last.unhashable
    have sameSeen : ((start.inBatches env payload batches).receive
        last.events).selectedEvents payload = start.seen payload (batches ++ [last]) :=
      selectedEvents_congr received payload
    have sameSelected : ((start.inBatches env payload batches).receive
        last.events).selectedRules payload = start.selectedRules payload := by
      unfold SocStore.selectedRules
      rw [show ((start.inBatches env payload batches).receive last.events).rules =
        start.rules from rules]
    rw [step]
    refine ⟨afterNamed, afterRules.trans rules, afterEvents.trans received, ?_⟩
    intro ruleId rule name eventId stored
    refine Iff.trans (afterCovers ruleId rule name eventId (rules.symm ▸ stored)) ?_
    unfold SocStore.raises
    rw [sameSeen, sameSelected]
    refine Iff.trans (or_congr_left (covers ruleId rule name eventId stored)) ?_
    constructor
    · rintro (⟨before, batch, after, rfl, noted⟩ | noted)
      · exact ⟨before, batch, after ++ [last], by simp, noted⟩
      · exact ⟨batches, last, [], rfl, noted⟩
    · rintro ⟨before, batch, after, split, noted⟩
      rcases List.eq_nil_or_concat' after with rfl | ⟨after, end_, rfl⟩
      · obtain ⟨rfl, same⟩ := List.append_inj' split rfl
        cases same
        exact .inr noted
      · rw [← List.cons_append, ← List.append_assoc] at split
        obtain ⟨rfl, -⟩ := List.append_inj' split rfl
        exact .inl ⟨before, batch, after, rfl, noted⟩

theorem atOnce_effect (fresh : start.Fresh) (injective : Function.Injective env.sha256)
    (batches : List Batch) (activeBlocklist : List String) (unhashable : Unhashable)
    (now : Instant) {ruleId : Nat} {rule : SocDetectionRule}
    (stored : start.rules.get? ruleId = some rule) (name : String) (eventId : Nat) :
    (start.atOnce env payload batches activeBlocklist unhashable now).Covers ruleId rule name
      eventId ↔
      start.raises env unhashable payload (start.seen payload batches) = false ∧
        (ruleId, rule) ∈ start.selectedRules payload ∧
        rule.Notes env (start.seen payload batches) activeBlocklist name eventId := by
  have step : start.atOnce env payload batches activeBlocklist unhashable now =
      (start.receive (batches.flatMap Batch.events)).run env payload activeBlocklist
        unhashable now := by
    unfold SocStore.atOnce
    rw [final, List.foldl_append]
    exact congrArg (fun store => SocStore.run env store payload activeBlocklist unhashable now)
      (final_ingest env start _)
  have named := fresh.named env
  have received : (start.receive (batches.flatMap Batch.events)).Named env :=
    ⟨named.codes, named.alerts, named.links⟩
  obtain ⟨-, -, -, covers⟩ := run_effect now activeBlocklist received injective payload unhashable
  rw [step, covers ruleId rule name eventId stored]
  exact ⟨fun either => either.resolve_left (fresh.not_covers _ _ _ _), .inr⟩

/-- The events that the alerts of a rule are linked to. -/
def SocStore.CoveredBy (store : SocStore) (ruleId : Nat) (rule : SocDetectionRule)
    (eventId : Nat) : Prop :=
  ∃ value, store.Covers ruleId rule value eventId

theorem SocDetectionRule.QualifiesAt.mono {rule : SocDetectionRule} {fewer more : List StoredEvent}
    {latest : StoredEvent} (qualifies : rule.QualifiesAt env fewer latest)
    (sublist : fewer.Sublist more) : rule.QualifiesAt env more latest :=
  ⟨sublist.subset qualifies.1, reaches_mono (sublist.filter _) qualifies.2⟩

/-- An event of the last window after some batches is in the last window after all of them
exactly if it is remembered. -/
theorem mem_lastWindow_after_iff {rule : SocDetectionRule} (before after : List Batch)
    {value : String} {last event : StoredEvent}
    (isLast : rule.QualifiesLast env (groupOf rule (start.seen payload before) value) last)
    (inside : event ∈ rule.windowAt (groupOf rule (start.seen payload before) value) last) :
    (∃ final, rule.QualifiesLast env
        (groupOf rule (start.seen payload (before ++ after)) value) final ∧
        event ∈ rule.windowAt (groupOf rule (start.seen payload (before ++ after)) value) final) ↔
      ∀ later, rule.QualifiesAt env
          (groupOf rule (start.seen payload (before ++ after)) value) later →
        later.time - event.time ≤ rule.width := by
  have sublist : (groupOf rule (start.seen payload before) value).Sublist
      (groupOf rule (start.seen payload (before ++ after)) value) :=
    (seen_sublist start payload before after).filter _
  have ordered : (groupOf rule (start.seen payload (before ++ after)) value).Pairwise
      StoredEvent.Earlier := (pairwise_selectedEvents _ payload).filter _
  obtain ⟨member, le, -⟩ := mem_windowAt_iff.mp inside
  exact mem_lastWindow_iff ordered (sublist.subset member) le (isLast.1.mono sublist)

/-- An event is found again among more events, under its value. -/
theorem eq_of_windows {rule : SocDetectionRule} (before after : List Batch)
    {value other : String} {latest final event found : StoredEvent}
    (early : event ∈ rule.windowAt (groupOf rule (start.seen payload before) value) latest)
    (late : found ∈ rule.windowAt (groupOf rule (start.seen payload (before ++ after)) other) final)
    (key : found.1 = event.1) : found = event ∧ other = value := by
  have first := List.mem_filter.mp (mem_windowAt_iff.mp early).1
  have second := List.mem_filter.mp (mem_windowAt_iff.mp late).1
  obtain rfl := eq_of_key second.1 ((seen_sublist start payload before after).subset first.1) key
  exact ⟨rfl, (of_decide_eq_true (Bool.and_eq_true_iff.mp second.2).2).symm.trans
    (of_decide_eq_true (Bool.and_eq_true_iff.mp first.2).2)⟩

/-- The run after a batch does not raise, and an event is in its last window of a value. -/
def SocStore.KeptAfter (env : SocRuntime) (payload : DetectionRunRequest) (start : SocStore)
    (before : List Batch) (batch : Batch) (rule : SocDetectionRule) (value : String)
    (event : StoredEvent) : Prop :=
  start.raises env batch.unhashable payload (start.seen payload (before ++ [batch])) = false ∧
    ∃ last, rule.QualifiesLast env
        (groupOf rule (start.seen payload (before ++ [batch])) value) last ∧
      event ∈ rule.windowAt (groupOf rule (start.seen payload (before ++ [batch])) value) last

/-- **Batches and one run cover the same events** if and only if no event of the last window
after a batch is left behind later, and every event of the last window of the one run, unless it
raises, is in the last window after a batch. -/
theorem inBatches_iff_atOnce {payload : DetectionRunRequest} (fresh : start.Fresh)
    (injective : Function.Injective env.sha256) {ruleId : Nat} {rule : SocDetectionRule}
    (selected : (ruleId, rule) ∈ start.selectedRules payload) (counts : rule.Counts)
    (batches : List Batch) (activeBlocklist : List String) (unhashable : Unhashable)
    (now : Instant) :
    (∀ eventId, (start.inBatches env payload batches).CoveredBy ruleId rule eventId ↔
        (start.atOnce env payload batches activeBlocklist unhashable now).CoveredBy ruleId rule
          eventId) ↔
      (∀ before batch after, batches = before ++ batch :: after → ∀ value event,
        start.KeptAfter env payload before batch rule value event →
          start.Remembers env unhashable payload rule (start.seen payload batches) value
            event) ∧
      (start.raises env unhashable payload (start.seen payload batches) = false →
        ∀ value last, rule.QualifiesLast env (groupOf rule (start.seen payload batches) value)
            last →
          ∀ event ∈ rule.windowAt (groupOf rule (start.seen payload batches) value) last,
            ∃ before batch after, batches = before ++ batch :: after ∧
              start.KeptAfter env payload before batch rule value event) := by
  have stored := stored_of_selected selected
  obtain ⟨-, -, -, inBatches⟩ := inBatches_effect payload fresh injective batches
  have atOnce := atOnce_effect payload fresh injective batches activeBlocklist unhashable now
    stored
  have notes := fun list : List Batch => @notes_iff_of_counts env rule counts _
    (pairwise_selectedEvents (start.receive (list.flatMap Batch.events)) payload)
  constructor
  · refine fun same => ⟨?_, ?_⟩
    · rintro before batch after split value event ⟨quiet, last, isLast, inside⟩
      have covered : (start.inBatches env payload batches).CoveredBy ruleId rule event.1 :=
        ⟨value, (inBatches ruleId rule value event.1 stored).mpr ⟨before, batch, after, split,
          quiet, selected, (notes _ _ _ _).mpr ⟨last, isLast, event, inside, rfl⟩⟩⟩
      obtain ⟨other, covers⟩ := (same event.1).mp covered
      obtain ⟨calm, -, noted⟩ := (atOnce other event.1).mp covers
      obtain ⟨final, isFinal, found, among, key⟩ := (notes _ _ _ _).mp noted
      rw [List.append_cons] at split
      subst split
      obtain ⟨rfl, rfl⟩ := eq_of_windows payload _ after inside among key
      exact ⟨calm, (mem_lastWindow_after_iff payload _ after isLast inside).mp
        ⟨final, isFinal, among⟩⟩
    · intro calm value last isLast event inside
      have covered : (start.atOnce env payload batches activeBlocklist unhashable
          now).CoveredBy ruleId rule event.1 :=
        ⟨value, (atOnce value event.1).mpr
          ⟨calm, selected, (notes _ _ _ _).mpr ⟨last, isLast, event, inside, rfl⟩⟩⟩
      obtain ⟨other, covers⟩ := (same event.1).mpr covered
      obtain ⟨before, batch, after, split, quiet, -, noted⟩ :=
        (inBatches ruleId rule other event.1 stored).mp covers
      obtain ⟨latest, isLatest, found, among, key⟩ := (notes _ _ _ _).mp noted
      refine ⟨before, batch, after, split, quiet, latest, ?_⟩
      rw [List.append_cons] at split
      subst split
      obtain ⟨rfl, rfl⟩ := eq_of_windows payload _ after among inside key.symm
      exact ⟨isLatest, among⟩
  · rintro ⟨remembered, kept⟩ eventId
    constructor
    · rintro ⟨value, covers⟩
      obtain ⟨before, batch, after, split, quiet, -, noted⟩ :=
        (inBatches ruleId rule value eventId stored).mp covers
      obtain ⟨last, isLast, event, inside, key⟩ := (notes _ _ _ _).mp noted
      obtain ⟨calm, close⟩ := remembered before batch after split value event
        ⟨quiet, last, isLast, inside⟩
      rw [List.append_cons] at split
      subst split
      obtain ⟨final, isFinal, among⟩ :=
        (mem_lastWindow_after_iff payload _ after isLast inside).mpr close
      exact ⟨value, (atOnce value eventId).mpr
        ⟨calm, selected, (notes _ _ _ _).mpr ⟨final, isFinal, event, among, key⟩⟩⟩
    · rintro ⟨value, covers⟩
      obtain ⟨calm, -, noted⟩ := (atOnce value eventId).mp covers
      obtain ⟨last, isLast, event, inside, key⟩ := (notes _ _ _ _).mp noted
      obtain ⟨before, batch, after, split, quiet, latest, isLatest, among⟩ :=
        kept calm value last isLast event inside
      exact ⟨value, (inBatches ruleId rule value eventId stored).mpr ⟨before, batch, after, split,
        quiet, selected, (notes _ _ _ _).mpr ⟨latest, isLatest, event, among, key⟩⟩⟩

end Batches

/-- **Coverage of bursts.** After any calls, a run covers the bursts of a rule that counts if
and only if no window of the group qualifies more than one window after a burst that is not
covered yet. Running detection after each batch covers the same events as one run if and only
if the same holds of the events that the run after a batch links, and the run after some batch
links each event that the one run links. -/
theorem burst_coverage (env : SocRuntime) (injective : Function.Injective env.sha256)
    (start : SocStore) (fresh : start.Fresh) (payload : DetectionRunRequest) (ruleId : Nat)
    (rule : SocDetectionRule) (selected : (ruleId, rule) ∈ start.selectedRules payload)
    (counts : rule.Counts) (activeBlocklist : List String) (unhashable : Unhashable)
    (now : Instant) :
    (∀ calls, ((final (SocStore.next env) start calls).run env payload activeBlocklist
          unhashable now).CoversBursts env ruleId rule
          ((final (SocStore.next env) start calls).selectedEvents payload) ↔
        ∀ value burst last, rule.Burst env (groupOf rule
            ((final (SocStore.next env) start calls).selectedEvents payload) value) burst →
          burst.getLast? = some last →
          (final (SocStore.next env) start calls).Covers ruleId rule value last.1 ∨
            (final (SocStore.next env) start calls).Remembers env unhashable payload rule
              ((final (SocStore.next env) start calls).selectedEvents payload) value last) ∧
      ∀ batches,
        (∀ eventId, (start.inBatches env payload batches).CoveredBy ruleId rule eventId ↔
          (start.atOnce env payload batches activeBlocklist unhashable now).CoveredBy ruleId
            rule
            eventId) ↔
        (∀ before batch after, batches = before ++ batch :: after → ∀ value event,
          start.KeptAfter env payload before batch rule value event →
            start.Remembers env unhashable payload rule (start.seen payload batches) value
              event) ∧
        (start.raises env unhashable payload (start.seen payload batches) = false →
          ∀ value last, rule.QualifiesLast env
              (groupOf rule (start.seen payload batches) value) last →
            ∀ event ∈ rule.windowAt (groupOf rule (start.seen payload batches) value) last,
              ∃ before batch after, batches = before ++ batch :: after ∧
                start.KeptAfter env payload before batch rule value event) := by
  refine ⟨fun calls => ?_, fun batches =>
    inBatches_iff_atOnce fresh injective selected counts batches activeBlocklist unhashable now⟩
  have named := (fresh.named env).final injective calls
  have stillSelected : (ruleId, rule) ∈
      (final (SocStore.next env) start calls).selectedRules payload := by
    unfold SocStore.selectedRules
    rw [rules_final (fresh.named env) injective]
    exact selected
  exact coversBursts_run_iff named injective stillSelected counts

/-! ## Two bursts -/

def morning : Instant := 1767254400000000

/-- A failed login from an address. -/
def failedLogin (seconds : Int) : SocEvent where
  sourceId := 1
  importId := some 1
  receivedAt := morning
  eventTime := morning + seconds * 1000000
  eventType := "authentication"
  action := some "login"
  outcome := some "failure"
  severity := .medium
  sourceIp := some "192.0.2.7"
  destinationIp := none
  username := some "admin"
  httpMethod := none
  requestPath := none
  statusCode := none
  userAgent := none
  message := none
  normalizedJson := "\x7b\x7d"
  rawEventHash := toString seconds
  rawPreviewRedacted := none
  createdAt := morning

/-- Two failed logins of one address within ten seconds. -/
def failedLoginRule : SocDetectionRule where
  ruleCode := "SOC-001"
  name := "Repeated failed logins"
  description := "Failed logins of one address"
  ruleType := .threshold
  enabled := true
  severity := .high
  confidence := .high
  windowSeconds := 10
  threshold := 2
  groupBy := .sourceIp
  conditions := [("event_types", .arr [.str "authentication"]), ("outcomes", .arr [.str "failure"])]
  window_pos := by decide
  threshold_pos := by decide
  code_clear := by decide

/-- One rule, and no events yet. -/
def quietStore : SocStore where
  events := Table.empty
  rules := Table.empty.insert failedLoginRule
  alerts := Table.empty
  links := Table.empty

theorem fresh_quietStore : quietStore.Fresh := by
  refine ⟨?_, rfl, rfl, rfl⟩
  have only : ∀ ruleId rule, quietStore.rules.get? ruleId = some rule → ruleId = 1 := by
    intro ruleId rule stored
    by_contra other
    rw [quietStore, Table.get?_insert_of_ne _ _ other] at stored
    cases stored
  intro first second one other firstStored secondStored _
  rw [only first one firstStored, only second other secondStored]

/-- The digest of a text is the text, and events have no attributes but columns. -/
def plainSoc : SocRuntime := ⟨id, String.toLower, fun _ _ => none⟩

/-- Every attribute can be hashed. -/
def hashable : Unhashable := fun _ _ => false

def everything : DetectionRunRequest := ⟨[], none, none, none⟩

/-- Two failed logins, and two more after a while. -/
def twoBursts : List Batch :=
  [⟨[failedLogin 0, failedLogin 1], [], hashable, morning⟩,
    ⟨[failedLogin 100, failedLogin 101], [], hashable, morning⟩]

def bothBursts : List SocCall := (twoBursts.flatMap Batch.events).map .ingest

theorem burst_coverage_two :
    (((final (SocStore.next plainSoc) quietStore bothBursts).run plainSoc everything [] hashable
          morning).CoversBursts plainSoc 1 failedLoginRule
          ((final (SocStore.next plainSoc) quietStore bothBursts).selectedEvents everything) ↔
        ∀ value burst last, failedLoginRule.Burst plainSoc (groupOf failedLoginRule
            ((final (SocStore.next plainSoc) quietStore bothBursts).selectedEvents everything)
            value) burst →
          burst.getLast? = some last →
          (final (SocStore.next plainSoc) quietStore bothBursts).Covers 1 failedLoginRule value
              last.1 ∨
            (final (SocStore.next plainSoc) quietStore bothBursts).Remembers plainSoc hashable
              everything
              failedLoginRule
              ((final (SocStore.next plainSoc) quietStore bothBursts).selectedEvents everything)
              value last) ∧
      ((∀ eventId, (quietStore.inBatches plainSoc everything twoBursts).CoveredBy 1
          failedLoginRule eventId ↔
        (quietStore.atOnce plainSoc everything twoBursts [] hashable morning).CoveredBy 1
          failedLoginRule
          eventId) ↔
        (∀ before batch after, twoBursts = before ++ batch :: after → ∀ value event,
          quietStore.KeptAfter plainSoc everything before batch failedLoginRule value event →
            quietStore.Remembers plainSoc hashable everything failedLoginRule
              (quietStore.seen everything twoBursts) value event) ∧
        (quietStore.raises plainSoc hashable everything (quietStore.seen everything twoBursts) =
            false →
          ∀ value last, failedLoginRule.QualifiesLast plainSoc
              (groupOf failedLoginRule (quietStore.seen everything twoBursts) value) last →
            ∀ event ∈ failedLoginRule.windowAt
                (groupOf failedLoginRule (quietStore.seen everything twoBursts) value) last,
              ∃ before batch after, twoBursts = before ++ batch :: after ∧
                quietStore.KeptAfter plainSoc everything before batch failedLoginRule value
                  event)) := by
  have both := burst_coverage plainSoc Function.injective_id quietStore fresh_quietStore everything
    1 failedLoginRule (List.mem_singleton_self _) (.inl rfl) [] hashable morning
  exact ⟨both.1 bothBursts, both.2 twoBursts⟩

theorem SocStore.Covers.has_link {store : SocStore} {ruleId : Nat} {rule : SocDetectionRule}
    {value : String} {eventId : Nat} (covers : store.Covers ruleId rule value eventId) :
    eventId ∈ store.links.rows.map fun row => row.2.eventId := by
  obtain ⟨alertId, alert, -, -, -, member⟩ := covers
  obtain ⟨link, selected, rfl⟩ := List.mem_map.mp member
  obtain ⟨row, inside, rfl⟩ := List.mem_map.mp (List.mem_of_mem_filter selected)
  exact List.mem_map.mpr ⟨row, inside, rfl⟩

/-- **The first of two bursts raises no alert** when detection is run once, and it does when
detection is run after each burst. -/
theorem first_burst_forgotten :
    ¬ (quietStore.atOnce plainSoc everything twoBursts [] hashable morning).CoversBursts plainSoc 1
      failedLoginRule
        (quietStore.seen everything twoBursts) ∧
      ¬ (quietStore.atOnce plainSoc everything twoBursts [] hashable morning).CoveredBy 1
        failedLoginRule
        2 ∧
      (quietStore.inBatches plainSoc everything twoBursts).CoveredBy 1 failedLoginRule 2 := by
  have unlinked : 2 ∉ (quietStore.atOnce plainSoc everything twoBursts [] hashable
    morning).links.rows.map
      fun row => row.2.eventId := by
    decide +kernel
  refine ⟨fun covers => ?_, fun covered => ?_, ?_⟩
  · refine unlinked (covers "192.0.2.7" [(1, failedLogin 0), (2, failedLogin 1)]
      (2, failedLogin 1) ⟨?_, ?_, ?_, ?_⟩ rfl).has_link
    · have group : groupOf failedLoginRule (quietStore.seen everything twoBursts) "192.0.2.7" =
          [(1, failedLogin 0), (2, failedLogin 1)] ++
            [(3, failedLogin 100), (4, failedLogin 101)] := by
        decide +kernel
      rw [group]
      exact List.sublist_append_left _ _
    · decide +kernel
    · decide +kernel
    · intro fewer sublist reached
      refine sublist.eq_of_length_le ?_
      exact of_decide_eq_true reached
  · obtain ⟨value, covers⟩ := covered
    exact unlinked covers.has_link
  · have reads : ((quietStore.inBatches plainSoc everything twoBursts).alerts.get? 1).map
        (fun alert => (alert.ruleId, alert.correlationKey)) = some (1, "source_ip:192.0.2.7") := by
      decide +kernel
    obtain ⟨alert, stored, same⟩ := Option.map_eq_some_iff.mp reads
    obtain ⟨ofRule, key⟩ := Prod.mk.inj same
    exact ⟨"192.0.2.7", 1, alert, stored, ofRule, key, by decide +kernel⟩

end ThreatScope.SocMonitor
