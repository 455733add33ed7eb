import ThreatScope.Detection.Events
import ThreatScope.Library.Selections
import ThreatScope.Library.Traversals

/-!
# Historical executions

`_suppressed` and `execute` of `detection_engineering/execution_service.py`. An execution
evaluates its rules on stored events. A match is stored once under a fingerprint of the rule,
its version and the event: a new one is looked up among the suppressions, a known one is
counted unless it was reviewed as a false positive. The session does not flush on its own, so
that a lookup sees the rows from before the execution only.

The second of two executions finds known matches where the first one stored new ones, and
counts them alike. Suppressions are counted for new matches only, and the second execution
reports none (`execute_again_iff`).

Left out are the texts and scores that a match also stores, which no lookup reads.
-/

set_option autoImplicit false

namespace ThreatScope.Detection

open Library AccessControl

/-! ## Rows -/

/-- A row of `detection_rules`, with `normalized_condition_json` as it is read. -/
structure DetectionRule where
  currentVersion : Nat
  sourceModule : Option String
  severity : String
  confidence : Int
  normalized : NormalizedRule
  lastExecutedAt : Option Instant

/-- A row of `detection_rule_pack_entries`. -/
structure DetectionRulePackEntry where
  packId : Nat
  ruleId : Nat

/-- The disposition of a match. -/
inductive MatchStatus where
  | new
  | suppressed
  | reviewing
  | confirmed
  | falsePositive
  | acceptedRisk
  | escalated
deriving DecidableEq

/-- A row of `detection_matches`. -/
structure DetectionMatch where
  executionId : Nat
  ruleId : Nat
  ruleVersion : Nat
  sourceEntityId : Nat
  eventTimestamp : Instant
  matchedFields : List (String × Value)
  severity : String
  confidence : Int
  status : MatchStatus
  fingerprint : String

/-- A row of `detection_suppressions`, with `field_conditions_json` as it is read. -/
structure DetectionSuppression where
  ruleId : Option Nat
  conditions : Json
  validFrom : Option Instant
  validUntil : Option Instant
  enabled : Bool

/-- A row of `detection_executions`. -/
structure DetectionExecution where
  ruleId : Option Nat
  packId : Option Nat
  recordsScanned : Nat
  matchesFound : Nat
  suppressedMatches : Nat
  completedAt : Instant

/-- The tables that an execution reads and writes. -/
structure DetectionStore where
  rules : Table DetectionRule
  packEntries : Table DetectionRulePackEntry
  events : Table SocEvent
  suppressions : Table DetectionSuppression
  matched : Table DetectionMatch
  executions : Table DetectionExecution

/-- The parameters of an execution. -/
structure ExecutionCreate where
  ruleIds : List Nat
  packId : Option Nat
  sourceModules : List String
  startAt : Option Instant
  endAt : Option Instant
  maximumRecords : Nat

/-- When an execution reads the clock: at the lookup of a rule and an event, at the end of a
rule, and at its own end. -/
structure ExecutionClock where
  lookup : Nat → Nat → Instant
  ruleEnd : Nat → Instant
  completed : Instant

/-! ## Suppressions -/

section Execution

variable (env : DetectionRuntime) (digest : String → String)

/-- `bool(value)`. -/
def Value.truthy : Value → Bool
  | .json value => value.truthy
  | .datetime _ => true

/-- `str(event.get(name) or "")`. -/
def fieldText (event : Event) (name : String) : Except String String :=
  if (event name).truthy then (event name).text env else .ok ""

/-- Whether an event has the values of all conditions, up to the first that it has not. -/
def conditionsHold (event : Event) : Dict → Except String Bool
  | [] => .ok true
  | (key, expected) :: rest =>
    match fieldText env event (canonicalField key), textOf env.py expected with
    | .ok actual, .ok text =>
      if env.py.casefold actual = env.py.casefold text then
        conditionsHold event rest
      else .ok false
    | _, _ => .error "ValueError"

/-- Whether a moment lies outside the validity of a suppression. -/
def DetectionSuppression.outside (item : DetectionSuppression) (moment : Instant) : Bool :=
  item.validFrom.any (fun start => moment < start) || item.validUntil.any fun stop => stop < moment

/-- The loop of `_suppressed`. Conditions that are no object have no items. -/
def firstSuppression (moment : Instant) (event : Event) :
    List (Nat × DetectionSuppression) → Except String (Option Nat)
  | [] => .ok none
  | (id, item) :: rest =>
    if item.outside moment then firstSuppression moment event rest
    else
      match item.conditions with
      | .obj conditions =>
        match conditionsHold env event conditions with
        | .error message => .error message
        | .ok true => .ok (some id)
        | .ok false => firstSuppression moment event rest
      | _ => .error "AttributeError"

def suppressed (store : DetectionStore) (moment : Instant) (ruleId : Nat) (event : Event) :
    Except String (Option Nat) :=
  firstSuppression env moment event
    (store.suppressions.rows.filter fun row =>
      row.2.enabled && (row.2.ruleId.isNone || row.2.ruleId == some ruleId))

/-! ## Executions -/

/-- The rules of an execution, by their keys. -/
def selectedRules (store : DetectionStore) (payload : ExecutionCreate) :
    List (Nat × DetectionRule) :=
  let packed := match payload.packId with
    | some pack =>
      (store.packEntries.rows.filter fun row => row.2.packId == pack).map fun row => row.2.ruleId
    | none => []
  store.rules.rows.filter fun row => (payload.ruleIds ++ packed).contains row.1

/-- The events of an execution: the earliest of those in its period. -/
def selectedEvents (store : DetectionStore) (payload : ExecutionCreate) : List (Nat × SocEvent) :=
  if payload.sourceModules.contains "soc" then
    (((store.events.rows.filter fun row =>
      payload.startAt.all (fun start => start ≤ row.2.eventTime) &&
        payload.endAt.all fun stop => row.2.eventTime ≤ stop).insertionSort fun first second =>
          first.2.eventTime < second.2.eventTime ∨
            first.2.eventTime = second.2.eventTime ∧ first.1 ≤ second.1).take
              payload.maximumRecords)
  else []

/-- The fingerprint of a rule and an event. -/
def matchFingerprint (ruleId version eventId : Nat) : String :=
  digest (toString ruleId ++ ":" ++ toString version ++ ":soc:soc_event:" ++ toString eventId)

/-- What an execution makes of a rule and an event. -/
inductive Finding where
  | unmatched
  /-- A known match that was reviewed as a false positive. -/
  | dismissed
  | known
  | fresh (row : DetectionMatch)

/-- The matches that a finding adds to `matches`. -/
def Finding.counted : Finding → Bool
  | .known => true
  | .fresh _ => true
  | _ => false

/-- The row that a finding adds. -/
def Finding.row? : Finding → Option DetectionMatch
  | .fresh row => some row
  | _ => none

/-- Whether a rule reads other modules only. -/
def DetectionRule.elsewhere (rule : DetectionRule) : Bool :=
  rule.sourceModule.any fun name => name != "" && !(["soc", "soc_monitor"].contains name)

/-- The body of the loop over the rules and the events. -/
def findingOf (store : DetectionStore) (clock : ExecutionClock) (executionId : Nat)
    (pair : (Nat × DetectionRule) × Nat × SocEvent) : Except String Finding :=
  let rule := pair.1.2
  let source := pair.2.2
  match normalizeSocEvent env.py pair.2.1 source with
  | .error message => .error message
  | .ok event =>
    if rule.elsewhere then .ok .unmatched
    else
      match evaluate env rule.normalized event with
      | .error message => .error message
      | .ok evaluation =>
        if !evaluation.result then .ok .unmatched
        else
          let fingerprint := matchFingerprint digest pair.1.1 rule.currentVersion pair.2.1
          match store.matched.first? fun _ row => row.fingerprint == fingerprint with
          | some existing =>
            .ok (if existing.2.status = .falsePositive then .dismissed else .known)
          | none =>
            match suppressed env store (clock.lookup pair.1.1 pair.2.1) pair.1.1 event with
            | .error message => .error message
            | .ok suppression =>
              .ok (.fresh
                { executionId, ruleId := pair.1.1, ruleVersion := rule.currentVersion
                  sourceEntityId := pair.2.1, eventTimestamp := source.eventTime
                  matchedFields := evaluation.matched, severity := rule.severity
                  confidence := rule.confidence
                  status := if suppression.isSome then .suppressed else .new
                  fingerprint })

/-- The rules and events in the order of the loops. -/
def visited (store : DetectionStore) (payload : ExecutionCreate) :
    List ((Nat × DetectionRule) × Nat × SocEvent) :=
  (selectedRules store payload).flatMap fun rule =>
    (selectedEvents store payload).map fun source => (rule, source)

/-- `execute`: the key of its row and the tables behind its commit. An exception, also that of
two new matches with one fingerprint, takes everything back. -/
def execute (store : DetectionStore) (payload : ExecutionCreate) (clock : ExecutionClock) :
    Except String (DetectionExecution × DetectionStore) :=
  let rules := selectedRules store payload
  match (visited store payload).mapM
      (findingOf env digest store clock store.executions.nextKey) with
  | .error message => .error message
  | .ok findings =>
    let rows := findings.filterMap Finding.row?
    if ¬(rows.map DetectionMatch.fingerprint).Nodup then .error "IntegrityError"
    else
      let execution : DetectionExecution :=
        { ruleId := match rules with
            | [rule] => some rule.1
            | _ => none
          packId := payload.packId
          recordsScanned := (selectedEvents store payload).length
          matchesFound := findings.countP Finding.counted
          suppressedMatches := rows.countP fun row => row.status = .suppressed
          completedAt := clock.completed }
      .ok (execution,
        { store with
          rules := store.rules.update fun key rule =>
            if rules.any fun row => row.1 == key then
              { rule with lastExecutedAt := some (clock.ruleEnd key) }
            else rule
          matched := rows.foldl Table.insert store.matched
          executions := store.executions.insert execution })

end Execution

/-! ## Stored matches -/

section Stored

variable {table : Table DetectionMatch} {rows : List DetectionMatch} {test : DetectionMatch → Bool}

/-- Rows that are added never hide the row that is found first. -/
theorem first?_foldl_insert_of_some {found : Nat × DetectionMatch}
    (old : table.first? (fun _ row => test row) = some found) :
    (rows.foldl Table.insert table).first? (fun _ row => test row) = some found := by
  induction rows generalizing table with
  | nil => exact old
  | cons row rest ih =>
    refine ih ?_
    rw [Table.first?_insert, old]
    rfl

theorem first?_foldl_insert_of_none (none : table.first? (fun _ row => test row) = none)
    {row : DetectionMatch} (inside : row ∈ rows) (holds : test row = true) :
    ∃ found ∈ rows, ∃ key,
      (rows.foldl Table.insert table).first? (fun _ row => test row) = some (key, found) := by
  induction rows generalizing table with
  | nil => cases inside
  | cons first rest ih =>
    have inserted := Table.first?_insert table first (fun _ row => test row)
    rw [none, Option.none_or] at inserted
    by_cases here : test first = true
    · rw [if_pos here] at inserted
      refine ⟨first, List.mem_cons_self, table.nextKey, ?_⟩
      rw [List.foldl_cons]
      exact first?_foldl_insert_of_some inserted
    · rw [if_neg here] at inserted
      have later : row ∈ rest := by
        rcases List.mem_cons.mp inside with rfl | later
        · exact absurd holds here
        · exact later
      obtain ⟨found, behind, key, same⟩ := ih inserted later
      exact ⟨found, List.mem_cons_of_mem _ behind, key, same⟩

end Stored

/-! ## The second execution -/

section Again

variable {env : DetectionRuntime} {digest : String → String} {store : DetectionStore}
  {payload : ExecutionCreate} {clock : ExecutionClock} {executionId : Nat}

/-- What the second execution finds where the first one has found something. -/
def Finding.again : Finding → Finding
  | .fresh _ => .known
  | finding => finding

/-- A rule and an event behind an execution, which sets the time of the rule. -/
def touched (moment : Nat → Option Instant → Option Instant)
    (pair : (Nat × DetectionRule) × Nat × SocEvent) : (Nat × DetectionRule) × Nat × SocEvent :=
  ((pair.1.1, { pair.1.2 with lastExecutedAt := moment pair.1.1 pair.1.2.lastExecutedAt }), pair.2)

/-- A new match with a suppression: no row has its fingerprint yet. -/
def SuppressedNow (env : DetectionRuntime) (digest : String → String) (store : DetectionStore)
    (clock : ExecutionClock) (pair : (Nat × DetectionRule) × Nat × SocEvent) : Prop :=
  ∃ event evaluation id,
    normalizeSocEvent env.py pair.2.1 pair.2.2 = .ok event ∧
      pair.1.2.elsewhere = false ∧
      evaluate env pair.1.2.normalized event = .ok evaluation ∧ evaluation.result = true ∧
      store.matched.first? (fun _ row => row.fingerprint ==
        matchFingerprint digest pair.1.1 pair.1.2.currentVersion pair.2.1) = none ∧
      suppressed env store (clock.lookup pair.1.1 pair.2.1) pair.1.1 event = .ok (some id)

/-- **A new match** is either new or suppressed, the latter exactly with a suppression. -/
theorem fresh_status {pair : (Nat × DetectionRule) × Nat × SocEvent} {row : DetectionMatch}
    (found : findingOf env digest store clock executionId pair = .ok (.fresh row)) :
    row.status ≠ .falsePositive ∧
      (row.status = .suppressed ↔ SuppressedNow env digest store clock pair) := by
  unfold findingOf at found
  simp only at found
  split at found
  · cases found
  rename_i event normalized
  split at found
  · cases found
  rename_i here
  split at found
  · cases found
  rename_i evaluation evaluated
  split at found
  · cases found
  rename_i holds
  split at found
  · split at found
    · cases found
    · cases found
  · rename_i fresh
    split at found
    · cases found
    · rename_i suppression looked
      cases found
      simp only
      cases suppression with
      | none =>
        refine ⟨by decide, iff_of_false (by decide) ?_⟩
        rintro ⟨other, _, id, same, -, -, -, -, found⟩
        rw [normalized] at same
        cases same
        rw [looked] at found
        cases found
      | some id =>
        refine ⟨by simp, iff_of_true (by simp) ?_⟩
        exact ⟨event, evaluation, id, normalized, by simpa using here, evaluated,
          by simpa using holds, fresh, looked⟩

theorem exists_fresh {pair : (Nat × DetectionRule) × Nat × SocEvent}
    (new : SuppressedNow env digest store clock pair) :
    ∃ row, findingOf env digest store clock executionId pair = .ok (.fresh row) := by
  obtain ⟨event, evaluation, id, normalized, here, evaluated, holds, fresh, looked⟩ := new
  unfold findingOf
  simp only [normalized, here, evaluated, holds, fresh, looked, Bool.not_true, Bool.false_eq_true,
    if_false, Except.ok.injEq, Finding.fresh.injEq, exists_eq']

/-- **The second time** a new match is a known one, and nothing else changes. -/
theorem findingOf_again {rows : List DetectionMatch}
    (kept : ∀ row ∈ rows, row.status ≠ .falsePositive) {after : DetectionStore}
    (stored : after.matched = rows.foldl Table.insert store.matched)
    {pair : (Nat × DetectionRule) × Nat × SocEvent} {finding : Finding}
    (listed : ∀ row, finding = .fresh row → row ∈ rows)
    (found : findingOf env digest store clock executionId pair = .ok finding)
    (later : ExecutionClock) (other : Nat) (moment : Nat → Option Instant → Option Instant) :
    findingOf env digest after later other (touched moment pair) = .ok finding.again := by
  unfold findingOf touched at *
  simp only [stored] at found ⊢
  cases normalized : normalizeSocEvent env.py pair.2.1 pair.2.2 with
  | error message =>
    simp only [normalized] at found
    cases found
  | ok event =>
    simp only [normalized] at found ⊢
    have same : ({ pair.1.2 with lastExecutedAt := moment pair.1.1 pair.1.2.lastExecutedAt } :
        DetectionRule).elsewhere = pair.1.2.elsewhere := rfl
    rw [same]
    split at found
    · rename_i elsewhere
      cases found
      rw [if_pos elsewhere]
      rfl
    rename_i here
    rw [if_neg here]
    cases evaluated : evaluate env pair.1.2.normalized event with
    | error message =>
      simp only [evaluated] at found
      cases found
    | ok evaluation =>
      simp only [evaluated] at found ⊢
      split at found
      · rename_i fails
        cases found
        rw [if_pos fails]
        rfl
      rename_i holds
      rw [if_neg holds]
      split at found
      · rename_i existing old
        cases found
        rw [first?_foldl_insert_of_some old]
        simp only
        split
        · rfl
        · rfl
      · rename_i fresh
        split at found
        · cases found
        · cases found
          obtain ⟨row, inside, key, again⟩ :=
            first?_foldl_insert_of_none fresh (listed _ rfl) (beq_iff_eq.mpr rfl)
          rw [again]
          simp only [if_neg (kept row inside)]
          rfl

theorem ended (ran : Prop) [Decidable ran] (rule : DetectionRule) (moment : Instant) :
    (if ran then { rule with lastExecutedAt := some moment } else rule) =
      { rule with lastExecutedAt := if ran then some moment else rule.lastExecutedAt } := by
  by_cases done : ran
  · rw [if_pos done, if_pos done]
  · rw [if_neg done, if_neg done]

theorem of_execute {execution : DetectionExecution} {after : DetectionStore}
    (returned : execute env digest store payload clock = .ok (execution, after)) :
    ∃ findings, (visited store payload).mapM
        (findingOf env digest store clock store.executions.nextKey) = .ok findings ∧
      execution.matchesFound = findings.countP Finding.counted ∧
      execution.suppressedMatches =
        (findings.filterMap Finding.row?).countP (fun row => row.status = .suppressed) ∧
      after.matched = (findings.filterMap Finding.row?).foldl Table.insert store.matched ∧
      ∃ moment, visited after payload = (visited store payload).map (touched moment) := by
  unfold execute at returned
  simp only at returned
  split at returned
  · cases returned
  rename_i findings found
  split at returned
  · cases returned
  cases returned
  refine ⟨findings, found, rfl, rfl, rfl, fun key last =>
    if (selectedRules store payload).any (fun row => row.1 == key) then some (clock.ruleEnd key)
    else last, ?_⟩
  unfold visited touched selectedRules selectedEvents Table.update
  simp only
  rw [List.filter_map, List.flatMap_map, List.map_flatMap]
  refine congrArg (fun read => List.flatMap read _) (funext fun rule => ?_)
  rw [List.map_map]
  refine congrArg (fun read => List.map read _) (funext fun source => ?_)
  simp only [Function.comp, ended]

theorem mapM_again {rows : List DetectionMatch}
    (kept : ∀ row ∈ rows, row.status ≠ .falsePositive) {after : DetectionStore}
    (stored : after.matched = rows.foldl Table.insert store.matched)
    {pairs : List ((Nat × DetectionRule) × Nat × SocEvent)} {findings : List Finding}
    (listed : ∀ row, .fresh row ∈ findings → row ∈ rows)
    (found : pairs.mapM (findingOf env digest store clock executionId) = .ok findings)
    (later : ExecutionClock) (other : Nat) (moment : Nat → Option Instant → Option Instant) :
    (pairs.map (touched moment)).mapM (findingOf env digest after later other) =
      .ok (findings.map Finding.again) := by
  rw [mapM_eq_ok_iff] at found ⊢
  rw [List.forall₂_map_left_iff, List.forall₂_map_right_iff]
  induction found with
  | nil => exact .nil
  | cons same _ ih =>
    refine .cons ?_ (ih fun row inside => listed row (List.mem_cons_of_mem _ inside))
    exact findingOf_again kept stored
      (fun row equal => listed row (equal ▸ List.mem_cons_self)) same later other moment

/-- **Executing again** stores no match and counts the same ones; the suppressed ones agree
exactly when the first execution had none. For every store, parameters and first execution that
returns, the second one returns, leaves the matches as they are and reports the same numbers
exactly when the first one met no suppression for a match that was not stored yet. -/
theorem execute_again_iff {execution : DetectionExecution} {after : DetectionStore}
    (returned : execute env digest store payload clock = .ok (execution, after))
    (later : ExecutionClock) :
    (∃ again final, execute env digest after payload later = .ok (again, final) ∧
        final.matched = after.matched ∧ again.matchesFound = execution.matchesFound ∧
        again.suppressedMatches = execution.suppressedMatches) ↔
      ∀ pair ∈ visited store payload, ¬SuppressedNow env digest store clock pair := by
  obtain ⟨findings, found, total, suppressions, stored, moment, pairs⟩ := of_execute returned
  have row_iff (row : DetectionMatch) :
      row ∈ findings.filterMap Finding.row? ↔ .fresh row ∈ findings := by
    rw [List.mem_filterMap]
    constructor
    · rintro ⟨finding, inside, same⟩
      cases finding with
      | fresh other =>
        cases same
        exact inside
      | _ => cases same
    · exact fun inside => ⟨_, inside, rfl⟩
  have status (row : DetectionMatch) (inside : row ∈ findings.filterMap Finding.row?) :=
    ((mem_mapM_iff found).mp ((row_iff row).mp inside)).imp fun pair both =>
      And.intro both.1 (fresh_status both.2)
  have kept (row : DetectionMatch) (inside : row ∈ findings.filterMap Finding.row?) :
      row.status ≠ .falsePositive := by
    obtain ⟨pair, -, dispositions, -⟩ := status row inside
    exact dispositions
  have second := mapM_again kept stored (fun row => (row_iff row).mpr) found later
    after.executions.nextKey moment
  have none_new : (findings.map Finding.again).filterMap Finding.row? = [] := by
    rw [List.filterMap_eq_nil_iff]
    intro finding inside
    obtain ⟨first, -, rfl⟩ := List.mem_map.mp inside
    cases first with
    | _ => rfl
  have counted : (findings.map Finding.again).countP Finding.counted =
      findings.countP Finding.counted := by
    rw [List.countP_map]
    refine List.countP_congr fun finding _ => ?_
    cases finding with
    | _ => rfl
  have again : ∃ again final, execute env digest after payload later = .ok (again, final) ∧
      final.matched = after.matched ∧ again.matchesFound = execution.matchesFound ∧
      again.suppressedMatches = 0 := by
    unfold execute
    rw [pairs, second]
    simp only [none_new, List.map_nil, List.nodup_nil, not_true_eq_false, if_false,
      List.countP_nil, List.foldl_nil, counted, total]
    exact ⟨_, _, rfl, rfl, rfl, rfl⟩
  have agree : execution.suppressedMatches = 0 ↔
      ∀ pair ∈ visited store payload, ¬SuppressedNow env digest store clock pair := by
    rw [suppressions, List.countP_eq_zero]
    constructor
    · intro none pair inside new
      obtain ⟨row, fresh⟩ := @exists_fresh env digest store clock store.executions.nextKey _ new
      have listed := (mem_mapM_iff found).mpr ⟨pair, inside, fresh⟩
      exact none row ((row_iff row).mpr listed) (decide_eq_true ((fresh_status fresh).2.mpr new))
    · intro none row inside suppressedRow
      obtain ⟨pair, listed, -, same⟩ := status row inside
      exact none pair listed (same.mp (of_decide_eq_true suppressedRow))
  rw [← agree]
  obtain ⟨report, final, same, matched, matches_, zero⟩ := again
  constructor
  · rintro ⟨again, other, alsoSame, -, -, equal⟩
    cases same.symm.trans alsoSame
    exact equal.symm.trans zero
  · intro none
    exact ⟨report, final, same, matched, matches_, zero.trans none.symm⟩

end Again

/-! ## Two stores -/

/-- A store with a rule on events that have an action, and an event with one. -/
def loginStore (suppressions : Table DetectionSuppression) : DetectionStore where
  rules := Table.empty.insert
    { currentVersion := 1, sourceModule := none, severity := "medium", confidence := 50
      normalized := ⟨[("seen", [⟨"event.action", .exists, .bool true, false, false⟩])], "seen"⟩
      lastExecutedAt := none }
  packEntries := Table.empty
  events := Table.empty.insert
    { eventTime := 0, eventType := "authentication", action := some "login", outcome := none
      severity := "low", sourceIp := none, destinationIp := none, username := none
      httpMethod := none, requestPath := none, statusCode := none, message := none
      normalized := none }
  suppressions := suppressions
  matched := Table.empty
  executions := Table.empty

/-- One rule on all stored events. -/
def loginPayload : ExecutionCreate where
  ruleIds := [1]
  packId := none
  sourceModules := ["soc"]
  startAt := none
  endAt := none
  maximumRecords := 1000

/-- A clock that stands still. -/
def stillClock : ExecutionClock := ⟨fun _ _ => 0, fun _ => 0, 0⟩

theorem login_executed_again :
    ∃ execution after again final,
      execute asciiRuntime id (loginStore Table.empty) loginPayload stillClock =
        .ok (execution, after) ∧
      execute asciiRuntime id after loginPayload stillClock = .ok (again, final) ∧
      final.matched = after.matched ∧ again.matchesFound = execution.matchesFound ∧
      again.suppressedMatches = execution.suppressedMatches := by
  obtain ⟨⟨execution, after⟩, returned⟩ := exists_of_toBool (x := execute asciiRuntime id
    (loginStore Table.empty) loginPayload stillClock) (by decide +kernel)
  obtain ⟨again, final, same⟩ := (execute_again_iff returned stillClock).mpr (by
    rintro pair - ⟨event, evaluation, suppression, -, -, -, -, -, looked⟩
    cases looked)
  exact ⟨execution, after, again, final, returned, same⟩

theorem login_suppressed_once :
    ¬ ∀ (env : DetectionRuntime) (digest : String → String) (store : DetectionStore)
      (payload : ExecutionCreate) (clock later : ExecutionClock) (execution : DetectionExecution)
      (after : DetectionStore),
      execute env digest store payload clock = .ok (execution, after) →
      (∀ row ∈ after.matched.rows, row.2.status ≠ .falsePositive) →
      ∃ again final, execute env digest after payload later = .ok (again, final) ∧
        final.matched = after.matched ∧ again.matchesFound = execution.matchesFound ∧
        again.suppressedMatches = execution.suppressedMatches := by
  intro repeated
  let store := loginStore (Table.empty.insert
    ⟨none, .obj [("event.action", .str "login")], none, none, true⟩)
  have reports : ((execute asciiRuntime id store loginPayload stillClock >>= fun first =>
      execute asciiRuntime id first.2 loginPayload stillClock >>= fun second =>
        .ok (first.1.suppressedMatches, second.1.suppressedMatches)).toOption) = some (1, 0) := by
    decide +kernel
  obtain ⟨⟨execution, after⟩, returned⟩ := exists_of_toBool (x := execute asciiRuntime id
    store loginPayload stillClock) (by decide +kernel)
  have dispositions : ((execute asciiRuntime id store loginPayload stillClock).toOption.map
      fun first => first.2.matched.rows.all fun row => row.2.status ≠ .falsePositive) =
        some true := by decide +kernel
  rw [returned] at dispositions
  have none_dismissed (row : Nat × DetectionMatch) (inside : row ∈ after.matched.rows) :
      row.2.status ≠ .falsePositive :=
    of_decide_eq_true (List.all_eq_true.mp (Option.some.inj dispositions) row inside)
  obtain ⟨again, final, same, -, -, equal⟩ := repeated asciiRuntime id store loginPayload
    stillClock stillClock execution after returned none_dismissed
  simp only [returned, same, bind, Except.bind, Except.toOption, Option.some.injEq,
    Prod.mk.injEq] at reports
  omega

end ThreatScope.Detection
