import ThreatScope.Library.Separated
import ThreatScope.SocMonitor.Correlation

/-!
# What a rule notes, and its alerts

A rule reads one stream of events, and yet every value it groups by has its own stream: what
is noted under a value is the last verdict over the events of that value
(`get?_qualifyingWindows`). For a rule that counts, the verdict at an event looks at the
events of the value that lie at most one window before it, so that what is noted is the
window of the last event at which enough of them are there
(`mem_qualifyingWindows_iff_of_counts`).
-/

set_option autoImplicit false

namespace ThreatScope.SocMonitor

open Library AccessControl

/-! ## The order of events -/

/-- An event comes before another one. -/
def StoredEvent.Earlier (first second : StoredEvent) : Prop :=
  first.time < second.time ∨ first.time = second.time ∧ first.1 < second.1

theorem StoredEvent.Earlier.le {first second : StoredEvent} (earlier : first.Earlier second) :
    eventLe first second := by
  rcases earlier with before | ⟨same, before⟩
  · exact .inl before
  · exact .inr ⟨same, before.le⟩

theorem StoredEvent.Earlier.not_le {first second : StoredEvent} (earlier : first.Earlier second) :
    ¬ eventLe second first := by
  unfold StoredEvent.Earlier at earlier
  unfold eventLe
  omega

theorem eventLe_refl (event : StoredEvent) : eventLe event event := .inr ⟨rfl, le_rfl⟩

theorem eventLe.time_le {first second : StoredEvent} (le : eventLe first second) :
    first.time ≤ second.time := by
  unfold eventLe at le
  omega

instance : IsTrans StoredEvent eventLe :=
  ⟨fun first second third one two => by
    unfold eventLe at one two ⊢
    omega⟩

instance : Std.Total eventLe :=
  ⟨fun first second => by
    unfold eventLe
    omega⟩

instance : Std.Antisymm StoredEvent.Earlier :=
  ⟨fun _ _ one two => absurd two.le one.not_le⟩

theorem pairwise_selectedEvents (store : SocStore) (payload : DetectionRunRequest) :
    (store.selectedEvents payload).Pairwise StoredEvent.Earlier := by
  have sorted : (store.selectedEvents payload).Pairwise eventLe := List.pairwise_insertionSort _ _
  have keys : ((store.selectedEvents payload).map Prod.fst).Nodup := by
    refine ((List.perm_insertionSort _ _).map Prod.fst).nodup_iff.mpr ?_
    exact (List.filter_sublist.map Prod.fst).nodup store.events.keys_nodup
  have apart : (store.selectedEvents payload).Pairwise fun first second => first.1 ≠ second.1 :=
    List.pairwise_map.mp keys
  refine (sorted.and apart).imp fun {first second} both => ?_
  obtain ⟨le, distinct⟩ := both
  unfold eventLe at le
  unfold StoredEvent.Earlier
  omega

theorem mem_selectedEvents_iff {store : SocStore} {payload : DetectionRunRequest}
    {event : StoredEvent} :
    event ∈ store.selectedEvents payload ↔ store.events.get? event.1 = some event.2 ∧
      (∀ source ∈ payload.sourceId, source = 0 ∨ event.2.sourceId = source) ∧
      (∀ start ∈ payload.startTime, start ≤ event.2.eventTime) ∧
      ∀ stop ∈ payload.endTime, event.2.eventTime ≤ stop := by
  unfold SocStore.selectedEvents
  rw [List.mem_insertionSort, List.mem_filter, Table.get?_eq_some_iff]
  simp [Option.all_eq_true, and_assoc]

/-! ## One stream for each value -/

/-- The events that a rule puts into the windows of a value. -/
def groupEvents (rule : SocDetectionRule) (events : List StoredEvent)
    (activeBlocklist : List String) (value : String) : List StoredEvent :=
  (events.filter fun event => rule.accepts activeBlocklist event.2).filter fun event =>
    decide (groupValue event.2 rule.groupBy = value)

theorem pairwise_groupEvents {rule : SocDetectionRule} {events : List StoredEvent}
    (ordered : events.Pairwise StoredEvent.Earlier) (activeBlocklist : List String)
    (value : String) :
    (groupEvents rule events activeBlocklist value).Pairwise StoredEvent.Earlier :=
  (ordered.filter _).filter _

/-- What a scan has under a value: the window, and what was noted. -/
def Scan.read (scan : Scan) (value : String) : List StoredEvent × Option (List StoredEvent) :=
  ((scan.groups.get? value).getD [], scan.results.get? value)

theorem read_next_self (env : SocRuntime) (rule : SocDetectionRule) (scan : Scan)
    (event : StoredEvent) :
    (scan.next env rule event).read (groupValue event.2 rule.groupBy) =
      judge StoredEvent.time rule.width (rule.verdict env)
        (scan.read (groupValue event.2 rule.groupBy)) event := by
  unfold Scan.next Scan.read judge
  dsimp only
  rw [Dictionary.get?_set_self, Option.getD_some]
  cases rule.verdict env (slide StoredEvent.time rule.width
      ((scan.groups.get? (groupValue event.2 rule.groupBy)).getD []) event) event with
  | none => rw [Option.none_or]
  | some noted => rw [Dictionary.get?_set_self, Option.some_or]

theorem read_next_of_ne (env : SocRuntime) (rule : SocDetectionRule) (scan : Scan)
    (event : StoredEvent) (other : String) (apart : groupValue event.2 rule.groupBy ≠ other) :
    (scan.next env rule event).read other = scan.read other := by
  unfold Scan.next Scan.read
  dsimp only
  rw [Dictionary.get?_set_of_ne _ _ apart]
  cases rule.verdict env (slide StoredEvent.time rule.width
      ((scan.groups.get? (groupValue event.2 rule.groupBy)).getD []) event) event with
  | none => rfl
  | some noted => rw [Dictionary.get?_set_of_ne _ _ apart]

/-- **Every value on its own.** What is noted under a value is the last verdict over the
events of that value. -/
theorem get?_qualifyingWindows (env : SocRuntime) (rule : SocDetectionRule)
    (events : List StoredEvent) (activeBlocklist : List String) (value : String) :
    (qualifyingWindows env rule events activeBlocklist).get? value =
      lastVerdict StoredEvent.time rule.width (rule.verdict env)
        (groupEvents rule events activeBlocklist value) := by
  have split := Dictionary.read_foldl Scan.read (fun _ => True) value
    (events.filter fun event => rule.accepts activeBlocklist event.2)
    (fun _ _ _ _ => trivial) (fun event _ scan _ => read_next_self env rule scan event)
    (fun event _ scan _ => read_next_of_ne env rule scan event) ⟨[], []⟩ trivial
  exact congrArg Prod.snd split

theorem nodup_qualifyingWindows (env : SocRuntime) (rule : SocDetectionRule)
    (events : List StoredEvent) (activeBlocklist : List String) :
    ((qualifyingWindows env rule events activeBlocklist).map Prod.fst).Nodup := by
  have kept : ∀ (stream : List StoredEvent) (scan : Scan), (scan.results.map Prod.fst).Nodup →
      ((stream.foldl (Scan.next env rule) scan).results.map Prod.fst).Nodup := by
    intro stream
    induction stream with
    | nil => exact fun _ distinct => distinct
    | cons event rest ih =>
      intro scan distinct
      refine ih _ ?_
      unfold Scan.next
      dsimp only
      split
      · exact Dictionary.nodup_set distinct _ _
      · exact distinct
  exact kept _ ⟨[], []⟩ List.nodup_nil

theorem mem_qualifyingWindows_iff {env : SocRuntime} {rule : SocDetectionRule}
    {events : List StoredEvent}
    {activeBlocklist : List String} {value : String} {noted : List StoredEvent} :
    (value, noted) ∈ qualifyingWindows env rule events activeBlocklist ↔
      lastVerdict StoredEvent.time rule.width (rule.verdict env)
        (groupEvents rule events activeBlocklist value) = some noted := by
  rw [← Dictionary.get?_eq_some_iff (nodup_qualifyingWindows env rule events activeBlocklist),
    get?_qualifyingWindows]

/-! ## Rules that count -/

/-- The rule counts events, or distinct values of them. -/
def SocDetectionRule.Counts (rule : SocDetectionRule) : Prop :=
  rule.ruleType = .threshold ∨ rule.ruleType = .distinctThreshold

/-- Events reach the threshold. -/
def SocDetectionRule.reaches (env : SocRuntime) (rule : SocDetectionRule)
    (events : List StoredEvent) : Bool :=
  if rule.ruleType = .distinctThreshold then
    decide (rule.threshold ≤ distinctCount env (rule.distinctField.getD "") events)
  else decide (rule.threshold ≤ events.length)

theorem verdict_of_counts {env : SocRuntime} {rule : SocDetectionRule} (counts : rule.Counts)
    (window : List StoredEvent) (latest : StoredEvent) :
    rule.verdict env window latest =
      if rule.reaches env window then some window else none := by
  unfold SocDetectionRule.verdict SocDetectionRule.reaches
  rcases counts with count | distinct
  · rw [count]
    simp
  · rw [distinct]
    simp

theorem distinctCount_mono (env : SocRuntime) (field : String) {fewer more : List StoredEvent}
    (sublist : fewer.Sublist more) : distinctCount env field fewer ≤
      distinctCount env field more := by
  refine (List.subperm_of_subset (List.nodup_dedup _) fun value member => ?_).length_le
  rw [List.mem_dedup] at member ⊢
  exact (sublist.filterMap _).subset member

/-- More events never take a rule below its threshold. -/
theorem reaches_mono {env : SocRuntime} {rule : SocDetectionRule} {fewer more : List StoredEvent}
    (sublist : fewer.Sublist more) (reached : rule.reaches env fewer = true) :
    rule.reaches env more = true := by
  unfold SocDetectionRule.reaches at reached ⊢
  split at reached
  · rw [if_pos ‹_›]
    exact decide_eq_true ((of_decide_eq_true reached).trans (distinctCount_mono _ _ sublist))
  · rw [if_neg ‹_›]
    exact decide_eq_true ((of_decide_eq_true reached).trans sublist.length_le)

/-- The events of a group that lie at most one window before an event. -/
def SocDetectionRule.windowAt (rule : SocDetectionRule) (group : List StoredEvent)
    (latest : StoredEvent) : List StoredEvent :=
  group.filter fun event =>
    decide (eventLe event latest) && decide (latest.time - event.time ≤ rule.width)

theorem mem_windowAt_iff {rule : SocDetectionRule} {group : List StoredEvent}
    {latest event : StoredEvent} :
    event ∈ rule.windowAt group latest ↔
      event ∈ group ∧ eventLe event latest ∧ latest.time - event.time ≤ rule.width := by
  rw [SocDetectionRule.windowAt, List.mem_filter, Bool.and_eq_true, decide_eq_true_eq,
    decide_eq_true_eq]

theorem windowOf_eq_windowAt {rule : SocDetectionRule} {before after : List StoredEvent}
    {latest : StoredEvent} (ordered : (before ++ latest :: after).Pairwise StoredEvent.Earlier) :
    windowOf StoredEvent.time rule.width (before ++ [latest]) =
      rule.windowAt (before ++ latest :: after) latest := by
  obtain ⟨-, later, sooner⟩ := List.pairwise_append.mp ordered
  have inOrder : InOrder StoredEvent.time (before ++ [latest]) := by
    refine (ordered.imp fun earlier => earlier.le.time_le).sublist ?_
    exact (List.Sublist.refl before).append (List.singleton_sublist.mpr (List.mem_cons_self ..))
  have front : before.filter (fun event => !tooOld StoredEvent.time rule.width latest event) =
      rule.windowAt before latest := by
    refine List.filter_congr fun event member => ?_
    have le := (sooner event member latest (List.mem_cons_self ..)).le
    rw [decide_eq_true le, Bool.true_and, tooOld, ← decide_not, decide_eq_decide, not_lt]
  have middle : rule.windowAt [latest] latest = [latest] := by
    refine List.filter_eq_self.mpr fun event member => ?_
    obtain rfl := List.mem_singleton.mp member
    rw [decide_eq_true (eventLe_refl _), Bool.true_and, decide_eq_true_eq, Int.sub_self]
    exact Int.mul_nonneg (Int.natCast_nonneg _) (by decide)
  have back : rule.windowAt after latest = [] := by
    refine List.filter_eq_nil_iff.mpr fun event member => ?_
    rw [decide_eq_false ((List.pairwise_cons.mp later).1 event member).not_le, Bool.false_and]
    exact Bool.false_ne_true
  have join : rule.windowAt (before ++ latest :: after) latest =
      rule.windowAt before latest ++ (rule.windowAt [latest] latest ++
        rule.windowAt after latest) := by
    unfold SocDetectionRule.windowAt
    rw [← List.filter_append, ← List.filter_append, List.singleton_append]
  rw [windowOf_concat inOrder, front, join, middle, back, List.append_nil]

/-- Enough events lie in the window of an event. -/
def SocDetectionRule.QualifiesAt (env : SocRuntime) (rule : SocDetectionRule)
    (group : List StoredEvent) (latest : StoredEvent) : Prop :=
  latest ∈ group ∧ rule.reaches env (rule.windowAt group latest) = true

/-- The last event at which the window qualifies. -/
def SocDetectionRule.QualifiesLast (env : SocRuntime) (rule : SocDetectionRule)
    (group : List StoredEvent) (latest : StoredEvent) : Prop :=
  rule.QualifiesAt env group latest ∧ ∀ other, rule.QualifiesAt env group other →
    eventLe other latest

/-- **The last verdict of a rule that counts** is the window of the last event at which the
window qualifies. -/
theorem lastVerdict_of_counts {env : SocRuntime} {rule : SocDetectionRule} (counts : rule.Counts)
    {group : List StoredEvent} (ordered : group.Pairwise StoredEvent.Earlier)
    {noted : List StoredEvent} :
    lastVerdict StoredEvent.time rule.width (rule.verdict env) group = some noted ↔
      ∃ latest, rule.QualifiesLast env group latest ∧ noted = rule.windowAt group latest := by
  rw [lastVerdict_eq_some_iff]
  constructor
  · rintro ⟨before, latest, after, rfl, passed, quiet⟩
    rw [verdict_of_counts counts, windowOf_eq_windowAt ordered] at passed
    split at passed
    · rename_i reached
      cases passed
      refine ⟨latest, ⟨⟨by simp, reached⟩, fun other qualifies => ?_⟩, rfl⟩
      obtain ⟨member, enough⟩ := qualifies
      obtain ⟨-, -, sooner⟩ := List.pairwise_append.mp ordered
      rcases List.mem_append.mp member with early | late
      · exact (sooner other early latest (List.mem_cons_self ..)).le
      rcases List.mem_cons.mp late with rfl | late
      · exact eventLe_refl _
      · obtain ⟨others, rest, rfl⟩ := List.append_of_mem late
        have silent := quiet others other rest rfl
        have regroup : before ++ latest :: (others ++ other :: rest) =
            (before ++ latest :: others) ++ other :: rest := by simp
        rw [regroup] at ordered enough
        rw [verdict_of_counts counts, windowOf_eq_windowAt ordered, if_pos enough] at silent
        cases silent
    · cases passed
  · rintro ⟨latest, ⟨⟨member, reached⟩, last⟩, rfl⟩
    obtain ⟨before, after, rfl⟩ := List.append_of_mem member
    refine ⟨before, latest, after, rfl, ?_, fun others other rest split => ?_⟩
    · rw [verdict_of_counts counts, windowOf_eq_windowAt ordered, if_pos reached]
    · subst split
      have regroup : before ++ latest :: (others ++ other :: rest) =
          (before ++ latest :: others) ++ other :: rest := by simp
      have after : latest.Earlier other :=
        (List.pairwise_append.mp ordered).2.1 |> List.pairwise_cons.mp |>.1 other (by simp)
      rw [regroup] at ordered last
      rw [verdict_of_counts counts, windowOf_eq_windowAt ordered]
      refine if_neg fun enough => after.not_le (last other ⟨by simp, enough⟩)

/-- **What a rule that counts notes** under a value. -/
theorem mem_qualifyingWindows_iff_of_counts {env : SocRuntime} {rule : SocDetectionRule}
    (counts : rule.Counts)
    {events : List StoredEvent} (ordered : events.Pairwise StoredEvent.Earlier)
    {activeBlocklist : List String} {value : String} {noted : List StoredEvent} :
    (value, noted) ∈ qualifyingWindows env rule events activeBlocklist ↔
      ∃ latest, rule.QualifiesLast env (groupEvents rule events activeBlocklist value) latest ∧
        noted = rule.windowAt (groupEvents rule events activeBlocklist value) latest := by
  rw [mem_qualifyingWindows_iff, lastVerdict_of_counts counts (pairwise_groupEvents ordered _ _)]

/-!
## Alerts and the events they are linked to

An alert is found again by its fingerprint. The code of a rule has no bar in it, so that a
fingerprint tells the rule and the value it was made for, and a window extends only an alert
of its own rule and value. A report adds the events of its window to the events that the
alerts of its rule and value are linked to, and changes no other link (`covers_report_iff`).
-/

/-! ## Fingerprints -/

theorem bar_toString (number : Int) : '|' ∉ (toString number).toList :=
  not_mem_toString_int rfl (by decide) number

theorem fingerprintText_injective {firstCode secondCode first second : String}
    {firstBucket secondBucket : Int} (inFirst : '|' ∉ firstCode.toList)
    (inSecond : '|' ∉ secondCode.toList)
    (same : fingerprintText firstCode first firstBucket =
      fingerprintText secondCode second secondBucket) :
    firstCode = secondCode ∧ first = second ∧ toString firstBucket = toString secondBucket := by
  have bar : "|".toList = ['|'] := rfl
  have letters := congrArg String.toList same
  simp only [fingerprintText, String.toList_append, bar, List.append_assoc] at letters
  obtain ⟨codes, rests⟩ := eq_of_append_cons letters inFirst inSecond
  have reversed : (toString firstBucket).toList.reverse ++ '|' :: first.toList.reverse =
      (toString secondBucket).toList.reverse ++ '|' :: second.toList.reverse := by
    simpa using congrArg List.reverse rests
  obtain ⟨buckets, values⟩ := eq_of_append_cons reversed
    (fun member => bar_toString _ (List.mem_reverse.mp member))
    (fun member => bar_toString _ (List.mem_reverse.mp member))
  exact ⟨String.toList_injective codes, String.toList_injective (List.reverse_injective values),
    String.toList_injective (List.reverse_injective buckets)⟩

theorem correlationKeyOf_injective {rule : SocDetectionRule} {first second : String}
    (same : correlationKeyOf rule first = correlationKeyOf rule second) : first = second := by
  have letters := congrArg String.toList same
  simp only [correlationKeyOf, String.toList_append, List.append_assoc] at letters
  exact String.toList_injective (List.append_cancel_left (List.append_cancel_left letters))

/-! ## Links -/

@[simp] theorem alerts_link (store : SocStore) (alertId : Nat) (ids : List Nat) :
    (store.link alertId ids).alerts = store.alerts := rfl

@[simp] theorem rules_link (store : SocStore) (alertId : Nat) (ids : List Nat) :
    (store.link alertId ids).rules = store.rules := rfl

@[simp] theorem events_link (store : SocStore) (alertId : Nat) (ids : List Nat) :
    (store.link alertId ids).events = store.events := rfl

theorem linked_link (store : SocStore) (alertId other : Nat) (ids : List Nat) :
    (store.link alertId ids).linked other =
      if alertId = other then store.linked other ++ ids else store.linked other := by
  induction ids generalizing store with
  | nil =>
    rw [List.append_nil, ite_self]
    rfl
  | cons id rest ih =>
    have step : store.link alertId (id :: rest) = (store.link alertId [id]).link alertId rest :=
      rfl
    have one : (store.link alertId [id]).linked other =
        if alertId = other then store.linked other ++ [id] else store.linked other := by
      have added : (store.link alertId [id]).linked other =
          ((store.links.insert ⟨alertId, id⟩).select fun link => link.alertId == other).map
            SocAlertEvent.eventId := rfl
      rw [added, Table.select_insert, List.map_append]
      by_cases here : alertId = other
      · rw [if_pos here, List.filter_cons_of_pos (by exact beq_iff_eq.mpr here)]
        rfl
      · rw [if_neg here, List.filter_cons_of_neg (by simpa using here), List.filter_nil,
          List.map_nil, List.append_nil]
        rfl
    rw [step, ih, one]
    by_cases here : alertId = other
    · rw [if_pos here, if_pos here, if_pos here, List.append_assoc, List.singleton_append]
    · rw [if_neg here, if_neg here, if_neg here]

/-- An alert of a rule and a value is linked to an event. -/
def SocStore.Covers (store : SocStore) (ruleId : Nat) (rule : SocDetectionRule) (value : String)
    (eventId : Nat) : Prop :=
  ∃ alertId alert, store.alerts.get? alertId = some alert ∧ alert.ruleId = ruleId ∧
    alert.correlationKey = correlationKeyOf rule value ∧ eventId ∈ store.linked alertId

/-! ## Names of alerts -/

/-- The alert is named after a rule, a value and a bucket. -/
def SocStore.NamedAlert (env : SocRuntime) (rules : Table SocDetectionRule)
    (alert : SocAlert) : Prop :=
  ∃ rule value bucket, rules.get? alert.ruleId = some rule ∧
    alert.correlationKey = correlationKeyOf rule value ∧
    alert.fingerprint = env.sha256 (fingerprintText rule.ruleCode value bucket)

/-- The codes of the rules are distinct, every alert is named after its rule, and no link
is older than its alert. -/
structure SocStore.Named (env : SocRuntime) (store : SocStore) : Prop where
  codes : ∀ first second one other, store.rules.get? first = some one →
    store.rules.get? second = some other → one.ruleCode = other.ruleCode → first = second
  alerts : store.alerts.Each fun _ alert => SocStore.NamedAlert env store.rules alert
  links : ∀ alertId, store.alerts.nextKey ≤ alertId → store.linked alertId = []

/-- **A fingerprint finds an alert of its own rule and value.** -/
theorem SocStore.Named.found {env : SocRuntime} {store : SocStore}
    (named : store.Named env) (injective : Function.Injective env.sha256)
    {ruleId : Nat} {rule : SocDetectionRule} (ruleStored : store.rules.get? ruleId = some rule)
    {value : String} {firstSeen : Instant} {alertId : Nat} {existing : SocAlert}
    (found : (store.alerts.first? fun _ alert =>
      alert.fingerprint == fingerprint env rule value firstSeen) = some (alertId, existing)) :
    store.alerts.get? alertId = some existing ∧ existing.ruleId = ruleId ∧
      existing.correlationKey = correlationKeyOf rule value ∧
      existing.fingerprint = fingerprint env rule value firstSeen := by
  obtain ⟨stored, match_⟩ := Table.get?_of_first? found
  have print : existing.fingerprint = fingerprint env rule value firstSeen :=
    beq_iff_eq.mp match_
  obtain ⟨other, name, bucket, otherStored, key, made⟩ := named.alerts alertId existing stored
  rw [made] at print
  obtain ⟨codes, rfl, -⟩ := fingerprintText_injective other.code_clear rule.code_clear
    (injective print)
  have same := named.codes _ _ _ _ otherStored ruleStored codes
  rw [same] at otherStored
  obtain rfl := Option.some.inj (otherStored.symm.trans ruleStored)
  exact ⟨stored, same, key, made.trans print⟩

/-! ## One report -/

/-- The keys of the events of a window. -/
def keysOf (window : List StoredEvent) : List Nat := (window.map Prod.fst).dedup

theorem report_of_found {env : SocRuntime} {now : Instant} {ruleId : Nat}
    {rule : SocDetectionRule} {store : SocStore} {value : String} {window : List StoredEvent}
    {first last : StoredEvent} (head : window.head? = some first)
    (end_ : window.getLast? = some last) {alertId : Nat} {existing : SocAlert}
    (found : (store.alerts.first? fun _ alert =>
      alert.fingerprint == fingerprint env rule value first.2.eventTime) =
        some (alertId, existing)) :
    store.report env now ruleId rule (value, window) =
      if ((keysOf window).filter fun id => !(store.linked alertId).contains id).isEmpty &&
          existing.lastSeen == last.2.eventTime then store
      else
        { store.link alertId
            ((keysOf window).filter fun id => !(store.linked alertId).contains id) with
          alerts := store.alerts.modify alertId fun alert =>
            alert.extended rule value (keysOf window) first.2 last.2
              ((store.linked alertId).length +
                ((keysOf window).filter fun id =>
                  !(store.linked alertId).contains id).length) now } := by
  unfold SocStore.report
  dsimp only
  rw [head, end_]
  dsimp only
  rw [found]
  rfl

theorem report_of_missing {env : SocRuntime} {now : Instant} {ruleId : Nat}
    {rule : SocDetectionRule} {store : SocStore} {value : String} {window : List StoredEvent}
    {first last : StoredEvent} (head : window.head? = some first)
    (end_ : window.getLast? = some last)
    (missing : (store.alerts.first? fun _ alert =>
      alert.fingerprint == fingerprint env rule value first.2.eventTime) = none) :
    store.report env now ruleId rule (value, window) =
      { store.link store.alerts.nextKey (keysOf window) with
        alerts := store.alerts.insert
          (newAlert env ruleId rule value (keysOf window) first.2 last.2 now) } := by
  unfold SocStore.report
  dsimp only
  rw [head, end_]
  dsimp only
  rw [missing]
  rfl

theorem report_nil (env : SocRuntime) (now : Instant) (ruleId : Nat)
    (rule : SocDetectionRule) (store : SocStore) (value : String) :
    store.report env now ruleId rule (value, []) = store := rfl

theorem eq_nil_or_ends (window : List StoredEvent) :
    window = [] ∨ ∃ first last, window.head? = some first ∧ window.getLast? = some last := by
  cases window with
  | nil => exact .inl rfl
  | cons first rest => exact .inr ⟨first, _, rfl, List.getLast?_eq_some_getLast (by simp)⟩

@[simp] theorem rules_report (env : SocRuntime) (now : Instant) (ruleId : Nat)
    (rule : SocDetectionRule) (store : SocStore) (noted : String × List StoredEvent) :
    (store.report env now ruleId rule noted).rules = store.rules := by
  unfold SocStore.report
  split
  · dsimp only
    split
    · split <;> rfl
    · rfl
  · rfl

@[simp] theorem events_report (env : SocRuntime) (now : Instant) (ruleId : Nat)
    (rule : SocDetectionRule) (store : SocStore) (noted : String × List StoredEvent) :
    (store.report env now ruleId rule noted).events = store.events := by
  unfold SocStore.report
  split
  · dsimp only
    split
    · split <;> rfl
    · rfl
  · rfl

theorem mem_keysOf_iff {window : List StoredEvent} {id : Nat} :
    id ∈ keysOf window ↔ ∃ event ∈ window, event.1 = id := by
  rw [keysOf, List.mem_dedup, List.mem_map]

section Reports

variable {env : SocRuntime} {now : Instant} {ruleId : Nat} {rule : SocDetectionRule}
  {store : SocStore}

theorem SocStore.Named.report (named : store.Named env)
    (ruleStored : store.rules.get? ruleId = some rule) (noted : String × List StoredEvent) :
    (store.report env now ruleId rule noted).Named env := by
  obtain ⟨value, window⟩ := noted
  rcases eq_nil_or_ends window with rfl | ⟨first, last, head, end_⟩
  · exact named
  cases search : store.alerts.first? fun _ alert =>
      alert.fingerprint == fingerprint env rule value first.2.eventTime with
  | none =>
    rw [report_of_missing head end_ search]
    refine ⟨named.codes, named.alerts.insert ⟨rule, value, _, ruleStored, rfl, rfl⟩, ?_⟩
    intro alertId beyond
    rw [Table.nextKey_insert] at beyond
    have apart : store.alerts.nextKey ≠ alertId := by omega
    exact (linked_link ..).trans ((if_neg apart).trans (named.links alertId (by omega)))
  | some match_ =>
    obtain ⟨alertId, existing⟩ := match_
    rw [report_of_found head end_ search]
    split
    · exact named
    · refine ⟨named.codes, named.alerts.modify fun alert _ kept => kept, ?_⟩
      intro other beyond
      rw [Table.nextKey_modify] at beyond
      have bound := Table.lt_nextKey_of_get? (Table.get?_of_first? search).1
      have apart : alertId ≠ other := by omega
      exact (linked_link ..).trans ((if_neg apart).trans (named.links other beyond))

/-- More links of one alert cover more events under the name of that alert, and no others. -/
theorem covers_iff_of_added (before after : SocStore) (ruleId place : Nat) (ids : List Nat)
    (key : String) (elsewhere : ∀ id, id ≠ place → after.alerts.get? id = before.alerts.get? id)
    (links : ∀ id, after.linked id =
      if place = id then before.linked id ++ ids else before.linked id)
    (owner : ∃ alert, after.alerts.get? place = some alert ∧ alert.ruleId = ruleId ∧
      alert.correlationKey = key)
    (existing : before.linked place = [] ∨ ∃ alert, before.alerts.get? place = some alert ∧
      alert.ruleId = ruleId ∧ alert.correlationKey = key)
    {otherId : Nat} {other : SocDetectionRule} {name : String} {eventId : Nat} :
    after.Covers otherId other name eventId ↔ before.Covers otherId other name eventId ∨
      otherId = ruleId ∧ correlationKeyOf other name = key ∧ eventId ∈ ids := by
  obtain ⟨owned, ownedStored, ownedRule, ownedKey⟩ := owner
  constructor
  · rintro ⟨alertId, alert, stored, ofRule, ofKey, member⟩
    rw [links] at member
    by_cases here : place = alertId
    · subst here
      obtain rfl := Option.some.inj (stored.symm.trans ownedStored)
      rw [if_pos rfl, List.mem_append] at member
      rcases member with old | new
      · rcases existing with none | ⟨first, firstStored, firstRule, firstKey⟩
        · rw [none] at old
          cases old
        · exact .inl ⟨place, first, firstStored, firstRule.trans (ownedRule.symm.trans ofRule),
            firstKey.trans (ownedKey.symm.trans ofKey), old⟩
      · exact .inr ⟨ofRule.symm.trans ownedRule, ofKey.symm.trans ownedKey, new⟩
    · rw [if_neg here] at member
      exact .inl ⟨alertId, alert, (elsewhere alertId (Ne.symm here)).symm.trans stored, ofRule,
        ofKey, member⟩
  · rintro (⟨alertId, alert, stored, ofRule, ofKey, member⟩ | ⟨rfl, rfl, member⟩)
    · by_cases here : place = alertId
      · subst here
        rcases existing with none | ⟨first, firstStored, firstRule, firstKey⟩
        · rw [none] at member
          cases member
        · obtain rfl := Option.some.inj (stored.symm.trans firstStored)
          refine ⟨place, owned, ownedStored, ownedRule.trans (firstRule.symm.trans ofRule),
            ownedKey.trans (firstKey.symm.trans ofKey), ?_⟩
          rw [links, if_pos rfl]
          exact List.mem_append_left _ member
      · refine ⟨alertId, alert, (elsewhere alertId (Ne.symm here)).trans stored, ofRule, ofKey, ?_⟩
        rw [links, if_neg here]
        exact member
    · refine ⟨place, owned, ownedStored, ownedRule, ownedKey, ?_⟩
      rw [links, if_pos rfl]
      exact List.mem_append_right _ member

/-- **What a report covers**: the events of the window, under its rule and value. -/
theorem covers_report_iff (named : store.Named env) (injective : Function.Injective env.sha256)
    (ruleStored : store.rules.get? ruleId = some rule) {otherId : Nat} {other : SocDetectionRule}
    (otherStored : store.rules.get? otherId = some other) {value name : String}
    {window : List StoredEvent} {eventId : Nat} :
    (store.report env now ruleId rule (value, window)).Covers otherId other name eventId ↔
      store.Covers otherId other name eventId ∨
        otherId = ruleId ∧ name = value ∧ ∃ event ∈ window, event.1 = eventId := by
  have names : otherId = ruleId →
      (correlationKeyOf other name = correlationKeyOf rule value ↔ name = value) := by
    rintro rfl
    obtain rfl := Option.some.inj (otherStored.symm.trans ruleStored)
    exact ⟨correlationKeyOf_injective, congrArg _⟩
  rw [← mem_keysOf_iff]
  rcases eq_nil_or_ends window with rfl | ⟨first, last, head, end_⟩
  · rw [report_nil]
    exact ⟨.inl, fun either => either.resolve_right fun absent => (by cases absent.2.2)⟩
  cases search : store.alerts.first? fun _ alert =>
      alert.fingerprint == fingerprint env rule value first.2.eventTime with
  | none =>
    rw [report_of_missing head end_ search]
    refine Iff.trans (covers_iff_of_added store _ ruleId store.alerts.nextKey (keysOf window)
      (correlationKeyOf rule value) ?_ ?_ ?_ (.inl (named.links _ le_rfl))) ?_
    · exact fun id apart => Table.get?_insert_of_ne _ _ apart
    · exact fun id => linked_link store store.alerts.nextKey id (keysOf window)
    · exact ⟨_, Table.get?_insert_nextKey _ _, rfl, rfl⟩
    · exact or_congr_right (and_congr_right fun same => and_congr_left fun _ => names same)
  | some match_ =>
    obtain ⟨alertId, existing⟩ := match_
    obtain ⟨stored, ofRule, key, -⟩ := named.found injective ruleStored search
    -- the events that are linked already are covered already
    have old : otherId = ruleId ∧ name = value ∧ eventId ∈ store.linked alertId →
        store.Covers otherId other name eventId := by
      rintro ⟨same, named_, member⟩
      exact ⟨alertId, existing, stored, ofRule.trans same.symm,
        key.trans ((names same).mpr named_).symm, member⟩
    have split_ids : eventId ∈ keysOf window → eventId ∈ store.linked alertId ∨
        eventId ∈ (keysOf window).filter fun id => !(store.linked alertId).contains id := by
      intro member
      rw [List.mem_filter]
      by_cases linked : eventId ∈ store.linked alertId
      · exact .inl linked
      · exact .inr ⟨member, by simpa using linked⟩
    rw [report_of_found head end_ search]
    split
    · rename_i nothing
      refine ⟨.inl, fun either => either.elim id ?_⟩
      rintro ⟨same, named_, member⟩
      rw [List.isEmpty_iff.mp (Bool.and_eq_true_iff.mp nothing).1] at split_ids
      exact old ⟨same, named_, (split_ids member).resolve_right List.not_mem_nil⟩
    · refine Iff.trans (covers_iff_of_added store _ ruleId alertId
        ((keysOf window).filter fun id => !(store.linked alertId).contains id)
        (correlationKeyOf rule value) ?_ ?_ ?_ (.inr ⟨existing, stored, ofRule, key⟩)) ?_
      · exact fun id apart => Table.get?_modify_of_ne _ _ apart
      · exact fun id => linked_link store alertId id _
      · exact ⟨_, (Table.get?_modify_self _ _ _).trans (congrArg _ stored), ofRule, key⟩
      · constructor
        · rintro (before | ⟨same, ofKey, member⟩)
          · exact .inl before
          · exact .inr ⟨same, (names same).mp ofKey, List.mem_of_mem_filter member⟩
        · rintro (before | ⟨same, named_, member⟩)
          · exact .inl before
          · rcases split_ids member with linked | new
            · exact .inl (old ⟨same, named_, linked⟩)
            · exact .inr ⟨same, (names same).mpr named_, new⟩

end Reports

end ThreatScope.SocMonitor
