import ThreatScope.Analytics.Statistics
import ThreatScope.Analytics.SuppressionScopes

/-!
# Quality gates

`analytics/evaluation.py`: the metrics that the feedback of analysts gives and the gates that a
detector passes. Of the revisions of an analyst's feedback on an anomaly the newest counts, and
the older ones leave no trace (`qualityMetrics_superseded`). An estimate of zero false positives
is taken for a missing one, so that a detector without a dismissed anomaly fails
(`quality_gates_monotone_iff`).
-/

set_option autoImplicit false

namespace ThreatScope.Analytics

open Library

/-! ## The metrics -/

/-- An item of `feedback`, with the default of its revision number filled in. -/
structure FeedbackItem where
  anomalyId : Option Nat
  analystUserId : Option Nat
  label : Option String
  revisionNumber : Int := 1
  reviewTimeSeconds : Option ℚ := none

/-- `(item.get("anomaly_id"), item.get("analyst_user_id"))`. -/
def FeedbackItem.key (item : FeedbackItem) : Option Nat × Option Nat :=
  (item.anomalyId, item.analystUserId)

/-- The step of the loop over `feedback`. -/
def absorb (latest : List FeedbackItem) (item : FeedbackItem) : List FeedbackItem :=
  if latest.any fun held => held.key == item.key then
    latest.map fun held =>
      if held.key = item.key ∧ held.revisionNumber < item.revisionNumber then item else held
  else latest ++ [item]

/-- `labels`. -/
def latestLabels (feedback : List FeedbackItem) : List FeedbackItem := feedback.foldl absorb []

/-- The labels of an anomaly that is one. -/
def confirmedLabels : List String := ["confirmed_true_positive", "likely_true_positive"]

/-- The labels of an anomaly that is none. -/
def dismissedLabels : List String := ["false_positive", "benign_expected_behavior"]

/-- How many items have one of the labels. -/
def countLabels (kinds : List String) (labels : List FeedbackItem) : Nat :=
  labels.countP fun item => item.label.any kinds.contains

/-- `reviewed_ids`, without repetitions. -/
def reviewedIds (labels : List FeedbackItem) : List (Option Nat) :=
  (labels.map FeedbackItem.anomalyId).dedup

/-- What `quality_metrics` returns. -/
structure QualityMetrics where
  reviewedAnomalyCount : Nat
  confirmedCount : Nat
  dismissedCount : Nat
  precisionEstimate : Option ℚ
  falsePositiveEstimate : Option ℚ
  recallEstimate : Option ℚ
  f1Score : Option ℚ
  accuracyClaimAvailable : Bool
  metricLimitation : Option String
  reviewCoverage : ℚ
  medianReviewTimeSeconds : Option ℚ
  duplicateRate : ℚ
  suppressionHitRate : ℚ

/-- The text of a metric that is missing. -/
def missingReviews : String :=
  "Precision and recall cannot be established without reviewed labels; operational proxy metrics are not accuracy."

/-- A share of a number that may be zero. -/
def share? (part whole : Nat) : Option ℚ :=
  if whole = 0 then none else some (stableRound ((part : ℚ) / whole))

/-- The metrics of the labels that count. -/
def labelMetrics (labels : List FeedbackItem) (occurrenceCounts : List Int)
    (suppressionHits : Int) : QualityMetrics :=
  let confirmed := countLabels confirmedLabels labels
  let dismissed := countLabels dismissedLabels labels
  let reviewed := confirmed + dismissed
  let times := labels.filterMap FeedbackItem.reviewTimeSeconds
  let total := occurrenceCounts.length
  { reviewedAnomalyCount := (reviewedIds labels).length
    confirmedCount := confirmed
    dismissedCount := dismissed
    precisionEstimate := share? confirmed reviewed
    falsePositiveEstimate := share? dismissed reviewed
    recallEstimate := none
    f1Score := none
    accuracyClaimAvailable := false
    metricLimitation := if reviewed = 0 then some missingReviews else none
    reviewCoverage := (share? (reviewedIds labels).length total).getD 0
    medianReviewTimeSeconds :=
      if times = [] then none else some (stableRound (Library.median times))
    duplicateRate := (share? (occurrenceCounts.countP fun count => 1 < count) total).getD 0
    suppressionHitRate :=
      if (total : Int) + suppressionHits = 0 then 0
      else stableRound ((suppressionHits : ℚ) / ((total : Int) + suppressionHits : Int)) }

/-- `quality_metrics(feedback, anomalies, suppression_hits)`: of an anomaly it reads the
`occurrence_count`. -/
def qualityMetrics (feedback : List FeedbackItem) (occurrenceCounts : List Int)
    (suppressionHits : Int) : QualityMetrics :=
  labelMetrics (latestLabels feedback) occurrenceCounts suppressionHits

/-! ## The gates -/

/-- The arguments of `quality_gates`. -/
structure GateInput where
  sampleCount : Int
  minimumSamples : Int
  baselineFinite : Bool
  deterministicBacktest : Bool
  candidateCount : Int
  maximumCandidates : Int
  duplicateRate : ℚ
  explanationsComplete : Bool
  unresolvedErrors : List String
  unsupportedFeatures : List String
  securityPolicyViolations : List String
  futureLeakage : Bool
  implementationVersion : Option String
  reviewedMetrics : Option QualityMetrics
  limitedValidation : Bool

/-- `value or default`. -/
def orDefault (value : Option ℚ) (default : ℚ) : ℚ :=
  match value with
  | some number => if number = 0 then default else number
  | none => default

/-- The gates that need no review. -/
def GateInput.dataGates (input : GateInput) : List (String × Bool) :=
  [("sufficient_history", decide (input.minimumSamples ≤ input.sampleCount)),
    ("finite_baseline", input.baselineFinite),
    ("deterministic_backtest", input.deterministicBacktest),
    ("bounded_candidate_volume", decide (input.candidateCount ≤ input.maximumCandidates)),
    ("duplicate_rate", decide (input.duplicateRate ≤ 4 / 5)),
    ("explanations", input.explanationsComplete),
    ("validation_errors", input.unresolvedErrors.isEmpty),
    ("supported_features", input.unsupportedFeatures.isEmpty),
    ("security_policy", input.securityPolicyViolations.isEmpty),
    ("no_future_leakage", !input.futureLeakage),
    ("implementation_version", input.implementationVersion.any (· != ""))]

/-- The gates of ten and more reviewed anomalies. -/
def reviewedGates : Option QualityMetrics → List (String × Bool)
  | some metrics =>
    if 10 ≤ metrics.reviewedAnomalyCount then
      [("reviewed_precision", decide (1 / 2 ≤ orDefault metrics.precisionEstimate 0)),
        ("reviewed_false_positive", decide (orDefault metrics.falsePositiveEstimate 1 ≤ 1 / 2))]
    else []
  | none => []

def GateInput.gates (input : GateInput) : List (String × Bool) :=
  input.dataGates ++ reviewedGates input.reviewedMetrics

/-- The gates that decide. -/
def GateInput.decisive (input : GateInput) : List (String × Bool) :=
  if input.limitedValidation then
    input.gates.filter fun gate => !Text.startsWith gate.1 "reviewed_"
  else input.gates

/-- What `quality_gates` returns. -/
structure GateResult where
  passed : Bool
  limitedValidation : Bool
  gates : List (String × Bool)
  accuracyClaimed : Bool
  deterministicHash : String

def qualityGates (env : AnalyticsRuntime) (input : GateInput) : GateResult :=
  let passed := input.decisive.all Prod.snd
  { passed := passed
    limitedValidation := input.limitedValidation
    gates := input.gates
    accuracyClaimed := false
    deterministicHash := env.deterministicHash (.obj [
      ("passed", .bool passed),
      ("limited_validation", .bool input.limitedValidation),
      ("gates", .arr (input.gates.map fun gate =>
        .obj [("gate", .str gate.1), ("passed", .bool gate.2)])),
      ("accuracy_claimed", .bool false)]) }

/-! ## The newest revisions -/

section Revisions

variable {feedback before after labels : List FeedbackItem} {item held : FeedbackItem}

/-- The first of the newest items with a key. -/
def newest (feedback : List FeedbackItem) (key : Option Nat × Option Nat) :
    Option FeedbackItem :=
  feedback.find? fun item => decide (item.key = key ∧
    ∀ other ∈ feedback, other.key = key → other.revisionNumber ≤ item.revisionNumber)

/-- The labels hold the newest item of every key, once. -/
structure HoldsNewest (feedback labels : List FeedbackItem) : Prop where
  once : (labels.map FeedbackItem.key).Nodup
  first : ∀ held ∈ labels, newest feedback held.key = some held
  every : ∀ item ∈ feedback, ∃ held ∈ labels, held.key = item.key

theorem newest_key {key : Option Nat × Option Nat} (found : newest feedback key = some held) :
    held.key = key ∧ held ∈ feedback ∧
      ∀ other ∈ feedback, other.key = key → other.revisionNumber ≤ held.revisionNumber := by
  unfold newest at found
  have tested := List.find?_some found
  rw [decide_eq_true_eq] at tested
  exact ⟨tested.1, List.mem_of_find?_eq_some found, tested.2⟩

theorem newest_append_of_ne {key : Option Nat × Option Nat} (other : item.key ≠ key) :
    newest (feedback ++ [item]) key = newest feedback key := by
  unfold newest
  rw [List.find?_append, List.find?_singleton, if_neg (by simp [other]), Option.or_none]
  refine List.find?_congr fun one inside => decide_eq_decide.mpr (and_congr_right fun _ => ?_)
  simp [or_imp, forall_and, other]

theorem newest_append_of_le (found : newest feedback item.key = some held)
    (le : item.revisionNumber ≤ held.revisionNumber) :
    newest (feedback ++ [item]) item.key = some held := by
  obtain ⟨-, inside, most⟩ := newest_key found
  have same : (feedback.find? fun one => decide (one.key = item.key ∧ ∀ other ∈ feedback ++ [item],
      other.key = item.key → other.revisionNumber ≤ one.revisionNumber)) = some held := by
    rw [← found]
    refine List.find?_congr fun one inside' => decide_eq_decide.mpr
      (and_congr_right fun sameKey => ?_)
    constructor
    · exact fun all other otherIn => all other (List.mem_append_left _ otherIn)
    · intro all other otherIn otherKey
      rcases List.mem_append.mp otherIn with old | new
      · exact all other old otherKey
      · rw [List.mem_singleton.mp new]
        exact le.trans (all held inside (newest_key found).1)
  unfold newest
  rw [List.find?_append, same, Option.some_or]

theorem newest_append_of_lt
    (older : ∀ other ∈ feedback, other.key = item.key →
      other.revisionNumber < item.revisionNumber) :
    newest (feedback ++ [item]) item.key = some item := by
  have none : (feedback.find? fun one => decide (one.key = item.key ∧ ∀ other ∈ feedback ++ [item],
      other.key = item.key → other.revisionNumber ≤ one.revisionNumber)) = none := by
    rw [List.find?_eq_none]
    intro one inside tested
    obtain ⟨sameKey, most⟩ := of_decide_eq_true tested
    exact absurd (most item (List.mem_append_right _ (List.mem_singleton_self _)) rfl)
      (not_le.mpr (older one inside sameKey))
  unfold newest
  rw [List.find?_append, none, Option.none_or, List.find?_singleton, if_pos]
  refine decide_eq_true ⟨rfl, fun other otherIn sameKey => ?_⟩
  rcases List.mem_append.mp otherIn with old | new
  · exact (older other old sameKey).le
  · rw [List.mem_singleton.mp new]

/-- The step of the loop keeps the newest items. -/
theorem holdsNewest_absorb (holds : HoldsNewest feedback labels) (item : FeedbackItem) :
    HoldsNewest (feedback ++ [item]) (absorb labels item) := by
  unfold absorb
  by_cases known : ∃ held ∈ labels, held.key = item.key
  · rw [if_pos (List.any_eq_true.mpr (by simpa using known))]
    have keys : (labels.map fun held => if held.key = item.key ∧
        held.revisionNumber < item.revisionNumber then item else held).map FeedbackItem.key =
        labels.map FeedbackItem.key := by
      rw [List.map_map]
      refine List.map_congr_left fun held _ => ?_
      rw [Function.comp_apply]
      split_ifs with newer
      · exact newer.1.symm
      · rfl
    refine ⟨by rw [keys]; exact holds.once, ?_, ?_⟩
    · intro other otherIn
      obtain ⟨held, inside, rfl⟩ := List.mem_map.mp otherIn
      have found := holds.first held inside
      split_ifs with newer
      · rw [newer.1] at found
        obtain ⟨-, -, most⟩ := newest_key found
        exact newest_append_of_lt fun other old same => (most other old same).trans_lt newer.2
      · by_cases same : held.key = item.key
        · rw [same] at found ⊢
          exact newest_append_of_le found (not_lt.mp fun lt => newer ⟨same, lt⟩)
        · rw [newest_append_of_ne (Ne.symm same)]
          exact found
    · intro other otherIn
      have listed : other.key ∈ labels.map FeedbackItem.key := by
        rcases List.mem_append.mp otherIn with old | new
        · obtain ⟨held, inside, same⟩ := holds.every other old
          exact List.mem_map.mpr ⟨held, inside, same⟩
        · rw [List.mem_singleton.mp new]
          exact List.mem_map.mpr known
      rw [← keys] at listed
      exact List.mem_map.mp listed
  · rw [if_neg (by simpa using known)]
    have fresh : ∀ other ∈ feedback, other.key ≠ item.key := by
      intro other old same
      obtain ⟨held, inside, sameKey⟩ := holds.every other old
      exact known ⟨held, inside, sameKey.trans same⟩
    refine ⟨?_, ?_, ?_⟩
    · rw [List.map_append, List.nodup_append]
      refine ⟨holds.once, List.nodup_singleton _, ?_⟩
      rintro key keyIn other otherIn rfl
      obtain ⟨held, inside, same⟩ := List.mem_map.mp keyIn
      exact known ⟨held, inside, same.trans (List.mem_singleton.mp otherIn)⟩
    · intro held inside
      rcases List.mem_append.mp inside with old | new
      · rw [newest_append_of_ne fun same => known ⟨held, old, same.symm⟩]
        exact holds.first held old
      · rw [List.mem_singleton.mp new]
        exact newest_append_of_lt fun other old same => absurd same (fresh other old)
    · intro other otherIn
      rcases List.mem_append.mp otherIn with old | new
      · obtain ⟨held, inside, same⟩ := holds.every other old
        exact ⟨held, List.mem_append_left _ inside, same⟩
      · exact ⟨item, List.mem_append_right _ (List.mem_singleton_self _),
          by rw [List.mem_singleton.mp new]⟩

theorem holdsNewest_latestLabels (feedback : List FeedbackItem) :
    HoldsNewest feedback (latestLabels feedback) := by
  induction feedback using List.reverseRecOn with
  | nil => exact ⟨List.nodup_nil, by simp [latestLabels], by simp⟩
  | append_singleton rest item ih =>
    unfold latestLabels
    rw [List.foldl_append]
    exact holdsNewest_absorb ih item

theorem HoldsNewest.mem_iff (holds : HoldsNewest feedback labels) :
    held ∈ labels ↔ newest feedback held.key = some held := by
  refine ⟨holds.first held, fun found => ?_⟩
  obtain ⟨-, listed, -⟩ := newest_key found
  obtain ⟨other, inside, same⟩ := holds.every held listed
  have again := holds.first other inside
  rw [same, found, Option.some.injEq] at again
  rwa [again]

theorem newest_superseded (newer : ∃ other ∈ before ++ after, other.key = item.key ∧
      item.revisionNumber < other.revisionNumber) (key : Option Nat × Option Nat) :
    newest (before ++ item :: after) key = newest (before ++ after) key := by
  obtain ⟨other, listed, sameKey, lt⟩ := newer
  have tests : ∀ one : FeedbackItem, (one.key = key ∧ ∀ two ∈ before ++ item :: after,
        two.key = key → two.revisionNumber ≤ one.revisionNumber) ↔
      (one.key = key ∧ ∀ two ∈ before ++ after,
        two.key = key → two.revisionNumber ≤ one.revisionNumber) := by
    refine fun one => and_congr_right fun _ => ⟨fun all two inside => all two ?_, ?_⟩
    · exact (List.sublist_cons_self item after |>.append_left before).subset inside
    · intro all two inside twoKey
      rcases List.mem_append.mp inside with old | rest
      · exact all two (List.mem_append_left _ old) twoKey
      · rcases List.mem_cons.mp rest with rfl | late
        · exact lt.le.trans (all other listed (sameKey.trans twoKey))
        · exact all two (List.mem_append_right _ late) twoKey
  have skipped : ¬ (item.key = key ∧ ∀ two ∈ before ++ after,
      two.key = key → two.revisionNumber ≤ item.revisionNumber) := by
    rintro ⟨itemKey, all⟩
    exact absurd (all other listed (sameKey.trans itemKey)) (not_le.mpr lt)
  unfold newest
  simp only [tests]
  rw [List.find?_append, List.find?_append, List.find?_cons_of_neg (by simpa using skipped)]

theorem latestLabels_perm (newer : ∃ other ∈ before ++ after, other.key = item.key ∧
      item.revisionNumber < other.revisionNumber) :
    (latestLabels (before ++ item :: after)).Perm (latestLabels (before ++ after)) := by
  have one := holdsNewest_latestLabels (before ++ item :: after)
  have two := holdsNewest_latestLabels (before ++ after)
  refine (List.perm_ext_iff_of_nodup (.of_map _ one.once) (.of_map _ two.once)).mpr fun held => ?_
  rw [one.mem_iff, two.mem_iff, newest_superseded newer]

theorem labelMetrics_perm {labels others : List FeedbackItem} (same : labels.Perm others)
    (occurrenceCounts : List Int) (suppressionHits : Int) :
    labelMetrics labels occurrenceCounts suppressionHits =
      labelMetrics others occurrenceCounts suppressionHits := by
  have counts : ∀ kinds, countLabels kinds labels = countLabels kinds others :=
    fun kinds => same.countP_eq _
  have ids : (reviewedIds labels).length = (reviewedIds others).length :=
    (same.map _).dedup.length_eq
  have times := same.filterMap FeedbackItem.reviewTimeSeconds
  have sorted : sortedNumbers (labels.filterMap FeedbackItem.reviewTimeSeconds) =
      sortedNumbers (others.filterMap FeedbackItem.reviewTimeSeconds) :=
    ((List.perm_insertionSort _ _).trans
      (times.trans (List.perm_insertionSort _ _).symm)).eq_of_pairwise
      (fun _ _ _ _ => le_antisymm) (pairwise_sortedNumbers _) (pairwise_sortedNumbers _)
  have none : labels.filterMap FeedbackItem.reviewTimeSeconds = [] ↔
      others.filterMap FeedbackItem.reviewTimeSeconds = [] := by
    rw [← List.length_eq_zero_iff, times.length_eq, List.length_eq_zero_iff]
  unfold labelMetrics Library.median
  simp only [counts, ids, sorted, none]

/-- **A superseded revision** changes no metric. -/
theorem qualityMetrics_superseded (newer : ∃ other ∈ before ++ after, other.key = item.key ∧
      item.revisionNumber < other.revisionNumber) (occurrenceCounts : List Int)
    (suppressionHits : Int) :
    qualityMetrics (before ++ item :: after) occurrenceCounts suppressionHits =
      qualityMetrics (before ++ after) occurrenceCounts suppressionHits :=
  labelMetrics_perm (latestLabels_perm newer) occurrenceCounts suppressionHits

end Revisions

/-! ## The gates that a review decides -/

section Gates

variable {feedback later : Option (List FeedbackItem)} {first second input : GateInput}
  {occurrenceCounts : List Int} {suppressionHits : Int}

/-- The reviewed anomalies. -/
def reviewedCount (feedback : Option (List FeedbackItem)) : Nat :=
  (reviewedIds (latestLabels (feedback.getD []))).length

/-- The newest labels that say that an anomaly is one. -/
def confirmedCount (feedback : Option (List FeedbackItem)) : Nat :=
  countLabels confirmedLabels (latestLabels (feedback.getD []))

/-- The newest labels that say that an anomaly is none. -/
def dismissedCount (feedback : Option (List FeedbackItem)) : Nat :=
  countLabels dismissedLabels (latestLabels (feedback.getD []))

/-- The gates of a review are waived, or more than one dismissed label in two million remains. -/
def Spared (input : GateInput) (feedback : Option (List FeedbackItem)) : Prop :=
  input.limitedValidation = true ∨ reviewedCount feedback < 10 ∨
    confirmedCount feedback + dismissedCount feedback < 2000000 * dismissedCount feedback

/-- The input with other metrics of reviews. -/
def GateInput.withMetrics (input : GateInput) (metrics : QualityMetrics) : GateInput :=
  { input with reviewedMetrics := some metrics }

/-- The second input differs from the first in evidence for the detector only. -/
structure MoreEvidence (occurrenceCounts : List Int) (suppressionHits : Int)
    (feedback later : Option (List FeedbackItem)) (first second : GateInput) : Prop where
  metrics : first.reviewedMetrics =
    feedback.map fun items => qualityMetrics items occurrenceCounts suppressionHits
  laterMetrics : second.reviewedMetrics =
    later.map fun items => qualityMetrics items occurrenceCounts suppressionHits
  others : second = { first with
    sampleCount := second.sampleCount
    candidateCount := second.candidateCount
    duplicateRate := second.duplicateRate
    reviewedMetrics := second.reviewedMetrics }
  samples : first.sampleCount ≤ second.sampleCount
  candidates : second.candidateCount ≤ first.candidateCount
  duplicates : second.duplicateRate ≤ first.duplicateRate
  confirmed : confirmedCount feedback ≤ confirmedCount later
  dismissed : dismissedCount later ≤ dismissedCount feedback
  anomalies : ∀ id, id ∈ reviewedIds (latestLabels (feedback.getD [])) ↔
    id ∈ reviewedIds (latestLabels (later.getD []))

theorem MoreEvidence.reviewedCount_eq
    (more : MoreEvidence occurrenceCounts suppressionHits feedback later first second) :
    reviewedCount feedback = reviewedCount later :=
  ((List.perm_ext_iff_of_nodup (List.nodup_dedup _) (List.nodup_dedup _)).mpr
    more.anomalies).length_eq

theorem reviewedGates_map (feedback : Option (List FeedbackItem)) :
    reviewedGates (feedback.map fun items =>
        qualityMetrics items occurrenceCounts suppressionHits) =
      if 10 ≤ reviewedCount feedback then
        [("reviewed_precision", decide (1 / 2 ≤ orDefault (share? (confirmedCount feedback)
            (confirmedCount feedback + dismissedCount feedback)) 0)),
          ("reviewed_false_positive", decide (orDefault (share? (dismissedCount feedback)
            (confirmedCount feedback + dismissedCount feedback)) 1 ≤ 1 / 2))]
      else [] := by
  cases feedback with
  | none => rfl
  | some items => rfl

theorem mem_decisive_iff {gate : String × Bool} :
    gate ∈ input.decisive ↔ gate ∈ input.dataGates ∨
      input.limitedValidation = false ∧ gate ∈ reviewedGates input.reviewedMetrics := by
  have kept : input.dataGates.filter (fun gate => !Text.startsWith gate.1 "reviewed_") =
      input.dataGates := by
    simp [GateInput.dataGates, Text.startsWith]
  have waived : (reviewedGates input.reviewedMetrics).filter
      (fun gate => !Text.startsWith gate.1 "reviewed_") = [] := by
    unfold reviewedGates
    split
    · split <;> simp [Text.startsWith]
    · rfl
  unfold GateInput.decisive GateInput.gates
  cases limited : input.limitedValidation with
  | true => rw [if_pos rfl, List.filter_append, kept, waived]; simp
  | false => simp

theorem passed_iff {env : AnalyticsRuntime} :
    (qualityGates env input).passed = true ↔ (∀ gate ∈ input.dataGates, gate.2 = true) ∧
      (input.limitedValidation = true ∨
        ∀ gate ∈ reviewedGates input.reviewedMetrics, gate.2 = true) := by
  have passed : (qualityGates env input).passed = true ↔
      ∀ gate ∈ input.decisive, gate.2 = true := List.all_eq_true
  rw [passed]
  simp only [mem_decisive_iff, or_imp, forall_and, and_imp]
  refine and_congr_right fun _ => ?_
  cases input.limitedValidation <;> simp

theorem MoreEvidence.dataGates
    (more : MoreEvidence occurrenceCounts suppressionHits feedback later first second)
    (passes : ∀ gate ∈ first.dataGates, gate.2 = true) :
    ∀ gate ∈ second.dataGates, gate.2 = true := by
  rw [more.others]
  simp only [GateInput.dataGates, List.forall_mem_cons, decide_eq_true_eq] at passes ⊢
  obtain ⟨history, baseline, backtest, volume, duplicates, rest⟩ := passes
  exact ⟨history.trans more.samples, baseline, backtest, more.candidates.trans volume,
    more.duplicates.trans duplicates, rest⟩

/-! ### Shares -/

theorem stableRound_eq_zero_iff {value : ℚ} (nonneg : 0 ≤ value) :
    stableRound value = 0 ↔ value * 10 ^ 6 ≤ 1 / 2 := by
  have scaled : 0 ≤ value * 10 ^ 6 := by positivity
  have rounded : stableRound value = 0 ↔ roundEven (value * 10 ^ 6) = 0 := by
    unfold stableRound roundTo
    rw [div_eq_zero_iff, or_iff_left (by norm_num), Int.cast_eq_zero]
  rw [rounded]
  constructor
  · intro zero
    by_contra above
    have low : (1 : ℤ) ≤ roundEven (value * 10 ^ 6) := by
      rcases le_or_gt 1 (value * 10 ^ 6) with large | small
      · rw [← roundEven_intCast 1]
        exact roundEven_mono (by exact_mod_cast large)
      · have below : ⌊value * 10 ^ 6⌋ = 0 := Int.floor_eq_zero_iff.mpr ⟨scaled, small⟩
        have half := not_le.mp above
        unfold roundEven
        dsimp only
        rw [below, Int.cast_zero, sub_zero, if_neg (not_lt.mpr half.le), if_pos half]
        decide
    omega
  · intro small
    have half : roundEven (1 / 2) = 0 := by decide +kernel
    have high := roundEven_mono small
    have low := roundEven_mono scaled
    rw [half] at high
    rw [← Int.cast_zero, roundEven_intCast] at low
    exact le_antisymm high low

theorem precision_mono {confirmed dismissed more fewer : Nat} (grown : confirmed ≤ more)
    (shrunk : fewer ≤ dismissed)
    (passes : 1 / 2 ≤ orDefault (share? confirmed (confirmed + dismissed)) 0) :
    0 < more ∧ 1 / 2 ≤ orDefault (share? more (more + fewer)) 0 := by
  have orZero : ∀ value : ℚ, orDefault (some value) 0 = value := fun value => by
    unfold orDefault
    dsimp only
    split_ifs with zero
    · exact zero.symm
    · rfl
  have some : confirmed ≠ 0 := by
    rintro rfl
    unfold share? at passes
    split_ifs at passes
    · exact absurd passes (by decide +kernel)
    · rw [orZero, Nat.cast_zero, zero_div] at passes
      exact absurd passes (by decide +kernel)
  have whole : (0 : ℚ) < ((confirmed + dismissed : ℕ) : ℚ) := by exact_mod_cast by omega
  have wholeMore : (0 : ℚ) < ((more + fewer : ℕ) : ℚ) := by exact_mod_cast by omega
  have ratio : (confirmed : ℚ) / ((confirmed + dismissed : ℕ) : ℚ) ≤
      (more : ℚ) / ((more + fewer : ℕ) : ℚ) := by
    rw [div_le_div_iff₀ whole wholeMore]
    have cross : confirmed * fewer ≤ more * dismissed := Nat.mul_le_mul grown shrunk
    have products : confirmed * (more + fewer) ≤ more * (confirmed + dismissed) := by
      rw [Nat.mul_add, Nat.mul_add, Nat.mul_comm confirmed more]
      exact Nat.add_le_add_left cross _
    exact_mod_cast products
  unfold share? at passes ⊢
  rw [if_neg (by omega), orZero] at passes ⊢
  exact ⟨by omega, passes.trans (roundTo_mono 6 ratio)⟩

/-- The gate on false positives: the share is not zero after rounding and at most a half. -/
theorem falsePositives_iff {confirmed dismissed : Nat} (some : confirmed + dismissed ≠ 0) :
    orDefault (share? dismissed (confirmed + dismissed)) 1 ≤ 1 / 2 ↔
      confirmed + dismissed < 2000000 * dismissed ∧
        stableRound ((dismissed : ℚ) / (confirmed + dismissed : ℕ)) ≤ 1 / 2 := by
  have whole : (0 : ℚ) < ((confirmed + dismissed : ℕ) : ℚ) := by
    exact_mod_cast Nat.pos_of_ne_zero some
  have zero : stableRound ((dismissed : ℚ) / (confirmed + dismissed : ℕ)) = 0 ↔
      (dismissed : ℚ) / (confirmed + dismissed : ℕ) * 10 ^ 6 ≤ 1 / 2 :=
    stableRound_eq_zero_iff (by positivity)
  have bound : (dismissed : ℚ) / (confirmed + dismissed : ℕ) * 10 ^ 6 ≤ 1 / 2 ↔
      2000000 * dismissed ≤ confirmed + dismissed := by
    rw [div_mul_eq_mul_div, div_le_iff₀ whole]
    constructor
    · intro le
      have cast : ((2000000 * dismissed : ℕ) : ℚ) ≤ ((confirmed + dismissed : ℕ) : ℚ) := by
        push_cast at le ⊢
        linarith
      exact_mod_cast cast
    · intro le
      have cast : ((2000000 * dismissed : ℕ) : ℚ) ≤ ((confirmed + dismissed : ℕ) : ℚ) := by
        exact_mod_cast le
      push_cast at cast ⊢
      linarith
  rw [bound] at zero
  unfold share? orDefault
  rw [if_neg some]
  dsimp only
  split_ifs with rounded
  · refine iff_of_false (by norm_num) fun both => ?_
    exact absurd (zero.mp rounded) (not_le.mpr both.1)
  · exact (and_iff_right (not_le.mp fun le => rounded (zero.mpr le))).symm

example : orDefault (share? 1 3) 1 ≤ 1 / 2 := by decide +kernel

/-- **A detector with more evidence** passes like before exactly if it is spared. -/
theorem MoreEvidence.passed_iff_spared {env : AnalyticsRuntime}
    (more : MoreEvidence occurrenceCounts suppressionHits feedback later first second)
    (passes : (qualityGates env first).passed = true) :
    (qualityGates env second).passed = true ↔ Spared second later := by
  rw [passed_iff] at passes ⊢
  obtain ⟨data, review⟩ := passes
  have limited : second.limitedValidation = first.limitedValidation := by rw [more.others]
  rw [and_iff_right (more.dataGates data), more.laterMetrics, reviewedGates_map]
  unfold Spared
  refine or_congr_right' fun unlimited => ?_
  rw [limited] at unlimited
  have gates := review.resolve_left unlimited
  rw [more.metrics, reviewedGates_map, more.reviewedCount_eq] at gates
  split_ifs at gates ⊢ with ten
  · simp only [List.forall_mem_cons, decide_eq_true_eq] at gates ⊢
    obtain ⟨precision, falsePositives, -⟩ := gates
    obtain ⟨positive, precise⟩ := precision_mono more.confirmed more.dismissed precision
    have reviewed : confirmedCount feedback + dismissedCount feedback ≠ 0 := by
      intro none
      unfold share? at precision
      rw [if_pos none] at precision
      exact absurd precision (by decide +kernel)
    rw [falsePositives_iff reviewed] at falsePositives
    rw [falsePositives_iff (by omega), or_iff_right (Nat.not_lt.mpr ten)]
    refine ⟨fun all => all.2.1.1, fun share => ⟨precise, ⟨share, ?_⟩, by simp⟩⟩
    refine (roundTo_mono 6 ?_).trans falsePositives.2
    have whole : (0 : ℚ) < ((confirmedCount feedback + dismissedCount feedback : ℕ) : ℚ) := by
      exact_mod_cast Nat.pos_of_ne_zero reviewed
    have wholeMore : (0 : ℚ) < ((confirmedCount later + dismissedCount later : ℕ) : ℚ) := by
      exact_mod_cast by omega
    have cross : dismissedCount later * confirmedCount feedback ≤
        dismissedCount feedback * confirmedCount later :=
      Nat.mul_le_mul more.dismissed more.confirmed
    have products : dismissedCount later * (confirmedCount feedback + dismissedCount feedback) ≤
        dismissedCount feedback * (confirmedCount later + dismissedCount later) := by
      rw [Nat.mul_add, Nat.mul_add, Nat.mul_comm (dismissedCount later) (dismissedCount feedback)]
      exact Nat.add_le_add_right cross _
    rw [div_le_div_iff₀ wholeMore whole]
    exact_mod_cast products
  · exact iff_of_true (by simp) (.inl (Nat.not_le.mp ten))

/-- Every newest label confirms its anomaly. -/
def AllConfirmed (feedback : Option (List FeedbackItem)) : Prop :=
  ∀ item ∈ latestLabels (feedback.getD []), item.label.any confirmedLabels.contains = true

theorem AllConfirmed.dismissedCount (all : AllConfirmed feedback) :
    dismissedCount feedback = 0 := by
  unfold Analytics.dismissedCount countLabels
  rw [List.countP_eq_zero]
  intro item inside dismissed
  obtain ⟨label, here, confirms⟩ := (Option.any_eq_true _ _).mp (all item inside)
  rw [here, Option.any_some] at dismissed
  rw [List.contains_iff_mem] at confirms dismissed
  unfold confirmedLabels at confirms
  unfold dismissedLabels at dismissed
  rcases List.mem_pair.mp confirms with rfl | rfl
  · exact absurd dismissed (by decide)
  · exact absurd dismissed (by decide)

theorem falsePositiveGate_iff (metrics : input.reviewedMetrics =
      feedback.map fun items => qualityMetrics items occurrenceCounts suppressionHits)
    (all : AllConfirmed feedback) :
    ("reviewed_false_positive", false) ∉ input.decisive ↔ Spared input feedback := by
  have data : ("reviewed_false_positive", false) ∉ input.dataGates := by
    simp [GateInput.dataGates]
  have none := all.dismissedCount
  have fails : ∀ confirmed : Nat, ¬ orDefault (share? 0 confirmed) 1 ≤ 1 / 2 := by
    intro confirmed
    unfold share?
    split_ifs
    · decide +kernel
    · rw [Nat.cast_zero, zero_div]
      decide +kernel
  rw [mem_decisive_iff, or_iff_right data, metrics, reviewedGates_map, none]
  unfold Spared
  rw [none, Nat.mul_zero, or_iff_left (Nat.not_lt_zero _), not_and_or, Bool.not_eq_false]
  refine or_congr_right ?_
  split_ifs with ten
  · rw [decide_eq_false (fails _)]
    exact iff_of_false (by simp) (Nat.not_lt.mpr ten)
  · exact iff_of_true List.not_mem_nil (Nat.not_le.mp ten)

/-- **The gates are monotone in the evidence** exactly for the inputs that are spared, and a
superseded revision changes nothing. -/
theorem quality_gates_monotone_iff (env : AnalyticsRuntime) (occurrenceCounts : List Int)
    (suppressionHits : Int) :
    (∀ feedback later first second,
      MoreEvidence occurrenceCounts suppressionHits feedback later first second →
      (qualityGates env first).passed = true →
      ((qualityGates env second).passed = true ↔ Spared second later)) ∧
    (∀ feedback (input : GateInput), input.reviewedMetrics =
        feedback.map (fun items => qualityMetrics items occurrenceCounts suppressionHits) →
      AllConfirmed feedback →
      (("reviewed_false_positive", false) ∉ input.decisive ↔ Spared input feedback)) ∧
    ∀ (before after : List FeedbackItem) (item : FeedbackItem) (input : GateInput),
      (∃ other ∈ before ++ after, other.key = item.key ∧
        item.revisionNumber < other.revisionNumber) →
      qualityGates env (input.withMetrics
          (qualityMetrics (before ++ item :: after) occurrenceCounts suppressionHits)) =
        qualityGates env (input.withMetrics
          (qualityMetrics (before ++ after) occurrenceCounts suppressionHits)) := by
  refine ⟨fun _ _ _ _ more passes => more.passed_iff_spared passes,
    fun _ _ metrics all => falsePositiveGate_iff metrics all, ?_⟩
  intro before after item input newer
  rw [qualityMetrics_superseded newer]

end Gates

/-! ### A detector that improved -/

section Improved

/-- The feedback of an analyst on ten anomalies, the first with a label of its own. -/
def tenReviews (label : String) : List FeedbackItem :=
  ⟨some 0, some 1, some label, 1, none⟩ ::
    (List.range 9).map fun number =>
      ⟨some (number + 1), some 1, some "confirmed_true_positive", 1, none⟩

/-- Gates that pass but for the reviews. -/
def reviewedInput (label : String) : GateInput where
  sampleCount := 30
  minimumSamples := 14
  baselineFinite := true
  deterministicBacktest := true
  candidateCount := 0
  maximumCandidates := 1000
  duplicateRate := 0
  explanationsComplete := true
  unresolvedErrors := []
  unsupportedFeatures := []
  securityPolicyViolations := []
  futureLeakage := false
  implementationVersion := some "1.0"
  reviewedMetrics := some (qualityMetrics (tenReviews label) [] 0)
  limitedValidation := false

theorem tenth_confirmation_fails : ¬ ∀ (env : AnalyticsRuntime) (occurrenceCounts : List Int)
    (suppressionHits : Int) (feedback later : Option (List FeedbackItem))
    (first second : GateInput),
    MoreEvidence occurrenceCounts suppressionHits feedback later first second →
    (qualityGates env first).passed = true → (qualityGates env second).passed = true := by
  intro always
  have more : MoreEvidence [] 0 (some (tenReviews "false_positive"))
      (some (tenReviews "confirmed_true_positive")) (reviewedInput "false_positive")
      (reviewedInput "confirmed_true_positive") := {
    metrics := rfl
    laterMetrics := rfl
    others := rfl
    samples := le_rfl
    candidates := le_rfl
    duplicates := le_rfl
    confirmed := by decide
    dismissed := by decide
    anomalies := fun id => Iff.of_eq (congrArg (id ∈ ·) (by decide)) }
  exact absurd (always plainAnalytics _ _ _ _ _ _ more (by decide +kernel)) (by decide +kernel)

end Improved

end ThreatScope.Analytics
