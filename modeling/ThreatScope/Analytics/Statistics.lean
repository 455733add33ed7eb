import ThreatScope.Analytics.Features
import ThreatScope.Library.Rounding

/-!
# Statistics of a baseline

The statistics of `analytics/features.py` and `build_statistics` of `analytics/baselines.py`,
in exact arithmetic. A baseline keeps a summary of its samples, and one of each seasonal
bucket that has enough of them. It keeps neither their EWMA nor the last of them.

Results of arithmetic are taken to be within the bound that `finite` checks.
-/

set_option autoImplicit false

namespace ThreatScope.Analytics

open Library AccessControl

/-! ## Numbers -/

def stableRound (value : ℚ) : ℚ := roundTo 6 value

/-- `statistics.fmean(values)`. -/
def fmean (values : List ℚ) : ℚ := values.sum / values.length

/-- `stable_round(statistics.pstdev(values))`. -/
def standardDeviation (values : List ℚ) : ℚ :=
  roundedSqrt 6 (fmean (values.map fun value => (value - fmean values) ^ 2))

def percentile (values : List ℚ) (quantile : ℚ) : ℚ :=
  stableRound (interpolate (sortedNumbers values) ((values.length - 1) * quantile / 100))

def medianAbsoluteDeviation (values : List ℚ) : ℚ :=
  stableRound (median (values.map fun value => |value - median values|))

def interquartileRange (values : List ℚ) : ℚ :=
  stableRound (percentile values 75 - percentile values 25)

def ewma (alpha : ℚ) : List ℚ → ℚ
  | [] => 0
  | first :: rest =>
    stableRound (rest.foldl (fun result item => alpha * item + (1 - alpha) * result) first)

/-! ## Summaries -/

/-- What `_summary` returns of values, with its percentiles by their number. -/
structure SampleSummary where
  mean : ℚ
  median : ℚ
  minimum : ℚ
  maximum : ℚ
  standardDeviation : ℚ
  mad : ℚ
  iqr : ℚ
  percentile5 : ℚ
  percentile25 : ℚ
  percentile50 : ℚ
  percentile75 : ℚ
  percentile95 : ℚ

/-- `_summary(values)`, of values that are not none. -/
def summarize (values : List ℚ) : SampleSummary where
  mean := stableRound (fmean values)
  median := stableRound (Library.median values)
  minimum := stableRound (values.min?.getD 0)
  maximum := stableRound (values.max?.getD 0)
  standardDeviation := if 1 < values.length then Analytics.standardDeviation values else 0
  mad := medianAbsoluteDeviation values
  iqr := interquartileRange values
  percentile5 := percentile values 5
  percentile25 := percentile values 25
  percentile50 := percentile values 50
  percentile75 := percentile values 75
  percentile95 := percentile values 95

/-- `percentiles.get(str(number))`. -/
def SampleSummary.percentile? (summary : SampleSummary) (number : Int) : Option ℚ :=
  if number = 5 then some summary.percentile5
  else if number = 25 then some summary.percentile25
  else if number = 50 then some summary.percentile50
  else if number = 75 then some summary.percentile75
  else if number = 95 then some summary.percentile95
  else none

/-! ## Seasons -/

/-- `SEASONALITIES`. -/
inductive Seasonality where
  | none
  | hourOfDay
  | dayOfWeek
  | weekdayWeekend
  | fixedUtcBucket
  | sourcePeriodicBucket
deriving DecidableEq

/-- A key of `seasonal_summaries`. -/
inductive SeasonalKey where
  | all
  | hour (number : Int)
  | weekday (number : Int)
  | weekend (free : Bool)
  | utc (start : Int)
deriving DecidableEq

/-- `value.hour`. -/
def hourOf (moment : Instant) : Int := moment / 3600000000 % 24

/-- `value.weekday()`. The first day of 1970 was a Thursday. -/
def weekdayOf (moment : Instant) : Int := (moment / 86400000000 + 3) % 7

def seasonalBucket (moment : Instant) : Seasonality → SeasonalKey
  | .none => .all
  | .hourOfDay => .hour (hourOf moment)
  | .dayOfWeek => .weekday (weekdayOf moment)
  | .weekdayWeekend => .weekend (decide (5 ≤ weekdayOf moment))
  | .fixedUtcBucket | .sourcePeriodicBucket => .utc (hourOf moment / 6 * 6)

/-- An entry of `seasonal_summaries`. -/
inductive SeasonalSummary where
  | fallback (sampleCount : Nat)
  | ready (sampleCount : Nat) (summary : SampleSummary)

/-! ## Building -/

/-- A sample: the value of a window, missing where nothing was counted, and its end. -/
abbrev Sample := Option ℚ × Instant

/-- What `build_statistics` returns, as far as scoring reads it. -/
structure Statistics where
  summary : SampleSummary
  observationCount : Nat
  missingValueCount : Nat
  ready : Bool
  seasonal : List (SeasonalKey × SeasonalSummary)

/-- The values that are there, with the ends of their windows. -/
def presentSamples (samples : List Sample) : List (ℚ × Instant) :=
  samples.filterMap fun sample => sample.1.map fun value => (value, sample.2)

/-- The values that are there. -/
def presentValues (samples : List Sample) : List ℚ := (presentSamples samples).map Prod.fst

/-- `clean_values(values, non_negative=True)`, as far as it fails. -/
def cleanValues (samples : List Sample) : Except ServiceError Unit :=
  if maxValues < samples.length then .error (.valueError "Feature sample limit exceeded")
  else if (presentValues samples).any fun value => value < 0 then
    .error (.valueError "Negative values are invalid for this feature")
  else .ok ()

/-- The values after winsorization. -/
def winsorized (values : List ℚ) : List ℚ :=
  values.map fun value => max (percentile values 5) (min (percentile values 95) value)

/-- The summary of one bucket. -/
def bucketSummary (minimumSamples : Nat) (values : List ℚ) : SeasonalSummary :=
  if values.length < max 3 (min minimumSamples 10) then .fallback values.length
  else .ready values.length (summarize values)

/-- `seasonal_summaries`, one entry for each bucket that has a value. -/
def seasonalSummaries (minimumSamples : Nat) (seasonality : Seasonality)
    (samples : List (ℚ × Instant)) : List (SeasonalKey × SeasonalSummary) :=
  if seasonality = .none then []
  else
    (samples.map fun sample => seasonalBucket sample.2 seasonality).dedup.map fun key =>
      (key, bucketSummary minimumSamples ((samples.filter fun sample =>
        seasonalBucket sample.2 seasonality = key).map Prod.fst))

def minPeerGroupSize : Nat := 5

/-- The values that the statistics are made of. -/
def usedValues (samples : List Sample) (winsorize : Bool) : List ℚ :=
  if winsorize then winsorized (presentValues samples) else presentValues samples

/-- The statistics of samples that have been checked. -/
def statisticsOf (samples : List Sample) (minimumSamples : Nat) (seasonality : Seasonality)
    (winsorize : Bool) (peerGroupSize : Option Nat) : Statistics where
  summary := summarize (usedValues samples winsorize)
  observationCount := (usedValues samples winsorize).length
  missingValueCount := samples.length - (presentValues samples).length
  ready := !(peerGroupSize.any fun size => size < minPeerGroupSize) &&
    decide (minimumSamples ≤ (usedValues samples winsorize).length)
  seasonal := seasonalSummaries minimumSamples seasonality (presentSamples samples)

def buildStatistics (samples : List Sample) (minimumSamples : Nat) (seasonality : Seasonality)
    (winsorize : Bool) (peerGroupSize : Option Nat) : Except ServiceError Statistics :=
  if 1 ≤ minimumSamples ∧ minimumSamples ≤ 1000 then do
    cleanValues samples
    return statisticsOf samples minimumSamples seasonality winsorize peerGroupSize
  else .error (.valueError "Minimum sample requirement is outside the server bound")

/-! ## Summaries of values that are not negative -/

/-- No statistic of the summary is negative. -/
structure SampleSummary.Nonneg (summary : SampleSummary) : Prop where
  mean : 0 ≤ summary.mean
  median : 0 ≤ summary.median
  minimum : 0 ≤ summary.minimum
  maximum : 0 ≤ summary.maximum
  standardDeviation : 0 ≤ summary.standardDeviation
  mad : 0 ≤ summary.mad
  iqr : 0 ≤ summary.iqr
  percentile5 : 0 ≤ summary.percentile5
  percentile25 : 0 ≤ summary.percentile25
  percentile50 : 0 ≤ summary.percentile50
  percentile75 : 0 ≤ summary.percentile75
  percentile95 : 0 ≤ summary.percentile95

theorem stableRound_nonneg {value : ℚ} (nonneg : 0 ≤ value) : 0 ≤ stableRound value :=
  roundTo_nonneg 6 nonneg

theorem standardDeviation_nonneg (values : List ℚ) : 0 ≤ standardDeviation values :=
  roundedSqrt_nonneg 6 _

section Percentiles

variable {values : List ℚ} {quantile : ℚ}

theorem position_bounds (some : values ≠ []) (low : 0 ≤ quantile) (high : quantile ≤ 100) :
    0 ≤ ((values.length : ℚ) - 1) * quantile / 100 ∧
      ((values.length : ℚ) - 1) * quantile / 100 ≤ (sortedNumbers values).length - 1 := by
  have count : (1 : ℚ) ≤ values.length := by
    exact_mod_cast List.length_pos_of_ne_nil some
  rw [length_sortedNumbers]
  constructor
  · have product := mul_nonneg (sub_nonneg.mpr count) low
    linarith
  · have product := mul_nonneg (sub_nonneg.mpr count) (sub_nonneg.mpr high)
    linarith

theorem percentile_nonneg (some : values ≠ []) (low : 0 ≤ quantile) (high : quantile ≤ 100)
    (nonneg : ∀ value ∈ values, 0 ≤ value) : 0 ≤ percentile values quantile := by
  obtain ⟨front, back⟩ := position_bounds some low high
  refine stableRound_nonneg (le_interpolate front back (sortedNumbers_ne_nil some) ?_)
  intro value member
  exact nonneg value (mem_sortedNumbers_iff.mp member)

theorem percentile_le {bound : ℤ} (some : values ≠ []) (low : 0 ≤ quantile)
    (high : quantile ≤ 100) (bounded : ∀ value ∈ values, value ≤ bound) :
    percentile values quantile ≤ bound := by
  obtain ⟨front, back⟩ := position_bounds some low high
  refine roundTo_le 6 (interpolate_le front back (sortedNumbers_ne_nil some) ?_)
  intro value member
  exact bounded value (mem_sortedNumbers_iff.mp member)

theorem percentile_mono {later : ℚ} (some : values ≠ []) (low : 0 ≤ quantile)
    (le : quantile ≤ later) (high : later ≤ 100) :
    percentile values quantile ≤ percentile values later := by
  have front := (position_bounds some low (le.trans high)).1
  have back := (position_bounds some (low.trans le) high).2
  have count : (1 : ℚ) ≤ values.length := by
    exact_mod_cast List.length_pos_of_ne_nil some
  have before : ((values.length : ℚ) - 1) * quantile / 100 ≤
      ((values.length : ℚ) - 1) * later / 100 := by
    have product := mul_le_mul_of_nonneg_left le (sub_nonneg.mpr count)
    linarith
  exact roundTo_mono 6 (interpolate_mono (pairwise_sortedNumbers values) front before back
    (sortedNumbers_ne_nil some))

end Percentiles

/-- **The summary of values** that are not negative has no negative statistic. -/
theorem nonneg_summarize {values : List ℚ} (some : values ≠ [])
    (nonneg : ∀ value ∈ values, 0 ≤ value) : (summarize values).Nonneg where
  mean := by
    have total : 0 ≤ values.sum := List.sum_nonneg nonneg
    exact stableRound_nonneg (div_nonneg total (Nat.cast_nonneg _))
  median := stableRound_nonneg (le_median some nonneg)
  minimum := by
    refine stableRound_nonneg ?_
    cases least : values.min? with
    | none => exact le_rfl
    | some value => exact nonneg value (List.min?_mem least)
  maximum := by
    refine stableRound_nonneg ?_
    cases greatest : values.max? with
    | none => exact le_rfl
    | some value => exact nonneg value (List.max?_mem greatest)
  standardDeviation := by
    unfold summarize
    dsimp only
    split
    · exact standardDeviation_nonneg values
    · exact le_rfl
  mad := by
    refine stableRound_nonneg (le_median (by simpa using some) ?_)
    intro value member
    obtain ⟨sample, -, rfl⟩ := List.mem_map.mp member
    exact abs_nonneg _
  iqr := stableRound_nonneg (sub_nonneg.mpr
    (percentile_mono some (by norm_num) (by norm_num) (by norm_num)))
  percentile5 := percentile_nonneg some (by norm_num) (by norm_num) nonneg
  percentile25 := percentile_nonneg some (by norm_num) (by norm_num) nonneg
  percentile50 := percentile_nonneg some (by norm_num) (by norm_num) nonneg
  percentile75 := percentile_nonneg some (by norm_num) (by norm_num) nonneg
  percentile95 := percentile_nonneg some (by norm_num) (by norm_num) nonneg

/-! ## Built statistics -/

theorem winsorized_nonneg {values : List ℚ} (nonneg : ∀ value ∈ values, 0 ≤ value) :
    ∀ value ∈ winsorized values, 0 ≤ value := by
  intro value member
  obtain ⟨sample, inside, rfl⟩ := List.mem_map.mp member
  have some : values ≠ [] := List.ne_nil_of_mem inside
  exact (percentile_nonneg some (by norm_num) (by norm_num) nonneg).trans (le_max_left _ _)

theorem usedValues_nonneg {samples : List Sample} {winsorize : Bool}
    (nonneg : ∀ value ∈ presentValues samples, 0 ≤ value) :
    ∀ value ∈ usedValues samples winsorize, 0 ≤ value := by
  unfold usedValues
  split
  · exact winsorized_nonneg nonneg
  · exact nonneg

theorem nonneg_of_cleanValues {samples : List Sample} {checked : Unit}
    (clean : cleanValues samples = .ok checked) : ∀ value ∈ presentValues samples, 0 ≤ value := by
  intro value member
  unfold cleanValues at clean
  split at clean
  · cases clean
  · split at clean
    · cases clean
    · rename_i negative
      rw [List.any_eq_true, not_exists] at negative
      have here := negative value
      rw [not_and, decide_eq_true_eq, not_lt] at here
      exact here member

/-- A summary of the statistics: the one of all samples, or the one of a bucket. -/
def Statistics.Keeps (statistics : Statistics) (summary : SampleSummary) : Prop :=
  summary = statistics.summary ∨
    ∃ key count, (key, SeasonalSummary.ready count summary) ∈ statistics.seasonal

theorem mem_seasonalSummaries {minimumSamples : Nat} {seasonality : Seasonality}
    {samples : List (ℚ × Instant)} {key : SeasonalKey} {count : Nat} {summary : SampleSummary}
    (member : (key, SeasonalSummary.ready count summary) ∈
      seasonalSummaries minimumSamples seasonality samples) :
    ∃ values : List ℚ, values ≠ [] ∧ (∀ value ∈ values, value ∈ samples.map Prod.fst) ∧
      summary = summarize values := by
  unfold seasonalSummaries at member
  split at member
  · cases member
  · obtain ⟨found, -, same⟩ := List.mem_map.mp member
    have kept := congrArg Prod.snd same
    unfold bucketSummary at kept
    split at kept
    · cases kept
    · rename_i enough
      cases kept
      refine ⟨_, ?_, ?_, rfl⟩
      · rintro empty
        rw [empty] at enough
        simp at enough
      · intro value inside
        obtain ⟨sample, kept, rfl⟩ := List.mem_map.mp inside
        exact List.mem_map_of_mem (List.mem_filter.mp kept).1

/-- **Ready statistics** keep no negative statistic. -/
theorem nonneg_of_buildStatistics {samples : List Sample} {minimumSamples : Nat}
    {seasonality : Seasonality} {winsorize : Bool} {peerGroupSize : Option Nat}
    {statistics : Statistics}
    (built : buildStatistics samples minimumSamples seasonality winsorize peerGroupSize =
      .ok statistics)
    (ready : statistics.ready = true) {summary : SampleSummary} (kept : statistics.Keeps summary) :
    summary.Nonneg := by
  unfold buildStatistics at built
  split at built
  · rename_i bounds
    obtain ⟨checked, clean, built⟩ := bind_eq_ok_iff.mp built
    have nonneg := nonneg_of_cleanValues clean
    cases built
    have enough := (Bool.and_eq_true_iff.mp ready).2
    rw [decide_eq_true_eq] at enough
    rcases kept with rfl | ⟨key, count, member⟩
    · refine nonneg_summarize ?_ (usedValues_nonneg nonneg)
      rintro empty
      rw [empty, List.length_nil] at enough
      omega
    · obtain ⟨values, some, inside, rfl⟩ := mem_seasonalSummaries member
      exact nonneg_summarize some fun value here => nonneg value (inside value here)
  · cases built

end ThreatScope.Analytics
