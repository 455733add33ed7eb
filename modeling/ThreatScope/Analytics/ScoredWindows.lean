import ThreatScope.Analytics.ScoringTotality

/-!
# Scored windows, and samples at which every parameter matters

As many samples of zero as of two have the mean, the median and the spread one, also after
winsorization, and an observation of three lies outside every percentile of them. They all
end at one moment, so that a window that ends at another hour of another day finds no
bucket and is compared with all of them.
-/

set_option autoImplicit false

namespace ThreatScope.Analytics

open Library AccessControl

/-- As many values of zero as of two. -/
def tellingValues (count : Nat) : List ℚ := List.replicate count 0 ++ List.replicate count 2

/-- The values as samples that end at one moment, a Thursday at midnight. -/
def tellingSamples (count : Nat) : List Sample :=
  (tellingValues count).map fun value => (some value, 0)

/-- A Saturday at noon. -/
def tellingEnd : Instant := 216000000000

/-- The statistics of the samples. -/
def tellingStatistics (count : Nat) (seasonality : Seasonality) (winsorize : Bool) : Statistics :=
  statisticsOf (tellingSamples count) count seasonality winsorize none

variable {count : Nat}

@[simp] theorem length_tellingValues : (tellingValues count).length = count + count := by
  simp [tellingValues]

theorem tellingValues_ne_nil (some : 2 ≤ count) : tellingValues count ≠ [] := by
  intro empty
  have length : (tellingValues count).length = count + count := length_tellingValues
  rw [empty, List.length_nil] at length
  omega

theorem eq_of_mem_tellingValues {value : ℚ} (member : value ∈ tellingValues count) :
    value = 0 ∨ value = 2 := by
  rcases List.mem_append.mp member with small | large
  · exact .inl (List.eq_of_mem_replicate small)
  · exact .inr (List.eq_of_mem_replicate large)

@[simp] theorem presentSamples_telling :
    presentSamples (tellingSamples count) = (tellingValues count).map fun value => (value, 0) := by
  unfold presentSamples tellingSamples
  rw [List.filterMap_map]
  exact congrFun List.filterMap_eq_map _

@[simp] theorem presentValues_telling :
    presentValues (tellingSamples count) = tellingValues count := by
  unfold presentValues
  rw [presentSamples_telling, List.map_map]
  exact List.map_id _

/-! ## Winsorization changes nothing -/

theorem sortedNumbers_tellingValues : sortedNumbers (tellingValues count) = tellingValues count :=
  sortedNumbers_replicate_append (by norm_num) count

theorem getD_tellingValues_small {index : Nat} (small : index < count) :
    (tellingValues count).getD index 0 = 0 := by
  unfold tellingValues
  rw [List.getD_append _ _ _ _ (by simpa using small)]
  simp

theorem getD_tellingValues_large {index : Nat} (small : count ≤ index)
    (inside : index < count + count) : (tellingValues count).getD index 0 = 2 := by
  unfold tellingValues
  rw [List.getD_append_right _ _ _ _ (by simpa using small),
    List.getD_eq_getElem _ _ (by simp; omega)]
  simp

theorem percentile5_tellingValues (some : 2 ≤ count) : percentile (tellingValues count) 5 = 0 := by
  have many : (2 : ℚ) ≤ count := by exact_mod_cast some
  have low : (0 : ℚ) ≤ ((count + count : Nat) - 1) * 5 / 100 := by
    push_cast
    linarith
  have high : ((count + count : Nat) - 1 : ℚ) * 5 / 100 ≤ ((count - 1 : Int) : ℚ) := by
    push_cast
    linarith
  have ceil := Int.ceil_le.mpr high
  have floor := (Int.floor_le_ceil _).trans ceil
  unfold percentile
  rw [sortedNumbers_tellingValues, length_tellingValues,
    interpolate_eq_of_neighbours (getD_tellingValues_small (by omega))
      (getD_tellingValues_small (by omega))]
  exact roundTo_zero 6

theorem percentile95_tellingValues (some : 2 ≤ count) :
    percentile (tellingValues count) 95 = 2 := by
  have many : (2 : ℚ) ≤ count := by exact_mod_cast some
  have low : ((count : Int) : ℚ) ≤ ((count + count : Nat) - 1) * 95 / 100 := by
    push_cast
    linarith
  have high : ((count + count : Nat) - 1 : ℚ) * 95 / 100 ≤ ((count + count - 1 : Int) : ℚ) := by
    push_cast
    linarith
  have floor := Int.le_floor.mpr low
  have ceil := Int.ceil_le.mpr high
  have order := Int.floor_le_ceil (((count + count : Nat) - 1 : ℚ) * 95 / 100)
  unfold percentile
  rw [sortedNumbers_tellingValues, length_tellingValues,
    interpolate_eq_of_neighbours (getD_tellingValues_large (by omega) (by omega))
      (getD_tellingValues_large (by omega) (by omega))]
  exact roundTo_intCast 6 2

theorem winsorized_tellingValues (some : 2 ≤ count) :
    winsorized (tellingValues count) = tellingValues count := by
  unfold winsorized
  rw [percentile5_tellingValues some, percentile95_tellingValues some]
  refine (List.map_congr_left ?_).trans (List.map_id _)
  intro value member
  rcases eq_of_mem_tellingValues member with rfl | rfl
  · norm_num
  · norm_num

theorem usedValues_telling (some : 2 ≤ count) (winsorize : Bool) :
    usedValues (tellingSamples count) winsorize = tellingValues count := by
  unfold usedValues
  rw [presentValues_telling, winsorized_tellingValues some]
  exact ite_self _

/-! ## The statistics -/

theorem fmean_tellingValues (some : 2 ≤ count) : fmean (tellingValues count) = 1 := by
  have many : (count : ℚ) ≠ 0 := by
    have positive : 0 < count := by omega
    exact_mod_cast positive.ne'
  unfold fmean
  rw [length_tellingValues]
  unfold tellingValues
  rw [List.sum_append, List.sum_replicate, List.sum_replicate]
  rw [smul_zero, zero_add, nsmul_eq_mul, Nat.cast_add, ← mul_two]
  exact div_self (mul_ne_zero many two_ne_zero)

theorem standardDeviation_tellingValues (some : 2 ≤ count) :
    standardDeviation (tellingValues count) = 1 := by
  have squares : ((tellingValues count).map fun value => (value - 1) ^ 2) =
      List.replicate (count + count) (1 : ℚ) := by
    rw [List.eq_replicate_iff, List.length_map, length_tellingValues]
    refine ⟨rfl, ?_⟩
    intro square member
    obtain ⟨value, inside, rfl⟩ := List.mem_map.mp member
    rcases eq_of_mem_tellingValues inside with rfl | rfl
    · norm_num
    · norm_num
  have many : ((count + count : Nat) : ℚ) ≠ 0 := by
    have positive : 0 < count + count := by omega
    exact_mod_cast positive.ne'
  unfold standardDeviation
  rw [fmean_tellingValues some, squares]
  unfold fmean
  rw [List.sum_replicate, List.length_replicate, nsmul_eq_mul, mul_one, div_self many]
  exact roundedSqrt_one 6

theorem medianAbsoluteDeviation_tellingValues (some : 2 ≤ count) :
    medianAbsoluteDeviation (tellingValues count) = 1 := by
  have middle : median (tellingValues count) = 1 := by
    have mean := median_replicate_append (show (0 : ℚ) ≤ 2 by norm_num) count (by omega)
    norm_num at mean
    exact mean
  have distances : ((tellingValues count).map fun value => |value - 1|) =
      List.replicate count (1 : ℚ) ++ List.replicate count 1 := by
    unfold tellingValues
    rw [List.map_append, List.map_replicate, List.map_replicate]
    norm_num
  unfold medianAbsoluteDeviation
  rw [middle, distances, median_replicate_append le_rfl count (by omega)]
  norm_num
  exact roundTo_intCast 6 1

theorem percentile?_tellingValues_le (some : 2 ≤ count) (number : Int) :
    ((summarize (tellingValues count)).percentile? number).getD
      (summarize (tellingValues count)).maximum ≤ (2 : ℤ) := by
  have nonempty := tellingValues_ne_nil some
  have within : ∀ value ∈ tellingValues count, value ≤ ((2 : ℤ) : ℚ) := by
    intro value member
    rcases eq_of_mem_tellingValues member with rfl | rfl
    · norm_num
    · norm_num
  have largest : (summarize (tellingValues count)).maximum ≤ ((2 : ℤ) : ℚ) := by
    refine roundTo_le 6 ?_
    cases greatest : (tellingValues count).max? with
    | none => norm_num
    | some value => exact within value (List.max?_mem greatest)
  unfold SampleSummary.percentile?
  split_ifs
  · exact percentile_le nonempty (by norm_num) (by norm_num) within
  · exact percentile_le nonempty (by norm_num) (by norm_num) within
  · exact percentile_le nonempty (by norm_num) (by norm_num) within
  · exact percentile_le nonempty (by norm_num) (by norm_num) within
  · exact percentile_le nonempty (by norm_num) (by norm_num) within
  · exact largest

/-! ## The baseline -/

theorem seasonal_telling_ne {seasonality : Seasonality} {winsorize : Bool}
    (apart : seasonality ≠ .none) {entry : SeasonalKey × SeasonalSummary}
    (member : entry ∈ (tellingStatistics count seasonality winsorize).seasonal) :
    entry.1 ≠ seasonalBucket tellingEnd seasonality := by
  have inside : entry ∈ seasonalSummaries count seasonality
      (presentSamples (tellingSamples count)) := member
  unfold seasonalSummaries at inside
  rw [if_neg apart, presentSamples_telling, List.map_map] at inside
  obtain ⟨key, keyIn, rfl⟩ := List.mem_map.mp inside
  obtain ⟨value, -, rfl⟩ := List.mem_map.mp (List.mem_dedup.mp keyIn)
  show seasonalBucket 0 seasonality ≠ seasonalBucket tellingEnd seasonality
  cases seasonality with
  | none => exact absurd rfl apart
  | hourOfDay => decide
  | dayOfWeek => decide
  | weekdayWeekend => decide
  | fixedUtcBucket => decide
  | sourcePeriodicBucket => decide

theorem buildStatistics_telling (some : 2 ≤ count) (few : count ≤ 1000)
    (seasonality : Seasonality) (winsorize : Bool) :
    buildStatistics (tellingSamples count) count seasonality winsorize none =
      .ok (tellingStatistics count seasonality winsorize) := by
  have clean : cleanValues (tellingSamples count) = .ok () := by
    have short : ¬ maxValues < (tellingSamples count).length := by
      unfold tellingSamples
      rw [List.length_map, length_tellingValues]
      show ¬ 10000 < count + count
      omega
    have nonneg : ((presentValues (tellingSamples count)).any fun value => value < 0) = false := by
      rw [List.any_eq_false, presentValues_telling]
      intro value member
      rcases eq_of_mem_tellingValues member with rfl | rfl
      · norm_num
      · norm_num
    unfold cleanValues
    rw [if_neg short, nonneg, if_neg (by decide)]
  unfold buildStatistics
  rw [if_pos ⟨by omega, few⟩, clean]
  rfl

theorem ready_telling (some : 2 ≤ count) (seasonality : Seasonality) (winsorize : Bool) :
    (tellingStatistics count seasonality winsorize).ready = true := by
  unfold tellingStatistics statisticsOf
  dsimp only
  rw [usedValues_telling some, length_tellingValues]
  simp

/-- **At these samples every parameter matters.** -/
theorem tells_telling (some : 2 ≤ count) (seasonality : Seasonality) (winsorize : Bool) :
    (StoredBaseline.baseline ⟨tellingStatistics count seasonality winsorize⟩ tellingEnd
      seasonality).Tells 3 := by
  have summary : (tellingStatistics count seasonality winsorize).summary =
      summarize (tellingValues count) := by
    unfold tellingStatistics statisticsOf
    dsimp only
    rw [usedValues_telling some]
  have bucket : (StoredBaseline.baseline ⟨tellingStatistics count seasonality winsorize⟩
      tellingEnd seasonality).seasonalBucket = none := by
    unfold StoredBaseline.baseline
    dsimp only
    split
    · rfl
    · rename_i apart
      rw [Option.map_eq_none_iff, List.find?_eq_none]
      intro entry member
      rw [decide_eq_true_eq]
      exact seasonal_telling_ne apart member
  have deviation : (summarize (tellingValues count)).mad ≠ 0 := by
    show medianAbsoluteDeviation (tellingValues count) ≠ 0
    rw [medianAbsoluteDeviation_tellingValues some]
    norm_num
  constructor
  · show (tellingStatistics count seasonality winsorize).summary.standardDeviation ≠ 0
    rw [summary]
    unfold summarize
    dsimp only
    rw [if_pos (by rw [length_tellingValues]; omega), standardDeviation_tellingValues some]
    norm_num
  · show (tellingStatistics count seasonality winsorize).summary.mad ≠ 0
    rw [summary]
    exact deviation
  · unfold Baseline.selected
    rw [bucket]
    show (tellingStatistics count seasonality winsorize).summary.mad ≠ 0
    rw [summary]
    exact deviation
  · intro number
    show ((tellingStatistics count seasonality winsorize).summary.percentile? number).getD
      (tellingStatistics count seasonality winsorize).summary.maximum < 3
    rw [summary]
    refine (percentile?_tellingValues_le some number).trans_lt ?_
    norm_num

/-!
## Scored windows

A configuration that the schema accepts is scored on every ready baseline and every
observation exactly if its parameters suit its method (`scores_every_window_iff`). Where they
do not, one window is enough to see it: the one of `TellingSamples`. There a parameter
that does not suit makes a method fail, and an ensemble without a score fails in the
severity.
-/

/-! ## Accepted configurations and their readings -/

/-- The names of threshold parameters that `server_owned` allows. -/
def parameterNames : List String :=
  ["threshold", "value", "threshold_value", "direction", "multiplier", "low_percentile",
    "high_percentile", "distance_threshold", "change_threshold", "count_threshold", "alpha"]

/-- What `DetectorConfiguration` checks of the fields that scoring reads. Every feature of the
catalogue allows every method and every seasonality. -/
structure DetectorConfiguration.Accepted (configuration : DetectorConfiguration) : Prop where
  some : configuration.featureKeys ≠ []
  few : configuration.featureKeys.length ≤ 10
  distinct : configuration.featureKeys.Nodup
  least : 2 ≤ configuration.minimumHistoricalWindows
  most : configuration.minimumHistoricalWindows ≤ 1000
  named : ∀ key ∈ configuration.thresholdParameters.map Prod.fst, key ∈ parameterNames
  entries : configuration.ensemble.length ≤ 10
  participants : configuration.method = .weightedEnsemble → 2 ≤ configuration.ensemble.length

/-- The baseline of a reading was built for the configuration, and nothing negative was
observed. -/
structure DetectorConfiguration.Reads (configuration : DetectorConfiguration)
    (reading : FeatureReading) : Prop where
  built : ∀ stored ∈ reading.baseline, ∃ samples peerGroupSize,
    buildStatistics samples configuration.minimumHistoricalWindows configuration.seasonality
      configuration.winsorize peerGroupSize = .ok stored.statistics
  observed : ∀ value ∈ reading.observed, 0 ≤ value

section Windows

variable {rounding : Rounding} {py : Interpreter} {configuration : DetectorConfiguration}

theorem StoredBaseline.nonneg_baseline (stored : StoredBaseline) {samples : List Sample}
    {minimumSamples : Nat} {seasonality : Seasonality} {winsorize : Bool}
    {peerGroupSize : Option Nat}
    (built : buildStatistics samples minimumSamples seasonality winsorize peerGroupSize =
      .ok stored.statistics) (ready : stored.statistics.ready = true) (observationEnd : Instant)
    (read : Seasonality) : (stored.baseline observationEnd read).Nonneg := by
  have kept : ∀ summary, stored.statistics.Keeps summary → summary.Nonneg := fun summary =>
    nonneg_of_buildStatistics built ready
  have general := kept _ (.inl rfl)
  refine ⟨general, ?_, general.mean⟩
  unfold Baseline.selected
  split
  · rename_i count summary bucket
    refine kept _ (.inr ?_)
    unfold StoredBaseline.baseline at bucket
    dsimp only at bucket
    split at bucket
    · cases bucket
    · obtain ⟨⟨key, kind⟩, found, same⟩ := Option.map_eq_some_iff.mp bucket
      cases same
      exact ⟨key, count, List.mem_of_find?_eq_some found⟩
  · exact general

theorem exists_scoreReadings (keeps : rounding.KeepsSign)
    (scorable : configuration.Scorable py) (observationEnd : Instant)
    {readings : List FeatureReading} (read : ∀ reading ∈ readings, configuration.Reads reading) :
    ∃ result, scoreReadings py rounding configuration observationEnd readings = .ok result ∧
      ∀ scored ∈ result, scored.length = readings.length ∧ ∀ pair ∈ scored, pair.2.Sound := by
  induction readings with
  | nil =>
    refine ⟨some [], rfl, ?_⟩
    intro scored same
    cases same
    exact ⟨rfl, fun pair member => nomatch member⟩
  | cons reading rest ih =>
    have here := read reading List.mem_cons_self
    obtain ⟨others, othersRead, sound⟩ :=
      ih fun other member => read other (List.mem_cons_of_mem _ member)
    unfold scoreReadings
    split
    · rename_i stored observed baseline value
      split
      · rename_i ready
        obtain ⟨samples, peerGroupSize, built⟩ := here.built stored baseline
        obtain ⟨output, found, good⟩ := exists_scoreOne_of_scorable keeps
          (stored.nonneg_baseline built ready observationEnd configuration.seasonality)
          (here.observed observed value) scorable
        refine ⟨_, bind_eq_ok_iff.mpr ⟨output, found,
          bind_eq_ok_iff.mpr ⟨others, othersRead, rfl⟩⟩, ?_⟩
        intro scored member
        obtain ⟨outputs, inside, rfl⟩ := Option.map_eq_some_iff.mp member
        obtain ⟨length, each⟩ := sound outputs inside
        refine ⟨by rw [List.length_cons, List.length_cons, length], ?_⟩
        intro pair here
        rcases List.mem_cons.mp here with rfl | later
        · exact good
        · exact each pair later
      · exact ⟨none, rfl, fun scored member => nomatch member⟩
    · exact ⟨none, rfl, fun scored member => nomatch member⟩

theorem mem_of_primaryOutput {outputs : List ScoreOutput} {primary : ScoreOutput}
    (found : primaryOutput outputs = some primary) : primary ∈ outputs := by
  induction outputs generalizing primary with
  | nil => cases found
  | cons output rest ih =>
    unfold primaryOutput at found
    split at found
    · cases found
      exact List.mem_cons_self
    · rename_i other later
      split at found
      · cases found
        exact List.mem_cons_of_mem _ (ih later)
      · cases found
        exact List.mem_cons_self

theorem finiteNumber_of_small {nonNegative : Bool} {value : ℚ} (nonneg : 0 ≤ value)
    (small : value ≤ 10) : finiteNumber nonNegative value = .ok value := by
  have large : (10 : ℚ) ≤ safeBound := by
    have power : (1 : ℚ) ≤ 2 ^ 946 := one_le_pow₀ one_le_two
    have digits : (10 : ℚ) ≤ 1681218273811815 * 1 := by norm_num
    exact digits.trans (mul_le_mul_of_nonneg_left power (by norm_num))
  unfold finiteNumber
  rw [if_neg fun negative => absurd nonneg (not_le.mpr negative.2), abs_of_nonneg nonneg,
    if_neg (not_lt.mpr (small.trans large))]

theorem finiteParameter_int {nonNegative : Bool} {number : Int} (positive : 0 ≤ number)
    (small : number ≤ 10) : finiteParameter nonNegative (.int number) = .ok number :=
  finiteNumber_of_small (by exact_mod_cast positive) (by exact_mod_cast small)

theorem exists_finalOutput (keeps : rounding.KeepsSign) {outputs : List ScoreOutput}
    (some : outputs ≠ []) (sound : ∀ output ∈ outputs, output.Sound) :
    ∃ final, finalOutput rounding outputs = .ok final ∧ final.Sound := by
  unfold finalOutput
  split
  · exact ⟨_, rfl, sound _ List.mem_cons_self⟩
  · rename_i several
    have many : 2 ≤ outputs.length := by
      match outputs, some, several with
      | [output], _, several => exact absurd rfl (several output)
      | _ :: _ :: _, _, _ => simp
    have weighted : List.Forall₂ (fun weight number => finiteParameter true weight = .ok number)
        (outputs.map fun _ => Json.int 1) (outputs.map fun _ => 1) := by
      rw [List.forall₂_map_left_iff, List.forall₂_map_right_iff, List.forall₂_same]
      intro output _
      exact finiteParameter_int zero_le_one (by norm_num)
    have total : 0 < (outputs.map fun _ => (1 : ℚ)).sum := by
      rw [List.map_const', List.sum_replicate, nsmul_eq_mul, mul_one]
      have positive : 0 < outputs.length := by omega
      exact_mod_cast positive
    obtain ⟨final, weighed, scored⟩ := (exists_weightedEnsemble_iff rounding sound
      (List.length_map _)).mpr ⟨le_rfl, by norm_num, by exact_mod_cast many, _, weighted, total⟩
    have finalSound := sound_of_weightedEnsemble keeps weighed scored
    rw [exists_bind_eq_ok_and_iff]
    refine ⟨final, weighed, ?_⟩
    split
    · exact ⟨final, rfl, finalSound⟩
    · rename_i primary found
      exact ⟨_, rfl, finalSound.scored, (sound primary (mem_of_primaryOutput found)).listed⟩

/-- **A configuration that can be scored** scores every window. -/
theorem exists_scoreDetectorWindow (keeps : rounding.KeepsSign)
    (accepted : configuration.Accepted) (scorable : configuration.Scorable py)
    (validated drifted : Bool) (observationEnd : Instant) {readings : List FeatureReading}
    (same : readings.length = configuration.featureKeys.length)
    (read : ∀ reading ∈ readings, configuration.Reads reading) :
    ∃ window, scoreDetectorWindow py rounding configuration validated drifted
      observationEnd readings = .ok window := by
  obtain ⟨result, found, sound⟩ := exists_scoreReadings keeps scorable observationEnd read
  unfold scoreDetectorWindow
  refine exists_bind_eq_ok_iff.mpr ⟨result, found, ?_⟩
  cases result with
  | none => exact ⟨_, rfl⟩
  | some scored =>
    obtain ⟨length, each⟩ := sound scored rfl
    have positive := List.length_pos_of_ne_nil accepted.some
    have nonempty : scored.map Prod.snd ≠ [] := by
      rw [Ne, List.map_eq_nil_iff]
      rintro rfl
      rw [List.length_nil] at length
      omega
    obtain ⟨final, finalFound, good⟩ := exists_finalOutput keeps nonempty (by
      intro output member
      obtain ⟨pair, inside, rfl⟩ := List.mem_map.mp member
      exact each pair inside)
    obtain ⟨value, scoreIs, nonneg⟩ := good.scored
    have leveled : ∀ band, ∃ level, severity final.score band = .ok level := by
      intro band
      unfold severity
      rw [scoreIs]
      exact exists_bind_eq_ok_iff.mpr ⟨value, nonNegative_of_le nonneg, _, rfl⟩
    have explained : checkExplanation configuration.featureKeys.length final = .ok () := by
      have few := accepted.few
      unfold checkExplanation
      rw [if_neg (by omega), List.contains_iff_mem.mpr good.listed]
      rfl
    refine exists_bind_eq_ok_iff.mpr ⟨final, finalFound, ?_⟩
    obtain ⟨level, levelFound⟩ := leveled _
    exact exists_bind_eq_ok_iff.mpr ⟨level, levelFound,
      exists_bind_eq_ok_iff.mpr ⟨(), explained, _, rfl⟩⟩

/-! ## A window that tells -/

theorem not_exists_of_withoutScore {output : ScoreOutput} (none : output.score = none)
    {outputs : List ScoreOutput} (each : ∀ other ∈ outputs, other = output) {final : ScoreOutput}
    (found : finalOutput rounding outputs = .ok final) : final.score = Option.none := by
  unfold finalOutput at found
  split at found
  · cases found
    rw [each _ List.mem_cons_self, none]
  · have empty : outputs.filter (fun other => other.score.isSome) = [] := by
      rw [List.filter_eq_nil_iff]
      intro other member
      rw [each other member, none]
      decide
    obtain ⟨combined, weighed, found⟩ := bind_eq_ok_iff.mp found
    have without : combined = withoutScore := by
      unfold weightedEnsemble at weighed
      rw [empty] at weighed
      cases weighed
      rfl
    subst without
    split at found
    · cases found
      rfl
    · cases found
      rfl

/-- The reading of a feature that tells whether a configuration can be scored. -/
def DetectorConfiguration.telling (configuration : DetectorConfiguration) : FeatureReading where
  baseline := some ⟨tellingStatistics configuration.minimumHistoricalWindows
    configuration.seasonality configuration.winsorize⟩
  observed := some 3

theorem reads_telling (accepted : configuration.Accepted) :
    configuration.Reads configuration.telling where
  built := by
    intro stored member
    cases member
    exact ⟨_, none, buildStatistics_telling accepted.least accepted.most _ _⟩
  observed := by
    intro value member
    cases member
    norm_num

theorem scoreReadings_telling (accepted : configuration.Accepted) {count : Nat}
    {result : Option (List (StoredBaseline × ScoreOutput))} (some : 0 < count)
    (found : scoreReadings py rounding configuration tellingEnd
      (List.replicate count configuration.telling) = .ok result) :
    ∃ output pairs, scoreOne py rounding configuration 3
        (StoredBaseline.baseline ⟨tellingStatistics configuration.minimumHistoricalWindows
          configuration.seasonality configuration.winsorize⟩ tellingEnd
          configuration.seasonality) = .ok output ∧
      result = Option.some pairs ∧ ∀ pair ∈ pairs, pair.2 = output := by
  induction count generalizing result with
  | zero => omega
  | succ count ih =>
    have ready := ready_telling accepted.least configuration.seasonality configuration.winsorize
    rw [List.replicate_succ] at found
    unfold scoreReadings DetectorConfiguration.telling at found
    dsimp only at found
    rw [if_pos ready] at found
    obtain ⟨output, scored, found⟩ := bind_eq_ok_iff.mp found
    obtain ⟨others, othersFound, found⟩ := bind_eq_ok_iff.mp found
    cases found
    refine ⟨output, ?_⟩
    cases count with
    | zero =>
      cases othersFound
      refine ⟨_, scored, rfl, ?_⟩
      intro pair member
      rw [List.mem_singleton.mp member]
    | succ count =>
      obtain ⟨other, pairs, otherScored, rfl, each⟩ := ih (Nat.succ_pos count) othersFound
      cases scored.symm.trans otherScored
      refine ⟨_, scored, rfl, ?_⟩
      intro pair member
      rcases List.mem_cons.mp member with rfl | later
      · rfl
      · exact each pair later

/-- **Where the window that tells is scored**, every window is. -/
theorem scorable_of_telling (keeps : rounding.KeepsSign) (accepted : configuration.Accepted)
    {validated drifted : Bool} {window : WindowScore}
    (found : scoreDetectorWindow py rounding configuration validated drifted tellingEnd
      (List.replicate configuration.featureKeys.length configuration.telling) = .ok window) :
    configuration.Scorable py := by
  unfold scoreDetectorWindow at found
  obtain ⟨result, read, found⟩ := bind_eq_ok_iff.mp found
  obtain ⟨output, pairs, scored, rfl, each⟩ := scoreReadings_telling accepted
    (List.length_pos_of_ne_nil accepted.some) read
  have tells := tells_telling accepted.least configuration.seasonality configuration.winsorize
  have nonneg := StoredBaseline.nonneg_baseline
    ⟨tellingStatistics configuration.minimumHistoricalWindows configuration.seasonality
      configuration.winsorize⟩
    (buildStatistics_telling accepted.least accepted.most _ _)
    (ready_telling accepted.least _ _) tellingEnd configuration.seasonality
  refine scorable_of_scoreOne keeps nonneg tells scored ?_
  by_contra without
  have none : output.score = none := Option.not_isSome_iff_eq_none.mp without
  obtain ⟨final, finalFound, found⟩ := bind_eq_ok_iff.mp found
  have finalNone := not_exists_of_withoutScore none (by
    intro other member
    obtain ⟨pair, inside, rfl⟩ := List.mem_map.mp member
    exact each pair inside) finalFound
  obtain ⟨level, leveled, -⟩ := bind_eq_ok_iff.mp found
  unfold severity at leveled
  rw [finalNone] at leveled
  cases leveled

end Windows

/-! ## All windows -/

/-- **Every window is scored** exactly if the parameters of the configuration suit it: its
method reads numbers in their ranges, and an ensemble has enough participants whose weights
are numbers with a positive total. -/
theorem scores_every_window_iff (py : Interpreter) (configuration : DetectorConfiguration)
    (accepted : configuration.Accepted) :
    (∀ (validated drifted : Bool) (observationEnd : Instant) (read : FeatureKey → FeatureReading),
      (∀ key ∈ configuration.featureKeys, configuration.Reads (read key)) →
        ∃ window, scoreDetectorWindow py pythonRounding configuration validated drifted
          observationEnd (configuration.featureKeys.map read) = .ok window) ↔
      configuration.Scorable py := by
  constructor
  · intro every
    obtain ⟨window, found⟩ := every true false tellingEnd (fun _ => configuration.telling)
      fun _ _ => reads_telling accepted
    rw [List.map_const'] at found
    exact scorable_of_telling keepsSign_pythonRounding accepted found
  · intro scorable validated drifted observationEnd read reads
    refine exists_scoreDetectorWindow keepsSign_pythonRounding accepted scorable validated drifted
      observationEnd (List.length_map _) ?_
    intro reading member
    obtain ⟨key, inside, rfl⟩ := List.mem_map.mp member
    exact reads key inside

/-! ## Two thresholds -/

/-- A detector of failed authentications with a threshold in standard deviations. -/
def failureDetector (threshold : Int) : DetectorConfiguration where
  featureKeys := [.authFailureCount]
  method := .zScore
  minimumHistoricalWindows := 5
  seasonality := .none
  thresholdParameters := [("threshold", .int threshold)]
  confidenceRules := []
  ensemble := []
  winsorize := false

theorem accepted_failureDetector (threshold : Int) : (failureDetector threshold).Accepted where
  some := List.cons_ne_nil _ _
  few := by
    show 1 ≤ 10
    omega
  distinct := List.nodup_singleton _
  least := by
    show 2 ≤ 5
    omega
  most := by
    show 5 ≤ 1000
    omega
  named := by
    intro key member
    rw [List.mem_singleton.mp member]
    show "threshold" ∈ parameterNames
    decide
  entries := Nat.zero_le _
  participants := fun ensemble => nomatch ensemble

theorem every_window_scored_of_usual_threshold :
    (failureDetector 3).Accepted ∧
      ∀ (py : Interpreter) (observationEnd : Instant) (read : FeatureKey → FeatureReading),
        (failureDetector 3).Reads (read .authFailureCount) →
          ∃ window, scoreDetectorWindow py pythonRounding (failureDetector 3) true false
            observationEnd [read .authFailureCount] = .ok window := by
  refine ⟨accepted_failureDetector 3, ?_⟩
  intro py observationEnd read reads
  have scorable : (failureDetector 3).Scorable py :=
    ⟨3, finiteParameter_int (by decide) (by decide), three_ne_zero⟩
  refine (scores_every_window_iff py _ (accepted_failureDetector 3)).mpr scorable true false
    observationEnd read ?_
  intro key member
  rw [List.mem_singleton.mp member]
  exact reads

/-- A threshold of zero is accepted, and the first spread that is not zero makes it fail. -/
theorem zero_threshold_fails :
    (failureDetector 0).Accepted ∧
      (failureDetector 0).Reads (failureDetector 0).telling ∧
      ∀ (py : Interpreter) (window : WindowScore),
        scoreDetectorWindow py pythonRounding (failureDetector 0) true false tellingEnd
          [(failureDetector 0).telling] ≠ .ok window := by
  have accepted := accepted_failureDetector 0
  refine ⟨accepted, reads_telling accepted, ?_⟩
  intro py window found
  obtain ⟨threshold, read, apart⟩ := scorable_of_telling keepsSign_pythonRounding accepted found
  have zero : finiteParameter false (.int 0) = .ok threshold := read
  rw [finiteParameter_int (by decide) (by decide)] at zero
  cases zero
  exact apart rfl

end ThreatScope.Analytics
