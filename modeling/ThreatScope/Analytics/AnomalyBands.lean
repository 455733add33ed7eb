import ThreatScope.Analytics.ScoredWindows

/-!
# The anomaly band

A score of seventy is to say that an observation lies at or outside the range that is
reported with it (`Band`). A method that measures the distance from a centre has such a band
where the unit of its score is the width of its range (`Deviates.hasBand`), and none where
the range is narrower (`Deviates.not_hasBand`).

The range and the score are compared as they are before rounding. Their bounds and their
order are those of the scores that Python rounds.
-/

set_option autoImplicit false

namespace ThreatScope.Analytics

open Library AccessControl

/-! ## Rounding of scores -/

/-- The rounding of scores keeps their order and the ends of their range. -/
structure Rounding.Tame (rounding : Rounding) : Prop where
  mono : ∀ one other, one ≤ other → rounding.two one ≤ rounding.two other
  zero : rounding.two 0 = 0
  hundred : rounding.two 100 = 100

theorem tame_pythonRounding : pythonRounding.Tame where
  mono := fun _ _ le => roundTo_mono 2 le
  zero := roundTo_zero 2
  hundred := roundTo_intCast 2 100

theorem tame_exactRounding : exactRounding.Tame where
  mono := fun _ _ le => le
  zero := rfl
  hundred := rfl

section Bounded

variable {rounding : Rounding}

theorem bounded_le (tame : rounding.Tame) (value : ℚ) : bounded rounding value ≤ 100 :=
  (tame.mono _ _ (min_le_left _ _)).trans tame.hundred.le

theorem le_bounded (tame : rounding.Tame) (value : ℚ) : 0 ≤ bounded rounding value :=
  tame.zero.symm.le.trans (tame.mono _ _ (le_min (by norm_num) (le_max_left _ _)))

theorem bounded_mono (tame : rounding.Tame) {one other : ℚ} (le : one ≤ other) :
    bounded rounding one ≤ bounded rounding other :=
  tame.mono _ _ (min_le_min_left _ (max_le_max_left _ le))

theorem bounded_zero (tame : rounding.Tame) : bounded rounding 0 = 0 := by
  unfold bounded
  rw [max_self, min_eq_right (by norm_num), tame.zero]

theorem bounded_exact_bounded (value : ℚ) :
    bounded exactRounding (bounded exactRounding value) = bounded exactRounding value := by
  have low := le_bounded tame_exactRounding value
  have high := bounded_le tame_exactRounding value
  show min 100 (max 0 (bounded exactRounding value)) = bounded exactRounding value
  rw [max_eq_right low, min_eq_right high]

theorem magnitudeScore_eq (tame : rounding.Tame) {magnitude threshold : ℚ}
    (positive : 0 < threshold) :
    magnitudeScore rounding magnitude threshold =
      .ok (bounded rounding (70 * |magnitude| / threshold)) := by
  unfold magnitudeScore
  rw [abs_of_pos positive, if_neg (not_le.mpr positive)]
  split
  · rename_i none
    rw [none, mul_zero, zero_div, bounded_zero tame]
  · rfl

theorem seventy_le_bounded_iff {distance unit : ℚ} (positive : 0 < unit) :
    70 ≤ bounded exactRounding (70 * distance / unit) ↔ unit ≤ distance := by
  show 70 ≤ min 100 (max 0 (70 * distance / unit)) ↔ unit ≤ distance
  rw [le_min_iff, le_max_iff, le_div_iff₀ positive]
  constructor
  · rintro ⟨-, wrong | reached⟩
    · norm_num at wrong
    · linarith
  · intro reached
    exact ⟨by norm_num, .inr (by linarith)⟩

end Bounded

/-! ## The band -/

/-- The second observation is no nearer to the expected value than the first, and on the
same side of it. -/
def Away (expected near far : ℚ) : Prop :=
  expected ≤ near ∧ near ≤ far ∨ far ≤ near ∧ near ≤ expected

theorem abs_sub_le_of_away {expected near far : ℚ} (away : Away expected near far) :
    |near - expected| ≤ |far - expected| := by
  rcases away with ⟨above, further⟩ | ⟨further, below⟩
  · rw [abs_of_nonneg (sub_nonneg.mpr above), abs_of_nonneg (sub_nonneg.mpr (above.trans further))]
    exact sub_le_sub_right further expected
  · rw [abs_of_nonpos (sub_nonpos.mpr below), abs_of_nonpos (sub_nonpos.mpr (further.trans below))]
    linarith

theorem le_abs_sub_iff {distance observed center : ℚ} :
    distance ≤ |observed - center| ↔
      observed ≤ center - distance ∨ center + distance ≤ observed := by
  rw [le_abs, or_comm]
  refine or_congr ?_ ?_
  · constructor
    · intro below
      linarith
    · intro below
      linarith
  · constructor
    · intro above
      linarith
    · intro above
      linarith

section Bands

variable (py : Interpreter) (parameters : Dict) (baseline : Baseline) (method : Method)

/-- The scores of a method on a baseline, without rounding and as Python rounds them, with
the expected value and the ends of the range. -/
structure Band (expected low high : ℚ) (value rounded : ℚ → ℚ) : Prop where
  scores : ∀ observed, 0 ≤ observed → ∃ output,
    score exactRounding observed baseline parameters py method = .ok output ∧
      output.score = some (value observed) ∧ output.expectedValue = some expected ∧
      output.expectedRange = (some low, some high)
  rounds : ∀ observed, 0 ≤ observed → ∃ output,
    score pythonRounding observed baseline parameters py method = .ok output ∧
      output.score = some (rounded observed)
  within : ∀ observed, 0 ≤ observed → 0 ≤ rounded observed ∧ rounded observed ≤ 100
  away : ∀ near far, 0 ≤ near → 0 ≤ far → Away expected near far → rounded near ≤ rounded far
  reaches : ∀ observed, 0 ≤ observed →
    (70 ≤ value observed ↔ observed ≤ low ∨ high ≤ observed)

/-- The method has a band: its scores lie within their bounds, never decrease away from the
expected value, and reach seventy exactly at and outside the range. -/
def HasBand : Prop :=
  ∃ expected low high value rounded, Band py parameters baseline method expected low high
    value rounded

/-- The scores of a method that measures the distance from a centre. The score has one unit
and the range has one width. -/
def Deviates (center unit width : ℚ) : Prop :=
  ∀ rounding : Rounding, rounding.Tame → ∀ observed, 0 ≤ observed → ∃ output,
    score rounding observed baseline parameters py method = .ok output ∧
      output.score =
        some (bounded rounding (bounded rounding (70 * |observed - center| / unit))) ∧
      output.expectedValue = some (rounding.six center) ∧
      output.expectedRange =
        (some (rounding.six (center - width)), some (rounding.six (center + width)))

variable {py parameters baseline method}

theorem not_hasBand {high value : ℚ} {low : Option ℚ} {output : ScoreOutput} (positive : 0 ≤ high)
    (found : score exactRounding high baseline parameters py method = .ok output)
    (scored : output.score = some value) (range : output.expectedRange = (low, some high))
    (short : value < 70) : ¬ HasBand py parameters baseline method := by
  rintro ⟨expected, bandLow, bandHigh, scores, rounded, band⟩
  obtain ⟨other, same, otherScored, -, otherRange⟩ := band.scores high positive
  cases found.symm.trans same
  cases scored.symm.trans otherScored
  cases range.symm.trans otherRange
  exact absurd ((band.reaches high positive).mpr (.inr le_rfl)) (not_le.mpr short)

theorem Deviates.not_hasBand {center unit width : ℚ}
    (deviates : Deviates py parameters baseline method center unit width)
    (positive : 0 < unit) (wide : 0 ≤ width) (nonneg : 0 ≤ center) (less : width < unit) :
    ¬ HasBand py parameters baseline method := by
  have outside : 0 ≤ center + width := add_nonneg nonneg wide
  obtain ⟨output, found, scored, -, range⟩ :=
    deviates exactRounding tame_exactRounding (center + width) outside
  rw [bounded_exact_bounded] at scored
  refine Analytics.not_hasBand outside found scored range ?_
  rw [← not_le, seventy_le_bounded_iff positive, add_sub_cancel_left, abs_of_nonneg wide]
  exact not_le.mpr less

/-- **A deviation has a band** where the unit of its score is the width of its range. -/
theorem Deviates.hasBand {center unit : ℚ}
    (deviates : Deviates py parameters baseline method center unit unit)
    (positive : 0 < unit) : HasBand py parameters baseline method := by
  refine ⟨center, center - unit, center + unit,
    fun observed => bounded exactRounding (70 * |observed - center| / unit),
    fun observed =>
      bounded pythonRounding (bounded pythonRounding (70 * |observed - center| / unit)),
    ?_, ?_, ?_, ?_, ?_⟩
  · intro observed seen
    obtain ⟨output, found, scored, expected, range⟩ :=
      deviates exactRounding tame_exactRounding observed seen
    rw [bounded_exact_bounded] at scored
    exact ⟨output, found, scored, expected, range⟩
  · intro observed seen
    obtain ⟨output, found, scored, -⟩ := deviates pythonRounding tame_pythonRounding observed seen
    exact ⟨output, found, scored⟩
  · intro observed _
    exact ⟨le_bounded tame_pythonRounding _, bounded_le tame_pythonRounding _⟩
  · intro near far _ _ away
    refine bounded_mono tame_pythonRounding (bounded_mono tame_pythonRounding ?_)
    have further := abs_sub_le_of_away away
    exact div_le_div_of_nonneg_right (by linarith) positive.le
  · intro observed _
    rw [seventy_le_bounded_iff positive, le_abs_sub_iff]

end Bands

/-!
## Which methods have a band

The methods that measure a deviation from a centre in units of a spread have a band: both
the score and the range are made of the threshold. The other methods have none.

* **IQR and percentile.** Their range is where the score is zero, so that an observation at
  its end is reported outside and has no score.
* **Rate of change.** The score has a change of at least one millionth for its unit and the
  range has the threshold itself. Of a previous value of zero every observation is outside.

`hasBand_iff` is the exact condition. The references of two of the methods are never stored
with a baseline, so that they compare with the mean of its samples: the expected value is
the EWMA or the last sample only where that happens to be the stored mean.
-/

/-! ## Methods that deviate -/

section Deviations

variable {py : Interpreter} {parameters : Dict} {baseline : Baseline} {method : Method}

/-- A measurement of the distance from a centre, in a unit for the score and a width for the
range. -/
structure Measured.Distance (rounding : Rounding) (observed center unit width : ℚ)
    (measured : Measured) : Prop where
  result : measured.result = bounded rounding (70 * |observed - center| / unit)
  expected : measured.expected = center
  low : measured.low = some (center - width)
  high : measured.high = some (center + width)

theorem deviates_of_measure {threshold center unit width : ℚ} (plain : method ≠ .seasonalDeviation)
    (read : finiteOr false parameters "threshold" 3 = .ok threshold)
    (measures : ∀ rounding : Rounding, rounding.Tame → ∀ observed, 0 ≤ observed →
      ∃ measured, measure rounding observed baseline parameters threshold py method =
        .ok measured ∧ measured.Distance rounding observed center unit width) :
    Deviates py parameters baseline method center unit width := by
  intro rounding tame observed seen
  obtain ⟨measured, found, distance⟩ := measures rounding tame observed seen
  refine ⟨_, (score_eq_ok_iff plain).mpr ⟨seen, threshold, read, measured, found, rfl⟩, ?_, ?_, ?_⟩
  · show some (bounded rounding measured.result) = _
    rw [distance.result]
  · show some (rounding.six measured.expected) = _
    rw [distance.expected]
  · show (measured.low.map rounding.six, measured.high.map rounding.six) = _
    rw [distance.low, distance.high]
    rfl

theorem exists_distance_of_spread {rounding : Rounding} {observed threshold center spread scale : ℚ}
    (tame : rounding.Tame) (wide : 0 < spread) (scaled : 0 < scale) (positive : 0 < threshold)
    (fallback : String) :
    ∃ measured, spreadDeviation rounding observed threshold center spread scale fallback =
      .ok measured ∧ measured.Distance rounding observed center (threshold * spread / scale)
        (threshold * spread / scale) := by
  unfold spreadDeviation
  dsimp only
  rw [if_neg (not_lt.mpr wide.le), if_neg wide.ne', magnitudeScore_eq tame positive]
  refine ⟨_, rfl, ?_, rfl, rfl, rfl⟩
  have same : 70 * |(|scale * (observed - center) / spread|)| / threshold =
      70 * |observed - center| / (threshold * spread / scale) := by
    rw [abs_abs, abs_div, abs_mul, abs_of_pos scaled, abs_of_pos wide]
    field_simp
  exact congrArg (bounded rounding) same

theorem deviates_zScore {threshold : ℚ}
    (read : finiteOr false parameters "threshold" 3 = .ok threshold) (positive : 0 < threshold)
    (wide : 0 < baseline.summary.standardDeviation) :
    Deviates py parameters baseline .zScore baseline.summary.mean
      (threshold * baseline.summary.standardDeviation / 1)
      (threshold * baseline.summary.standardDeviation / 1) := by
  refine deviates_of_measure (by decide) read ?_
  intro rounding tame observed _
  exact exists_distance_of_spread tame wide one_pos positive _

theorem madScale_pos : 0 < madScale := by
  unfold madScale
  norm_num

theorem deviates_robustZScore {threshold : ℚ}
    (read : finiteOr false parameters "threshold" 3 = .ok threshold) (positive : 0 < threshold)
    (wide : 0 < baseline.summary.mad) :
    Deviates py parameters baseline .robustZScore baseline.summary.median
      (threshold * baseline.summary.mad / madScale)
      (threshold * baseline.summary.mad / madScale) := by
  refine deviates_of_measure (by decide) read ?_
  intro rounding tame observed _
  exact exists_distance_of_spread tame wide madScale_pos positive _

theorem deviates_seasonalDeviation {threshold : ℚ}
    (read : finiteOr false parameters "threshold" 3 = .ok threshold) (positive : 0 < threshold)
    (wide : 0 < baseline.selected.summary.mad) :
    Deviates py parameters baseline .seasonalDeviation baseline.selected.summary.median
      (threshold * baseline.selected.summary.mad / madScale)
      (threshold * baseline.selected.summary.mad / madScale) := by
  have nested : Deviates py parameters baseline.selected .robustZScore
      baseline.selected.summary.median (threshold * baseline.selected.summary.mad / madScale)
      (threshold * baseline.selected.summary.mad / madScale) :=
    deviates_robustZScore read positive wide
  intro rounding tame observed seen
  obtain ⟨output, found, scored, expected, range⟩ := nested rounding tame observed seen
  obtain ⟨-, other, again, measured, measuredIs, rfl⟩ := (score_eq_ok_iff (by decide)).mp found
  exact ⟨_, score_seasonal_eq_ok_iff.mpr ⟨seen, other, again, measured, measuredIs, rfl⟩, scored,
    expected, range⟩

theorem deviates_ewmaDeviation {threshold : ℚ}
    (read : finiteOr false parameters "threshold" 3 = .ok threshold) (positive : 0 < threshold)
    (wide : 0 < baseline.summary.standardDeviation) :
    Deviates py parameters baseline .ewmaDeviation
      (baseline.ewma.getD baseline.summary.mean)
      (threshold * baseline.summary.standardDeviation)
      (threshold * baseline.summary.standardDeviation) := by
  refine deviates_of_measure (by decide) read ?_
  intro rounding tame observed _
  show ∃ measured, ewmaDeviation rounding observed baseline threshold = .ok measured ∧ _
  unfold ewmaDeviation
  dsimp only
  rw [nonNegative_of_le wide.le, exists_bind_eq_ok_and_iff]
  refine ⟨_, rfl, exists_bind_eq_ok_and_iff.mpr
    ⟨_, magnitudeScore_eq tame positive, _, rfl, ?_, rfl, rfl, rfl⟩⟩
  have same : 70 * |inUnits |observed - baseline.ewma.getD baseline.summary.mean|
        baseline.summary.standardDeviation| / threshold =
      70 * |observed - baseline.ewma.getD baseline.summary.mean| /
        (threshold * baseline.summary.standardDeviation) := by
    unfold inUnits
    rw [if_neg wide.ne', abs_div, abs_abs, abs_of_pos wide]
    field_simp
  exact congrArg (bounded rounding) same

theorem deviates_rateOfChange {threshold change : ℚ}
    (read : finiteOr false parameters "threshold" 3 = .ok threshold)
    (changeRead : finiteOr true parameters "change_threshold" (defaultChange threshold) =
      .ok change)
    (wide : 0 < baseline.previous.getD baseline.summary.mean) :
    Deviates py parameters baseline .rateOfChange
      (baseline.previous.getD baseline.summary.mean)
      (baseline.previous.getD baseline.summary.mean * max change (1 / 1000000))
      (baseline.previous.getD baseline.summary.mean * change) := by
  have positive : 0 < max change (1 / 1000000) := lt_max_of_lt_right (by norm_num)
  refine deviates_of_measure (by decide) read ?_
  intro rounding tame observed _
  show ∃ measured, rateOfChange rounding observed baseline parameters threshold = .ok measured ∧ _
  unfold rateOfChange
  rw [nonNegative_of_le wide.le, exists_bind_eq_ok_and_iff]
  refine ⟨_, rfl, exists_bind_eq_ok_and_iff.mpr ⟨change, changeRead, exists_bind_eq_ok_and_iff.mpr
    ⟨_, magnitudeScore_eq tame positive, _, rfl, ?_, rfl, ?_, ?_⟩⟩⟩
  · have same : ∀ previous : ℚ, 0 < previous →
        70 * |(if previous = 0 then observed else |(observed - previous) / previous|)| /
            max change (1 / 1000000) =
          70 * |observed - previous| / (previous * max change (1 / 1000000)) := by
      intro previous here
      rw [if_neg here.ne', abs_abs, abs_div, abs_of_pos here]
      field_simp
    exact congrArg (bounded rounding) (same _ wide)
  · exact congrArg some (by ring)
  · exact congrArg some (by ring)

/-! ## Methods that do not -/

/-- At the upper end of its range a method that measures what is outside has no score. -/
theorem outsideScore_end {low high magnitude : ℚ} (le : low ≤ high)
    (threshold : Except ServiceError ℚ) :
    outsideScore exactRounding (outsideOf high low high) magnitude threshold = .ok 0 := by
  have inside : outsideOf high low high = 0 := by
    unfold outsideOf
    rw [sub_self, max_eq_right (sub_nonpos.mpr le), max_self]
  unfold outsideScore
  rw [if_pos inside]

theorem exists_score_end {threshold high : ℚ} {low : Option ℚ} {measured : Measured}
    (plain : method ≠ .seasonalDeviation)
    (read : finiteOr false parameters "threshold" 3 = .ok threshold) (positive : 0 ≤ high)
    (found : measure exactRounding high baseline parameters threshold py method =
      .ok measured)
    (result : measured.result = 0) (lowIs : measured.low = low)
    (highIs : measured.high = some high) :
    ∃ output, score exactRounding high baseline parameters py method = .ok output ∧
      output.score = some 0 ∧ output.expectedRange = (low, some high) := by
  refine ⟨_, (score_eq_ok_iff plain).mpr ⟨positive, threshold, read, measured, found, rfl⟩, ?_, ?_⟩
  · show some (bounded exactRounding measured.result) = some 0
    rw [result, bounded_zero tame_exactRounding]
  · show (measured.low.map id, measured.high.map id) = (low, some high)
    rw [lowIs, highIs, Option.map_id_fun]
    rfl

theorem not_hasBand_of_end {high : ℚ} {low : Option ℚ} (positive : 0 ≤ high)
    (ends : ∃ output, score exactRounding high baseline parameters py method = .ok output ∧
      output.score = some 0 ∧ output.expectedRange = (low, some high)) :
    ¬ HasBand py parameters baseline method := by
  obtain ⟨output, found, scored, range⟩ := ends
  exact not_hasBand positive found scored range (by norm_num)

variable (py) in
theorem exists_iqrDeviation_end {threshold multiplier : ℚ} (nonneg : baseline.Nonneg)
    (quartiles : baseline.summary.percentile25 ≤ baseline.summary.percentile75)
    (read : finiteOr false parameters "threshold" 3 = .ok threshold)
    (multiplierRead : finiteOr true parameters "multiplier" (3 / 2) = .ok multiplier)
    (positive : 0 < multiplier) :
    ∃ output, score exactRounding
        (baseline.summary.percentile75 + multiplier * baseline.summary.iqr) baseline parameters
        py .iqrDeviation = .ok output ∧ output.score = some 0 ∧
      output.expectedRange =
        (some (baseline.summary.percentile25 - multiplier * baseline.summary.iqr),
          some (baseline.summary.percentile75 + multiplier * baseline.summary.iqr)) := by
  have grown : 0 ≤ multiplier * baseline.summary.iqr := mul_nonneg positive.le nonneg.summary.iqr
  have high := nonneg.summary.percentile75
  have order : baseline.summary.percentile25 - multiplier * baseline.summary.iqr ≤
      baseline.summary.percentile75 + multiplier * baseline.summary.iqr := by
    linarith
  obtain ⟨measured, found, result, lowIs, highIs⟩ : ∃ measured,
      iqrDeviation exactRounding
          (baseline.summary.percentile75 + multiplier * baseline.summary.iqr) baseline parameters =
        .ok measured ∧ measured.result = 0 ∧
        measured.low =
          some (baseline.summary.percentile25 - multiplier * baseline.summary.iqr) ∧
        measured.high =
          some (baseline.summary.percentile75 + multiplier * baseline.summary.iqr) := by
    unfold iqrDeviation
    dsimp only
    rw [nonNegative_of_le nonneg.summary.iqr, exists_bind_eq_ok_and_iff]
    exact ⟨_, rfl, exists_bind_eq_ok_and_iff.mpr ⟨multiplier, multiplierRead,
      exists_bind_eq_ok_and_iff.mpr ⟨0, outsideScore_end order _, _, rfl, rfl, rfl, rfl⟩⟩⟩
  exact exists_score_end (by decide) read (by linarith) found result lowIs highIs

theorem percentile?_nonneg (nonneg : baseline.Nonneg) (number : Int) :
    0 ≤ (baseline.summary.percentile? number).getD baseline.summary.maximum := by
  unfold SampleSummary.percentile?
  split_ifs
  · exact nonneg.summary.percentile5
  · exact nonneg.summary.percentile25
  · exact nonneg.summary.percentile50
  · exact nonneg.summary.percentile75
  · exact nonneg.summary.percentile95
  · exact nonneg.summary.maximum

theorem not_hasBand_percentileDeviation {threshold : ℚ} {low high : Int}
    (nonneg : baseline.Nonneg) (read : finiteOr false parameters "threshold" 3 = .ok threshold)
    (lowRead : intOr py parameters "low_percentile" 5 = .ok low)
    (highRead : intOr py parameters "high_percentile" 95 = .ok high)
    (order : (baseline.summary.percentile? low).getD baseline.summary.minimum ≤
      (baseline.summary.percentile? high).getD baseline.summary.maximum) :
    ¬ HasBand py parameters baseline .percentileDeviation := by
  obtain ⟨measured, found, result, lowIs, highIs⟩ : ∃ measured,
      percentileDeviation exactRounding
          ((baseline.summary.percentile? high).getD baseline.summary.maximum) baseline parameters
          py = .ok measured ∧ measured.result = 0 ∧
        measured.low = some ((baseline.summary.percentile? low).getD baseline.summary.minimum) ∧
        measured.high =
          some ((baseline.summary.percentile? high).getD baseline.summary.maximum) := by
    unfold percentileDeviation
    exact exists_bind_eq_ok_and_iff.mpr ⟨low, lowRead, exists_bind_eq_ok_and_iff.mpr
      ⟨high, highRead, exists_bind_eq_ok_and_iff.mpr
        ⟨0, outsideScore_end order _, _, rfl, rfl, rfl, rfl⟩⟩⟩
  exact not_hasBand_of_end (percentile?_nonneg nonneg high)
    (exists_score_end (by decide) read (percentile?_nonneg nonneg high) found result lowIs highIs)

theorem exists_rateOfChange (observed : ℚ) {threshold change : ℚ}
    (changeRead : finiteOr true parameters "change_threshold" (defaultChange threshold) =
      .ok change)
    (nonneg : 0 ≤ baseline.previous.getD baseline.summary.mean) :
    ∃ measured, rateOfChange exactRounding observed baseline parameters threshold = .ok measured ∧
      measured.expected = baseline.previous.getD baseline.summary.mean ∧
      measured.low = some (baseline.previous.getD baseline.summary.mean * (1 - change)) ∧
      measured.high = some (baseline.previous.getD baseline.summary.mean * (1 + change)) ∧
      (baseline.previous.getD baseline.summary.mean = 0 → observed = 0 → measured.result = 0) := by
  have positive : 0 < max change (1 / 1000000) := lt_max_of_lt_right (by norm_num)
  unfold rateOfChange
  rw [nonNegative_of_le nonneg, exists_bind_eq_ok_and_iff]
  refine ⟨_, rfl, exists_bind_eq_ok_and_iff.mpr ⟨change, changeRead, exists_bind_eq_ok_and_iff.mpr
    ⟨_, magnitudeScore_eq tame_exactRounding positive, _, rfl, rfl, rfl, rfl, ?_⟩⟩⟩
  intro zero none
  dsimp only
  rw [if_pos zero, none, abs_zero, mul_zero, zero_div, bounded_zero tame_exactRounding]

theorem not_hasBand_rateOfChange {threshold change : ℚ}
    (read : finiteOr false parameters "threshold" 3 = .ok threshold)
    (changeRead : finiteOr true parameters "change_threshold" (defaultChange threshold) =
      .ok change)
    (zero : baseline.previous.getD baseline.summary.mean = 0) :
    ¬ HasBand py parameters baseline .rateOfChange := by
  obtain ⟨measured, found, -, lowIs, highIs, result⟩ :=
    exists_rateOfChange 0 changeRead zero.ge
  rw [zero, zero_mul] at highIs
  exact not_hasBand_of_end le_rfl
    (exists_score_end (by decide) read le_rfl found (result zero rfl) lowIs highIs)

end Deviations

/-! ## The condition -/

/-- The statistics of a baseline that was built of samples: none that a method reads is
negative, and the quartiles are in order. -/
structure Baseline.Formed (baseline : Baseline) : Prop where
  nonneg : baseline.Nonneg
  quartiles : baseline.summary.percentile25 ≤ baseline.summary.percentile75

section Conditions

variable (py : Interpreter) (parameters : Dict) (baseline : Baseline)

/-- The method is a statistical one, it reads the threshold, which is positive, and the
spread in which it measures is positive. -/
def Method.Applies (method : Method) (threshold : ℚ) : Prop :=
  0 < threshold ∧ ∃ general, finiteOr false parameters "threshold" 3 = .ok general ∧
    match method with
    | .zScore | .ewmaDeviation => threshold = general ∧ 0 < baseline.summary.standardDeviation
    | .robustZScore => threshold = general ∧ 0 < baseline.summary.mad
    | .seasonalDeviation => threshold = general ∧ 0 < baseline.selected.summary.mad
    | .iqrDeviation => finiteOr true parameters "multiplier" (3 / 2) = .ok threshold ∧
        0 < baseline.summary.iqr
    | .percentileDeviation =>
      finiteOr false parameters "distance_threshold" (1 / 4) = .ok threshold ∧
      ∃ low high, intOr py parameters "low_percentile" 5 = .ok low ∧
        intOr py parameters "high_percentile" 95 = .ok high ∧
        (baseline.summary.percentile? low).getD baseline.summary.minimum <
          (baseline.summary.percentile? high).getD baseline.summary.maximum
    | .rateOfChange =>
      finiteOr true parameters "change_threshold" (defaultChange general) = .ok threshold
    | .staticThreshold | .consecutiveFailures | .weightedEnsemble => False

/-- The score of the method and its range are made of the same threshold. -/
def Method.Aligned (threshold : ℚ) : Method → Prop
  | .zScore | .robustZScore | .ewmaDeviation | .seasonalDeviation => True
  | .rateOfChange => 0 < baseline.previous.getD baseline.summary.mean ∧ 1 / 1000000 ≤ threshold
  | _ => False

variable {py parameters baseline}

/-- **A method has a band** exactly if its score and its range are made of one threshold. -/
theorem hasBand_iff {method : Method} {threshold : ℚ} (formed : baseline.Formed)
    (applies : method.Applies py parameters baseline threshold) :
    HasBand py parameters baseline method ↔ method.Aligned baseline threshold := by
  obtain ⟨positive, general, read, branch⟩ := applies
  have nonneg := formed.nonneg
  cases method with
  | staticThreshold => exact branch.elim
  | consecutiveFailures => exact branch.elim
  | weightedEnsemble => exact branch.elim
  | zScore =>
    obtain ⟨rfl, wide⟩ := branch
    have unit := div_pos (mul_pos positive wide) one_pos
    exact iff_of_true ((deviates_zScore read positive wide).hasBand unit) trivial
  | robustZScore =>
    obtain ⟨rfl, wide⟩ := branch
    have unit := div_pos (mul_pos positive wide) madScale_pos
    exact iff_of_true ((deviates_robustZScore read positive wide).hasBand unit) trivial
  | seasonalDeviation =>
    obtain ⟨rfl, wide⟩ := branch
    have unit := div_pos (mul_pos positive wide) madScale_pos
    exact iff_of_true ((deviates_seasonalDeviation read positive wide).hasBand unit) trivial
  | ewmaDeviation =>
    obtain ⟨rfl, wide⟩ := branch
    have unit := mul_pos positive wide
    exact iff_of_true ((deviates_ewmaDeviation read positive wide).hasBand unit) trivial
  | iqrDeviation =>
    have high : 0 ≤ baseline.summary.percentile75 + threshold * baseline.summary.iqr :=
      add_nonneg nonneg.summary.percentile75 (mul_nonneg positive.le nonneg.summary.iqr)
    exact iff_of_false (not_hasBand_of_end high
      (exists_iqrDeviation_end py nonneg formed.quartiles read branch.1 positive)) not_false
  | percentileDeviation =>
    obtain ⟨-, low, high, lowRead, highRead, order⟩ := branch
    exact iff_of_false
      (not_hasBand_percentileDeviation nonneg read lowRead highRead order.le) not_false
  | rateOfChange =>
    rcases nonneg.previous.eq_or_lt with zero | wide
    · refine iff_of_false (not_hasBand_rateOfChange read branch zero.symm) ?_
      rintro ⟨wide, -⟩
      exact wide.ne zero
    · have unit : 0 < baseline.previous.getD baseline.summary.mean *
          max threshold (1 / 1000000) := mul_pos wide (lt_max_of_lt_left positive)
      have deviates : Deviates py parameters baseline .rateOfChange _ _ _ :=
        deviates_rateOfChange read branch wide
      by_cases large : 1 / 1000000 ≤ threshold
      · rw [max_eq_left large] at deviates unit
        exact iff_of_true (deviates.hasBand unit) ⟨wide, large⟩
      · refine iff_of_false (deviates.not_hasBand unit (mul_nonneg wide.le positive.le)
          nonneg.previous ?_) fun aligned => large aligned.2
        rw [max_eq_right (not_le.mp large).le]
        exact mul_lt_mul_of_pos_left (not_le.mp large) wide

end Conditions

/-! ## Stored baselines -/

section References

variable {py : Interpreter} {parameters : Dict}

variable (py parameters) in
/-- Every observation is measured against the reference. -/
def MeasuresAgainst (baseline : Baseline) (method : Method) (reference : ℚ) : Prop :=
  ∀ observed, 0 ≤ observed → ∃ output,
    score exactRounding observed baseline parameters py method = .ok output ∧
      output.expectedValue = some reference

theorem measuresAgainst_iff {baseline : Baseline} {method : Method} {expected reference : ℚ}
    (measures : MeasuresAgainst py parameters baseline method expected) :
    MeasuresAgainst py parameters baseline method reference ↔ expected = reference := by
  constructor
  · intro also
    obtain ⟨output, found, value⟩ := measures 0 le_rfl
    obtain ⟨other, same, otherValue⟩ := also 0 le_rfl
    cases found.symm.trans same
    exact Option.some.inj (value.symm.trans otherValue)
  · rintro rfl
    exact measures

theorem measuresAgainst_ewmaDeviation {baseline : Baseline} {threshold : ℚ}
    (applies : Method.ewmaDeviation.Applies py parameters baseline threshold) :
    MeasuresAgainst py parameters baseline .ewmaDeviation
      (baseline.ewma.getD baseline.summary.mean) := by
  obtain ⟨positive, general, read, rfl, wide⟩ := applies
  intro observed seen
  obtain ⟨output, found, -, expected, -⟩ :=
    deviates_ewmaDeviation read positive wide exactRounding tame_exactRounding observed seen
  exact ⟨output, found, expected⟩

theorem measuresAgainst_rateOfChange {baseline : Baseline} {threshold : ℚ}
    (nonneg : 0 ≤ baseline.previous.getD baseline.summary.mean)
    (applies : Method.rateOfChange.Applies py parameters baseline threshold) :
    MeasuresAgainst py parameters baseline .rateOfChange
      (baseline.previous.getD baseline.summary.mean) := by
  obtain ⟨-, general, read, changeRead⟩ := applies
  intro observed seen
  obtain ⟨measured, found, expected, -⟩ := exists_rateOfChange observed changeRead nonneg
  refine ⟨_, (score_eq_ok_iff (by decide)).mpr ⟨seen, general, read, measured, found, rfl⟩, ?_⟩
  show some measured.expected = _
  rw [expected]

end References

section Stored

variable {samples : List Sample} {minimumSamples : Nat} {seasonality : Seasonality}
  {winsorize : Bool} {peerGroupSize : Option Nat} {stored : StoredBaseline}

theorem summary_of_buildStatistics
    (built : buildStatistics samples minimumSamples seasonality winsorize peerGroupSize =
      .ok stored.statistics) :
    stored.statistics.summary = summarize (usedValues samples winsorize) := by
  unfold buildStatistics at built
  split at built
  · obtain ⟨checked, -, built⟩ := bind_eq_ok_iff.mp built
    rw [← Except.ok.inj built]
    rfl
  · cases built

end Stored

/-! ## Bands and references -/

/-- **The band is the threshold** exactly for the methods whose score and range are made of
it, and **a stored baseline measures** against the EWMA of its samples, or the last of them,
exactly where the mean that is stored is that number. -/
theorem anomaly_band_iff (py : Interpreter) (parameters : Dict) :
    (∀ (method : Method) (baseline : Baseline) (threshold : ℚ), baseline.Formed →
      method.Applies py parameters baseline threshold →
        (HasBand py parameters baseline method ↔ method.Aligned baseline threshold)) ∧
    ∀ (samples : List Sample) (minimumSamples : Nat) (seasonality : Seasonality)
      (winsorize : Bool) (peerGroupSize : Option Nat) (stored : StoredBaseline)
      (observationEnd : Instant) (threshold : ℚ),
      buildStatistics samples minimumSamples seasonality winsorize peerGroupSize =
        .ok stored.statistics → stored.statistics.ready = true →
      (Method.ewmaDeviation.Applies py parameters (stored.baseline observationEnd seasonality)
          threshold → ∀ alpha : ℚ, 0 < alpha → alpha ≤ 1 →
        (MeasuresAgainst py parameters (stored.baseline observationEnd seasonality)
            .ewmaDeviation (ewma alpha (usedValues samples winsorize)) ↔
          stableRound (fmean (usedValues samples winsorize)) =
            ewma alpha (usedValues samples winsorize))) ∧
      (Method.rateOfChange.Applies py parameters (stored.baseline observationEnd seasonality)
          threshold → ∀ previous ∈ (usedValues samples winsorize).getLast?,
        (MeasuresAgainst py parameters (stored.baseline observationEnd seasonality)
            .rateOfChange previous ↔
          stableRound (fmean (usedValues samples winsorize)) = previous)) := by
  refine ⟨fun method baseline threshold => hasBand_iff, ?_⟩
  intro samples minimumSamples seasonality winsorize peerGroupSize stored observationEnd threshold
    built ready
  have nonneg := stored.nonneg_baseline built ready observationEnd seasonality
  have mean : stored.statistics.summary.mean =
      stableRound (fmean (usedValues samples winsorize)) := by
    rw [summary_of_buildStatistics built]
    rfl
  constructor
  · intro applies alpha _ _
    rw [measuresAgainst_iff (measuresAgainst_ewmaDeviation applies), ← mean]
    rfl
  · intro applies previous _
    rw [measuresAgainst_iff (measuresAgainst_rateOfChange nonneg.previous applies), ← mean]
    rfl

/-! ## A baseline with quartiles -/

/-- A baseline with the quartiles 8 and 12. -/
def quartileBaseline : Baseline where
  summary := {
    mean := 10, median := 10, minimum := 5, maximum := 15, standardDeviation := 2, mad := 2
    iqr := 4, percentile5 := 6, percentile25 := 8, percentile50 := 10, percentile75 := 12
    percentile95 := 14 }

theorem formed_quartileBaseline : quartileBaseline.Formed := by
  have summary : quartileBaseline.summary.Nonneg := by
    constructor <;> · unfold quartileBaseline; norm_num
  exact ⟨⟨summary, summary, summary.mean⟩, by unfold quartileBaseline; norm_num⟩

theorem finiteOr_of_missing {nonNegative : Bool} {key : String} {default : ℚ}
    (nonneg : 0 ≤ default) (small : default ≤ 10) :
    finiteOr nonNegative [] key default = .ok default := finiteNumber_of_small nonneg small

theorem zScore_band_of_quartileBaseline :
    quartileBaseline.Formed ∧
      ∀ py : Interpreter, HasBand py [] quartileBaseline .zScore := by
  refine ⟨formed_quartileBaseline, ?_⟩
  intro py
  have applies : Method.zScore.Applies py [] quartileBaseline 3 :=
    ⟨three_pos, 3, finiteOr_of_missing (by norm_num) (by norm_num), rfl,
      show (0 : ℚ) < 2 by norm_num⟩
  exact ((anomaly_band_iff py []).1 .zScore quartileBaseline 3 formed_quartileBaseline
    applies).mpr trivial

/-- At the end of the range of the quartiles there is no score, and the change of a stored
baseline is measured from the mean of its samples. -/
theorem quartile_fence_without_score :
    quartileBaseline.Formed ∧ (∀ py : Interpreter,
      Method.iqrDeviation.Applies py [] quartileBaseline (3 / 2) ∧
        (∃ output, score exactRounding 18 quartileBaseline [] py .iqrDeviation = .ok output ∧
          output.score = some 0 ∧ output.expectedRange = (some 2, some 18)) ∧
        ¬ HasBand py [] quartileBaseline .iqrDeviation) ∧
      ∀ py : Interpreter, (usedValues (tellingSamples 5) false).getLast? = some 2 ∧
        ¬ MeasuresAgainst py [] (StoredBaseline.baseline
          ⟨tellingStatistics 5 .none false⟩ tellingEnd .none) .rateOfChange 2 := by
  refine ⟨formed_quartileBaseline, ?_, ?_⟩
  · intro py
    have threshold : finiteOr false [] "threshold" 3 = .ok (3 : ℚ) :=
      finiteOr_of_missing (by norm_num) (by norm_num)
    have multiplier : finiteOr true [] "multiplier" (3 / 2) = .ok (3 / 2 : ℚ) :=
      finiteOr_of_missing (by norm_num) (by norm_num)
    have ends := exists_iqrDeviation_end py formed_quartileBaseline.nonneg
      formed_quartileBaseline.quartiles threshold multiplier (by norm_num)
    have low :
        quartileBaseline.summary.percentile25 - 3 / 2 * quartileBaseline.summary.iqr = 2 := by
      unfold quartileBaseline
      norm_num
    have high : quartileBaseline.summary.percentile75 + 3 / 2 * quartileBaseline.summary.iqr =
        18 := by
      unfold quartileBaseline
      norm_num
    rw [low, high] at ends
    exact ⟨⟨by norm_num, 3, threshold, multiplier, show (0 : ℚ) < 4 by norm_num⟩, ends,
      not_hasBand_of_end (by norm_num) ends⟩
  · intro py
    have built := buildStatistics_telling (show 2 ≤ 5 by norm_num) (by norm_num) .none false
    have ready := ready_telling (show 2 ≤ 5 by norm_num) .none false
    have nonneg := StoredBaseline.nonneg_baseline ⟨tellingStatistics 5 .none false⟩ built ready
      tellingEnd .none
    have mean : (tellingStatistics 5 .none false).summary.mean = 1 := by
      show stableRound (fmean (usedValues (tellingSamples 5) false)) = 1
      rw [usedValues_telling (by norm_num), fmean_tellingValues (by norm_num)]
      exact roundTo_intCast 6 1
    have applies : Method.rateOfChange.Applies py []
        (StoredBaseline.baseline ⟨tellingStatistics 5 .none false⟩ tellingEnd .none) (1 / 2) := by
      refine ⟨by norm_num, 3, finiteOr_of_missing (by norm_num) (by norm_num), ?_⟩
      have default : defaultChange 3 = 1 / 2 := if_neg (by norm_num)
      show finiteOr true [] "change_threshold" (defaultChange 3) = .ok (1 / 2)
      rw [default]
      exact finiteOr_of_missing (by norm_num) (by norm_num)
    constructor
    · rw [usedValues_telling (by norm_num)]
      rfl
    · rw [measuresAgainst_iff (measuresAgainst_rateOfChange nonneg.previous applies)]
      show ¬ (tellingStatistics 5 .none false).summary.mean = 2
      rw [mean]
      norm_num

end ThreatScope.Analytics
