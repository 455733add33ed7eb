import ThreatScope.Analytics.Scoring

/-!
# Configurations that can be scored

The schema checks the names of the threshold parameters and how many entries an ensemble
has, but none of their values. A method reads its own parameters, and fails where one of
them does not convert or is out of its range.

A method scores every observation on every baseline if its parameters suit it
(`exists_score_of_suits`), and there are baselines and observations at which it scores only
then (`suits_of_score`).
-/

set_option autoImplicit false

namespace ThreatScope.Analytics

open Library AccessControl

/-! ## Parameters that suit a method -/

section Suits

variable (py : Interpreter)

/-- The parameters are such that the method can score. -/
def Method.Suits (method : Method) (parameters : Dict) : Prop :=
  ∃ threshold, finiteOr false parameters "threshold" 3 = .ok threshold ∧
    match method with
    | .staticThreshold => (∃ value, staticValue parameters threshold = .ok value) ∧
        ∃ above, staticDirection parameters = .ok above
    | .zScore | .robustZScore | .ewmaDeviation | .seasonalDeviation => threshold ≠ 0
    | .iqrDeviation => ∃ multiplier, finiteOr true parameters "multiplier" (3 / 2) = .ok multiplier
    | .percentileDeviation => (∃ low, intOr py parameters "low_percentile" 5 = .ok low) ∧
        (∃ high, intOr py parameters "high_percentile" 95 = .ok high) ∧
        ∃ distance, finiteOr false parameters "distance_threshold" (1 / 4) = .ok distance ∧
          distance ≠ 0
    | .rateOfChange => ∃ change,
        finiteOr true parameters "change_threshold" (defaultChange threshold) = .ok change
    | .consecutiveFailures => ∃ required,
        intOr py parameters "count_threshold" (max 1 (truncate threshold)) = .ok required ∧
          1 ≤ required ∧ required ≤ 1000
    | .weightedEnsemble => False

/-- The entries of an ensemble are such that it can score. -/
structure DetectorConfiguration.EnsembleSuits (configuration : DetectorConfiguration) : Prop where
  suit : ∀ participant ∈ configuration.participants, ∃ parameters,
    dictOf participant.2.1 = .ok parameters ∧ participant.1.Suits py parameters
  enough : ∃ minimum,
    intOr py configuration.confidenceRules "minimum_ensemble_participation" 2 = .ok minimum ∧
      2 ≤ minimum ∧ minimum ≤ 10 ∧ minimum ≤ configuration.participants.length
  weights : ∃ numbers : List ℚ,
    List.Forall₂ (fun participant number => finiteParameter true participant.2.2 = .ok number)
      configuration.participants numbers ∧ 0 < numbers.sum

/-- The configuration can be scored. -/
def DetectorConfiguration.Scorable (configuration : DetectorConfiguration) : Prop :=
  if configuration.method = .weightedEnsemble then configuration.EnsembleSuits py
  else configuration.method.Suits py configuration.thresholdParameters

end Suits

/-! ## One method -/

section Methods

variable {rounding : Rounding} {py : Interpreter} {observed : ℚ} {baseline : Baseline}
  {parameters : Dict} {threshold : ℚ}

variable (rounding) in
theorem exists_magnitudeScore_iff {magnitude : ℚ} :
    (∃ result, magnitudeScore rounding magnitude threshold = .ok result) ↔ threshold ≠ 0 := by
  unfold magnitudeScore
  by_cases zero : threshold = 0
  · rw [if_pos (by rw [zero, abs_zero])]
    constructor
    · rintro ⟨result, wrong⟩
      cases wrong
    · intro apart
      exact absurd zero apart
  · rw [if_neg (by simpa using zero)]
    refine iff_of_true ?_ zero
    split
    · exact ⟨_, rfl⟩
    · exact ⟨_, rfl⟩

theorem exists_outsideScore_iff {outside magnitude : ℚ} {threshold : Except ServiceError ℚ} :
    (∃ result, outsideScore rounding outside magnitude threshold = .ok result) ↔
      outside = 0 ∨ ∃ number, threshold = .ok number ∧ number ≠ 0 := by
  unfold outsideScore
  split
  · rename_i inside
    exact iff_of_true ⟨0, rfl⟩ (.inl inside)
  · rename_i apart
    rw [or_iff_right apart, exists_bind_eq_ok_iff]
    exact exists_congr fun number => and_congr_right fun _ => exists_magnitudeScore_iff rounding

theorem nonNegative_of_le {value : ℚ} (nonneg : 0 ≤ value) : nonNegative value = .ok value := by
  unfold nonNegative
  rw [if_neg (not_lt.mpr nonneg)]

variable (rounding observed threshold) in
theorem exists_spreadDeviation_iff {center spread scale : ℚ} {fallback : String}
    (nonneg : 0 ≤ spread) :
    (∃ measured, spreadDeviation rounding observed threshold center spread scale fallback =
      .ok measured) ↔ spread = 0 ∨ threshold ≠ 0 := by
  unfold spreadDeviation
  dsimp only
  rw [if_neg (not_lt.mpr nonneg)]
  by_cases flat : spread = 0
  · rw [if_pos flat]
    exact iff_of_true ⟨_, rfl⟩ (.inl flat)
  · rw [if_neg flat, exists_bind_eq_ok_iff, or_iff_right flat]
    rw [← exists_magnitudeScore_iff rounding]
    constructor
    · rintro ⟨result, scored, -⟩
      exact ⟨result, scored⟩
    · rintro ⟨result, scored⟩
      exact ⟨result, scored, _, rfl⟩

theorem exists_staticThreshold_iff :
    (∃ measured, staticThreshold rounding observed parameters threshold = .ok measured) ↔
      (∃ value, staticValue parameters threshold = .ok value) ∧
        ∃ above, staticDirection parameters = .ok above := by
  unfold staticThreshold
  rw [exists_bind_eq_ok_iff]
  constructor
  · rintro ⟨value, read, found⟩
    obtain ⟨above, directed, -⟩ := exists_bind_eq_ok_iff.mp found
    exact ⟨⟨value, read⟩, above, directed⟩
  · rintro ⟨⟨value, read⟩, above, directed⟩
    exact ⟨value, read, exists_bind_eq_ok_iff.mpr ⟨above, directed, _, rfl⟩⟩

theorem exists_iqrDeviation_iff (nonneg : 0 ≤ baseline.summary.iqr) :
    (∃ measured, iqrDeviation rounding observed baseline parameters = .ok measured) ↔
      ∃ multiplier, finiteOr true parameters "multiplier" (3 / 2) = .ok multiplier := by
  unfold iqrDeviation
  dsimp only
  rw [nonNegative_of_le nonneg, exists_bind_eq_ok_iff]
  constructor
  · rintro ⟨iqr, -, found⟩
    obtain ⟨multiplier, read, -⟩ := exists_bind_eq_ok_iff.mp found
    exact ⟨multiplier, read⟩
  · rintro ⟨multiplier, read⟩
    refine ⟨_, rfl, exists_bind_eq_ok_iff.mpr ⟨multiplier, read, ?_⟩⟩
    obtain ⟨result, scored⟩ := exists_outsideScore_iff.mpr (.inr ⟨1, rfl, one_ne_zero⟩)
    exact exists_bind_eq_ok_iff.mpr ⟨result, scored, _, rfl⟩

theorem exists_ewmaDeviation_iff (nonneg : 0 ≤ baseline.summary.standardDeviation) :
    (∃ measured, ewmaDeviation rounding observed baseline threshold = .ok measured) ↔
      threshold ≠ 0 := by
  unfold ewmaDeviation
  dsimp only
  rw [nonNegative_of_le nonneg, exists_bind_eq_ok_iff]
  constructor
  · rintro ⟨spread, -, found⟩
    obtain ⟨result, scored, -⟩ := exists_bind_eq_ok_iff.mp found
    exact (exists_magnitudeScore_iff rounding).mp ⟨result, scored⟩
  · intro apart
    obtain ⟨result, scored⟩ := (exists_magnitudeScore_iff rounding).mpr apart
    exact ⟨_, rfl, exists_bind_eq_ok_iff.mpr ⟨result, scored, _, rfl⟩⟩

theorem exists_rateOfChange_iff (nonneg : 0 ≤ baseline.previous.getD baseline.summary.mean) :
    (∃ measured, rateOfChange rounding observed baseline parameters threshold = .ok measured) ↔
      ∃ change, finiteOr true parameters "change_threshold" (defaultChange threshold) =
        .ok change := by
  unfold rateOfChange
  rw [nonNegative_of_le nonneg, exists_bind_eq_ok_iff]
  constructor
  · rintro ⟨previous, -, found⟩
    obtain ⟨change, read, -⟩ := exists_bind_eq_ok_iff.mp found
    exact ⟨change, read⟩
  · rintro ⟨change, read⟩
    refine ⟨_, rfl, exists_bind_eq_ok_iff.mpr ⟨change, read, ?_⟩⟩
    have positive : max change (1 / 1000000) ≠ 0 := by
      have small := le_max_right change (1 / 1000000)
      intro zero
      rw [zero] at small
      norm_num at small
    obtain ⟨result, scored⟩ := (exists_magnitudeScore_iff rounding).mpr positive
    exact exists_bind_eq_ok_iff.mpr ⟨result, scored, _, rfl⟩

theorem exists_consecutiveFailures_iff :
    (∃ measured, consecutiveFailures rounding observed parameters threshold py =
      .ok measured) ↔ ∃ required,
        intOr py parameters "count_threshold" (max 1 (truncate threshold)) = .ok required ∧
          1 ≤ required ∧ required ≤ 1000 := by
  unfold consecutiveFailures
  rw [exists_bind_eq_ok_iff]
  refine exists_congr fun required => and_congr_right fun _ => ?_
  split
  · rename_i bounds
    exact iff_of_true ⟨_, rfl⟩ bounds
  · rename_i bounds
    refine iff_of_false ?_ bounds
    rintro ⟨measured, wrong⟩
    cases wrong

/-- Outside its range a percentile is scored if its parameters suit; inside it, the distance
is not read. -/
theorem exists_percentileDeviation_iff :
    (∃ measured, percentileDeviation rounding observed baseline parameters py =
      .ok measured) ↔ ∃ low, intOr py parameters "low_percentile" 5 = .ok low ∧
        ∃ high, intOr py parameters "high_percentile" 95 = .ok high ∧
          (outsideOf observed ((baseline.summary.percentile? low).getD baseline.summary.minimum)
              ((baseline.summary.percentile? high).getD baseline.summary.maximum) = 0 ∨
            ∃ distance, finiteOr false parameters "distance_threshold" (1 / 4) = .ok distance ∧
              distance ≠ 0) := by
  unfold percentileDeviation
  rw [exists_bind_eq_ok_iff]
  refine exists_congr fun low => and_congr_right fun _ => ?_
  rw [exists_bind_eq_ok_iff]
  refine exists_congr fun high => and_congr_right fun _ => ?_
  rw [exists_bind_eq_ok_iff, ← exists_outsideScore_iff]
  constructor
  · rintro ⟨result, scored, -⟩
    exact ⟨result, scored⟩
  · rintro ⟨result, scored⟩
    exact ⟨result, scored, _, rfl⟩

end Methods

/-! ## A method on a baseline -/

/-- No statistic that a method reads of the baseline is negative. -/
structure Baseline.Nonneg (baseline : Baseline) : Prop where
  summary : baseline.summary.Nonneg
  selected : baseline.selected.summary.Nonneg
  previous : 0 ≤ baseline.previous.getD baseline.summary.mean

/-- An observation and a baseline at which every parameter of a method matters. -/
structure Baseline.Tells (baseline : Baseline) (observed : ℚ) : Prop where
  standardDeviation : baseline.summary.standardDeviation ≠ 0
  mad : baseline.summary.mad ≠ 0
  selected : baseline.selected.summary.mad ≠ 0
  above : ∀ number : Int,
    (baseline.summary.percentile? number).getD baseline.summary.maximum < observed

section Baselines

variable {rounding : Rounding} {py : Interpreter} {observed : ℚ} {baseline : Baseline}
  {parameters : Dict} {method : Method}

theorem outsideOf_ne_zero {low high : ℚ} (above : high < observed) :
    outsideOf observed low high ≠ 0 := by
  have outside : 0 < observed - high := sub_pos.mpr above
  have first : observed - high ≤ max (low - observed) (observed - high) := le_max_right _ _
  have second : max (low - observed) (observed - high) ≤ outsideOf observed low high :=
    le_max_left _ _
  exact (outside.trans_le (first.trans second)).ne'

variable (rounding observed) in
theorem exists_measure_of_suits {threshold : ℚ} (nonneg : baseline.Nonneg)
    (read : finiteOr false parameters "threshold" 3 = .ok threshold)
    (suits : method.Suits py parameters) (plain : method ≠ .seasonalDeviation) :
    ∃ measured, measure rounding observed baseline parameters threshold py method =
      .ok measured := by
  obtain ⟨other, same, suits⟩ := suits
  rw [read] at same
  cases same
  cases method with
  | staticThreshold => exact exists_staticThreshold_iff.mpr suits
  | zScore =>
    exact (exists_spreadDeviation_iff _ _ _ nonneg.summary.standardDeviation).mpr (.inr suits)
  | robustZScore => exact (exists_spreadDeviation_iff _ _ _ nonneg.summary.mad).mpr (.inr suits)
  | iqrDeviation => exact (exists_iqrDeviation_iff nonneg.summary.iqr).mpr suits
  | percentileDeviation =>
    obtain ⟨⟨low, lowRead⟩, ⟨high, highRead⟩, distance⟩ := suits
    exact exists_percentileDeviation_iff.mpr ⟨low, lowRead, high, highRead, .inr distance⟩
  | ewmaDeviation =>
    exact (exists_ewmaDeviation_iff nonneg.summary.standardDeviation).mpr suits
  | rateOfChange => exact (exists_rateOfChange_iff nonneg.previous).mpr suits
  | consecutiveFailures => exact exists_consecutiveFailures_iff.mpr suits
  | seasonalDeviation => exact absurd rfl plain
  | weightedEnsemble => exact suits.elim

theorem suits_of_measure {threshold : ℚ} {measured : Measured} (nonneg : baseline.Nonneg)
    (tells : baseline.Tells observed)
    (read : finiteOr false parameters "threshold" 3 = .ok threshold)
    (found : measure rounding observed baseline parameters threshold py method =
      .ok measured) : method.Suits py parameters := by
  refine ⟨threshold, read, ?_⟩
  cases method with
  | staticThreshold => exact exists_staticThreshold_iff.mp ⟨measured, found⟩
  | zScore =>
    exact ((exists_spreadDeviation_iff _ _ _ nonneg.summary.standardDeviation).mp
      ⟨measured, found⟩).resolve_left tells.standardDeviation
  | robustZScore =>
    exact ((exists_spreadDeviation_iff _ _ _ nonneg.summary.mad).mp
      ⟨measured, found⟩).resolve_left tells.mad
  | iqrDeviation => exact (exists_iqrDeviation_iff nonneg.summary.iqr).mp ⟨measured, found⟩
  | percentileDeviation =>
    obtain ⟨low, lowRead, high, highRead, distance⟩ :=
      exists_percentileDeviation_iff.mp ⟨measured, found⟩
    exact ⟨⟨low, lowRead⟩, ⟨high, highRead⟩,
      distance.resolve_left (outsideOf_ne_zero (tells.above high))⟩
  | ewmaDeviation =>
    exact (exists_ewmaDeviation_iff nonneg.summary.standardDeviation).mp ⟨measured, found⟩
  | rateOfChange => exact (exists_rateOfChange_iff nonneg.previous).mp ⟨measured, found⟩
  | consecutiveFailures => exact exists_consecutiveFailures_iff.mp ⟨measured, found⟩
  | seasonalDeviation => cases found
  | weightedEnsemble => cases found

theorem nonNegative_eq_ok_iff {value kept : ℚ} :
    nonNegative value = .ok kept ↔ 0 ≤ value ∧ value = kept := by
  unfold nonNegative
  split
  · rename_i negative
    refine iff_of_false (nomatch ·) ?_
    rintro ⟨nonneg, -⟩
    exact not_lt.mpr nonneg negative
  · rename_i nonneg
    rw [Except.ok.injEq, and_iff_right (not_lt.mp nonneg)]

theorem score_eq_ok_iff (plain : method ≠ .seasonalDeviation) {output : ScoreOutput} :
    score rounding observed baseline parameters py method = .ok output ↔
      0 ≤ observed ∧ ∃ threshold, finiteOr false parameters "threshold" 3 = .ok threshold ∧
        ∃ measured, measure rounding observed baseline parameters threshold py method =
            .ok measured ∧ report rounding observed method measured = output := by
  have steps : (do
        let observed ← nonNegative observed
        let threshold ← finiteOr false parameters "threshold" 3
        let measured ← measure rounding observed baseline parameters threshold py method
        return report rounding observed method measured) = Except.ok output ↔
      0 ≤ observed ∧ ∃ threshold, finiteOr false parameters "threshold" 3 = .ok threshold ∧
        ∃ measured, measure rounding observed baseline parameters threshold py method =
            .ok measured ∧ report rounding observed method measured = output := by
    simp only [bind_eq_ok_iff, nonNegative_eq_ok_iff, and_assoc, exists_and_left, exists_eq_left',
      pure_eq_ok_iff]
  cases method with
  | seasonalDeviation => exact absurd rfl plain
  | weightedEnsemble =>
    refine iff_of_false (nomatch ·) ?_
    rintro ⟨-, threshold, -, measured, found, -⟩
    cases found
  | staticThreshold => exact steps
  | zScore => exact steps
  | robustZScore => exact steps
  | iqrDeviation => exact steps
  | percentileDeviation => exact steps
  | ewmaDeviation => exact steps
  | rateOfChange => exact steps
  | consecutiveFailures => exact steps

theorem score_seasonal_eq_ok_iff {output : ScoreOutput} :
    score rounding observed baseline parameters py .seasonalDeviation = .ok output ↔
      0 ≤ observed ∧ ∃ threshold, finiteOr false parameters "threshold" 3 = .ok threshold ∧
        ∃ measured, robustZScore rounding observed baseline.selected threshold = .ok measured ∧
          { report rounding observed .robustZScore measured with
            method := .seasonalDeviation, fallback := baseline.seasonalFallback
            reasonCode := "SEASONAL_DEVIATION" } = output := by
  unfold score
  simp only [bind_eq_ok_iff, nonNegative_eq_ok_iff, and_assoc, exists_and_left, exists_eq_left',
    pure_eq_ok_iff]

variable (rounding) in
/-- **A method that its parameters suit** scores every observation. -/
theorem exists_score_of_suits (nonneg : baseline.Nonneg) (positive : 0 ≤ observed)
    (suits : method.Suits py parameters) :
    ∃ output, score rounding observed baseline parameters py method = .ok output := by
  obtain ⟨threshold, read, branch⟩ := suits
  by_cases seasonal : method = .seasonalDeviation
  · subst seasonal
    obtain ⟨measured, found⟩ :=
      (exists_spreadDeviation_iff rounding observed threshold nonneg.selected.mad).mpr (.inr branch)
    exact ⟨_, score_seasonal_eq_ok_iff.mpr ⟨positive, threshold, read, measured, found, rfl⟩⟩
  · obtain ⟨measured, found⟩ :=
      exists_measure_of_suits rounding observed nonneg read ⟨threshold, read, branch⟩ seasonal
    exact ⟨_, (score_eq_ok_iff seasonal).mpr ⟨positive, threshold, read, measured, found, rfl⟩⟩

theorem suits_of_score {output : ScoreOutput} (nonneg : baseline.Nonneg)
    (tells : baseline.Tells observed)
    (scored : score rounding observed baseline parameters py method = .ok output) :
    method.Suits py parameters := by
  by_cases seasonal : method = .seasonalDeviation
  · subst seasonal
    obtain ⟨-, threshold, read, measured, found, -⟩ := score_seasonal_eq_ok_iff.mp scored
    have apart := (exists_spreadDeviation_iff _ _ _ nonneg.selected.mad).mp ⟨measured, found⟩
    exact ⟨threshold, read, apart.resolve_left tells.selected⟩
  · obtain ⟨-, threshold, read, measured, found, -⟩ := (score_eq_ok_iff seasonal).mp scored
    exact suits_of_measure nonneg tells read found

end Baselines

/-! ## Outputs -/

/-- The output has a score, which is not negative, and a reason that is listed. -/
structure ScoreOutput.Sound (output : ScoreOutput) : Prop where
  scored : ∃ value, output.score = some value ∧ 0 ≤ value
  listed : output.reasonCode ∈ reasonCodes

section Outputs

variable {rounding : Rounding} {py : Interpreter} {observed : ℚ} {baseline : Baseline}
  {parameters : Dict} {method : Method}

/-- The rounding of scores keeps them from being negative. -/
def Rounding.KeepsSign (rounding : Rounding) : Prop := ∀ value, 0 ≤ value → 0 ≤ rounding.two value

theorem keepsSign_pythonRounding : pythonRounding.KeepsSign := fun _ nonneg =>
  roundTo_nonneg 2 nonneg

theorem bounded_nonneg (keeps : rounding.KeepsSign) (value : ℚ) : 0 ≤ bounded rounding value :=
  keeps _ (le_min (by norm_num) (le_max_left _ _))

theorem reason_of_spreadDeviation {threshold center spread scale : ℚ} {fallback : String}
    {measured : Measured}
    (found : spreadDeviation rounding observed threshold center spread scale fallback =
      .ok measured) : measured.reason = "ABOVE_BASELINE" := by
  unfold spreadDeviation at found
  dsimp only at found
  split at found
  · cases found
  · split at found
    · cases found
      rfl
    · obtain ⟨result, -, found⟩ := bind_eq_ok_iff.mp found
      cases found
      rfl

theorem reason_of_measure {threshold : ℚ} {measured : Measured}
    (found : measure rounding observed baseline parameters threshold py method =
      .ok measured) : measured.reason ∈ reasonCodes := by
  have above : "ABOVE_BASELINE" ∈ reasonCodes := by decide
  cases method with
  | staticThreshold =>
    obtain ⟨value, -, found⟩ := bind_eq_ok_iff.mp found
    obtain ⟨direction, -, found⟩ := bind_eq_ok_iff.mp found
    cases found
    exact above
  | zScore => exact (reason_of_spreadDeviation found).symm ▸ above
  | robustZScore => exact (reason_of_spreadDeviation found).symm ▸ above
  | iqrDeviation =>
    obtain ⟨iqr, -, found⟩ := bind_eq_ok_iff.mp found
    obtain ⟨multiplier, -, found⟩ := bind_eq_ok_iff.mp found
    obtain ⟨result, -, found⟩ := bind_eq_ok_iff.mp found
    cases found
    exact above
  | percentileDeviation =>
    obtain ⟨low, -, found⟩ := bind_eq_ok_iff.mp found
    obtain ⟨high, -, found⟩ := bind_eq_ok_iff.mp found
    obtain ⟨result, -, found⟩ := bind_eq_ok_iff.mp found
    cases found
    exact above
  | ewmaDeviation =>
    obtain ⟨spread, -, found⟩ := bind_eq_ok_iff.mp found
    obtain ⟨result, -, found⟩ := bind_eq_ok_iff.mp found
    cases found
    exact above
  | rateOfChange =>
    obtain ⟨previous, -, found⟩ := bind_eq_ok_iff.mp found
    obtain ⟨change, -, found⟩ := bind_eq_ok_iff.mp found
    obtain ⟨result, -, found⟩ := bind_eq_ok_iff.mp found
    cases found
    dsimp only
    split <;> decide
  | consecutiveFailures =>
    obtain ⟨required, -, found⟩ := bind_eq_ok_iff.mp found
    split at found
    · cases found
      show "CONSECUTIVE_FAILURES" ∈ reasonCodes
      decide
    · cases found
  | seasonalDeviation => cases found
  | weightedEnsemble => cases found

theorem sound_report (keeps : rounding.KeepsSign) {measured : Measured}
    (listed : measured.reason ∈ reasonCodes) :
    (report rounding observed method measured).Sound where
  scored := ⟨_, rfl, bounded_nonneg keeps _⟩
  listed := by
    unfold report
    dsimp only
    split
    · exact listed
    · decide

/-- **Every score** is sound. -/
theorem sound_of_score (keeps : rounding.KeepsSign) {output : ScoreOutput}
    (scored : score rounding observed baseline parameters py method = .ok output) :
    output.Sound := by
  by_cases seasonal : method = .seasonalDeviation
  · subst seasonal
    obtain ⟨-, threshold, -, measured, -, rfl⟩ := score_seasonal_eq_ok_iff.mp scored
    have listed : "SEASONAL_DEVIATION" ∈ reasonCodes := by decide
    exact ⟨⟨_, rfl, bounded_nonneg keeps _⟩, listed⟩
  · obtain ⟨-, threshold, -, measured, found, rfl⟩ := (score_eq_ok_iff seasonal).mp scored
    exact sound_report keeps (reason_of_measure found)

end Outputs

/-!
## Ensembles of scores

An ensemble has a score exactly if each participant has one, enough of them participate and
their weights are numbers with a positive total (`exists_scoreOne_ensemble_iff`). With fewer
participants than required it returns, but has no score.
-/

/-! ## Ensembles -/

section Ensembles

variable {rounding : Rounding} {outputs : List ScoreOutput} {weights : List Json}

/-- The scores of sound outputs are read exactly if their weights are, and with them. -/
theorem weightedScores_eq_ok_iff (sound : ∀ output ∈ outputs, output.Sound) (index : Nat)
    (same : weights.length = index + outputs.length) (numbers : List ℚ) :
    (∃ pairs, weightedScores weights outputs index = .ok pairs ∧ pairs.map Prod.snd = numbers) ↔
      List.Forall₂ (fun weight number => finiteParameter true weight = .ok number)
        (weights.drop index) numbers := by
  induction outputs generalizing index numbers with
  | nil =>
    have none : weights.drop index = [] := List.drop_eq_nil_of_le (by simp [same])
    rw [none, List.forall₂_nil_left_iff]
    unfold weightedScores
    constructor
    · rintro ⟨pairs, read, rfl⟩
      cases read
      rfl
    · rintro rfl
      exact ⟨[], rfl, rfl⟩
  | cons output rest ih =>
    obtain ⟨value, scored, nonneg⟩ := (sound output List.mem_cons_self).scored
    have inside : index < weights.length := by
      rw [same, List.length_cons]
      omega
    have later := ih (fun other member => sound other (List.mem_cons_of_mem _ member))
      (index + 1) (by rw [same, List.length_cons]; omega)
    have here : weightAt weights index = finiteParameter true weights[index] := by
      unfold weightAt
      rw [List.getElem?_eq_getElem inside]
    rw [List.drop_eq_getElem_cons inside]
    unfold weightedScores
    rw [scored, here]
    dsimp only
    rw [nonNegative_of_le nonneg]
    constructor
    · rintro ⟨pairs, read, rfl⟩
      obtain ⟨kept, keptIs, read⟩ := bind_eq_ok_iff.mp read
      obtain ⟨weight, weighted, read⟩ := bind_eq_ok_iff.mp read
      obtain ⟨others, othersRead, read⟩ := bind_eq_ok_iff.mp read
      cases read
      exact .cons weighted ((later _).mp ⟨others, othersRead, rfl⟩)
    · rintro (_ | ⟨weighted, others⟩)
      obtain ⟨pairs, read, rfl⟩ := (later _).mpr others
      exact ⟨_, bind_eq_ok_iff.mpr ⟨value, rfl, bind_eq_ok_iff.mpr ⟨_, weighted,
        bind_eq_ok_iff.mpr ⟨pairs, read, rfl⟩⟩⟩, rfl⟩

theorem filter_isSome_of_sound (sound : ∀ output ∈ outputs, output.Sound) :
    outputs.filter (fun output => output.score.isSome) = outputs := by
  rw [List.filter_eq_self]
  intro output member
  obtain ⟨value, scored, -⟩ := (sound output member).scored
  rw [scored]
  rfl

variable (rounding) in
/-- **An ensemble of sound outputs** has a score exactly if enough of them participate and
their weights are numbers with a positive total. -/
theorem exists_weightedEnsemble_iff (sound : ∀ output ∈ outputs, output.Sound)
    (same : weights.length = outputs.length) {minimum : Int} :
    (∃ result, weightedEnsemble rounding outputs weights minimum = .ok result ∧
        result.score.isSome) ↔
      2 ≤ minimum ∧ minimum ≤ 10 ∧ minimum ≤ outputs.length ∧ ∃ numbers : List ℚ,
        List.Forall₂ (fun weight number => finiteParameter true weight = .ok number)
          weights numbers ∧
          0 < numbers.sum := by
  have read := weightedScores_eq_ok_iff sound 0 (by rw [same, Nat.zero_add])
  rw [List.drop_zero] at read
  unfold weightedEnsemble
  rw [filter_isSome_of_sound sound]
  by_cases bounds : 2 ≤ minimum ∧ minimum ≤ 10
  · rw [if_neg (not_not.mpr bounds)]
    by_cases few : (outputs.length : Int) < minimum
    · rw [if_pos few]
      constructor
      · rintro ⟨result, found, scored⟩
        cases found
        cases scored
      · rintro ⟨-, -, enough, -⟩
        omega
    · rw [if_neg few, exists_bind_eq_ok_and_iff]
      constructor
      · rintro ⟨pairs, paired, result, found, -⟩
        dsimp only at found
        split at found
        · cases found
        · rename_i positive
          exact ⟨bounds.1, bounds.2, not_lt.mp few, _, (read _).mp ⟨pairs, paired, rfl⟩,
            not_le.mp positive⟩
      · rintro ⟨-, -, -, numbers, weighted, positive⟩
        obtain ⟨pairs, paired, rfl⟩ := (read _).mpr weighted
        refine ⟨pairs, paired, ?_⟩
        dsimp only
        rw [if_neg (not_le.mpr positive)]
        exact ⟨_, rfl, rfl⟩
  · rw [if_pos bounds]
    constructor
    · rintro ⟨result, wrong, -⟩
      cases wrong
    · rintro ⟨low, high, -⟩
      exact absurd ⟨low, high⟩ bounds

theorem sound_of_weightedEnsemble (keeps : rounding.KeepsSign) {minimum : Int}
    {result : ScoreOutput} (found : weightedEnsemble rounding outputs weights minimum = .ok result)
    (scored : result.score.isSome) : result.Sound := by
  unfold weightedEnsemble at found
  split at found
  · cases found
  · split at found
    · cases found
      cases scored
    · obtain ⟨pairs, -, found⟩ := bind_eq_ok_iff.mp found
      dsimp only at found
      split at found
      · cases found
      · cases found
        have listed : "DISTRIBUTION_SHIFT" ∈ reasonCodes := by decide
        exact ⟨⟨_, rfl, bounded_nonneg keeps _⟩, listed⟩

end Ensembles

/-! ## Detectors -/

section Detectors

variable {rounding : Rounding} {py : Interpreter} {configuration : DetectorConfiguration}
  {observed : ℚ} {baseline : Baseline}

/-- The score of one participant. -/
def participantScore (rounding : Rounding) (py : Interpreter) (observed : ℚ)
    (baseline : Baseline) (participant : Method × Json × Json) :
    Except ServiceError ScoreOutput := do
  let parameters ← dictOf participant.2.1
  score rounding observed baseline parameters py participant.1

/-- **The score of an ensemble**, by what its participants do. -/
theorem exists_scoreOne_ensemble_iff (keeps : rounding.KeepsSign)
    (ensemble : configuration.method = .weightedEnsemble) :
    (∃ result, scoreOne py rounding configuration observed baseline = .ok result ∧
        result.score.isSome) ↔
      (∀ participant ∈ configuration.participants, ∃ output,
        participantScore rounding py observed baseline participant = .ok output) ∧
      (∃ minimum, intOr py configuration.confidenceRules "minimum_ensemble_participation" 2 =
          .ok minimum ∧ 2 ≤ minimum ∧ minimum ≤ 10 ∧ minimum ≤ configuration.participants.length) ∧
      ∃ numbers : List ℚ,
        List.Forall₂ (fun participant number => finiteParameter true participant.2.2 = .ok number)
          configuration.participants numbers ∧ 0 < numbers.sum := by
  have sound : ∀ outputs : List ScoreOutput,
      configuration.participants.mapM (participantScore rounding py observed baseline) =
        .ok outputs → ∀ output ∈ outputs, output.Sound := by
    intro outputs read output member
    obtain ⟨participant, -, found⟩ := (mem_mapM_iff read).mp member
    obtain ⟨parameters, -, found⟩ := bind_eq_ok_iff.mp found
    exact sound_of_score keeps found
  have lengths : ∀ outputs : List ScoreOutput,
      configuration.participants.mapM (participantScore rounding py observed baseline) =
        .ok outputs → configuration.participants.length = outputs.length := by
    intro outputs read
    exact (mapM_eq_ok_iff.mp read).length_eq
  have weights : ∀ numbers : List ℚ,
      List.Forall₂ (fun weight number => finiteParameter true weight = .ok number)
        (configuration.participants.map fun participant => participant.2.2) numbers ↔
      List.Forall₂ (fun participant number => finiteParameter true participant.2.2 = .ok number)
        configuration.participants numbers := fun numbers => List.forall₂_map_left_iff
  unfold scoreOne
  rw [if_pos ensemble, exists_bind_eq_ok_and_iff, ← exists_mapM_eq_ok_iff]
  constructor
  · rintro ⟨outputs, read, result, found, scored⟩
    obtain ⟨minimum, minimumRead, found⟩ := bind_eq_ok_iff.mp found
    obtain ⟨final, weighed, found⟩ := bind_eq_ok_iff.mp found
    cases found
    have same := lengths outputs read
    obtain ⟨low, high, enough, numbers, weighted, positive⟩ :=
      (exists_weightedEnsemble_iff rounding (sound outputs read)
        (by rw [List.length_map, same])).mp ⟨final, weighed, scored⟩
    exact ⟨⟨outputs, read⟩, ⟨minimum, minimumRead, low, high, same ▸ enough⟩, numbers,
      (weights numbers).mp weighted, positive⟩
  · rintro ⟨⟨outputs, read⟩, ⟨minimum, minimumRead, low, high, enough⟩, numbers, weighted,
      positive⟩
    have same := lengths outputs read
    obtain ⟨final, weighed, scored⟩ := (exists_weightedEnsemble_iff rounding (sound outputs read)
      (by rw [List.length_map, same])).mpr
        ⟨low, high, same ▸ enough, numbers, (weights numbers).mpr weighted, positive⟩
    exact ⟨outputs, read, _, bind_eq_ok_iff.mpr ⟨minimum, minimumRead,
      bind_eq_ok_iff.mpr ⟨final, weighed, rfl⟩⟩, scored⟩

theorem sound_of_scoreOne (keeps : rounding.KeepsSign) {output : ScoreOutput}
    (found : scoreOne py rounding configuration observed baseline = .ok output)
    (scored : output.score.isSome) : output.Sound := by
  unfold scoreOne at found
  split at found
  · obtain ⟨outputs, -, found⟩ := bind_eq_ok_iff.mp found
    obtain ⟨minimum, -, found⟩ := bind_eq_ok_iff.mp found
    obtain ⟨final, weighed, found⟩ := bind_eq_ok_iff.mp found
    cases found
    have sound := sound_of_weightedEnsemble keeps weighed scored
    exact ⟨sound.scored, sound.listed⟩
  · exact sound_of_score keeps found

/-- **A configuration that can be scored** is, on every baseline and observation. -/
theorem exists_scoreOne_of_scorable (keeps : rounding.KeepsSign) (nonneg : baseline.Nonneg)
    (positive : 0 ≤ observed) (scorable : configuration.Scorable py) :
    ∃ output, scoreOne py rounding configuration observed baseline = .ok output ∧
      output.Sound := by
  unfold DetectorConfiguration.Scorable at scorable
  split at scorable
  · rename_i ensemble
    have each : ∀ participant ∈ configuration.participants, ∃ output,
        participantScore rounding py observed baseline participant = .ok output := by
      intro participant member
      obtain ⟨parameters, read, suits⟩ := scorable.suit participant member
      exact exists_bind_eq_ok_iff.mpr
        ⟨parameters, read, exists_score_of_suits rounding nonneg positive suits⟩
    obtain ⟨output, found, scored⟩ := (exists_scoreOne_ensemble_iff keeps ensemble).mpr
      ⟨each, scorable.enough, scorable.weights⟩
    exact ⟨output, found, sound_of_scoreOne keeps found scored⟩
  · rename_i single
    obtain ⟨output, found⟩ := exists_score_of_suits rounding nonneg positive scorable
    have here : scoreOne py rounding configuration observed baseline = .ok output := by
      unfold scoreOne
      rw [if_neg single]
      exact found
    exact ⟨output, here, sound_of_score keeps found⟩

theorem scorable_of_scoreOne (keeps : rounding.KeepsSign) (nonneg : baseline.Nonneg)
    (tells : baseline.Tells observed) {output : ScoreOutput}
    (found : scoreOne py rounding configuration observed baseline = .ok output)
    (scored : output.score.isSome) : configuration.Scorable py := by
  unfold DetectorConfiguration.Scorable
  split
  · rename_i ensemble
    obtain ⟨each, enough, weights⟩ :=
      (exists_scoreOne_ensemble_iff keeps ensemble).mp ⟨output, found, scored⟩
    refine ⟨?_, enough, weights⟩
    intro participant member
    obtain ⟨result, read⟩ := each participant member
    obtain ⟨parameters, converted, read⟩ := bind_eq_ok_iff.mp read
    exact ⟨parameters, converted, suits_of_score nonneg tells read⟩
  · rename_i single
    unfold scoreOne at found
    rw [if_neg single] at found
    exact suits_of_score nonneg tells found

end Detectors

end ThreatScope.Analytics
