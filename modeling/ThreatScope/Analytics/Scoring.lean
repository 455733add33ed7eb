import ThreatScope.Analytics.Statistics
import ThreatScope.Analytics.Suppressions

/-!
# Scoring of observations

`analytics/scoring.py`, and `_score_one` and `score_detector_window` of
`analytics/service.py`, in exact arithmetic. A method reads its own parameters, compares an
observation with a baseline and reports a score, what it expected and a range. Rounding is a
parameter: Python rounds the scores to two digits and everything else to six, and what the
scores are before that is what no rounding at all gives.

The parameters are the JSON values of the configuration, which is stored without NaN and
Infinity. Results of arithmetic are taken to be within the bound that `finite` checks.
-/

set_option autoImplicit false

namespace ThreatScope.Analytics

open Library AccessControl

/-! ## Parameters -/

/-- `METHODS`. -/
inductive Method where
  | staticThreshold
  | zScore
  | robustZScore
  | iqrDeviation
  | percentileDeviation
  | ewmaDeviation
  | rateOfChange
  | consecutiveFailures
  | seasonalDeviation
  | weightedEnsemble
deriving DecidableEq

/-- The name of a method. -/
def Method.text : Method → String
  | .staticThreshold => "static_threshold"
  | .zScore => "z_score"
  | .robustZScore => "robust_z_score"
  | .iqrDeviation => "iqr_deviation"
  | .percentileDeviation => "percentile_deviation"
  | .ewmaDeviation => "ewma_deviation"
  | .rateOfChange => "rate_of_change"
  | .consecutiveFailures => "consecutive_failures"
  | .seasonalDeviation => "seasonal_deviation"
  | .weightedEnsemble => "weighted_ensemble"

/-- All methods. -/
def Method.all : List Method :=
  [.staticThreshold, .zScore, .robustZScore, .iqrDeviation, .percentileDeviation,
    .ewmaDeviation, .rateOfChange, .consecutiveFailures, .seasonalDeviation, .weightedEnsemble]

/-- The method that a value names. -/
def Method.ofJson? (value : Json) : Option Method :=
  Method.all.find? fun method => value.isStr method.text

/-- `finite` of a number. -/
def finiteNumber (nonNegative : Bool) (value : ℚ) : Except ServiceError ℚ :=
  if nonNegative = true ∧ value < 0 then
    .error (.valueError "Negative values are invalid for this feature")
  else if safeBound < |value| then
    .error (.valueError "Feature value exceeds the safe numeric bound")
  else .ok value

/-- `finite(value, non_negative=True)` of a number within the bound: an observation or a
statistic. -/
def nonNegative (value : ℚ) : Except ServiceError ℚ :=
  if value < 0 then .error (.valueError "Negative values are invalid for this feature")
  else .ok value

/-- `finite(value, non_negative=..)`. -/
def finiteParameter (nonNegative : Bool) : Json → Except ServiceError ℚ
  | .int value => finiteNumber nonNegative value
  | .float value => finiteNumber nonNegative value
  | _ => .error (.valueError "Feature values must be numeric")

/-- `finite(parameters.get(key, default), non_negative=..)`. -/
def finiteOr (nonNegative : Bool) (parameters : Dict) (key : String) (default : ℚ) :
    Except ServiceError ℚ :=
  match Dict.find? parameters key with
  | some value => finiteParameter nonNegative value
  | none => finiteNumber nonNegative default

/-- `int(parameters.get(key, default))`. -/
def intOr (py : Interpreter) (parameters : Dict) (key : String) (default : Int) :
    Except ServiceError Int :=
  match Dict.find? parameters key with
  | some value =>
    match py.int value with
    | some number => .ok number
    | none => .error (.raised "int")
  | none => .ok default

/-- `int(value)` of a number. -/
def truncate (value : ℚ) : Int := if 0 ≤ value then ⌊value⌋ else -⌊-value⌋

/-! ## Rounding and bands -/

/-- How results are rounded. -/
structure Rounding where
  /-- `round(value, 2)`. -/
  two : ℚ → ℚ
  /-- `stable_round(value)`. -/
  six : ℚ → ℚ

/-- The rounding of Python. -/
def pythonRounding : Rounding := ⟨roundTo 2, stableRound⟩

/-- No rounding. -/
def exactRounding : Rounding := ⟨id, id⟩

section Scores

variable (rounding : Rounding)

def bounded (value : ℚ) : ℚ := rounding.two (min 100 (max 0 value))

def magnitudeScore (magnitude threshold : ℚ) : Except ServiceError ℚ :=
  if |threshold| ≤ 0 then .error (.valueError "Scoring threshold must be positive")
  else if |magnitude| = 0 then .ok 0
  else .ok (bounded rounding (70 * |magnitude| / |threshold|))

/-! ## Methods -/

/-- What a method finds. -/
structure Measured where
  result : ℚ
  expected : ℚ
  low : Option ℚ
  high : Option ℚ
  magnitude : ℚ
  reason : String := "ABOVE_BASELINE"
  fallback : Option String := none

/-- The baseline that an observation is scored against. A stored baseline has no entries
`ewma` and `previous`. -/
structure Baseline where
  summary : SampleSummary
  ewma : Option ℚ := none
  previous : Option ℚ := none
  seasonalBucket : Option SeasonalSummary := none

variable (observed : ℚ) (baseline : Baseline) (parameters : Dict) (threshold : ℚ)

/-- The value of a static threshold. -/
def staticValue : Except ServiceError ℚ :=
  match Dict.find? parameters "value" with
  | some value => finiteParameter true value
  | none => finiteOr true parameters "threshold_value" threshold

/-- The direction of a static threshold, true for above. -/
def staticDirection : Except ServiceError Bool :=
  match Dict.find? parameters "direction" with
  | none => .ok true
  | some (.str text) =>
    if text = "above" then .ok true
    else if text = "below" then .ok false
    else .error (.valueError "Static-threshold direction is invalid")
  | some (.arr _) | some (.obj _) => .error (.raised "TypeError")
  | some _ => .error (.valueError "Static-threshold direction is invalid")

/-- The branch of `static_threshold`. -/
def staticThreshold : Except ServiceError Measured := do
  let static ← staticValue parameters threshold
  let above ← staticDirection parameters
  let crossed := if above then static ≤ observed else observed ≤ static
  let magnitude := |observed - static|
  let denominator := max |static| 1
  return {
    result :=
      if crossed then bounded rounding (70 + min 30 (magnitude / denominator * 30))
      else bounded rounding (if above then max 0 (24 * observed / denominator) else 0)
    expected := static
    low := if above then none else some static
    high := if above then some static else none
    magnitude }

/-- The common part of the branches of `z_score` and `robust_z_score`: a deviation from the
centre in units of a spread, of which a scale is taken. -/
def spreadDeviation (center spread scale : ℚ) (fallback : String) : Except ServiceError Measured :=
  let low := center - threshold * spread / scale
  let high := center + threshold * spread / scale
  if spread < 0 then .error (.valueError "Negative values are invalid for this feature")
  else if spread = 0 then
    let magnitude := if observed = center then 0 else |observed - center|
    .ok {
      result := if magnitude = 0 then 0 else 100
      expected := center
      low := some low
      high := some high
      magnitude
      fallback := some fallback }
  else do
    let magnitude := |scale * (observed - center) / spread|
    let result ← magnitudeScore rounding magnitude threshold
    return { result, expected := center, low := some low, high := some high, magnitude }

/-- The branch of `z_score`. -/
def zScore : Except ServiceError Measured :=
  spreadDeviation rounding observed threshold baseline.summary.mean
    baseline.summary.standardDeviation 1
    "Zero variance baseline; any non-zero deviation is explicit and confidence is limited."

/-- The scale of a median absolute deviation, `0.67448975`. -/
def madScale : ℚ := 67448975 / 100000000

/-- The branch of `robust_z_score`. -/
def robustZScore : Except ServiceError Measured :=
  spreadDeviation rounding observed threshold baseline.summary.median baseline.summary.mad madScale
    "Zero MAD baseline; any non-zero deviation is explicit and confidence is limited."

/-- How far an observation lies outside a range. -/
def outsideOf (low high : ℚ) : ℚ := max (max (low - observed) (observed - high)) 0

/-- A distance in units of a width, and the distance itself for none. -/
def inUnits (distance width : ℚ) : ℚ := if width = 0 then distance else distance / width

/-- The score of a distance from a range. The threshold is read outside the range only. -/
def outsideScore (outside magnitude : ℚ) (threshold : Except ServiceError ℚ) :
    Except ServiceError ℚ :=
  if outside = 0 then .ok 0
  else do
    let threshold ← threshold
    magnitudeScore rounding magnitude threshold

/-- The branch of `iqr_deviation`. -/
def iqrDeviation : Except ServiceError Measured := do
  let q1 := baseline.summary.percentile25
  let q3 := baseline.summary.percentile75
  let iqr ← nonNegative baseline.summary.iqr
  let multiplier ← finiteOr true parameters "multiplier" (3 / 2)
  let low := q1 - multiplier * iqr
  let high := q3 + multiplier * iqr
  let outside := outsideOf observed low high
  let magnitude := inUnits outside iqr
  let result ← outsideScore rounding outside magnitude (.ok 1)
  return {
    result, expected := (q1 + q3) / 2, low := some low, high := some high, magnitude
    fallback := if iqr = 0 ∧ outside ≠ 0 then some "Zero IQR baseline; confidence is limited."
      else none }

/-- The branch of `percentile_deviation`. -/
def percentileDeviation (py : Interpreter) : Except ServiceError Measured := do
  let lowPercentile ← intOr py parameters "low_percentile" 5
  let highPercentile ← intOr py parameters "high_percentile" 95
  let low := (baseline.summary.percentile? lowPercentile).getD baseline.summary.minimum
  let high := (baseline.summary.percentile? highPercentile).getD baseline.summary.maximum
  let width := max (high - low) 0
  let outside := outsideOf observed low high
  let magnitude := inUnits outside width
  let result ← outsideScore rounding outside magnitude
    (finiteOr false parameters "distance_threshold" (1 / 4))
  return {
    result, expected := baseline.summary.median, low := some low, high := some high, magnitude }

/-- The branch of `ewma_deviation`. -/
def ewmaDeviation : Except ServiceError Measured := do
  let expected := baseline.ewma.getD baseline.summary.mean
  let spread ← nonNegative baseline.summary.standardDeviation
  let magnitude := inUnits |observed - expected| spread
  let result ← magnitudeScore rounding magnitude threshold
  return {
    result, expected, low := some (expected - threshold * spread)
    high := some (expected + threshold * spread), magnitude
    fallback := if spread = 0 ∧ magnitude ≠ 0 then
      some "Zero-variance EWMA baseline; confidence is limited." else none }

/-- The threshold of a change that no parameter sets. -/
def defaultChange : ℚ := if threshold ≤ 1 then threshold else 1 / 2

/-- The branch of `rate_of_change`. -/
def rateOfChange : Except ServiceError Measured := do
  let previous ← nonNegative (baseline.previous.getD baseline.summary.mean)
  let magnitude := if previous = 0 then observed else |(observed - previous) / previous|
  let changeThreshold ← finiteOr true parameters "change_threshold" (defaultChange threshold)
  let result ← magnitudeScore rounding magnitude (max changeThreshold (1 / 1000000))
  return {
    result, expected := previous, low := some (previous * (1 - changeThreshold))
    high := some (previous * (1 + changeThreshold)), magnitude
    reason := if previous < observed then "RAPID_GROWTH" else "BELOW_BASELINE"
    fallback := if previous = 0 then
      some "Previous value was zero; an absolute bounded change was used." else none }

/-- The branch of `consecutive_failures`. -/
def consecutiveFailures (py : Interpreter) : Except ServiceError Measured := do
  let required ← intOr py parameters "count_threshold" (max 1 (truncate threshold))
  if 1 ≤ required ∧ required ≤ 1000 then
    return {
      result := bounded rounding (70 * (observed / required)), expected := 0, low := some 0
      high := some (required - 1), magnitude := observed / required
      reason := "CONSECUTIVE_FAILURES" }
  else .error (.valueError "Consecutive-failure threshold is outside the server bound")

/-! ## Outputs -/

/-- `_direction(observed, expected)`, and the two directions of an ensemble. -/
inductive Direction where
  | above
  | below
  | within
deriving DecidableEq

/-- What a method or an ensemble returns. -/
structure ScoreOutput where
  method : Method
  score : Option ℚ
  observedValue : Option ℚ := none
  expectedValue : Option ℚ := none
  expectedRange : Option ℚ × Option ℚ := (none, none)
  direction : Direction := .within
  deviationMagnitude : Option ℚ := none
  thresholdCrossed : Bool := false
  reasonCode : String
  fallback : Option String := none
deriving DecidableEq

/-- The end of `score`. -/
def report (method : Method) (measured : Measured) : ScoreOutput where
  method
  score := some (bounded rounding measured.result)
  observedValue := some (rounding.six observed)
  expectedValue := some (rounding.six measured.expected)
  expectedRange := (measured.low.map rounding.six, measured.high.map rounding.six)
  direction :=
    if measured.expected < observed then .above
    else if observed < measured.expected then .below else .within
  deviationMagnitude := some (rounding.six measured.magnitude)
  thresholdCrossed := decide (70 ≤ measured.result)
  reasonCode := if measured.expected ≤ observed then measured.reason else "BELOW_BASELINE"
  fallback := measured.fallback

/-- The branch of a method that is not seasonal and no ensemble. -/
def measure (py : Interpreter) : Method → Except ServiceError Measured
  | .staticThreshold => staticThreshold rounding observed parameters threshold
  | .zScore => zScore rounding observed baseline threshold
  | .robustZScore => robustZScore rounding observed baseline threshold
  | .iqrDeviation => iqrDeviation rounding observed baseline parameters
  | .percentileDeviation => percentileDeviation rounding observed baseline parameters py
  | .ewmaDeviation => ewmaDeviation rounding observed baseline threshold
  | .rateOfChange => rateOfChange rounding observed baseline parameters threshold
  | .consecutiveFailures => consecutiveFailures rounding observed parameters threshold py
  | .seasonalDeviation | .weightedEnsemble =>
    .error (.valueError "Unknown or inapplicable server-owned scoring method")

/-- The baseline that the seasonal method reads: the bucket if it is ready. -/
def Baseline.selected (baseline : Baseline) : Baseline :=
  match baseline.seasonalBucket with
  | some (.ready _ summary) => { summary }
  | _ => baseline

/-- The fallback of the seasonal method. -/
def Baseline.seasonalFallback (baseline : Baseline) : Option String :=
  match baseline.seasonalBucket with
  | some (.ready _ _) => none
  | _ => some "Seasonal bucket was sparse or unavailable; the non-seasonal baseline was used."

def score (py : Interpreter) (method : Method) : Except ServiceError ScoreOutput :=
  match method with
  | .weightedEnsemble =>
    .error (.valueError "Unknown or inapplicable server-owned scoring method")
  | .seasonalDeviation => do
    let observed ← nonNegative observed
    let threshold ← finiteOr false parameters "threshold" 3
    let measured ← robustZScore rounding observed baseline.selected threshold
    return { report rounding observed .robustZScore measured with
      method, fallback := baseline.seasonalFallback, reasonCode := "SEASONAL_DEVIATION" }
  | method => do
    let observed ← nonNegative observed
    let threshold ← finiteOr false parameters "threshold" 3
    let measured ← measure rounding observed baseline parameters threshold py method
    return report rounding observed method measured

/-! ## Ensembles -/

/-- An ensemble without enough participants. -/
def withoutScore : ScoreOutput where
  method := .weightedEnsemble
  score := none
  reasonCode := "DATA_INSUFFICIENT"

/-- The weight at a place: `finite(supplied[index] if index < len(supplied) else 1.0)`. -/
def weightAt (weights : List Json) (index : Nat) : Except ServiceError ℚ :=
  match weights[index]? with
  | some weight => finiteParameter true weight
  | none => .ok 1

/-- The scores of the outputs that have one, with their weights. -/
def weightedScores (weights : List Json) :
    List ScoreOutput → Nat → Except ServiceError (List (ℚ × ℚ))
  | [], _ => .ok []
  | output :: rest, index =>
    match output.score with
    | none => weightedScores weights rest (index + 1)
    | some value => do
      let value ← nonNegative value
      let weight ← weightAt weights index
      let pairs ← weightedScores weights rest (index + 1)
      return (value, weight) :: pairs

/-- `weighted_ensemble(outputs, weights, minimum_participation)`, of at most ten outputs and
as many weights. -/
def weightedEnsemble (outputs : List ScoreOutput) (weights : List Json)
    (minimumParticipation : Int) : Except ServiceError ScoreOutput :=
  if ¬ (2 ≤ minimumParticipation ∧ minimumParticipation ≤ 10) then
    .error (.valueError "Ensemble participation bound is invalid")
  else if ((outputs.filter fun output => output.score.isSome).length : Int) <
      minimumParticipation then .ok withoutScore
  else do
    let pairs ← weightedScores weights outputs 0
    let total := (pairs.map Prod.snd).sum
    if total ≤ 0 then .error (.valueError "Ensemble weights must have a positive total")
    else
      let result := (pairs.map fun pair => pair.1 * (pair.2 / total)).sum
      return {
        method := .weightedEnsemble, score := some (bounded rounding result)
        thresholdCrossed := decide (70 ≤ result), reasonCode := "DISTRIBUTION_SHIFT" }

end Scores

/-! ## `dict` of a value -/

/-- An element of a sequence as a key and a value. -/
def pairOf : Json → Option (Json × Json)
  | .arr [key, value] => some (key, value)
  | .obj [first, second] => some (.str first.1, .str second.1)
  | .str text =>
    match text.toList with
    | [first, second] => some (.str (String.singleton first), .str (String.singleton second))
    | _ => none
  | _ => none

/-- The entry that a pair writes. Keys that are no texts are never read. -/
def writePair (written : Dict) (pair : Json × Json) : Option Dict :=
  match pair.1 with
  | .str key => some (Dict.set written key pair.2)
  | .arr _ | .obj _ => none
  | _ => some written

/-- `dict(items)`. -/
def dictOfItems : List Json → Dict → Option Dict
  | [], written => some written
  | item :: rest, written => do
    let pair ← pairOf item
    let next ← writePair written pair
    dictOfItems rest next

/-- `dict(value or {})`. -/
def dictOf (value : Json) : Except ServiceError Dict :=
  if !value.truthy then .ok []
  else
    match value with
    | .obj fields => .ok fields
    | .arr items =>
      match dictOfItems items [] with
      | some fields => .ok fields
      | none => .error (.raised "dict")
    | _ => .error (.raised "dict")

/-! ## Detectors -/

/-- `DetectorConfiguration`, as far as scoring reads it. -/
structure DetectorConfiguration where
  featureKeys : List FeatureKey
  method : Method
  minimumHistoricalWindows : Nat
  seasonality : Seasonality
  thresholdParameters : Dict
  confidenceRules : Dict
  ensemble : List Dict
  winsorize : Bool

section Detectors

variable (py : Interpreter) (rounding : Rounding)

/-- The participants of an ensemble, each with its parameters and weight. -/
def DetectorConfiguration.participants (configuration : DetectorConfiguration) :
    List (Method × Json × Json) :=
  (configuration.ensemble.take 10).filterMap fun entry => do
    let method ← Method.ofJson? (Dict.get entry "method")
    guard (method ≠ .weightedEnsemble)
    return (method, (Dict.get entry "parameters").orElse (.obj configuration.thresholdParameters),
      (Dict.find? entry "weight").getD (.int 1))

def scoreOne (configuration : DetectorConfiguration) (observed : ℚ) (baseline : Baseline) :
    Except ServiceError ScoreOutput :=
  if configuration.method = .weightedEnsemble then do
    let outputs ← configuration.participants.mapM fun participant => do
      let parameters ← dictOf participant.2.1
      score rounding observed baseline parameters py participant.1
    let minimum ← intOr py configuration.confidenceRules "minimum_ensemble_participation" 2
    let result ← weightedEnsemble rounding outputs
      (configuration.participants.map fun participant => participant.2.2) minimum
    return { result with
      observedValue := some observed
      expectedValue := some baseline.summary.median
      expectedRange := (some baseline.summary.minimum, some baseline.summary.maximum)
      direction := if baseline.summary.median < observed then .above else .below
      deviationMagnitude := none }
  else score rounding observed baseline configuration.thresholdParameters py
    configuration.method

/-! ## Confidence and severity -/

/-- A band of `confidence`. -/
inductive ConfidenceBand where
  | insufficient
  | low
  | medium
  | high
deriving DecidableEq

/-- A factor between nothing and one. -/
def unitFactor (value : ℚ) : ℚ := min 1 (max 0 value)

/-- `confidence(..)`, with the arguments that a detector gives. -/
def confidence (sampleCount minimumSamples : Nat) (missingRate baselineStability : ℚ)
    (seasonalSufficient validated drifted : Bool) : ConfidenceBand :=
  if sampleCount < minimumSamples then .insufficient
  else
    let factors : List ℚ :=
      [min 1 ((sampleCount : ℚ) / (max (minimumSamples * 2) 1 : Nat)), 1 - unitFactor missingRate,
        unitFactor baselineStability, if seasonalSufficient then 1 else 1 / 2, unitFactor 1,
        unitFactor 1, unitFactor 1, if validated then 1 else 3 / 5,
        if drifted then 1 / 2 else 1]
    let value := rounding.two (factors.sum / factors.length * 100)
    if 80 ≤ value then .high else if 55 ≤ value then .medium else .low

/-- What `severity` returns. -/
inductive SeverityBand where
  | informational
  | low
  | medium
  | high
  | critical
deriving DecidableEq

/-- `severity(score_value, confidence_band)`, with the other factors left at one. -/
def severity (scoreValue : Option ℚ) (band : ConfidenceBand) : Except ServiceError SeverityBand :=
  match scoreValue with
  | none => .error (.valueError "Feature values must be numeric")
  | some value => do
    let value ← nonNegative value
    let value := min 100 value
    let value := if band = .insufficient ∨ band = .low then min value 69 else value
    return if 85 ≤ value then .critical else if 70 ≤ value then .high
      else if 50 ≤ value then .medium else if 25 ≤ value then .low else .informational

/-! ## Windows -/

/-- A row of `analytics_baselines` that was built of samples. -/
structure StoredBaseline where
  statistics : Statistics

/-- `_baseline_dict(item, observation_end, seasonality)`. -/
def StoredBaseline.baseline (stored : StoredBaseline) (observationEnd : Instant)
    (seasonality : Seasonality) : Baseline where
  summary := stored.statistics.summary
  seasonalBucket :=
    if seasonality = .none then none
    else (stored.statistics.seasonal.find? fun entry =>
      entry.1 = seasonalBucket observationEnd seasonality).map Prod.snd

/-- What is read for a feature: its newest baseline and the value of `extract_feature`. -/
structure FeatureReading where
  baseline : Option StoredBaseline
  observed : Option ℚ

/-- `result["status"]`. -/
inductive ScoreStatus where
  | insufficientData
  | normal
  | anomalous
deriving DecidableEq

/-- The loop over the features, nothing as soon as one has no ready baseline or no value. -/
def scoreReadings (configuration : DetectorConfiguration) (observationEnd : Instant) :
    List FeatureReading → Except ServiceError (Option (List (StoredBaseline × ScoreOutput)))
  | [] => .ok (some [])
  | reading :: rest =>
    match reading.baseline, reading.observed with
    | some stored, some observed =>
      if stored.statistics.ready then do
        let output ← scoreOne py rounding configuration observed
          (stored.baseline observationEnd configuration.seasonality)
        let others ← scoreReadings configuration observationEnd rest
        return others.map fun outputs => (stored, output) :: outputs
      else .ok none
    | _, _ => .ok none

/-- The first output with the greatest score. -/
def primaryOutput : List ScoreOutput → Option ScoreOutput
  | [] => none
  | output :: rest =>
    match primaryOutput rest with
    | none => some output
    | some other =>
      if (output.score.getD 0) < (other.score.getD 0) then some other else some output

/-- The output of the window: the one of its feature, or the ensemble of several. -/
def finalOutput (outputs : List ScoreOutput) : Except ServiceError ScoreOutput :=
  match outputs with
  | [output] => .ok output
  | outputs => do
    let final ← weightedEnsemble rounding outputs (outputs.map fun _ => .int 1) 2
    match primaryOutput outputs with
    | none => .ok final
    | some primary =>
      return { final with
        observedValue := primary.observedValue
        expectedValue := primary.expectedValue
        expectedRange := primary.expectedRange
        direction := primary.direction
        deviationMagnitude := primary.deviationMagnitude
        fallback := primary.fallback
        reasonCode := primary.reasonCode }

def reasonCodes : List String :=
  ["ABOVE_BASELINE", "BELOW_BASELINE", "RATE_SPIKE", "FAILURE_BURST", "SEASONAL_DEVIATION",
    "PEER_GROUP_DEVIATION", "RAPID_GROWTH", "CONSECUTIVE_FAILURES", "DISTRIBUTION_SHIFT",
    "VOLUME_SURGE", "LATENCY_DEVIATION", "BACKLOG_GROWTH", "SLA_OVERDUE_GROWTH",
    "REPLAY_ATTEMPT_SURGE", "SIGNATURE_FAILURE_SURGE", "CIRCUIT_OPENED", "DATA_INSUFFICIENT",
    "BASELINE_UNSTABLE", "DATA_STALE", "DETECTOR_DRIFTED"]

/-- What `build_explanation` checks. -/
def checkExplanation (featureCount : Nat) (final : ScoreOutput) : Except ServiceError Unit :=
  if featureCount = 0 ∨ 10 < featureCount then
    .error (.valueError "An explanation requires one to ten approved features")
  else if !reasonCodes.contains final.reasonCode then
    .error (.valueError "Unknown reason code")
  else .ok ()

/-- What `score_detector_window` returns. -/
structure WindowScore where
  status : ScoreStatus
  score : Option ℚ := none
  confidence : Option ConfidenceBand := none
  severity : Option SeverityBand := none
  scoring : Option ScoreOutput := none

/-- `score_detector_window` without materialization, from its loop over the features on. -/
def scoreDetectorWindow (configuration : DetectorConfiguration) (validated drifted : Bool)
    (observationEnd : Instant) (readings : List FeatureReading) :
    Except ServiceError WindowScore := do
  match ← scoreReadings py rounding configuration observationEnd readings with
  | none => return { status := .insufficientData }
  | some scored =>
    let baselines := scored.map fun pair => pair.1.statistics
    let final ← finalOutput rounding (scored.map Prod.snd)
    let missing := (baselines.map Statistics.missingValueCount).sum
    let counted := (baselines.map Statistics.observationCount).sum
    let flat := baselines.any fun statistics => statistics.summary.standardDeviation = 0
    let band := confidence rounding ((baselines.map Statistics.observationCount).min?.getD 0)
      configuration.minimumHistoricalWindows ((missing : ℚ) / (max 1 (counted + missing) : Nat))
      (if flat then 1 / 2 else 1) final.fallback.isNone validated drifted
    let level ← severity final.score band
    checkExplanation configuration.featureKeys.length final
    return {
      status := if 70 ≤ final.score.getD 0 then .anomalous else .normal
      score := final.score, confidence := some band, severity := some level
      scoring := some final }

end Detectors

end ThreatScope.Analytics
