import ThreatScope.Analytics.Scoring

/-!
# Contributions

What an anomaly records of its features: the rows of `anomaly_contributions` and the
`top_contributing_features` of its explanation. All of them are made of the one scoring of the
window, which for several features is that of the feature with the greatest score, and the
baseline of a feature is the newest one of the version, whatever entity it was built for
(`anomaly_truthful_iff`).
-/

set_option autoImplicit false

namespace ThreatScope.Analytics

open Library AccessControl

/-! ## Baselines -/

/-- A row of `analytics_baselines`, with the entity that its samples were counted for. -/
structure BaselineRow where
  detectorVersionId : Nat
  featureKey : FeatureKey
  entityId : Option Nat
  sourceDataCutoff : Instant
  stored : StoredBaseline

/-- The order by `source_data_cutoff` and then by key. -/
def NotLater (one other : Nat × BaselineRow) : Prop :=
  one.2.sourceDataCutoff < other.2.sourceDataCutoff ∨
    one.2.sourceDataCutoff = other.2.sourceDataCutoff ∧ one.1 ≤ other.1

instance (one other : Nat × BaselineRow) : Decidable (NotLater one other) :=
  inferInstanceAs (Decidable (_ ∨ _))

/-- The baselines of a version for a feature whose data end before the window. -/
def eligible (baselines : Table BaselineRow) (versionId : Nat) (start : Instant)
    (key : FeatureKey) : List (Nat × BaselineRow) :=
  baselines.rows.filter fun row => row.2.detectorVersionId == versionId &&
    row.2.featureKey == key && decide (row.2.sourceDataCutoff ≤ start)

/-- The last of some rows. -/
def lastRow (rows : List (Nat × BaselineRow)) : Option (Nat × BaselineRow) :=
  rows.foldl (fun best row => match best with
    | none => some row
    | some other => if NotLater other row then some row else some other) none

/-! ## An anomaly -/

/-- What `contribution` returns, without the name and the unit of the catalog. -/
structure Contribution where
  featureKey : FeatureKey
  observedValue : Option ℚ
  baselineValue : Option ℚ
  expectedRange : Option ℚ × Option ℚ
  normalizedContribution : ℚ
  direction : Direction
  reasonCode : String

def contribution (scoring : ScoreOutput) (normalized : ℚ) (key : FeatureKey) : Contribution where
  featureKey := key
  observedValue := scoring.observedValue
  baselineValue := scoring.expectedValue
  expectedRange := scoring.expectedRange
  normalizedContribution := stableRound normalized
  direction := scoring.direction
  reasonCode := scoring.reasonCode

/-- `safe_json` of a contribution. -/
def Contribution.safe (row : Contribution) : Contribution :=
  { row with
    observedValue := row.observedValue.map stableRound
    baselineValue := row.baselineValue.map stableRound
    expectedRange := (row.expectedRange.1.map stableRound, row.expectedRange.2.map stableRound)
    normalizedContribution := stableRound row.normalizedContribution }

/-- What a new anomaly says of its features. -/
structure ExplainedAnomaly where
  contributions : List Contribution
  topContributingFeatures : List Contribution

section Window

variable (py : Interpreter) (baselines : Table BaselineRow) (configuration : DetectorConfiguration)
  (versionId : Nat) (validated drifted : Bool) (start finish : Instant)
  (extracted : FeatureKey → Option ℚ)

/-- What the loop over the features reads: the newest baseline, and the value of
`extract_feature`, which is rounded. -/
def windowReadings : List FeatureReading :=
  configuration.featureKeys.map fun key =>
    ⟨(lastRow (eligible baselines versionId start key)).map fun row => row.2.stored,
      (extracted key).map stableRound⟩

/-- The outputs of the features, each scored against its baseline. -/
def windowOutputs : List ScoreOutput :=
  match scoreReadings py pythonRounding configuration finish
    (windowReadings baselines configuration versionId start extracted) with
  | .ok (some scored) => scored.map Prod.snd
  | _ => []

/-- `score_detector_window` with the anomaly that `materialize_anomaly` stores, when none has
its deduplication key. -/
def materializeWindow : Except ServiceError (Option ExplainedAnomaly) := do
  let window ← scoreDetectorWindow py pythonRounding configuration validated drifted finish
    (windowReadings baselines configuration versionId start extracted)
  match window.status, window.scoring with
  | .anomalous, some scoring =>
    let rows := configuration.featureKeys.map
      (contribution scoring (1 / configuration.featureKeys.length))
    return some ⟨rows, rows.map Contribution.safe⟩
  | _, _ => return none

end Window

/-! ## Truthful anomalies -/

/-- Two outputs tell the same of an observation, to six digits. -/
structure ScoreOutput.Agrees (one other : ScoreOutput) : Prop where
  observed : one.observedValue.map stableRound = other.observedValue.map stableRound
  expected : one.expectedValue.map stableRound = other.expectedValue.map stableRound
  low : one.expectedRange.1.map stableRound = other.expectedRange.1.map stableRound
  high : one.expectedRange.2.map stableRound = other.expectedRange.2.map stableRound

/-- A contribution reports, to six digits, the value that was extracted for a feature and what
this was compared with. -/
structure Contribution.Reports (row : Contribution) (key : FeatureKey) (value : Option ℚ)
    (output : ScoreOutput) : Prop where
  feature : row.featureKey = key
  observed : row.observedValue.map stableRound = value.map stableRound
  expected : row.baselineValue.map stableRound = output.expectedValue.map stableRound
  low : row.expectedRange.1.map stableRound = output.expectedRange.1.map stableRound
  high : row.expectedRange.2.map stableRound = output.expectedRange.2.map stableRound

section Truth

variable (py : Interpreter) (baselines : Table BaselineRow)
  (configuration : DetectorConfiguration) (versionId : Nat) (validated drifted : Bool)
  (start finish : Instant) (extracted : FeatureKey → Option ℚ) (entityId : Option Nat)

/-- Every contribution and every entry of the explanation is about its own feature, and every
feature was compared with a baseline of the entity. -/
structure Truthful (anomaly : ExplainedAnomaly) : Prop where
  contributions : List.Forall₂ (fun row pair => row.Reports pair.1 (extracted pair.1) pair.2)
    anomaly.contributions (configuration.featureKeys.zip
      (windowOutputs py baselines configuration versionId start finish extracted))
  explanation : List.Forall₂ (fun row pair => row.Reports pair.1 (extracted pair.1) pair.2)
    anomaly.topContributingFeatures (configuration.featureKeys.zip
      (windowOutputs py baselines configuration versionId start finish extracted))
  scope : ∀ key ∈ configuration.featureKeys, ∀ row,
    lastRow (eligible baselines versionId start key) = some row → row.2.entityId = entityId

/-- All features tell the same, and no baseline of another entity is newer than those of the
entity. -/
structure Explainable : Prop where
  agree : ∀ one ∈ windowOutputs py baselines configuration versionId start finish extracted,
    ∀ other ∈ windowOutputs py baselines configuration versionId start finish extracted,
      one.Agrees other
  newest : ∀ key ∈ configuration.featureKeys, ∀ row ∈ eligible baselines versionId start key,
    row.2.entityId ≠ entityId → ∃ own ∈ eligible baselines versionId start key,
      own.2.entityId = entityId ∧ ¬ NotLater own row

/-! ### The newest baseline -/

section Newest

variable {rows : List (Nat × BaselineRow)} {row : Nat × BaselineRow}

theorem NotLater.trans {one other last : Nat × BaselineRow} (first : NotLater one other)
    (second : NotLater other last) : NotLater one last := by
  rcases first with before | ⟨same, key⟩
  · rcases second with later | ⟨sameLater, -⟩
    · exact .inl (before.trans later)
    · exact .inl (before.trans_eq sameLater)
  · rcases second with later | ⟨sameLater, nextKey⟩
    · exact .inl (same.trans_lt later)
    · exact .inr ⟨same.trans sameLater, key.trans nextKey⟩

theorem notLater_of_not {one other : Nat × BaselineRow} (later : ¬ NotLater one other) :
    NotLater other one := by
  rcases lt_trichotomy one.2.sourceDataCutoff other.2.sourceDataCutoff with before | same | after
  · exact absurd (.inl before) later
  · exact .inr ⟨same.symm, (Nat.lt_of_not_le fun le => later (.inr ⟨same, le⟩)).le⟩
  · exact .inl after

theorem foldl_lastRow (best : Option (Nat × BaselineRow))
    (found : rows.foldl (fun best row => match best with
      | none => some row
      | some other => if NotLater other row then some row else some other) best = some row) :
    (row ∈ rows ∨ best = some row) ∧ (∀ other ∈ rows, NotLater other row) ∧
      ∀ other, best = some other → NotLater other row := by
  induction rows generalizing best with
  | nil =>
    rw [List.foldl_nil] at found
    refine ⟨.inr found, by simp, ?_⟩
    rintro other same
    rw [found, Option.some.injEq] at same
    exact .inr ⟨by rw [same], by rw [same]⟩
  | cons next rest ih =>
    obtain ⟨member, most, start⟩ := ih _ found
    cases best with
    | none =>
      refine ⟨.inl ?_, List.forall_mem_cons.mpr ⟨start next rfl, most⟩, by simp⟩
      rcases member with later | same
      · exact List.mem_cons_of_mem _ later
      · rw [← Option.some.inj same]
        exact List.mem_cons_self
    | some held =>
      dsimp only at member start
      split_ifs at member start with older
      · refine ⟨.inl ?_, List.forall_mem_cons.mpr ⟨start next rfl, most⟩, ?_⟩
        · rcases member with later | same
          · exact List.mem_cons_of_mem _ later
          · rw [← Option.some.inj same]
            exact List.mem_cons_self
        · rintro other ⟨⟩
          exact older.trans (start next rfl)
      · refine ⟨member.imp_left (List.mem_cons_of_mem _), List.forall_mem_cons.mpr
          ⟨(notLater_of_not older).trans (start held rfl), most⟩, ?_⟩
        rintro other ⟨⟩
        exact start _ rfl

/-- The last of some rows is one of them, and none is later. -/
theorem lastRow_spec (found : lastRow rows = some row) :
    row ∈ rows ∧ ∀ other ∈ rows, NotLater other row := by
  obtain ⟨member, most, -⟩ := foldl_lastRow none found
  exact ⟨member.resolve_right (by simp), most⟩

theorem lastRow_isSome {one : Nat × BaselineRow} (inside : one ∈ rows) :
    ∃ row, lastRow rows = some row := by
  have kept : ∀ (rest : List (Nat × BaselineRow)) (held : Nat × BaselineRow),
      ∃ row, rest.foldl (fun best row => match best with
        | none => some row
        | some other => if NotLater other row then some row else some other) (some held) =
          some row := by
    intro rest
    induction rest with
    | nil => exact fun held => ⟨held, rfl⟩
    | cons next rest ih =>
      intro held
      rw [List.foldl_cons]
      dsimp only
      split_ifs
      · exact ih next
      · exact ih held
  cases rows with
  | nil => exact absurd inside List.not_mem_nil
  | cons next rest => exact kept rest next

theorem scope_iff {key : FeatureKey} :
    (∀ row, lastRow (eligible baselines versionId start key) = some row →
        row.2.entityId = entityId) ↔
      ∀ row ∈ eligible baselines versionId start key, row.2.entityId ≠ entityId →
        ∃ own ∈ eligible baselines versionId start key, own.2.entityId = entityId ∧
          ¬ NotLater own row := by
  constructor
  · intro fits row inside foreign
    obtain ⟨last, found⟩ := lastRow_isSome inside
    obtain ⟨lastIn, most⟩ := lastRow_spec found
    refine ⟨last, lastIn, fits last found, fun older => ?_⟩
    -- Two rows that are not later than each other have one key, and keys are unique.
    have sameKey : last.1 = row.1 := by
      rcases most row inside with before | ⟨same, newer⟩
      · rcases older with after | ⟨equal, -⟩
        · exact absurd after (lt_asymm before)
        · exact absurd equal before.ne'
      · rcases older with after | ⟨-, key⟩
        · exact absurd same.symm after.ne
        · exact le_antisymm key newer
    have same : last = row := List.inj_on_of_nodup_map baselines.keys_nodup
      (List.mem_of_mem_filter lastIn) (List.mem_of_mem_filter inside) sameKey
    exact foreign (by rw [← same]; exact fits last found)
  · intro newest row found
    by_contra foreign
    obtain ⟨inside, most⟩ := lastRow_spec found
    obtain ⟨own, ownIn, -, later⟩ := newest row inside foreign
    exact later (most own ownIn)

end Newest

/-! ### The outputs of the features -/

section Outputs

variable {py baselines configuration versionId start finish extracted}

theorem stableRound_stableRound (value : ℚ) : stableRound (stableRound value) = stableRound value :=
  roundTo_of_digits (roundEven (value * 10 ^ 6)) (by unfold stableRound roundTo; field_simp)

theorem nonNegative_eq {value result : ℚ} (checked : nonNegative value = .ok result) :
    value = result := by
  unfold nonNegative at checked
  split_ifs at checked
  exact Except.ok.inj checked

theorem scoreOne_observed {observed : ℚ} {baseline : Baseline} {output : ScoreOutput}
    (scored : scoreOne py pythonRounding configuration observed baseline = .ok output) :
    output.observedValue.map stableRound = some (stableRound observed) := by
  unfold scoreOne at scored
  by_cases ensemble : configuration.method = .weightedEnsemble
  · rw [if_pos ensemble] at scored
    obtain ⟨outputs, -, scored⟩ := bind_eq_ok_iff.mp scored
    obtain ⟨minimum, -, scored⟩ := bind_eq_ok_iff.mp scored
    obtain ⟨result, -, scored⟩ := bind_eq_ok_iff.mp scored
    rw [← pure_eq_ok_iff.mp scored]
    rfl
  · rw [if_neg ensemble] at scored
    unfold score at scored
    split at scored
    · cases scored
    · obtain ⟨value, checked, scored⟩ := bind_eq_ok_iff.mp scored
      obtain ⟨threshold, -, scored⟩ := bind_eq_ok_iff.mp scored
      obtain ⟨measured, -, scored⟩ := bind_eq_ok_iff.mp scored
      rw [← pure_eq_ok_iff.mp scored, ← nonNegative_eq checked]
      exact congrArg some (stableRound_stableRound _)
    · obtain ⟨value, checked, scored⟩ := bind_eq_ok_iff.mp scored
      obtain ⟨threshold, -, scored⟩ := bind_eq_ok_iff.mp scored
      obtain ⟨measured, -, scored⟩ := bind_eq_ok_iff.mp scored
      rw [← pure_eq_ok_iff.mp scored, ← nonNegative_eq checked]
      exact congrArg some (stableRound_stableRound _)

/-- Every output is about the value of its feature. -/
theorem scoreReadings_observed {readings : List FeatureReading}
    {scored : List (StoredBaseline × ScoreOutput)}
    (all : scoreReadings py pythonRounding configuration finish readings =
      .ok (some scored)) :
    List.Forall₂ (fun (reading : FeatureReading) (pair : StoredBaseline × ScoreOutput) =>
      pair.2.observedValue.map stableRound = reading.observed.map stableRound) readings scored := by
  induction readings generalizing scored with
  | nil =>
    unfold scoreReadings at all
    cases all
    exact .nil
  | cons reading rest ih =>
    unfold scoreReadings at all
    split at all
    · rename_i stored observed here value
      split_ifs at all
      · obtain ⟨output, one, all⟩ := bind_eq_ok_iff.mp all
        obtain ⟨others, more, all⟩ := bind_eq_ok_iff.mp all
        obtain ⟨outputs, rfl, rfl⟩ := Option.map_eq_some_iff.mp (pure_eq_ok_iff.mp all)
        refine .cons ?_ (ih more)
        rw [scoreOne_observed one, value]
        rfl
      · cases all
    · cases all

theorem primaryOutput_mem {outputs : List ScoreOutput} {primary : ScoreOutput}
    (found : primaryOutput outputs = some primary) : primary ∈ outputs := by
  induction outputs generalizing primary with
  | nil => cases found
  | cons output rest ih =>
    unfold primaryOutput at found
    split at found
    · rw [← Option.some.inj found]
      exact List.mem_cons_self
    · rename_i other later
      split_ifs at found
      · rw [← Option.some.inj found]
        exact List.mem_cons_of_mem _ (ih later)
      · rw [← Option.some.inj found]
        exact List.mem_cons_self

/-- The scoring of a window tells what one of its outputs tells. -/
theorem finalOutput_agrees {outputs : List ScoreOutput} {final : ScoreOutput}
    (some : outputs ≠ []) (made : finalOutput pythonRounding outputs = .ok final) :
    ∃ primary ∈ outputs, final.Agrees primary := by
  unfold finalOutput at made
  split at made
  · cases made
    exact ⟨_, List.mem_singleton_self _, rfl, rfl, rfl, rfl⟩
  · obtain ⟨combined, -, made⟩ := bind_eq_ok_iff.mp made
    split at made
    · rename_i none
      cases outputs with
      | nil => exact absurd rfl some
      | cons output rest =>
        unfold primaryOutput at none
        split at none
        · cases none
        · split_ifs at none
    · rename_i primary found
      rw [← pure_eq_ok_iff.mp made]
      exact ⟨primary, primaryOutput_mem found, rfl, rfl, rfl, rfl⟩

theorem ScoreOutput.Agrees.symm {one other : ScoreOutput} (agrees : one.Agrees other) :
    other.Agrees one :=
  ⟨agrees.observed.symm, agrees.expected.symm, agrees.low.symm, agrees.high.symm⟩

theorem ScoreOutput.Agrees.trans {one other last : ScoreOutput} (first : one.Agrees other)
    (second : other.Agrees last) : one.Agrees last :=
  ⟨first.observed.trans second.observed, first.expected.trans second.expected,
    first.low.trans second.low, first.high.trans second.high⟩

/-- What a new anomaly was made of. -/
theorem materializeWindow_cases {anomaly : ExplainedAnomaly}
    (made : materializeWindow py baselines configuration versionId validated drifted start
      finish extracted = .ok (some anomaly)) :
    ∃ scored scoring, scoreReadings py pythonRounding configuration finish
        (windowReadings baselines configuration versionId start extracted) = .ok (some scored) ∧
      finalOutput pythonRounding (scored.map Prod.snd) = .ok scoring ∧
      anomaly.contributions = configuration.featureKeys.map
        (contribution scoring (1 / configuration.featureKeys.length)) ∧
      anomaly.topContributingFeatures = (configuration.featureKeys.map
        (contribution scoring (1 / configuration.featureKeys.length))).map Contribution.safe := by
  unfold materializeWindow scoreDetectorWindow at made
  obtain ⟨window, scoredWindow, made⟩ := bind_eq_ok_iff.mp made
  obtain ⟨outcome, readings, scoredWindow⟩ := bind_eq_ok_iff.mp scoredWindow
  cases outcome with
  | none =>
    rw [← pure_eq_ok_iff.mp scoredWindow] at made
    cases made
  | some scored =>
    obtain ⟨final, combined, scoredWindow⟩ := bind_eq_ok_iff.mp scoredWindow
    obtain ⟨level, -, scoredWindow⟩ := bind_eq_ok_iff.mp scoredWindow
    obtain ⟨checked, -, scoredWindow⟩ := bind_eq_ok_iff.mp scoredWindow
    rw [← pure_eq_ok_iff.mp scoredWindow] at made
    dsimp only at made
    split at made
    · rename_i scoring _ here
      cases here
      cases made
      exact ⟨scored, _, readings, combined, rfl, rfl⟩
    · cases made

/-- A row of one scoring is about a feature exactly if the scoring agrees with the output of the
feature. -/
theorem reports_iff {row : Contribution} {scoring output : ScoreOutput} {key : FeatureKey}
    {value : Option ℚ} (feature : row.featureKey = key)
    (observed : row.observedValue.map stableRound = scoring.observedValue.map stableRound)
    (expected : row.baselineValue.map stableRound = scoring.expectedValue.map stableRound)
    (low : row.expectedRange.1.map stableRound = scoring.expectedRange.1.map stableRound)
    (high : row.expectedRange.2.map stableRound = scoring.expectedRange.2.map stableRound)
    (about : output.observedValue.map stableRound = value.map stableRound) :
    row.Reports key value output ↔ scoring.Agrees output := by
  constructor
  · intro reports
    exact ⟨observed.symm.trans (reports.observed.trans about.symm),
      expected.symm.trans reports.expected, low.symm.trans reports.low,
      high.symm.trans reports.high⟩
  · intro agrees
    exact ⟨feature, observed.trans (agrees.observed.trans about), expected.trans agrees.expected,
      low.trans agrees.low, high.trans agrees.high⟩

theorem map_stableRound_twice (value : Option ℚ) :
    (value.map stableRound).map stableRound = value.map stableRound := by
  cases value with
  | none => rfl
  | some number => exact congrArg some (stableRound_stableRound number)

/-- Rows that are made of one scoring report their features exactly if it agrees with all. -/
theorem forall_reports_iff (make : FeatureKey → Contribution) (scoring : ScoreOutput)
    {keys : List FeatureKey} {outputs : List ScoreOutput}
    (feature : ∀ key, (make key).featureKey = key)
    (observed : ∀ key, (make key).observedValue.map stableRound =
      scoring.observedValue.map stableRound)
    (expected : ∀ key, (make key).baselineValue.map stableRound =
      scoring.expectedValue.map stableRound)
    (low : ∀ key, (make key).expectedRange.1.map stableRound =
      scoring.expectedRange.1.map stableRound)
    (high : ∀ key, (make key).expectedRange.2.map stableRound =
      scoring.expectedRange.2.map stableRound)
    (about : List.Forall₂ (fun key output =>
      output.observedValue.map stableRound = (extracted key).map stableRound) keys outputs) :
    List.Forall₂ (fun row pair => row.Reports pair.1 (extracted pair.1) pair.2) (keys.map make)
        (keys.zip outputs) ↔ ∀ output ∈ outputs, scoring.Agrees output := by
  induction about with
  | nil => simp
  | @cons key output keys outputs here _ ih =>
    rw [List.map_cons, List.zip_cons_cons, List.forall₂_cons, ih, List.forall_mem_cons,
      reports_iff (feature key) (observed key) (expected key) (low key) (high key) here]

end Outputs

/-- **An anomaly is truthful** exactly if all its features tell the same and no baseline of
another entity is newer than those of its own. -/
theorem anomaly_truthful_iff {anomaly : ExplainedAnomaly}
    (made : materializeWindow py baselines configuration versionId validated drifted start
      finish extracted = .ok (some anomaly)) :
    Truthful py baselines configuration versionId start finish extracted entityId anomaly ↔
      Explainable py baselines configuration versionId start finish extracted entityId := by
  obtain ⟨scored, scoring, readings, combined, rows, top⟩ :=
    materializeWindow_cases validated drifted made
  have outputs : windowOutputs py baselines configuration versionId start finish extracted =
      scored.map Prod.snd := by
    unfold windowOutputs
    rw [readings]
  have about : List.Forall₂ (fun key (output : ScoreOutput) =>
      output.observedValue.map stableRound = (extracted key).map stableRound)
      configuration.featureKeys (scored.map Prod.snd) := by
    have each := scoreReadings_observed readings
    unfold windowReadings at each
    rw [List.forall₂_map_left_iff] at each
    rw [List.forall₂_map_right_iff]
    exact each.imp fun key pair same => same.trans (map_stableRound_twice _)
  have rowsIff := forall_reports_iff
    (contribution scoring (1 / configuration.featureKeys.length)) scoring
    (fun _ => rfl) (fun _ => rfl) (fun _ => rfl) (fun _ => rfl) (fun _ => rfl) about
  have topIff := forall_reports_iff
    (fun key => (contribution scoring (1 / configuration.featureKeys.length) key).safe) scoring
    (fun _ => rfl) (fun _ => map_stableRound_twice _) (fun _ => map_stableRound_twice _)
    (fun _ => map_stableRound_twice _) (fun _ => map_stableRound_twice _) about
  have agree : (∀ output ∈ scored.map Prod.snd, scoring.Agrees output) ↔
      ∀ one ∈ scored.map Prod.snd, ∀ other ∈ scored.map Prod.snd, one.Agrees other := by
    constructor
    · exact fun all one oneIn other otherIn => (all one oneIn).symm.trans (all other otherIn)
    · intro pairs output inside
      obtain ⟨primary, primaryIn, agrees⟩ := finalOutput_agrees (List.ne_nil_of_mem inside) combined
      exact agrees.trans (pairs primary primaryIn output inside)
  have scope : (∀ key ∈ configuration.featureKeys, ∀ row,
      lastRow (eligible baselines versionId start key) = some row →
        row.2.entityId = entityId) ↔ _ :=
    forall₂_congr fun key _ => scope_iff baselines versionId start entityId
  constructor
  · rintro ⟨contributions, -, fits⟩
    rw [rows, outputs] at contributions
    refine ⟨?_, scope.mp fits⟩
    rw [outputs]
    exact agree.mp (rowsIff.mp contributions)
  · rintro ⟨agrees, newest⟩
    rw [outputs] at agrees
    refine ⟨?_, ?_, scope.mpr newest⟩
    · rw [rows, outputs]
      exact rowsIff.mpr (agree.mpr agrees)
    · rw [top, outputs, List.map_map]
      exact topIff.mpr (agree.mpr agrees)

end Truth

section Bursts

/-- A detector of failed authentications and refused requests of more than ten. -/
def burstDetector : DetectorConfiguration where
  featureKeys := [.authFailureCount, .authAccessDenialCount]
  method := .staticThreshold
  minimumHistoricalWindows := 5
  seasonality := .none
  thresholdParameters := [("value", .int 10)]
  confidenceRules := []
  ensemble := []
  winsorize := false

/-- A baseline of twenty windows for account 7. -/
def burstBaseline (key : FeatureKey) : BaselineRow :=
  ⟨1, key, some 7, 0, ⟨⟨⟨1, 1, 0, 2, 1, 1, 1, 0, 1, 1, 1, 2⟩, 20, 0, true, []⟩⟩⟩

/-- The baselines of both features. -/
def burstBaselines : Table BaselineRow :=
  (Table.empty.insert (burstBaseline .authFailureCount)).insert
    (burstBaseline .authAccessDenialCount)

/-- Without texts. -/
def bareInterpreter : Interpreter := ⟨fun _ => [], fun _ => none, fun _ => "", fun _ => "",
  fun _ => false, 900⟩

/-- Thirty failures and a number of refused requests. -/
def burstCounts (refused : ℚ) (key : FeatureKey) : Option ℚ :=
  if key = .authFailureCount then some 30 else some refused

/-- The window of an hour. -/
def burstWindow (refused : ℚ) : Except ServiceError (Option ExplainedAnomaly) :=
  materializeWindow bareInterpreter burstBaselines burstDetector 1 true false 0 3600000000
    (burstCounts refused)

/-- The outputs of the hour. -/
def burstOutputs (refused : ℚ) : List ScoreOutput :=
  windowOutputs bareInterpreter burstBaselines burstDetector 1 0 3600000000 (burstCounts refused)

theorem burstWindow_made {refused : ℚ}
    (anomalous : ((burstWindow refused).toOption.bind id).isSome = true) :
    ∃ anomaly, burstWindow refused = .ok (some anomaly) := by
  cases made : burstWindow refused with
  | error error =>
    rw [made] at anomalous
    cases anomalous
  | ok found =>
    rw [made] at anomalous
    obtain ⟨anomaly, here⟩ := Option.isSome_iff_exists.mp anomalous
    exact ⟨anomaly, congrArg Except.ok here⟩

theorem equal_bursts_truthful : ∃ anomaly, burstWindow 30 = .ok (some anomaly) ∧
    Truthful bareInterpreter burstBaselines burstDetector 1 0 3600000000 (burstCounts 30)
      (some 7) anomaly := by
  have anomalous : ((burstWindow 30).toOption.bind id).isSome = true := by decide +kernel
  obtain ⟨anomaly, made⟩ := burstWindow_made anomalous
  refine ⟨anomaly, made, (anomaly_truthful_iff bareInterpreter burstBaselines burstDetector 1 true
    false 0 3600000000 (burstCounts 30) (some 7) made).mpr ⟨?_, ?_⟩⟩
  · have same : ∀ one ∈ burstOutputs 30, ∀ other ∈ burstOutputs 30, one = other := by
      decide +kernel
    intro one oneIn other otherIn
    rw [same one oneIn other otherIn]
    exact ⟨rfl, rfl, rfl, rfl⟩
  · intro key _ row inside foreign
    have own : ∀ row ∈ burstBaselines.rows, row.2.entityId = some 7 := by decide
    exact absurd (own row (List.mem_of_mem_filter inside)) foreign

/-- Twenty refused requests are reported as thirty, like the failures. -/
theorem burst_untruthful : ¬ ∀ (py : Interpreter) (baselines : Table BaselineRow)
    (configuration : DetectorConfiguration) (versionId : Nat) (validated drifted : Bool)
    (start finish : Instant) (extracted : FeatureKey → Option ℚ) (entityId : Option Nat)
    (anomaly : ExplainedAnomaly),
    materializeWindow py baselines configuration versionId validated drifted start finish
      extracted = .ok (some anomaly) →
    Truthful py baselines configuration versionId start finish extracted entityId anomaly := by
  intro always
  have anomalous : ((burstWindow 20).toOption.bind id).isSome = true := by decide +kernel
  obtain ⟨anomaly, made⟩ := burstWindow_made anomalous
  unfold burstWindow at made
  have truthful := always bareInterpreter burstBaselines burstDetector 1 true false 0 3600000000
    (burstCounts 20) (some 7) anomaly made
  obtain ⟨scored, scoring, readings, -, rows, -⟩ := materializeWindow_cases true false made
  have reports := truthful.contributions
  have count : (windowOutputs bareInterpreter burstBaselines burstDetector 1 0 3600000000
      (burstCounts 20)).length = 2 := by
    decide +kernel
  have different : (burstCounts 20 .authFailureCount).map stableRound ≠
      (burstCounts 20 .authAccessDenialCount).map stableRound := by
    decide +kernel
  rw [rows] at reports
  generalize windowOutputs bareInterpreter burstBaselines burstDetector 1 0 3600000000
    (burstCounts 20) = outputs at reports count
  obtain ⟨one, other, rfl⟩ := List.length_eq_two.mp count
  simp only [burstDetector, List.map_cons, List.zip_cons_cons, List.forall₂_cons] at reports
  obtain ⟨first, second, -⟩ := reports
  exact different (first.observed.symm.trans second.observed)

end Bursts

end ThreatScope.Analytics
