import ThreatScope.Library.Rounding
import ThreatScope.Scanner.Authorisation

/-!
# More findings and the scores

The scores of a scan against those of a scan with more findings. Every posture score is what
is left after the penalties of the findings, in any order, so that more findings leave less.
The risk score adds a tenth of the average weight to the heaviest one: a finding that is
lighter than the average dilutes it, and the risk can drop (`scores_worsen_iff`).
-/

set_option autoImplicit false

namespace ThreatScope.Scanner

open Library

/-! ## The risk score -/

section Risk

variable {findings earlier later : List FindingData}

/-- The weight of the heaviest finding. -/
def heaviest (findings : List FindingData) : ℕ :=
  (findings.map fun finding => severityWeight finding.severity).foldl max 0

/-- The average weight of the findings, zero without one. -/
def averageWeight (findings : List FindingData) : ℚ :=
  ((findings.map fun finding => severityWeight finding.severity).sum : ℚ) / findings.length

/-- The findings that are new are heavier than all before, or a finding is critical, or the
average weight, rounded to a whole number, has not dropped. -/
def NotDiluted (earlier later : List FindingData) : Prop :=
  heaviest earlier < heaviest later ∨ heaviest earlier = 10 ∨
    roundEven (averageWeight earlier) ≤ roundEven (averageWeight later)

instance : Decidable (NotDiluted earlier later) := inferInstanceAs (Decidable (_ ∨ _ ∨ _))

theorem roundTenth_eq_roundTo (value : ℚ) : roundTenth value = roundTo 1 value := by
  have tenth : (10 : ℚ) ^ 1 = 10 := by norm_num
  unfold roundTenth roundTo roundEven
  rw [tenth]
  rfl

theorem roundEven_two_mul_add (number : ℤ) (value : ℚ) :
    roundEven (2 * number + value) = 2 * number + roundEven value := by
  have floors : ⌊(2 * number + value : ℚ)⌋ = 2 * number + ⌊value⌋ := by
    have shifted := Int.floor_intCast_add (2 * number) value
    push_cast at shifted
    exact shifted
  have rests : 2 * number + value - ((2 * number + ⌊value⌋ : ℤ) : ℚ) = value - ⌊value⌋ := by
    push_cast
    ring
  unfold roundEven
  dsimp only
  rw [floors, rests]
  split_ifs <;> omega

theorem mem_weights_le {weight : ℕ}
    (inside : weight ∈ findings.map fun finding => severityWeight finding.severity) :
    weight ≤ 10 := by
  obtain ⟨finding, -, rfl⟩ := List.mem_map.mp inside
  cases finding.severity <;> decide

theorem foldl_max_le_iff {weights : List ℕ} {start bound : ℕ} :
    weights.foldl max start ≤ bound ↔ start ≤ bound ∧ ∀ weight ∈ weights, weight ≤ bound := by
  induction weights generalizing start with
  | nil => simp
  | cons weight rest ih =>
    rw [List.foldl_cons, ih, max_le_iff, List.forall_mem_cons, and_assoc]

theorem heaviest_le_iff {bound : ℕ} :
    heaviest findings ≤ bound ↔ ∀ finding ∈ findings, severityWeight finding.severity ≤ bound := by
  unfold heaviest
  rw [foldl_max_le_iff, List.forall_mem_map]
  exact and_iff_right (Nat.zero_le bound)

theorem heaviest_le_ten (findings : List FindingData) : heaviest findings ≤ 10 :=
  heaviest_le_iff.mpr fun _ inside => mem_weights_le (List.mem_map_of_mem inside)

theorem heaviest_mono (grown : earlier.Subperm later) : heaviest earlier ≤ heaviest later :=
  heaviest_le_iff.mpr fun _ inside => heaviest_le_iff.mp le_rfl _ (grown.subset inside)

theorem averageWeight_nonneg (findings : List FindingData) : 0 ≤ averageWeight findings := by
  unfold averageWeight
  positivity

theorem averageWeight_le (findings : List FindingData) :
    averageWeight findings ≤ heaviest findings := by
  have total : (findings.map fun finding => severityWeight finding.severity).sum ≤
      findings.length * heaviest findings := by
    have each := List.sum_le_card_nsmul
      (findings.map fun finding => severityWeight finding.severity) (heaviest findings) ?_
    · rwa [List.length_map, nsmul_eq_mul, Nat.cast_id] at each
    · intro weight inside
      obtain ⟨finding, listed, rfl⟩ := List.mem_map.mp inside
      exact heaviest_le_iff.mp le_rfl finding listed
  unfold averageWeight
  refine div_le_of_le_mul₀ (Nat.cast_nonneg _) (Nat.cast_nonneg _) ?_
  rw [mul_comm]
  exact_mod_cast total

theorem roundEven_averageWeight (findings : List FindingData) :
    0 ≤ roundEven (averageWeight findings) ∧
      roundEven (averageWeight findings) ≤ heaviest findings := by
  have low := roundEven_mono (averageWeight_nonneg findings)
  have high := roundEven_mono (averageWeight_le findings)
  rw [← Int.cast_zero, roundEven_intCast] at low
  rw [← Int.cast_natCast, roundEven_intCast] at high
  exact ⟨low, high⟩

/-- **The risk score** is the heaviest weight and a tenth of the rounded average. -/
theorem calculateRiskScore_eq (findings : List FindingData) :
    calculateRiskScore findings =
      min ((heaviest findings : ℚ) + (roundEven (averageWeight findings) : ℚ) / 10) 10 := by
  cases findings with
  | nil =>
    have empty : averageWeight [] = ((0 : ℤ) : ℚ) := by simp [averageWeight]
    rw [empty, roundEven_intCast]
    simp [calculateRiskScore, heaviest]
  | cons finding rest =>
    have scaled : ((heaviest (finding :: rest) : ℚ) + averageWeight (finding :: rest) / 10) * 10 ^ 1
        = 2 * ((5 * heaviest (finding :: rest) : ℤ) : ℚ) + averageWeight (finding :: rest) := by
      push_cast
      ring
    unfold calculateRiskScore
    rw [if_neg (List.cons_ne_nil _ _)]
    dsimp only
    rw [roundTenth_eq_roundTo]
    refine congrArg (min · 10) ?_
    show roundTo 1 ((heaviest (finding :: rest) : ℚ) + averageWeight (finding :: rest) / 10) = _
    unfold roundTo
    rw [scaled, roundEven_two_mul_add]
    push_cast
    ring

theorem calculateRiskScore_bounds (findings : List FindingData) :
    0 ≤ calculateRiskScore findings ∧ calculateRiskScore findings ≤ 10 := by
  have rounded : (0 : ℚ) ≤ roundEven (averageWeight findings) := by
    exact_mod_cast (roundEven_averageWeight findings).1
  rw [calculateRiskScore_eq]
  exact ⟨le_min (by positivity) (by norm_num), min_le_right _ _⟩

theorem calculateRiskScore_perm (same : earlier.Perm later) :
    calculateRiskScore earlier = calculateRiskScore later := by
  have heavy : heaviest earlier = heaviest later :=
    le_antisymm (heaviest_mono same.subperm) (heaviest_mono same.symm.subperm)
  have average : averageWeight earlier = averageWeight later := by
    unfold averageWeight
    rw [(same.map _).sum_eq, same.length_eq]
  rw [calculateRiskScore_eq, calculateRiskScore_eq, heavy, average]

/-- **The risk does not drop** exactly if the findings are not diluted. -/
theorem calculateRiskScore_le_iff (grown : earlier.Subperm later) :
    calculateRiskScore earlier ≤ calculateRiskScore later ↔ NotDiluted earlier later := by
  have heavier := heaviest_mono grown
  have bound := heaviest_le_ten later
  obtain ⟨-, highOne⟩ := roundEven_averageWeight earlier
  obtain ⟨lowTwo, highTwo⟩ := roundEven_averageWeight later
  have zero : (0 : ℚ) ≤ roundEven (averageWeight later) := by exact_mod_cast lowTwo
  rw [calculateRiskScore_eq, calculateRiskScore_eq]
  unfold NotDiluted
  rcases heavier.lt_or_eq with above | same
  · refine iff_of_true ?_ (.inl above)
    -- The average adds at most one.
    have one : (roundEven (averageWeight earlier) : ℚ) ≤ 10 := by
      exact_mod_cast highOne.trans (by exact_mod_cast heaviest_le_ten earlier)
    have next : (heaviest earlier : ℚ) + 1 ≤ heaviest later := by exact_mod_cast above
    refine min_le_min_right 10 ?_
    linarith
  · rw [same]
    rcases bound.lt_or_eq with below | critical
    · -- No weight lies between eight and ten.
      have eight : heaviest later ≤ 8 := by
        refine heaviest_le_iff.mpr fun finding inside => ?_
        have weight := (heaviest_le_iff.mp le_rfl finding inside).trans_lt below
        cases kind : finding.severity with
        | critical =>
          rw [kind] at weight
          exact absurd weight (by decide)
        | high => decide
        | medium => decide
        | low => decide
        | info => decide
      have heavy : (heaviest later : ℚ) ≤ 8 := by exact_mod_cast eight
      have small : ∀ number : ℤ, number ≤ heaviest later →
          (heaviest later : ℚ) + (number : ℚ) / 10 ≤ 10 := by
        intro number most
        have cast : (number : ℚ) ≤ heaviest later := by exact_mod_cast most
        linarith
      rw [min_eq_left (small _ (by rw [← same]; exact highOne)), min_eq_left (small _ highTwo),
        add_le_add_iff_left, div_le_div_iff_of_pos_right (by norm_num), Int.cast_le]
      constructor
      · exact fun le => .inr (.inr le)
      · rintro (above | critical | le)
        · exact absurd above (lt_irrefl _)
        · exact absurd critical below.ne
        · exact le
    · refine iff_of_true ?_ (.inr (.inl critical))
      rw [critical]
      refine (min_le_right _ _).trans (le_min ?_ le_rfl)
      push_cast
      linarith

end Risk

/-! ## The posture scores -/

/-- Every score is at most the other one. -/
structure PostureScores.AtMost (scores others : PostureScores) : Prop where
  overall : scores.overall ≤ others.overall
  transportSecurity : scores.transportSecurity ≤ others.transportSecurity
  browserDefense : scores.browserDefense ≤ others.browserDefense
  sessionSafety : scores.sessionSafety ≤ others.sessionSafety
  exposureHygiene : scores.exposureHygiene ≤ others.exposureHygiene
  authenticationSurface : scores.authenticationSurface ≤ others.authenticationSurface

/-- The scores with an amount added to each. -/
def PostureScores.plus (scores amounts : PostureScores) : PostureScores where
  overall := scores.overall + amounts.overall
  transportSecurity := scores.transportSecurity + amounts.transportSecurity
  browserDefense := scores.browserDefense + amounts.browserDefense
  sessionSafety := scores.sessionSafety + amounts.sessionSafety
  exposureHygiene := scores.exposureHygiene + amounts.exposureHygiene
  authenticationSurface := scores.authenticationSurface + amounts.authenticationSurface

namespace PostureScores

variable {scores others amounts more : PostureScores}

theorem AtMost.rfl : scores.AtMost scores := ⟨le_rfl, le_rfl, le_rfl, le_rfl, le_rfl, le_rfl⟩

theorem AtMost.trans (first : scores.AtMost others) (second : others.AtMost more) :
    scores.AtMost more where
  overall := first.overall.trans second.overall
  transportSecurity := first.transportSecurity.trans second.transportSecurity
  browserDefense := first.browserDefense.trans second.browserDefense
  sessionSafety := first.sessionSafety.trans second.sessionSafety
  exposureHygiene := first.exposureHygiene.trans second.exposureHygiene
  authenticationSurface := first.authenticationSurface.trans second.authenticationSurface

theorem AtMost.plus (le : scores.AtMost others) (amounts : PostureScores) :
    (scores.plus amounts).AtMost (others.plus amounts) where
  overall := Int.add_le_add_right le.overall _
  transportSecurity := Int.add_le_add_right le.transportSecurity _
  browserDefense := Int.add_le_add_right le.browserDefense _
  sessionSafety := Int.add_le_add_right le.sessionSafety _
  exposureHygiene := Int.add_le_add_right le.exposureHygiene _
  authenticationSurface := Int.add_le_add_right le.authenticationSurface _

theorem plus_right_comm : (scores.plus amounts).plus more = (scores.plus more).plus amounts := by
  unfold PostureScores.plus
  simp only [Int.add_right_comm]

theorem plus_atMost (nonpos : amounts.AtMost ⟨0, 0, 0, 0, 0, 0⟩) :
    (scores.plus amounts).AtMost scores := by
  obtain ⟨overall, transport, browser, session, exposure, authentication⟩ := nonpos
  dsimp only at overall transport browser session exposure authentication
  constructor <;> unfold PostureScores.plus <;> dsimp only <;> omega

end PostureScores

section Posture

variable (env : ScanRuntime) {earlier later : List FindingData} {scores : PostureScores}

/-- What a finding adds to the scores: the penalty, at one of them. -/
def deduction (finding : FindingData) : PostureScores := penalise env ⟨0, 0, 0, 0, 0, 0⟩ finding

theorem severityPenalty_nonneg (severity : Severity) : 0 ≤ severityPenalty severity := by
  cases severity <;> decide

theorem penalise_eq (finding : FindingData) :
    penalise env scores finding = scores.plus (deduction env finding) := by
  unfold deduction penalise PostureScores.plus
  dsimp only
  split_ifs <;> simp [Int.sub_eq_add_neg]

theorem deduction_nonpos (finding : FindingData) :
    (deduction env finding).AtMost ⟨0, 0, 0, 0, 0, 0⟩ := by
  have nonneg := severityPenalty_nonneg finding.severity
  unfold deduction penalise
  dsimp only
  split_ifs <;> constructor <;> dsimp only <;> omega

/-- The scores before they are floored at zero. -/
def penalised (findings : List FindingData) : PostureScores :=
  findings.foldl (penalise env) ⟨0, 100, 100, 100, 100, 100⟩

/-- The order of the findings does not change the scores. -/
theorem foldl_penalise_perm (same : earlier.Perm later) :
    earlier.foldl (penalise env) scores = later.foldl (penalise env) scores := by
  have comm : RightCommutative (penalise env) := ⟨fun scores one other => by
    simp only [penalise_eq]
    exact PostureScores.plus_right_comm⟩
  exact same.foldl_eq scores

/-- More findings never raise a posture score. -/
theorem foldl_penalise_atMost {others : PostureScores} (sub : earlier.Sublist later)
    (le : scores.AtMost others) :
    (later.foldl (penalise env) scores).AtMost
      (earlier.foldl (penalise env) others) := by
  induction sub generalizing scores others with
  | slnil => exact le
  | cons finding _ ih =>
    rw [List.foldl_cons, penalise_eq]
    exact ih ((PostureScores.plus_atMost (deduction_nonpos env finding)).trans le)
  | cons_cons finding _ ih =>
    rw [List.foldl_cons, List.foldl_cons, penalise_eq, penalise_eq]
    exact ih (le.plus _)

theorem penalised_atMost (grown : earlier.Subperm later) :
    (penalised env later).AtMost (penalised env earlier) := by
  obtain ⟨reordered, same, sub⟩ := grown
  unfold penalised
  rw [← foldl_penalise_perm env same]
  exact foldl_penalise_atMost env sub .rfl

theorem calculatePostureScores_perm (same : earlier.Perm later) :
    calculatePostureScores env earlier = calculatePostureScores env later := by
  unfold calculatePostureScores
  rw [foldl_penalise_perm env same]

/-- **No posture score rises** with more findings. -/
theorem calculatePostureScores_atMost (grown : earlier.Subperm later) :
    (calculatePostureScores env later).AtMost (calculatePostureScores env earlier) := by
  obtain ⟨-, transport, browser, session, exposure, authentication⟩ :=
    penalised_atMost env grown
  have floor {score other : Int} (le : score ≤ other) : max score 0 ≤ max other 0 := by omega
  have sum := add_le_add (add_le_add (add_le_add (add_le_add (floor transport) (floor browser))
    (floor session)) (floor exposure)) (floor authentication)
  exact ⟨Int.ediv_le_ediv (by decide) sum, floor transport, floor browser, floor session,
    floor exposure, floor authentication⟩

/-- Each score lies between zero and a hundred. -/
structure PostureScores.InRange (scores : PostureScores) : Prop where
  nonneg : PostureScores.AtMost ⟨0, 0, 0, 0, 0, 0⟩ scores
  most : scores.AtMost ⟨100, 100, 100, 100, 100, 100⟩

theorem calculatePostureScores_inRange (findings : List FindingData) :
    (calculatePostureScores env findings).InRange := by
  obtain ⟨-, transport, browser, session, exposure, authentication⟩ :=
    penalised_atMost env (List.nil_subperm (l := findings))
  unfold penalised at transport browser session exposure authentication
  dsimp only [List.foldl_nil] at transport browser session exposure authentication
  unfold calculatePostureScores
  dsimp only
  constructor <;> constructor <;> dsimp only <;> omega

end Posture

/-! ## The comparison of two scans -/

section Scans

variable (env : ScanRuntime) {earlier later : List FindingData}

/-- The comparison says that something got better. -/
def PostureDiff.ReportsImprovement (diff : PostureDiff) : Prop :=
  diff.riskScoreDelta < 0 ∨ 0 < diff.postureScoreDelta ∨
    "Posture improved".toList <+: diff.summary.toList

/-- A scan with the scores of its findings. -/
structure Scan.ScoredBy (scan : Scan) (findings : List FindingData) : Prop where
  risk : scan.riskScore = calculateRiskScore findings
  posture : scan.posture = calculatePostureScores env findings

theorem trend_isPrefix_iff {delta : ℚ} {rest : List Char} :
    "Posture improved".toList <+: (if 0 < delta then "Posture worsened"
        else if delta < 0 then "Posture improved" else "Posture stable").toList ++ rest ↔
      delta < 0 := by
  split_ifs with worse better
  · refine iff_of_false ?_ (lt_asymm worse)
    rintro ⟨back, same⟩
    have letter := congrArg (fun text => text[8]?) same
    simp at letter
  · exact iff_of_true ⟨rest, rfl⟩ better
  · refine iff_of_false ?_ better
    rintro ⟨back, same⟩
    have letter := congrArg (fun text => text[8]?) same
    simp at letter

theorem summary_isPrefix_iff {delta : ℚ} {trend : String} {count : ℕ}
    (trends : trend = if 0 < delta then "Posture worsened"
      else if delta < 0 then "Posture improved" else "Posture stable") :
    "Posture improved".toList <+: (if 0 < count then trend ++ " (" ++ toString count ++
      " new issues)" else trend).toList ↔ delta < 0 := by
  have plain := @trend_isPrefix_iff delta []
  rw [List.append_nil, ← trends] at plain
  split_ifs
  · rw [String.toList_append, String.toList_append, String.toList_append, List.append_assoc,
      List.append_assoc, trends]
    exact trend_isPrefix_iff
  · exact plain

/-- The comparison of two scans reports an improvement exactly if the risk dropped or the
posture rose. -/
theorem exists_diff {db : ScanDatabase} {scanId targetId previousId : Nat}
    {previous scan : Scan} (findings : List FindingData)
    (last : (db.scans.last? fun key scan =>
      scan.targetId == targetId && key < scanId && scan.status == .completed) =
        some (previousId, previous))
    (current : db.scans.get? scanId = some scan) :
    ∃ diff, (db.addDiff scanId targetId findings).postureDiffs =
        db.postureDiffs.insert diff ∧
      (diff.ReportsImprovement ↔ scan.riskScore < previous.riskScore ∨
        previous.posture.overall < scan.posture.overall) := by
  unfold ScanDatabase.addDiff
  rw [last, current]
  refine ⟨_, rfl, ?_⟩
  unfold PostureDiff.ReportsImprovement
  dsimp only
  rw [summary_isPrefix_iff rfl, sub_neg, Int.sub_pos]
  constructor
  · rintro (risk | posture | risk)
    · exact .inl risk
    · exact .inr posture
    · exact .inl risk
  · rintro (risk | posture)
    · exact .inl risk
    · exact .inr (.inl posture)

/-- What the scores promise of findings that only grew. -/
structure NeverLookSafer (earlier later : List FindingData) : Prop where
  risk : calculateRiskScore earlier ≤ calculateRiskScore later
  posture : (calculatePostureScores env later).AtMost (calculatePostureScores env earlier)
  riskBounds : 0 ≤ calculateRiskScore later ∧ calculateRiskScore later ≤ 10
  postureBounds : (calculatePostureScores env later).InRange
  anyOrder : ∀ reordered, later.Perm reordered →
    calculateRiskScore reordered = calculateRiskScore later ∧
      calculatePostureScores env reordered = calculatePostureScores env later
  noImprovement : ∀ (db : ScanDatabase) (scanId targetId previousId : Nat)
    (previous scan : Scan), previous.ScoredBy env earlier → scan.ScoredBy env later →
    (db.scans.last? fun key scan =>
      scan.targetId == targetId && key < scanId && scan.status == .completed) =
        some (previousId, previous) →
    db.scans.get? scanId = some scan →
    ∃ diff, (db.addDiff scanId targetId later).postureDiffs =
      db.postureDiffs.insert diff ∧ ¬ diff.ReportsImprovement

/-- **More findings never look safer** exactly if the old ones are not diluted. -/
theorem scores_worsen_iff (grown : earlier.Subperm later) :
    NeverLookSafer env earlier later ↔ NotDiluted earlier later := by
  rw [← calculateRiskScore_le_iff grown]
  refine ⟨NeverLookSafer.risk, fun risk => ?_⟩
  have posture := calculatePostureScores_atMost env grown
  refine ⟨risk, posture, calculateRiskScore_bounds later,
    calculatePostureScores_inRange env later, ?_, ?_⟩
  · intro reordered same
    exact ⟨calculateRiskScore_perm same.symm, calculatePostureScores_perm env same.symm⟩
  · intro db scanId targetId previousId previous scan before after last current
    obtain ⟨diff, added, improved⟩ := exists_diff later last current
    refine ⟨diff, added, fun reports => ?_⟩
    rw [improved, before.risk, after.risk, before.posture, after.posture] at reports
    rcases reports with safer | better
    · exact absurd risk (not_le.mpr safer)
    · exact absurd posture.overall (not_le.mpr better)

/-- A finding without a text. -/
def bareFinding (severity : Severity) : FindingData := ⟨"", severity, "", "", "", ""⟩

theorem critical_looks_worse : NeverLookSafer siteRuntime [bareFinding .high]
    [bareFinding .critical, bareFinding .high] :=
  (scores_worsen_iff siteRuntime (List.sublist_cons_self _ _).subperm).mpr
    (.inl (by decide))

/-- With a note beside it, a serious finding scores 8.4 and not 8.8. -/
theorem note_looks_safer : ¬ ∀ (env : ScanRuntime) (earlier later : List FindingData),
    earlier.Subperm later → NeverLookSafer env earlier later := by
  intro always
  have risk := (always siteRuntime [bareFinding .high] [bareFinding .high, bareFinding .info]
    (List.sublist_append_left [_] [_]).subperm).risk
  exact absurd risk (by decide +kernel)

end Scans

end ThreatScope.Scanner
